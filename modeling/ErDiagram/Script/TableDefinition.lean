import ErDiagram.Script.ColumnDefinition

/-!
# Table definitions

The body of a table is a list of columns and constraints in parentheses. Its items are read until the
parenthesis closes, and what follows up to the end of the statement is passed over.
-/

namespace ErDiagram.Script

/-- A table as far as its body has been read: the name given for the next constraint, the columns
listed as a primary key, and the foreign keys declared so far. -/
structure TableReading where
  name : String
  columns : List Column := []
  keyName : Option String := none
  primaryKey : List String := []
  keys : List ForeignKey := []

/-- The table with its primary key marked. A column of the primary key is never null. -/
def TableReading.table (reading : TableReading) : Table where
  name := reading.name
  columns := reading.columns.map fun column =>
    let primaryKey := column.primaryKey || reading.primaryKey.contains column.name
    { column with primaryKey, nullable := column.nullable && !primaryKey }

/-- The reading with a column whose definition has been read, if it was one. -/
def TableReading.addColumn (reading : TableReading) : Option ColumnReading → TableReading
  | none => reading
  | some found =>
    { reading with columns := reading.columns ++ [found.column], keys := reading.keys ++ found.keys }

def TableReading.item (reading : TableReading) (token : Token) (rest : List Token) :
    Except ScriptError (Parsed TableReading) :=
  match token with
  | .comma => .ok ⟨{ reading with keyName := none }, rest⟩
  | .keyword .constraint =>
    let name := identifier? rest
    .ok ⟨{ reading with keyName := name.value }, name.rest⟩
  | .keyword .primary =>
    let columns := columnList ((dropKeyword .key rest).dropWhile Token.isIdentifier)
    .ok ⟨{ reading with primaryKey := reading.primaryKey ++ columns.value }, columns.rest⟩
  | .keyword .foreign =>
    match keyConstraint reading.name reading.keyName rest with
    | .error fault => .error fault
    | .ok found =>
      .ok ⟨{ reading with keyName := none, keys := reading.keys ++ found.value }, found.rest⟩
  | .keyword .unique => .ok ⟨reading, fromItemEnd 0 (dropKeyword .key rest)⟩
  | .keyword .index => .ok ⟨reading, fromItemEnd 0 rest⟩
  | .keyword .key => .ok ⟨reading, fromItemEnd 0 rest⟩
  | .keyword .check => .ok ⟨reading, dropGroup rest⟩
  | .identifier name =>
    match columnDefinition reading.name name rest with
    | .error fault => .error fault
    | .ok found => .ok ⟨reading.addColumn found.value, found.rest⟩
  | _ => .ok ⟨reading, rest⟩

theorem TableReading.item_suffix {reading : TableReading} {token : Token} {rest : List Token}
    {found : Parsed TableReading} (read : reading.item token rest = .ok found) :
    found.rest <:+ rest := by
  unfold TableReading.item at read
  split at read
  · cases read; exact List.suffix_refl _
  · cases read; exact identifier?_suffix _
  · cases read
    exact ((columnList_suffix _).trans (List.dropWhile_suffix _)).trans (dropKeyword_suffix _ _)
  · split at read
    · contradiction
    · next constraint =>
      cases read
      exact keyConstraint_suffix constraint
  · cases read; exact (fromItemEnd_suffix _ _).trans (dropKeyword_suffix _ _)
  · cases read; exact fromItemEnd_suffix _ _
  · cases read; exact fromItemEnd_suffix _ _
  · cases read; exact dropGroup_suffix _
  · split at read
    · contradiction
    · next definition =>
      cases read
      exact columnDefinition_suffix definition
  · cases read; exact List.suffix_refl _

/-- Reads the items of a table body and the parenthesis that closes it. -/
def TableReading.items (reading : TableReading) (tokens : List Token) :
    Except ScriptError (Parsed TableReading) :=
  match tokens with
  | [] => .ok ⟨reading, []⟩
  | token :: rest =>
    if token = .rightParen then .ok ⟨reading, rest⟩
    else match _step : reading.item token rest with
      | .error fault => .error fault
      | .ok found => found.value.items found.rest
termination_by tokens.length
decreasing_by
  simp only [List.length_cons]
  exact Nat.lt_succ_of_le (item_suffix _step).length_le

theorem TableReading.items_cons (reading : TableReading) (token : Token) (rest : List Token) :
    reading.items (token :: rest) =
      if token = .rightParen then .ok ⟨reading, rest⟩
      else (reading.item token rest).bind fun found => found.value.items found.rest := by
  rw [items]
  split
  · rfl
  · split
    · next step => rw [step]; rfl
    · next step => rw [step]; rfl

theorem TableReading.items_suffix {reading : TableReading} {tokens : List Token}
    {found : Parsed TableReading} (read : reading.items tokens = .ok found) :
    found.rest <:+ tokens := by
  fun_induction TableReading.items reading tokens with
  | case1 => cases read; exact List.suffix_refl _
  | case2 => cases read; exact List.suffix_cons _ _
  | case3 => contradiction
  | case4 reading token rest _ later step ih =>
    exact ((ih read).trans (item_suffix step)).trans (List.suffix_cons _ _)

/-- What the statements of a script declare: tables, and foreign keys that may refer to tables the
script does not have. -/
structure Declarations where
  tables : List Table := []
  keys : List ForeignKey := []
deriving DecidableEq, Repr

def Declarations.append (first second : Declarations) : Declarations :=
  ⟨first.tables ++ second.tables, first.keys ++ second.keys⟩

instance : Append Declarations := ⟨Declarations.append⟩

theorem declared_nothing (declared : Declarations) : declared ++ ({} : Declarations) = declared := by
  have same := congr (congrArg Declarations.mk (List.append_nil declared.tables))
    (List.append_nil declared.keys)
  exact same

theorem declared_assoc (first second third : Declarations) :
    first ++ second ++ third = first ++ (second ++ third) := by
  have same := congr
    (congrArg Declarations.mk (List.append_assoc first.tables second.tables third.tables))
    (List.append_assoc first.keys second.keys third.keys)
  exact same

def tableDefinition (tokens : List Token) : Except ScriptError (Parsed Declarations) :=
  match qualifiedName (dropExistenceTest tokens) with
  | ⟨some name, .leftParen :: rest⟩ =>
    match TableReading.items { name } rest with
    | .error fault => .error fault
    | .ok found => .ok ⟨⟨[found.value.table], found.value.keys⟩, afterStatement found.rest⟩
  | ⟨_, rest⟩ => .ok ⟨{}, afterStatement rest⟩

/-- Reads a change to a table after its first word. Only an added foreign key counts. -/
def tableChange (tokens : List Token) : Except ScriptError (Parsed Declarations) :=
  match tokens with
  | .keyword .table :: rest =>
    match qualifiedName (dropKeyword .only rest) with
    | ⟨none, rest⟩ => .ok ⟨{}, afterStatement rest⟩
    | ⟨some table, rest⟩ =>
      match rest.dropWhile fun token => token != .keyword .add && token != .semicolon with
      | .keyword .add :: rest =>
        match constraintName rest with
        | ⟨name, .keyword .foreign :: rest⟩ =>
          match keyConstraint table name rest with
          | .error fault => .error fault
          | .ok found => .ok ⟨⟨[], found.value⟩, afterStatement found.rest⟩
        | ⟨_, rest⟩ => .ok ⟨{}, afterStatement rest⟩
      | rest => .ok ⟨{}, afterStatement rest⟩
  | tokens => .ok ⟨{}, afterStatement tokens⟩

theorem tableDefinition_suffix {tokens : List Token} {found : Parsed Declarations}
    (read : tableDefinition tokens = .ok found) : found.rest <:+ tokens := by
  have named := (qualifiedName_suffix _).trans (dropExistenceTest_suffix tokens)
  unfold tableDefinition at read
  split at read
  · next body name =>
    rw [name] at named
    split at read
    · contradiction
    · next items =>
      cases read
      exact ((afterStatement_suffix _).trans (TableReading.items_suffix items)).trans
        ((List.suffix_cons _ _).trans named)
  · next name =>
    rw [name] at named
    cases read
    exact (afterStatement_suffix _).trans named

theorem tableChange_cases (tokens : List Token) :
    (∃ later, later <:+ tokens ∧ tableChange tokens = .ok ⟨{}, afterStatement later⟩) ∨
      (∃ table name later fault, later <:+ tokens ∧ keyConstraint table name later = .error fault ∧
        tableChange tokens = .error fault) ∨
      ∃ table name later found, later <:+ tokens ∧ keyConstraint table name later = .ok found ∧
        tableChange tokens = .ok ⟨⟨[], found.value⟩, afterStatement found.rest⟩ := by
  generalize read : tableChange tokens = result
  unfold tableChange at read
  split at read
  · next rest =>
    have named := ((qualifiedName_suffix _).trans (dropKeyword_suffix .only rest)).trans
      (List.suffix_cons (.keyword .table) rest)
    split at read
    · next name =>
      rw [name] at named
      exact .inl ⟨_, named, read.symm⟩
    · next rest name =>
      rw [name] at named
      have searched := (List.dropWhile_suffix
        fun token => token != Token.keyword .add && token != .semicolon).trans named
      split at read
      · next later found =>
        rw [found] at searched
        have given := (constraintName_suffix later).trans
          ((List.suffix_cons _ _).trans searched)
        split at read
        · next constraint =>
          rw [constraint] at given
          have body := (List.suffix_cons _ _).trans given
          split at read
          · next failed => exact .inr (.inl ⟨_, _, _, _, body, failed, read.symm⟩)
          · next keys => exact .inr (.inr ⟨_, _, _, _, body, keys, read.symm⟩)
        · next constraint =>
          rw [constraint] at given
          exact .inl ⟨_, given, read.symm⟩
      · exact .inl ⟨_, searched, read.symm⟩
  · exact .inl ⟨_, List.suffix_refl _, read.symm⟩

theorem tableChange_suffix {tokens : List Token} {found : Parsed Declarations}
    (read : tableChange tokens = .ok found) : found.rest <:+ tokens := by
  rcases tableChange_cases tokens with ⟨later, inTokens, same⟩ |
    ⟨table, name, later, fault, -, -, same⟩ | ⟨table, name, later, keys, inTokens, constraint, same⟩
  · cases same.symm.trans read
    exact (afterStatement_suffix _).trans inTokens
  · cases same.symm.trans read
  · cases same.symm.trans read
    exact ((afterStatement_suffix _).trans (keyConstraint_suffix constraint)).trans inTokens

end ErDiagram.Script
