import ErDiagram.Proofs.Script.Reading

/-!
# Three ways to declare a foreign key

A foreign key can be declared by a clause of its column, by an item in the body of its table, and by a
change to the table. In each of them its name may be left out, and the column that it refers to. Only a
clause has something to put in the place of that column; the two others then declare no key at all.
-/

namespace ErDiagram.Script

set_option autoImplicit false

/-- What a foreign key is declared with besides the column that it starts from. -/
structure KeyDeclaration where
  name : Option String := none
  refTable : String
  refColumn : Option String := none

namespace KeyDeclaration

def constraintTokens (declared : KeyDeclaration) : List Token :=
  match declared.name with
  | none => []
  | some name => [.keyword .constraint, .identifier name]

def columnTokens (declared : KeyDeclaration) : List Token :=
  match declared.refColumn with
  | none => []
  | some column => nameTokens [column]

def targetTokens (declared : KeyDeclaration) : List Token :=
  .keyword .references :: .identifier declared.refTable :: declared.columnTokens

def clauseTokens (declared : KeyDeclaration) : List Token :=
  declared.constraintTokens ++ declared.targetTokens

def itemTokens (declared : KeyDeclaration) (column : String) : List Token :=
  declared.constraintTokens ++ .keyword .foreign :: .keyword .key ::
    (nameTokens [column] ++ declared.targetTokens)

def changeTokens (declared : KeyDeclaration) (table column : String) : List Token :=
  .keyword .alter :: .keyword .table :: .identifier table :: .keyword .add ::
    (declared.itemTokens column ++ [.semicolon])

def key (declared : KeyDeclaration) (table column : String) : ForeignKey where
  name := declared.name.getD (defaultKeyName table declared.refTable)
  table := table
  column := column
  refTable := declared.refTable
  refColumn := declared.refColumn.getD "id"

/-- The keys that an item or a change declares. Only a column that is named is referred to. -/
def listedKeys (declared : KeyDeclaration) (table column : String) : List ForeignKey :=
  if declared.refColumn.isSome then [declared.key table column] else []

end KeyDeclaration

variable (declared : KeyDeclaration)

/-- The tokens continue neither the name of a table nor a list of columns after it, and they are no
action of a foreign key. -/
structure EndsReference (tokens : List Token) : Prop where
  dot : tokens.head? ≠ some .dot
  group : tokens.head? ≠ some .leftParen
  action : tokens.head? ≠ some (.keyword .on)

theorem ends_reference_of_head {token : Token} (rest : List Token)
    (other : token ∉ [.dot, .leftParen, .keyword .on]) : EndsReference (token :: rest) := by
  simp only [List.mem_cons, List.not_mem_nil, or_false, not_or] at other
  obtain ⟨dot, group, action⟩ := other
  exact ⟨by simpa using dot, by simpa using group, by simpa using action⟩

theorem ends_reference_of_stop {stop : Token} (ends : endsColumn stop = true) (rest : List Token) :
    EndsReference (stop :: rest) := by
  apply ends_reference_of_head
  rintro member
  rw [endsColumn, Bool.or_eq_true, decide_eq_true_eq, decide_eq_true_eq] at ends
  rcases ends with rfl | rfl <;> exact absurd member (by decide)

theorem ends_reference_of_clauses (clauses : List Clause) {rest : List Token}
    (ends : EndsReference rest) : EndsReference (clauses.flatMap Clause.tokens ++ rest) := by
  cases clauses with
  | nil => exact ends
  | cons clause later =>
      rw [List.flatMap_cons]
      cases clause <;> exact ends_reference_of_head _ (by decide)

variable {rest : List Token}

theorem drop_no_actions (ends : EndsReference rest) : dropActions rest = rest := by
  cases rest with
  | nil => rw [dropActions]
  | cons token later =>
      have other : token ≠ .keyword .on := fun same => ends.action (by rw [same]; rfl)
      rw [dropActions, if_neg other]

theorem ref_name_read (ends : EndsReference rest) :
    qualifiedName (.identifier declared.refTable :: (declared.columnTokens ++ rest)) =
      ⟨some declared.refTable, declared.columnTokens ++ rest⟩ := by
  rw [KeyDeclaration.columnTokens]
  cases declared.refColumn with
  | some column => rfl
  | none =>
      cases rest with
      | nil => rfl
      | cons token later =>
          cases token <;> first | rfl | exact absurd rfl ends.dot

theorem ref_column_read (ends : EndsReference rest) :
    columnList (declared.columnTokens ++ rest) = ⟨declared.refColumn.toList, rest⟩ := by
  rw [KeyDeclaration.columnTokens]
  cases declared.refColumn with
  | some column => exact column_list_read [column] rest
  | none =>
      cases rest with
      | nil => rfl
      | cons token later =>
          cases token <;> first | rfl | exact absurd rfl ends.group

theorem target_read (ends : EndsReference rest) :
    target (.identifier declared.refTable :: (declared.columnTokens ++ rest)) =
      .ok ⟨⟨declared.refTable, declared.refColumn.getD "id"⟩, rest⟩ := by
  have column : declared.refColumn.toList.head? = declared.refColumn := by
    cases declared.refColumn <;> rfl
  simp only [target, ref_name_read declared ends, ref_column_read declared ends, column]

theorem key_item_read (ends : EndsReference rest) (table column : String) :
    keyConstraint table declared.name
        (.keyword .key :: (nameTokens [column] ++ (declared.targetTokens ++ rest))) =
      .ok ⟨declared.listedKeys table column, rest⟩ := by
  have columns := column_list_read [column] (declared.targetTokens ++ rest)
  have targets : declared.targetTokens ++ rest = .keyword .references ::
      .identifier declared.refTable :: (declared.columnTokens ++ rest) := rfl
  rw [targets] at columns ⊢
  simp only [keyConstraint, columns, keysTo, ref_name_read declared ends,
    ref_column_read declared ends, drop_no_actions ends]
  rw [KeyDeclaration.listedKeys, KeyDeclaration.key]
  cases declared.refColumn <;> rfl

theorem key_clause_ends : EndsClause (declared.clauseTokens ++ rest) := by
  rw [KeyDeclaration.clauseTokens, KeyDeclaration.constraintTokens, KeyDeclaration.targetTokens]
  unfold EndsClause
  cases declared.name <;> exact ⟨by simp, by simp⟩

theorem references_read (ends : EndsReference rest) (table : String) (reading : ColumnReading) :
    reading.clauses table (declared.targetTokens ++ rest) =
      { reading with
        keyName := none
        keys := reading.keys ++
          [reading.keyTo table ⟨declared.refTable, declared.refColumn.getD "id"⟩] }.clauses table rest := by
  have read : reading.clause table (.keyword .references)
      (.identifier declared.refTable :: (declared.columnTokens ++ rest)) =
        .ok ⟨{ reading with
          keyName := none
          keys := reading.keys ++
            [reading.keyTo table ⟨declared.refTable, declared.refColumn.getD "id"⟩] }, rest⟩ := by
    simp only [ColumnReading.clause, target_read declared ends, drop_no_actions ends]
  exact clauses_step rfl read

theorem key_clause_read (ends : EndsReference rest) (table : String) {reading : ColumnReading}
    (unnamed : reading.keyName = none) :
    reading.clauses table (declared.clauseTokens ++ rest) =
      { reading with
        keys := reading.keys ++ [declared.key table reading.column.name] }.clauses table rest := by
  rw [KeyDeclaration.clauseTokens, KeyDeclaration.constraintTokens, List.append_assoc,
    KeyDeclaration.key]
  cases declared.name with
  | none =>
      rw [List.nil_append, references_read declared ends, ColumnReading.keyTo, unnamed]
  | some name =>
      have step : reading.clause table (.keyword .constraint)
          (.identifier name :: (declared.targetTokens ++ rest)) =
            .ok ⟨{ reading with keyName := some name }, declared.targetTokens ++ rest⟩ := rfl
      rw [List.cons_append, List.singleton_append, clauses_step rfl step,
        references_read declared ends, unnamed]
      rfl

def ColumnForm.tokensWith (form : ColumnForm) (declared : KeyDeclaration) (place : Nat) : List Token :=
  .identifier form.column.name :: .identifier form.typeName :: (form.sizeTokens ++
    ((form.clauses.take place).flatMap Clause.tokens ++
      (declared.clauseTokens ++ (form.clauses.drop place).flatMap Clause.tokens)))

theorem apply_all_name (clauses : List Clause) (column : Column) :
    (applyAll clauses column).name = column.name := by
  rw [apply_all_eq]

theorem linked_column_read {form : ColumnForm} (readable : form.Readable) (place : Nat)
    (table : String) {stop : Token} (ends : endsColumn stop = true) (rest : List Token) :
    ∃ more, form.tokensWith declared place ++ stop :: rest = .identifier form.column.name :: more ∧
      columnDefinition table form.column.name more =
        .ok ⟨some ⟨form.read, none, [declared.key table form.column.name]⟩, stop :: rest⟩ := by
  have afterKey := ends_reference_of_clauses (form.clauses.drop place) (ends_reference_of_stop ends rest)
  have noGroup (later : List Token) : ((form.clauses.take place).flatMap Clause.tokens ++
      (declared.clauseTokens ++ later)).head? ≠ some .leftParen :=
    (clauses_end_append _ (key_clause_ends declared)).1
  have sized (later : List Token) := size_read readable.max readable.size (noGroup later)
  have whole (column : Column) : applyAll (form.clauses.drop place)
      (applyAll (form.clauses.take place) column) = applyAll form.clauses column := by
    rw [applyAll, applyAll, ← List.foldl_append, List.take_append_drop]
    rfl
  refine ⟨_, rfl, ?_⟩
  simp only [List.append_eq, List.cons_append, List.append_assoc, columnDefinition, readable.type,
    sized]
  rw [clauses_read_append _ (key_clause_ends declared), key_clause_read declared afterKey _ rfl,
    clauses_read _ ends, whole, apply_all_name]
  rfl

/-- The item of a column that declares a key. -/
def ColumnForm.linkedItem (form : ColumnForm) (declared : KeyDeclaration) (place : Nat) : ItemForm where
  tokens := form.tokensWith declared place
  effect reading := { (BodyItem.column form).apply reading with
    keys := reading.keys ++ [declared.key reading.name form.column.name] }

def KeyDeclaration.item (declared : KeyDeclaration) (column : String) : ItemForm where
  tokens := declared.itemTokens column
  effect reading := { reading with keys := reading.keys ++ declared.listedKeys reading.name column }

theorem linked_item_reads {form : ColumnForm} (readable : form.Readable) (place : Nat) :
    (form.linkedItem declared place).Reads where
  step reading _ stop ends rest := by
    obtain ⟨more, tokens, read⟩ := linked_column_read declared readable place reading.name ends rest
    have step : reading.item (.identifier form.column.name) more =
        .ok ⟨(form.linkedItem declared place).effect reading, stop :: rest⟩ := by
      simp [TableReading.item, read, TableReading.addColumn, ColumnForm.linkedItem, BodyItem.apply]
    rw [ColumnForm.linkedItem, tokens]
    exact items_step (by simp) step
  unnamed _ unnamed := unnamed

theorem foreign_read (ends : EndsReference rest) {reading : TableReading}
    (named : reading.keyName = declared.name) (column : String) :
    reading.items (.keyword .foreign :: .keyword .key ::
        (nameTokens [column] ++ (declared.targetTokens ++ rest))) =
      { (declared.item column).effect reading with keyName := none }.items rest := by
  have read := key_item_read declared ends reading.name column
  rw [← named] at read
  have step : reading.item (.keyword .foreign)
      (.keyword .key :: (nameTokens [column] ++ (declared.targetTokens ++ rest))) =
        .ok ⟨{ (declared.item column).effect reading with keyName := none }, rest⟩ := by
    simp only [TableReading.item, read, KeyDeclaration.item]
  exact items_step (by simp) step

theorem key_item_reads (column : String) : (declared.item column).Reads where
  step reading unnamed stop ends rest := by
    have afterKey := ends_reference_of_stop ends rest
    have same : { (declared.item column).effect reading with keyName := none } =
        (declared.item column).effect reading := by
      rw [← unnamed]
      rfl
    have tokens : (declared.item column).tokens ++ stop :: rest =
        declared.constraintTokens ++ (.keyword .foreign :: .keyword .key ::
          (nameTokens [column] ++ (declared.targetTokens ++ stop :: rest))) := by
      simp [KeyDeclaration.item, KeyDeclaration.itemTokens]
    rw [tokens, ← same]
    cases named : declared.name with
    | none =>
        rw [KeyDeclaration.constraintTokens, named]
        exact foreign_read declared afterKey (unnamed.trans named.symm) column
    | some name =>
        rw [KeyDeclaration.constraintTokens, named]
        have step : reading.item (.keyword .constraint) (.identifier name :: .keyword .foreign ::
            .keyword .key :: (nameTokens [column] ++ (declared.targetTokens ++ stop :: rest))) =
              .ok ⟨{ reading with keyName := some name }, .keyword .foreign :: .keyword .key ::
                (nameTokens [column] ++ (declared.targetTokens ++ stop :: rest))⟩ := rfl
        exact (items_step (by simp) step).trans
          (foreign_read declared afterKey (named.symm ▸ rfl) column)
  unnamed _ unnamed := unnamed

theorem key_change_read (table column : String) (rest : List Token) :
    ∃ more, declared.changeTokens table column ++ rest = .keyword .alter :: more ∧
      tableChange more = .ok ⟨⟨[], declared.listedKeys table column⟩, rest⟩ := by
  have ends : EndsReference (.semicolon :: rest) := ends_reference_of_head rest (by decide)
  have constraint := key_item_read declared ends table column
  have tokens : declared.changeTokens table column ++ rest = .keyword .alter :: .keyword .table ::
      .identifier table :: .keyword .add :: (declared.constraintTokens ++ (.keyword .foreign ::
        .keyword .key :: (nameTokens [column] ++ (declared.targetTokens ++ .semicolon :: rest)))) := by
    simp [KeyDeclaration.changeTokens, KeyDeclaration.itemTokens]
  have named (later : List Token) :
      constraintName (declared.constraintTokens ++ .keyword .foreign :: later) =
        ⟨declared.name, .keyword .foreign :: later⟩ := by
    rw [KeyDeclaration.constraintTokens]
    cases declared.name <;> rfl
  have dropped (later : List Token) :
      dropKeyword .only (.identifier table :: later) = .identifier table :: later := rfl
  have finished : afterStatement (.semicolon :: rest) = rest := rfl
  refine ⟨_, tokens, ?_⟩
  rw [tableChange, dropped]
  simp only [qualifiedName]
  rw [List.dropWhile_cons_of_neg (by decide)]
  simp only [named, constraint, finished]

end ErDiagram.Script
