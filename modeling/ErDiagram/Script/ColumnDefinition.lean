import ErDiagram.Script.Reference
import ErDiagram.Text.Lowercase
import ErDiagram.Text.Numeric

/-!
# Column definitions

A column definition is a name, a type with perhaps a size, and clauses in any order. A clause that
says nothing about the schema is passed over, and so is any token that begins no clause.
-/

namespace ErDiagram.Script

open Text

/-- Numbers in a script are read as sizes if they have at most 32 bits. -/
def sizeBound : Nat := Nat.pow 2 32

/-- Reads the numbers and the words in lower case up to a closing parenthesis. -/
def sizeArguments : List Token → Parsed (List String)
  | [] => ⟨[], []⟩
  | .rightParen :: rest => ⟨[], rest⟩
  | .number digits :: rest =>
    let later := sizeArguments rest
    ⟨digits :: later.value, later.rest⟩
  | .identifier name :: rest =>
    let later := sizeArguments rest
    ⟨lowercase name :: later.value, later.rest⟩
  | _ :: rest => sizeArguments rest

/-- The size that arguments give a type. Words among them count only as the size `max`, and one
number is the precision of a decimal type and the length of any other. -/
def sizeOf? (type : String) (arguments : List String) : Option TypeSize :=
  if arguments = ["max"] then some .max
  else match arguments.filterMap fun argument => natBelow? sizeBound argument.toList with
    | [digits, scale] => some (.precision digits scale)
    | [size] => some (if Column.isDecimalType type then .precision size 0 else .length size)
    | _ => none

def typeSize (type : String) : List Token → Parsed (Option TypeSize)
  | .leftParen :: rest =>
    let arguments := sizeArguments rest
    ⟨sizeOf? type arguments.value, arguments.rest⟩
  | tokens => ⟨none, tokens⟩

/-- A column as far as its definition has been read: the name that the next reference takes if one has
been given, and the foreign keys declared so far. -/
structure ColumnReading where
  column : Column
  keyName : Option String := none
  keys : List ForeignKey := []

def ColumnReading.keyTo (reading : ColumnReading) (table : String) (target : Target) : ForeignKey where
  name := reading.keyName.getD (defaultKeyName table target.table)
  table := table
  column := reading.column.name
  refTable := target.table
  refColumn := target.column

def endsColumn (token : Token) : Bool := token = .comma || token = .rightParen

def ColumnReading.clause (table : String) (reading : ColumnReading) (token : Token)
    (rest : List Token) : Except ScriptError (Parsed ColumnReading) :=
  match token with
  | .keyword .primary =>
    .ok ⟨{ reading with column.primaryKey := true }, dropKeyword .key rest⟩
  | .keyword .not =>
    match rest with
    | .keyword .null :: later => .ok ⟨{ reading with column.nullable := false }, later⟩
    | later => .ok ⟨reading, later⟩
  | .keyword .null => .ok ⟨{ reading with column.nullable := true }, rest⟩
  | .keyword .unique => .ok ⟨reading, dropKeyword .key rest⟩
  | .keyword .default => .ok ⟨reading, dropDefault rest⟩
  | .keyword .references =>
    match target rest with
    | .error fault => .error fault
    | .ok found =>
      let keys := reading.keys ++ [reading.keyTo table found.value]
      .ok ⟨{ reading with keyName := none, keys }, dropActions found.rest⟩
  | .keyword .check => .ok ⟨reading, dropGroup rest⟩
  | .keyword .constraint =>
    let name := identifier? rest
    .ok ⟨{ reading with keyName := name.value }, name.rest⟩
  | .keyword .on => .ok ⟨reading, dropActions (dropAction rest)⟩
  | .leftParen => .ok ⟨reading, afterGroup 0 rest⟩
  | _ => .ok ⟨reading, rest⟩

theorem sizeArguments_suffix (tokens : List Token) : (sizeArguments tokens).rest <:+ tokens := by
  fun_induction sizeArguments tokens with
  | case1 => exact List.suffix_refl _
  | case2 => exact List.suffix_cons _ _
  | case3 _ _ _ ih => exact ih.trans (List.suffix_cons _ _)
  | case4 _ _ _ ih => exact ih.trans (List.suffix_cons _ _)
  | case5 _ _ _ _ _ ih => exact ih.trans (List.suffix_cons _ _)

theorem typeSize_suffix (type : String) (tokens : List Token) :
    (typeSize type tokens).rest <:+ tokens := by
  unfold typeSize
  split
  · exact (sizeArguments_suffix _).trans (List.suffix_cons _ _)
  · exact List.suffix_refl _

theorem ColumnReading.clause_suffix {table : String} {reading : ColumnReading} {token : Token}
    {rest : List Token} {found : Parsed ColumnReading}
    (read : reading.clause table token rest = .ok found) : found.rest <:+ rest := by
  unfold ColumnReading.clause at read
  split at read
  · cases read; exact dropKeyword_suffix _ _
  · split at read
    · cases read; exact List.suffix_cons _ _
    · cases read; exact List.suffix_refl _
  · cases read; exact List.suffix_refl _
  · cases read; exact dropKeyword_suffix _ _
  · cases read; exact dropDefault_suffix _
  · split at read
    · contradiction
    · next reference =>
      cases read
      exact (dropActions_suffix _).trans (target_suffix reference)
  · cases read; exact dropGroup_suffix _
  · cases read; exact identifier?_suffix _
  · cases read; exact (dropActions_suffix _).trans (dropAction_suffix _)
  · cases read; exact afterGroup_suffix _ _
  · cases read; exact List.suffix_refl _

/-- Reads the clauses of a column up to the token that ends its definition. -/
def ColumnReading.clauses (table : String) (reading : ColumnReading) (tokens : List Token) :
    Except ScriptError (Parsed ColumnReading) :=
  match tokens with
  | [] => .ok ⟨reading, []⟩
  | token :: rest =>
    if endsColumn token then .ok ⟨reading, token :: rest⟩
    else match _step : reading.clause table token rest with
      | .error fault => .error fault
      | .ok found => found.value.clauses table found.rest
termination_by tokens.length
decreasing_by
  simp only [List.length_cons]
  exact Nat.lt_succ_of_le (clause_suffix _step).length_le

theorem ColumnReading.clauses_cons (table : String) (reading : ColumnReading) (token : Token)
    (rest : List Token) :
    reading.clauses table (token :: rest) =
      if endsColumn token then .ok ⟨reading, token :: rest⟩
      else (reading.clause table token rest).bind fun found => found.value.clauses table found.rest := by
  rw [clauses]
  split
  · rfl
  · split
    · next step => rw [step]; rfl
    · next step => rw [step]; rfl

theorem ColumnReading.clauses_suffix {table : String} {reading : ColumnReading}
    {tokens : List Token} {found : Parsed ColumnReading}
    (read : reading.clauses table tokens = .ok found) : found.rest <:+ tokens := by
  fun_induction ColumnReading.clauses table reading tokens with
  | case1 => cases read; exact List.suffix_refl _
  | case2 => cases read; exact List.suffix_refl _
  | case3 => contradiction
  | case4 reading token rest _ later step ih =>
    exact ((ih read).trans (clause_suffix step)).trans (List.suffix_cons _ _)

/-- Reads a column definition after the name. Without a type there is no column, and the item that
the name begins is passed over. -/
def columnDefinition (table name : String) (tokens : List Token) :
    Except ScriptError (Parsed (Option ColumnReading)) :=
  match tokens with
  | .identifier typeName :: rest =>
    let type := lowercase typeName
    let size := typeSize type rest
    match ColumnReading.clauses table { column := { name, type, size := size.value } } size.rest with
    | .error fault => .error fault
    | .ok found => .ok ⟨some found.value, found.rest⟩
  | tokens => .ok ⟨none, fromItemEnd 0 tokens⟩

theorem columnDefinition_suffix {table name : String} {tokens : List Token}
    {found : Parsed (Option ColumnReading)}
    (read : columnDefinition table name tokens = .ok found) : found.rest <:+ tokens := by
  unfold columnDefinition at read
  split at read
  · next typeName rest =>
    have sized := (typeSize_suffix (lowercase typeName) rest).trans
      (List.suffix_cons (.identifier typeName) rest)
    dsimp only at read
    split at read
    · contradiction
    · next clauses =>
      cases read
      exact (ColumnReading.clauses_suffix clauses).trans sized
  · cases read
    exact fromItemEnd_suffix _ _

end ErDiagram.Script
