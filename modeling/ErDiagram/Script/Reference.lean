import ErDiagram.Schema
import ErDiagram.Script.Name

/-!
# References between tables

A foreign key is declared on a column, in the body of a table, or by a change to a table. What is
read here is only a candidate: whether its table and column exist is decided when the whole script
has been read.
-/

namespace ErDiagram.Script

/-- The name of a foreign key that is declared without one. -/
def defaultKeyName (table refTable : String) : String := "FK_" ++ table ++ "_" ++ refTable

structure Target where
  table : String
  column : String
deriving DecidableEq, Repr

/-- Reads what follows `REFERENCES` on a column. Without a column it refers to `id`. -/
def target (tokens : List Token) : Except ScriptError (Parsed Target) :=
  let name := qualifiedName tokens
  match name.value with
  | none => .error (.missingTable name.rest.head?)
  | some table =>
    let columns := columnList name.rest
    .ok ⟨⟨table, columns.value.head?.getD "id"⟩, columns.rest⟩

/-- Reads what follows `REFERENCES` after a list of columns. Each column refers to the one at its
place in the second list, and those without one refer to nothing. -/
def keysTo (table : String) (name : Option String) (columns : List String)
    (tokens : List Token) : Except ScriptError (Parsed (List ForeignKey)) :=
  let refName := qualifiedName tokens
  match refName.value with
  | none => .error (.missingTable refName.rest.head?)
  | some refTable =>
    let refColumns := columnList refName.rest
    let key (column refColumn : String) : ForeignKey :=
      { name := name.getD (defaultKeyName table refTable), table, column, refTable, refColumn }
    .ok ⟨List.zipWith key columns refColumns.value, dropActions refColumns.rest⟩

def keyConstraint (table : String) (name : Option String) (tokens : List Token) :
    Except ScriptError (Parsed (List ForeignKey)) :=
  match tokens with
  | .keyword .key :: rest =>
    let columns := columnList rest
    match columns.rest with
    | .keyword .references :: later => keysTo table name columns.value later
    | later => .ok ⟨[], later⟩
  | tokens => .ok ⟨[], tokens⟩

theorem target_suffix {tokens : List Token} {found : Parsed Target}
    (read : target tokens = .ok found) : found.rest <:+ tokens := by
  unfold target at read
  dsimp only at read
  split at read
  · contradiction
  · cases read
    exact (columnList_suffix _).trans (qualifiedName_suffix _)

theorem keysTo_suffix {table : String} {name : Option String} {columns : List String}
    {tokens : List Token} {found : Parsed (List ForeignKey)}
    (read : keysTo table name columns tokens = .ok found) : found.rest <:+ tokens := by
  unfold keysTo at read
  dsimp only at read
  split at read
  · contradiction
  · cases read
    exact (dropActions_suffix _).trans ((columnList_suffix _).trans (qualifiedName_suffix _))

theorem keyConstraint_suffix {table : String} {name : Option String} {tokens : List Token}
    {found : Parsed (List ForeignKey)} (read : keyConstraint table name tokens = .ok found) :
    found.rest <:+ tokens := by
  unfold keyConstraint at read
  split at read
  · next rest =>
    dsimp only at read
    have listed := (columnList_suffix rest).trans (List.suffix_cons (.keyword .key) rest)
    split at read
    · next later next =>
      have after := List.suffix_cons (.keyword .references) later
      rw [← next] at after
      exact (keysTo_suffix read).trans (after.trans listed)
    · cases read
      exact listed
  · cases read
    exact List.suffix_refl _

end ErDiagram.Script
