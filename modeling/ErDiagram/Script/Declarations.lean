import ErDiagram.Script.Scan
import ErDiagram.Script.TableDefinition

/-!
# From a script to a schema

The statements of a script are read one after another. When all are read, each foreign key that they
declare is kept if the table it refers to is defined anywhere in the script and the column it starts
from exists. A kept key marks its column.
-/

namespace ErDiagram.Script

/-- Reads the statement that a token begins. A statement of no interest ends after its first token, so
that a definition further on in it is still found. -/
def statement (token : Token) (rest : List Token) : Except ScriptError (Parsed Declarations) :=
  match token, rest with
  | .keyword .create, .keyword .table :: rest => tableDefinition rest
  | .keyword .create, rest => .ok ⟨{}, afterStatement rest⟩
  | .keyword .alter, rest => tableChange rest
  | _, rest => .ok ⟨{}, rest⟩

theorem statement_suffix {token : Token} {rest : List Token} {found : Parsed Declarations}
    (read : statement token rest = .ok found) : found.rest <:+ rest := by
  unfold statement at read
  split at read
  · exact (tableDefinition_suffix read).trans (List.suffix_cons _ _)
  · cases read; exact afterStatement_suffix _
  · exact tableChange_suffix read
  · cases read; exact List.suffix_refl _

def declarations (tokens : List Token) : Except ScriptError Declarations :=
  match tokens with
  | [] => .ok {}
  | token :: rest =>
    match _step : statement token rest with
    | .error fault => .error fault
    | .ok found =>
      match declarations found.rest with
      | .error fault => .error fault
      | .ok later => .ok (found.value ++ later)
termination_by tokens.length
decreasing_by
  simp only [List.length_cons]
  exact Nat.lt_succ_of_le (statement_suffix _step).length_le

theorem declarations_nil : declarations [] = .ok {} := by rw [declarations]

theorem declarations_cons (token : Token) (rest : List Token) :
    declarations (token :: rest) = (statement token rest).bind fun found =>
      (declarations found.rest).map (found.value ++ ·) := by
  rw [declarations]
  split
  · next step => rw [step]; rfl
  · next step =>
    rw [step, Except.bind]
    split
    · next fault => rw [fault]; rfl
    · next later => rw [later]; rfl

/-- Whether a foreign key starts from a column of the schema and refers to one of its tables. -/
def isResolved (schema : Schema) (key : ForeignKey) : Bool :=
  (schema.table? key.refTable).isSome && (schema.column? key.table key.column).isSome

/-- The schema with a foreign key and its column marked, if the key fits the schema. -/
def resolve (schema : Schema) (key : ForeignKey) : Schema :=
  if isResolved schema key then
    (schema.updateColumn key.table key.column fun column => { column with foreignKey := true })
      |>.addForeignKey key
  else schema

def Declarations.schema (declared : Declarations) : Schema :=
  declared.keys.foldl resolve { tables := declared.tables }

def schemaOfTokens (tokens : List Token) : Except ScriptError Schema :=
  (declarations tokens).map Declarations.schema

def schemaOf (script : String) : Except ScriptError Schema := schemaOfTokens (scan script)

end ErDiagram.Script
