import ErDiagram.Query
import ErDiagram.Text.Search
import ErDiagram.Text.Word

/-!
# Reading queries in relational algebra

An expression is read as a projection, as a selection of rows, as a join or as the name of a table,
in that order of preference. An operand in parentheses ends at the last closing parenthesis of the
line, and a condition or a list of columns at the first place where an operand can follow.
-/

namespace ErDiagram

open Text

def operand? : List Char → Option (List Char × Unit) :=
  someBlanks (literal "(" (longest isInLine (literal ")" fun _ => some ())))

/-- Reads the columns of a projection and its operand. A star is no list of columns. -/
def projected? : List Char → Option (List Char × List Char × Unit)
  | [] => none
  | c :: rest => if c = '*' then none else (shortest isInLine operand? rest).map (extend c)

def projection? (text : List Char) : Option (List Char × List Char) :=
  (anywhere (literal "π" (someBlanks projected?)) text).map
    fun (columns, operand, _) => (trim columns, trim operand)

def rowSelection? (text : List Char) : Option (List Char × List Char) :=
  (anywhere (literal "σ" (someBlanks (shortest isInLine operand?))) text).map
    fun (condition, operand, _) => (trim condition, trim operand)

def join? (text : List Char) : Option (List Char × List Char) :=
  let right := someBlanks (literal "⨝" operand?)
  (anywhere (literal "(" (longest isInLine (literal ")" right))) text).map
    fun (left, right, _) => (trim left, trim right)

def isTableName (text : List Char) : Bool := !text.isEmpty && text.all isAsciiWordChar

/-- The query that takes columns from the rows of an expression. An expression that selects no rows
is a source as it stands. -/
def Selection.ofRows (columns : Columns) (rows : List Char) : Selection :=
  match rowSelection? rows with
  | some (condition, source) => ⟨columns, String.ofList source, some (String.ofList condition)⟩
  | none => ⟨columns, String.ofList rows, none⟩

/-- The query that an expression without blanks at its ends holds. -/
def Query.ofTrimmedAlgebra? (text : List Char) : Option Query :=
  match projection? text with
  | some (columns, rows) =>
    some (.selection (.ofRows (.ofAlgebra (String.ofList columns)) rows))
  | none =>
    if (rowSelection? text).isSome then some (.selection (.ofRows .all text))
    else match join? text with
      | some (left, right) => some (.join (String.ofList left) (String.ofList right))
      | none => if isTableName text then some (.selection (.ofRows .all text)) else none

def Query.ofAlgebra? (expression : String) : Option Query :=
  Query.ofTrimmedAlgebra? (trim expression.toList)

def sqlOfAlgebra? (expression : String) : Option String :=
  (Query.ofAlgebra? expression).map Query.sql

def sqlOfAlgebra (expression : String) : String :=
  (sqlOfAlgebra? expression).getD "unsupported relational algebra expression for translation"

end ErDiagram
