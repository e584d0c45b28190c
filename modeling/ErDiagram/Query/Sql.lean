import ErDiagram.Query
import ErDiagram.Text.Lowercase
import ErDiagram.Text.Search
import ErDiagram.Text.Word

/-!
# Reading queries in SQL

A query is read in lower case from its leftmost `select` that can be completed. The columns end at
the first `from` with a table after it, on the line where they begin. Only a condition that follows
the table directly is read, up to the end of its line; anything else after the table is passed over.

A join of two tables is looked for after that. Its condition is not carried along. Since the first of its
tables is a table after a `from`, a query with a join has been read by then.
-/

namespace ErDiagram

open Text

/-- The columns, the table and the condition of a query as they stand in its text. -/
structure SqlClauses where
  columns : List Char
  table : List Char
  condition : Option (List Char)
deriving DecidableEq, Repr

def whereClause? : List Char → Option (List Char) :=
  someBlanks (literal "where" (someBlanks fun rest => some (restOfLine rest)))

/-- Reads a table, whose name is a run of ASCII word characters, and the condition after it. -/
def tableClause? (text : List Char) : Option (List Char × Option (List Char)) :=
  let table := text.takeWhile isAsciiWordChar
  if table.isEmpty then none else some (table, whereClause? (text.dropWhile isAsciiWordChar))

def columnClause? : List Char → Option (List Char × List Char × Option (List Char)) :=
  shortest isInLine (someBlanks (literal "from" (someBlanks tableClause?)))

def SqlClauses.ofText? (text : List Char) : Option SqlClauses :=
  (anywhere (literal "select" (someBlanks columnClause?)) text).map
    fun (columns, table, condition) => ⟨columns, table, condition⟩

def SqlClauses.selection (clauses : SqlClauses) : Selection where
  columns := .ofSql (String.ofList clauses.columns)
  source := String.ofList clauses.table
  condition := clauses.condition.map String.ofList

def tableThen {α : Type} (next : List Char → Option α) (text : List Char) :
    Option (List Char × α) :=
  let table := text.takeWhile isAsciiWordChar
  if table.isEmpty then none else (next (text.dropWhile isAsciiWordChar)).map (table, ·)

/-- Reads two joined tables and the condition after them, up to the end of its line. -/
def joinClause? : List Char → Option (List Char × List Char × List Char) :=
  tableThen (someBlanks (literal "join" (someBlanks (tableThen
    (someBlanks (literal "on" (someBlanks fun rest => some (restOfLine rest))))))))

/-- Reads columns as far as the `from` after them and what `source` reads there. -/
def columnsFrom? {α : Type} (source : List Char → Option α) (text : List Char) :
    Option (List Char × α) :=
  anywhere (literal "select" (someBlanks (shortest isInLine (someBlanks (literal "from" source))))) text

/-- The columns and the tables of a join as they stand in its text. -/
structure JoinClauses where
  columns : List Char
  left : List Char
  right : List Char
deriving DecidableEq, Repr

/-- The columns of a join are those before the first `from`, which need not be the one of its tables. -/
def JoinClauses.ofText? (text : List Char) : Option JoinClauses :=
  (columnsFrom? (someBlanks joinClause?) text).map fun (_, left, right, _) =>
    let columns := (columnsFrom? some text).map (·.1)
    ⟨columns.getD Columns.allInSql.toList, left, right⟩

def JoinClauses.algebra (clauses : JoinClauses) : String :=
  "π " ++ (Columns.ofSql (String.ofList clauses.columns)).algebra ++ " (" ++
    String.ofList clauses.left ++ " ⨝ " ++ String.ofList clauses.right ++ ")"

def algebraOfSql? (text : String) : Option String :=
  let text := trim (lowercase text).toList
  match SqlClauses.ofText? text with
  | some clauses => some clauses.selection.algebra
  | none => (JoinClauses.ofText? text).map JoinClauses.algebra

def algebraOfSql (text : String) : String :=
  (algebraOfSql? text).getD "unsupported SQL query type for translation"

end ErDiagram
