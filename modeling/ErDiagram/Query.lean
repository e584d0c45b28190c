/-!
# Queries

A query takes columns of one source, perhaps only the rows that meet a condition, or joins two
sources. Columns, sources and conditions are texts that are carried along as they stand. A query is
written in SQL or in relational algebra, where `π` takes columns and `σ` takes rows.
-/

namespace ErDiagram

inductive Columns where
  | all
  | listed (text : String)
deriving DecidableEq, Repr

/-- Columns of one source, taken from the rows that meet the condition if there is one. -/
structure Selection where
  columns : Columns
  source : String
  condition : Option String
deriving DecidableEq, Repr

inductive Query where
  | selection (selected : Selection)
  | join (left right : String)
deriving DecidableEq, Repr

namespace Columns

def allInSql : String := "*"

def allInAlgebra : String := "all_columns"

def sql : Columns → String
  | all => allInSql
  | listed text => text

def algebra : Columns → String
  | all => allInAlgebra
  | listed text => text

def ofSql (text : String) : Columns := if text = allInSql then all else listed text

def ofAlgebra (text : String) : Columns := if text = allInAlgebra then all else listed text

end Columns

namespace Selection

def sql (selected : Selection) : String :=
  "SELECT " ++ selected.columns.sql ++ " FROM " ++ selected.source ++
    match selected.condition with
    | none => ""
    | some condition => " WHERE " ++ condition

def rows (selected : Selection) : String :=
  match selected.condition with
  | none => selected.source
  | some condition => "σ " ++ condition ++ " (" ++ selected.source ++ ")"

def algebra (selected : Selection) : String :=
  "π " ++ selected.columns.algebra ++ " (" ++ selected.rows ++ ")"

end Selection

/-- A query in SQL. The algebra of a join holds no condition, and a sign stands in its place. -/
def Query.sql : Query → String
  | selection selected => selected.sql
  | join left right => "SELECT * FROM " ++ left ++ " JOIN " ++ right ++ " ON [condition]"

end ErDiagram
