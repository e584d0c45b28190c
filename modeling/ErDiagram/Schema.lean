/-!
# Schemas

A schema is a list of tables and a list of foreign keys. Names need not be distinct: a look-up finds
the first table or column of a name, and a change applies to that one alone.
-/

namespace ErDiagram

/-- The size in brackets after a column type. -/
inductive TypeSize where
  | length (characters : Nat)
  | max
  | precision (digits scale : Nat)
deriving DecidableEq, Repr

structure Column where
  name : String
  type : String
  size : Option TypeSize := none
  nullable : Bool := true
  primaryKey : Bool := false
  foreignKey : Bool := false
deriving DecidableEq, Repr

structure Table where
  name : String
  columns : List Column := []
deriving DecidableEq, Repr

/-- A column of a table that refers to a column of another table. -/
structure ForeignKey where
  name : String
  table : String
  column : String
  refTable : String
  refColumn : String
deriving DecidableEq, Repr

structure Schema where
  tables : List Table := []
  foreignKeys : List ForeignKey := []
deriving DecidableEq, Repr

def updateFirst {α : Type} (found : α → Bool) (change : α → α) : List α → List α
  | [] => []
  | a :: rest => if found a then change a :: rest else a :: updateFirst found change rest

namespace Column

def isCharacterType (type : String) : Bool := ["varchar", "nvarchar", "char", "nchar"].contains type

def isDecimalType (type : String) : Bool := ["decimal", "numeric"].contains type

/-- The type with its size, for the types whose size is worth showing. -/
def displayType (column : Column) : String :=
  match column.size with
  | some (.length characters) =>
    if isCharacterType column.type then column.type ++ "(" ++ toString characters ++ ")"
    else column.type
  | some .max => if isCharacterType column.type then column.type ++ "(MAX)" else column.type
  | some (.precision digits scale) =>
    if isDecimalType column.type then
      column.type ++ "(" ++ toString digits ++ ", " ++ toString scale ++ ")"
    else column.type
  | none => column.type

end Column

namespace Table

def column? (table : Table) (name : String) : Option Column :=
  table.columns.find? (·.name = name)

def addColumn (table : Table) (column : Column) : Table :=
  { table with columns := table.columns ++ [column] }

def updateColumn (table : Table) (name : String) (change : Column → Column) : Table :=
  { table with columns := updateFirst (·.name = name) change table.columns }

def keyColumns (table : Table) : List Column := table.columns.filter (·.primaryKey)

def otherColumns (table : Table) : List Column := table.columns.filter (!·.primaryKey)

/-- The columns of the primary key, then the others, both in the order of the table. -/
def primaryKeyFirst (table : Table) : List Column := table.keyColumns ++ table.otherColumns

end Table

namespace Schema

def table? (schema : Schema) (name : String) : Option Table :=
  schema.tables.find? (·.name = name)

def column? (schema : Schema) (table column : String) : Option Column :=
  (schema.table? table).bind (·.column? column)

def addTable (schema : Schema) (table : Table) : Schema :=
  { schema with tables := schema.tables ++ [table] }

def addForeignKey (schema : Schema) (key : ForeignKey) : Schema :=
  { schema with foreignKeys := schema.foreignKeys ++ [key] }

def updateTable (schema : Schema) (name : String) (change : Table → Table) : Schema :=
  { schema with tables := updateFirst (·.name = name) change schema.tables }

def updateColumn (schema : Schema) (table column : String) (change : Column → Column) : Schema :=
  schema.updateTable table (·.updateColumn column change)

end Schema

end ErDiagram
