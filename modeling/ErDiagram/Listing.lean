import ErDiagram.Document
import ErDiagram.Script.Declarations
import ErDiagram.Text.Width

/-!
# Listings

A schema is listed as one of three texts, chosen by name.

The markup listing is a diagram document, except that an attribute may carry two marks where a document
has room for one, and that no line feed ends the last line. The report is for people: each table has a
heading that is underlined as wide as it is shown on a terminal, and its columns stand in two sections.
The relational model names each column before its type and shows the size of the type, and its foreign
keys stand at the end, outside the blocks of the tables.

A script is listed by way of the schema that it defines, in full. An unknown format is refused before the
script is read.
-/

namespace ErDiagram

open Text

structure ListingOptions where
  cardinalities : Bool := true
  attributes : Bool := true

/-- The marks of a column. A primary key column has no other mark. -/
def Column.marks (column : Column) : List KeyMarker :=
  if column.primaryKey then [.primary]
  else (if column.foreignKey then [.foreign] else []) ++
    (if column.nullable then [.nullable] else [])

def Column.markupLine (column : Column) : String :=
  "        " ++ column.type ++ " " ++ column.name ++
    String.join (column.marks.map fun marker => " " ++ marker.text)

def Table.markupLines (options : ListingOptions) (table : Table) : List String :=
  ("    " ++ table.name ++ " \x7b") ::
    (if options.attributes then table.primaryKeyFirst.map Column.markupLine else []) ++ ["    \x7d"]

def ForeignKey.markupLine (key : ForeignKey) : String :=
  "    " ++ key.table ++ " " ++ oneToMany ++ " " ++ key.refTable ++ " : \"" ++ key.name ++ "\""

def Schema.markupLines (options : ListingOptions) (schema : Schema) : List String :=
  header :: schema.tables.flatMap (Table.markupLines options) ++
    if options.cardinalities then schema.foreignKeys.map ForeignKey.markupLine else []

def Schema.markup (options : ListingOptions) (schema : Schema) : String :=
  Text.joinLines (schema.markupLines options)

def titleWidth : Nat := 50

def sectionWidth : Nat := 30

/-- A line of one character as wide as the heading above it, and at least `least` wide. -/
def rule (mark : Char) (least : Nat) (heading : String) : String :=
  String.ofList (List.replicate (max (displayWidth heading) least) mark)

def Column.reportLine (column : Column) : String :=
  "    * " ++ column.name ++ " (" ++ column.type ++ ")"

def Column.markedReportLine (column : Column) : String :=
  column.reportLine ++ (if column.foreignKey then " [FK]" else "") ++
    (if column.nullable then " [NULL]" else "")

/-- A section under a heading. Without lines there is no section. -/
def reportSection (heading : String) (lines : List String) : List String :=
  if lines.isEmpty then [] else heading :: lines

def Table.reportColumns (table : Table) : List String :=
  reportSection "  PRIMARY KEY ATTRIBUTES:" (table.keyColumns.map Column.reportLine) ++
    reportSection "  OTHER ATTRIBUTES:" (table.otherColumns.map Column.markedReportLine)

def Table.reportLines (options : ListingOptions) (table : Table) : List String :=
  let heading := "ENTITY: " ++ table.name
  [heading, rule '-' sectionWidth heading] ++
    (if options.attributes then table.reportColumns else []) ++ [""]

def ForeignKey.reportLine (key : ForeignKey) : String :=
  "* " ++ key.name ++ ": " ++ key.table ++ "." ++ key.column ++ " -> " ++
    key.refTable ++ "." ++ key.refColumn

def relationshipReport (keys : List ForeignKey) : List String :=
  if keys.isEmpty then []
  else ["RELATIONSHIPS:", rule '-' sectionWidth ""] ++ keys.map ForeignKey.reportLine ++ [""]

def Schema.reportLines (options : ListingOptions) (schema : Schema) : List String :=
  ["ENTITY-RELATIONSHIP DIAGRAM (ER/EER)", rule '=' titleWidth "", ""] ++
    schema.tables.flatMap (Table.reportLines options) ++
    if options.cardinalities then relationshipReport schema.foreignKeys else []

def Schema.report (options : ListingOptions) (schema : Schema) : String :=
  joinLines (schema.reportLines options)

def Column.relationalLine (column : Column) : String :=
  "    " ++ column.name ++ " " ++ column.displayType ++
    (if column.primaryKey then " PK" else "") ++ (if column.foreignKey then " FK" else "") ++
    (if column.nullable then " NULL" else " NOT NULL")

def relationalColumns : List Column → List String
  | [] => []
  | [column] => [column.relationalLine]
  | column :: rest => (column.relationalLine ++ ",") :: relationalColumns rest

def Table.relationalLines (table : Table) : List String :=
  (table.name ++ " (") :: relationalColumns table.primaryKeyFirst ++ [")", ""]

def ForeignKey.relationalLine (key : ForeignKey) : String :=
  "FOREIGN KEY (" ++ key.column ++ ") REFERENCES " ++ key.refTable ++ "(" ++ key.refColumn ++ ")"

def foreignKeyLines (keys : List ForeignKey) : List String :=
  if keys.isEmpty then []
  else ["FOREIGN KEYS:", rule '-' sectionWidth ""] ++ keys.map ForeignKey.relationalLine ++ [""]

def Schema.relationalLines (schema : Schema) : List String :=
  ["RELATIONAL MODEL", rule '=' titleWidth "", ""] ++
    schema.tables.flatMap Table.relationalLines ++ foreignKeyLines schema.foreignKeys

def Schema.relationalModel (schema : Schema) : String := joinLines schema.relationalLines

inductive ListingFormat where
  | markup
  | report
  | relational
deriving DecidableEq, Repr

def ListingFormat.ofName? (name : String) : Option ListingFormat :=
  let lowered := lowercase name
  if lowered = "mermaid" || lowered = "notation" then some markup
  else if lowered = "text" then some report
  else if lowered = "relational" then some relational
  else none

/-- The listing of a schema in a format. The relational model is always listed in full. -/
def Schema.listing (format : ListingFormat) (options : ListingOptions) (schema : Schema) : String :=
  match format with
  | .markup => schema.markup options
  | .report => schema.report options
  | .relational => schema.relationalModel

inductive ListingError where
  | unknownFormat (name : String)
  | script (fault : Script.ScriptError)
deriving DecidableEq, Repr

def ListingError.message : ListingError → String
  | unknownFormat name => "Unknown format: " ++ name
  | script fault => fault.message

def Script.listing (format : ListingFormat) (script : String) : Except ListingError String :=
  match schemaOf script with
  | .ok schema => .ok (schema.listing format {})
  | .error fault => .error (.script fault)

/-- The listing of a script in the format of a name. Without a name it is markup. -/
def Script.listingByName (name : Option String) (script : String) : Except ListingError String :=
  match name with
  | none => listing .markup script
  | some name =>
    match ListingFormat.ofName? name with
    | some format => listing format script
    | none => .error (.unknownFormat name)

end ErDiagram
