import ErDiagram.Document
import ErDiagram.Text.Lowercase
import ErDiagram.Text.Word

/-!
# One line of a description

A description lists tables in blocks and says how they are linked. The two dialects of descriptions
differ in the brackets around a block and in the line that links two tables.

A line opens a block, closes it, names an attribute of the open block, or links two tables. The four
readings are tried in that order, and a line that fits none of them says nothing. What a line says
depends on the lines before it only through the block that is open there.
-/

namespace ErDiagram

open Text

inductive Dialect where
  | entityRelationship
  | relational
deriving DecidableEq, Repr

namespace Dialect

def ofName? (name : String) : Option Dialect :=
  let lowered := lowercase name
  if lowered = "er" || lowered = "eer" then some entityRelationship
  else if lowered = "relational" then some relational
  else none

/-- The character at the end of a line that opens a block. -/
def opener : Dialect → Char
  | entityRelationship => '\x7b'
  | relational => '('

/-- The character that closes a block on a line of its own. -/
def closer : Dialect → Char
  | entityRelationship => '\x7d'
  | relational => ')'

end Dialect

/-- The type names that mark a line as an attribute. -/
def attributeTypes : List String :=
  ["int", "varchar", "text", "decimal", "datetime", "date", "bit"]

def wordFollows : List Char → Bool
  | [] => false
  | c :: rest => isBlank c && ((trimStart rest).head?.any isAsciiWordChar)

def beginsAttribute (text : List Char) : Bool :=
  attributeTypes.any fun type => (after? type.toList text).any wordFollows

/-- Whether a type name with a word after it stands anywhere in the line, also at the end of a
longer word. -/
def carriesAttribute : List Char → Bool
  | [] => false
  | c :: rest => beginsAttribute (c :: rest) || carriesAttribute rest

/-- The first word is the type and the second the name. The key is found in the words after them. -/
def Attribute.ofWords? : List (List Char) → Option Attribute
  | type :: name :: modifiers =>
    some {
      type := String.ofList type
      name := String.ofList name
      key := KeyMarker.ofModifiers? (String.ofList (List.intercalate [' '] modifiers)) }
  | _ => none

/-- The label after the colon of a relationship. It ends at a second colon and loses its quotes. If
nothing stands there, the relationship has the default label. -/
def labelAfterColon (defaultLabel : String) (text : List Char) : String :=
  let label := text.takeWhile (· != ':')
  if label.isEmpty then defaultLabel else String.ofList (trim (label.filter (· != '"')))

/-- Reads a line with a relationship sign between two entities and perhaps a label. A line with
several signs is none. -/
def Relationship.ofSigns? (defaultLabel : String) (line : List Char) : Option Relationship :=
  match cut oneToMany line with
  | none => none
  | some (left, right) =>
    if occursIn oneToMany right then none
    else
      let left := String.ofList (trim left)
      match cut ":" (trim right) with
      | none => some ⟨left, String.ofList (trim right), defaultLabel⟩
      | some (target, label) =>
        some ⟨left, String.ofList (trim target), labelAfterColon defaultLabel label⟩

def foreignKeyMark : String := "FOREIGN KEY"

/-- The column that a foreign key line links, and the table and column that it refers to. -/
structure KeyReference where
  column : List Char
  target : List Char
  targetColumn : List Char

def bracketed {α : Type} (next : List Char → Option α) : List Char → Option (List Char × α) :=
  literal "(" (shortest isInLine (literal ")" next))

/-- Reads what follows the mark of a foreign key line. -/
def KeyReference.afterMark? (text : List Char) : Option KeyReference :=
  let target := shortest isInLine (blanks (bracketed fun _ => some ()))
  let found := blanks (bracketed (blanks (literal "REFERENCES" (blanks target)))) text
  found.map fun (column, target, targetColumn, _) => ⟨column, target, targetColumn⟩

def KeyReference.ofLine? : List Char → Option KeyReference :=
  anywhere (literal foreignKeyMark KeyReference.afterMark?)

/-- The table that a foreign key refers to stands on the left, and the open block on the right. -/
def KeyReference.relationship (reference : KeyReference) (block : Option String) : Relationship where
  left := String.ofList reference.target
  right := block.getD ""
  label := String.ofList (reference.column ++ " references ".toList ++ reference.targetColumn)

namespace Dialect

/-- The mark of a line that links tables. Such a line opens no block. -/
def linkMark : Dialect → String
  | entityRelationship => oneToMany
  | relational => foreignKeyMark

def blockName? (dialect : Dialect) (line : List Char) : Option String :=
  if line.getLast? = some dialect.opener && !occursIn dialect.linkMark line then
    some (String.ofList (trim line.dropLast))
  else none

def link? (dialect : Dialect) (defaultLabel : String) (block : Option String)
    (line : List Char) : Option Relationship :=
  match dialect with
  | entityRelationship => Relationship.ofSigns? defaultLabel line
  | relational => (KeyReference.ofLine? line).map (·.relationship block)

end Dialect

/-- What a line says, and the block that is open after it. Only a named block counts as open: a block
without a name is written out but takes no attributes. -/
structure LineReading where
  statement : Option Statement
  block : Option String
deriving DecidableEq, Repr

/-- Reads a line without blanks at its ends that is not empty. -/
def readTrimmed (dialect : Dialect) (defaultLabel : String) (block : Option String)
    (line : List Char) : LineReading :=
  match dialect.blockName? line with
  | some name => ⟨some (.openEntity name), if name.isEmpty then none else some name⟩
  | none =>
    if line = [dialect.closer] then ⟨some .closeEntity, none⟩
    else if block.isSome && carriesAttribute line then
      ⟨(Attribute.ofWords? (words line)).map .addAttribute, block⟩
    else ⟨(dialect.link? defaultLabel block line).map .addRelationship, block⟩

def readLine (dialect : Dialect) (defaultLabel : String) (block : Option String)
    (line : List Char) : LineReading :=
  let line := trim line
  if line.isEmpty then ⟨none, block⟩ else readTrimmed dialect defaultLabel block line

end ErDiagram
