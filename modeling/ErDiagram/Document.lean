import ErDiagram.Text.Line
import ErDiagram.Text.Search

/-!
# Diagram documents

A document is the markup that a diagram is drawn from: a header line and a list of statements, one
a line. An entity is opened and closed by statements of their own, so a document is a flat list and
need not be balanced. `Document.render` writes it.
-/

namespace ErDiagram

def header : String := "erDiagram"

/-- The sign of a relationship from one entity on the left to many on the right. -/
def oneToMany : String := "||--o\x7b"

/-- The role of an attribute that the diagram shows. -/
inductive KeyMarker where
  | primary
  | foreign
  | nullable
deriving DecidableEq, Repr

namespace KeyMarker

def text : KeyMarker → String
  | primary => "PK"
  | foreign => "FK"
  | nullable => "NULL"

/-- The marker that occurs in the modifiers of an attribute. A primary key goes before a foreign
key, and that before `NULL`, which `NOT NULL` holds too. -/
def ofModifiers? (modifiers : String) : Option KeyMarker :=
  [primary, foreign, nullable].find? fun marker => Text.occursIn marker.text modifiers.toList

end KeyMarker

structure Attribute where
  type : String
  name : String
  key : Option KeyMarker
deriving DecidableEq, Repr

structure Relationship where
  left : String
  right : String
  label : String
deriving DecidableEq, Repr

inductive Statement where
  | openEntity (name : String)
  | addAttribute (added : Attribute)
  | closeEntity
  | addRelationship (added : Relationship)
deriving DecidableEq, Repr

abbrev Document := List Statement

def Attribute.text (written : Attribute) : String :=
  written.type ++ " " ++ written.name ++
    match written.key with
    | none => ""
    | some marker => " " ++ marker.text

def Relationship.text (written : Relationship) : String :=
  written.left ++ " " ++ oneToMany ++ " " ++ written.right ++ " : \"" ++ written.label ++ "\""

namespace Statement

def text : Statement → String
  | openEntity name => name ++ " \x7b"
  | addAttribute added => added.text
  | closeEntity => "\x7d"
  | addRelationship added => added.text

/-- Attributes stand one level deeper than the other statements. -/
def indent : Statement → String
  | addAttribute _ => "        "
  | _ => "    "

def line (statement : Statement) : String := statement.indent ++ statement.text

end Statement

def Document.lines (document : Document) : List String :=
  header :: document.map Statement.line

/-- The markup of a document. Every line ends with a line feed. -/
def Document.render (document : Document) : String := Text.endLines document.lines

end ErDiagram
