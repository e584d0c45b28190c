import ErDiagram.Description.Line

/-!
# Reading a description

A description is read line by line, and each line gives at most one statement. The only failure is a
description with more lines than its reader allows.
-/

namespace ErDiagram

open Text

structure ReadingOptions where
  /-- The label of a relationship that carries none. -/
  defaultLabel : String := "related_to"
  maxLines : Option Nat := none

inductive ReadingError where
  | tooManyLines (lines limit : Nat)
deriving DecidableEq, Repr

def ReadingError.message : ReadingError → String
  | .tooManyLines lines limit =>
    "Description has " ++ toString lines ++ " lines, limit is " ++ toString limit

/-- The statements of the lines that follow where `block` is open. -/
def statementsAfter (dialect : Dialect) (defaultLabel : String) :
    Option String → List (List Char) → List Statement
  | _, [] => []
  | block, line :: rest =>
    let reading := readLine dialect defaultLabel block line
    reading.statement.toList ++ statementsAfter dialect defaultLabel reading.block rest

def statementsOf (dialect : Dialect) (defaultLabel : String) (description : String) : Document :=
  statementsAfter dialect defaultLabel none (lines description.toList)

def readDescription (dialect : Dialect) (options : ReadingOptions) (description : String) :
    Except ReadingError Document :=
  let count := (lines description.toList).length
  match options.maxLines with
  | some limit =>
    if limit < count then .error (.tooManyLines count limit)
    else .ok (statementsOf dialect options.defaultLabel description)
  | none => .ok (statementsOf dialect options.defaultLabel description)

/-- The markup of the document that a description gives, if it can be read. -/
def markup? (dialect : Dialect) (options : ReadingOptions) (description : String) : Option String :=
  match readDescription dialect options description with
  | .ok document => some document.render
  | .error _ => none

end ErDiagram
