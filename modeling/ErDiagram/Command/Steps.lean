import ErDiagram.Command.Input
import ErDiagram.Description.Reading
import ErDiagram.Document.Verdict
import ErDiagram.Listing
import ErDiagram.Query.Algebra
import ErDiagram.Query.Sql

/-!
# Commands in steps

A command runs in steps. It reads its input through a function that it is given, so that it runs against
files and the standard input as well as against texts in memory, it writes as it goes, and it may fail at
any step. What has been written before a failure stays written. What is logged on the way is left out, also
the warning about a script that defines no table.
-/

namespace ErDiagram

/-- What a user asks the program to do. Modes and formats are kept as given: whether they exist is
decided when the command runs. -/
inductive Command where
  | makeMarkup (file : Option String) (mode : String) (maxLines : Option Nat)
  | listSchema (file : Option String) (format : String) (noAttributes noCardinalities : Bool)
  | algebraOfSql (query : String)
  | sqlOfAlgebra (expression : String)
  /-- Checks markup, and writes it in a form that can be drawn. -/
  | checkMarkup (file : Option String)

inductive CommandError where
  | unknownMode (name : String)
  | unknownFormat (name : String)
  | unreadable (input : Input) (fault : ReadFault)
  | reading (fault : ReadingError)
  | script (fault : Script.ScriptError)
  | unusable (verdict : Verdict)
deriving DecidableEq, Repr

def CommandError.message : CommandError → String
  | unknownMode name => "invalid mode: " ++ name ++ " (expected er or relational)"
  | unknownFormat name =>
    "invalid format: " ++ name ++ " (expected mermaid, text or relational)"
  | unreadable input fault => "failed to read " ++ input.name ++ ": " ++ fault.message
  | reading fault => "failed to convert description: " ++ fault.message
  | script fault => "failed to parse DDL: " ++ fault.message
  | unusable verdict => verdict.message

/-- What has been written so far. -/
structure Streams where
  output : String := ""
  errors : String := ""
deriving DecidableEq, Repr

abbrev Steps (m : Type → Type) := ExceptT CommandError (StateT Streams m)

section Steps

variable {m : Type → Type} [Monad m]

def write (text : String) : Steps m Unit :=
  modify fun streams => { streams with output := streams.output ++ text }

def writeLine (line : String) : Steps m Unit := write (line ++ "\n")

def remark (line : String) : Steps m Unit :=
  modify fun streams => { streams with errors := streams.errors ++ line ++ "\n" }

/-- The value that was found, or the failure of the command. -/
def valueOr {ε α : Type} (cause : ε → CommandError) : Except ε α → Steps m α
  | .ok value => pure value
  | .error fault => throw (cause fault)

def readText (read : Input → m (Except ReadFault String)) (file : Option String) :
    Steps m String := do
  let input := Input.ofFile file
  let found ← read input
  valueOr (.unreadable input) found

/-- Runs a command. Modes and formats are looked up before anything is read. -/
def Command.run (read : Input → m (Except ReadFault String)) : Command → Steps m Unit
  | makeMarkup file mode maxLines => do
    let some dialect := Dialect.ofName? mode | throw (.unknownMode mode)
    let description ← readText read file
    let document ← valueOr .reading (readDescription dialect { maxLines } description)
    write document.render
  | listSchema file format noAttributes noCardinalities => do
    let some format := ListingFormat.ofName? format | throw (.unknownFormat format)
    let script ← readText read file
    let schema ← valueOr .script (Script.schemaOf script)
    writeLine (schema.listing format
      { attributes := !noAttributes, cardinalities := !noCardinalities })
  | algebraOfSql query => writeLine (ErDiagram.algebraOfSql query)
  | sqlOfAlgebra expression => writeLine (ErDiagram.sqlOfAlgebra expression)
  | checkMarkup file => do
    let markup ← readText read file
    let verdict := Verdict.ofMarkup markup
    if !verdict.isUsable then throw (.unusable verdict)
    remark verdict.message
    match verdict with
    | .corrected better => write better
    | _ => write markup

end Steps

structure Ending where
  status : Nat
  output : String := ""
  errors : String := ""
deriving DecidableEq, Repr

/-- How a run ends that has written these streams. A failure is told after what was written. -/
def Ending.ofRun : Except CommandError Unit × Streams → Ending
  | (.ok (), streams) => { status := 0, output := streams.output, errors := streams.errors }
  | (.error fault, streams) =>
    { status := 1
      output := streams.output
      errors := streams.errors ++ "ERROR: " ++ fault.message ++ "\n" }

def Command.ending {m : Type → Type} [Monad m] (read : Input → m (Except ReadFault String))
    (command : Command) : m Ending :=
  Ending.ofRun <$> (command.run read).run.run {}

end ErDiagram
