import ErDiagram.Command.Steps
import ErDiagram.Text.Numeric

/-!
# Arguments of the program

The first argument names a command, and the others are its operands and its options, in any order. An
option has a long name and perhaps a letter, and may take a value, which is attached to it or is the next
argument. An option may be given once. After two dashes that stand alone every argument is an operand.

Arguments that fit no command are a mistake in use. Then, and where the version or the usage is asked for,
no command runs. The usage is told in short.
-/

namespace ErDiagram

open Text

/-- What is answered where no command runs. -/
inductive Aside where
  | version
  | usage
  | mistake

/-- An option that a command knows. Only an option with a value has a letter. -/
inductive KnownOption where
  | flag (name : String)
  | valued (name : String) (letter : Option Char)

inductive Argument where
  | operand (text : String)
  | given (name value : String)
  /-- An option whose value is the next argument. -/
  | awaiting (name : String)
  | endOfOptions
  | usage

/-- The operands and the options that have been given. A flag has the empty value. -/
structure Arguments where
  operands : List String := []
  options : List (String × String) := []

def KnownOption.ofName? (text : List Char) : KnownOption → Option Argument
  | flag name => if name.toList = text then some (.given name "") else none
  | valued name _ =>
    if name.toList = text then some (.awaiting name)
    else (after? (name ++ "=").toList text).map fun value => .given name (String.ofList value)

def KnownOption.ofLetter? (letter : Char) (attached : List Char) : KnownOption → Option Argument
  | flag _ => none
  | valued name known =>
    if known = some letter then
      match attached with
      | [] => some (.awaiting name)
      | '=' :: value => some (.given name (String.ofList value))
      | value => some (.given name (String.ofList value))
    else none

/-- Reads one argument of a command that knows the options. Every command tells its usage. -/
def Argument.ofText? (known : List KnownOption) (text : String) : Option Argument :=
  match text.toList with
  | ['-', '-'] => some .endOfOptions
  | '-' :: '-' :: rest =>
    if rest = "help".toList then some .usage else known.findSome? (·.ofName? rest)
  | '-' :: 'h' :: _ => some .usage
  | '-' :: letter :: attached => known.findSome? (·.ofLetter? letter attached)
  | _ => some (.operand text)

def isValue (text : String) : Bool := text = "-" || text.toList.head? != some '-'

namespace Arguments

def value? (arguments : Arguments) (name : String) : Option String :=
  arguments.options.lookup name

def isSet (arguments : Arguments) (name : String) : Bool := (arguments.value? name).isSome

/-- The arguments with one more option, unless it has been given before. -/
def set (arguments : Arguments) (name value : String) : Except Aside Arguments :=
  if arguments.isSet name then .error .mistake
  else .ok { arguments with options := arguments.options ++ [(name, value)] }

def addOperands (arguments : Arguments) (operands : List String) : Arguments :=
  { arguments with operands := arguments.operands ++ operands }

def readAfter (known : List KnownOption) (before : Arguments) :
    List String → Except Aside Arguments
  | [] => .ok before
  | text :: rest =>
    match Argument.ofText? known text with
    | none => .error .mistake
    | some .usage => .error .usage
    | some .endOfOptions => .ok (before.addOperands rest)
    | some (.operand text) => readAfter known (before.addOperands [text]) rest
    | some (.given name value) => do
      let next ← before.set name value
      readAfter known next rest
    | some (.awaiting name) =>
      match rest with
      | [] => .error .mistake
      | value :: later => do
        if !isValue value then throw .mistake
        let next ← before.set name value
        readAfter known next later

def read (known : List KnownOption) (texts : List String) : Except Aside Arguments :=
  readAfter known {} texts

/-- Numbers among the arguments have at most 64 bits. -/
def numberBound : Nat := Nat.pow 2 64

/-- The value of an option that must be a number. An option that is not given has none. -/
def number (arguments : Arguments) (name : String) : Except Aside (Option Nat) :=
  match arguments.value? name with
  | none => .ok none
  | some text =>
    match natBelow? numberBound text.toList with
    | none => .error .mistake
    | some number => .ok (some number)

def file (arguments : Arguments) : Except Aside (Option String) :=
  match arguments.operands with
  | [] => .ok none
  | [path] => if path.isEmpty then .error .mistake else .ok (some path)
  | _ => .error .mistake

def operand (arguments : Arguments) : Except Aside String :=
  match arguments.operands with
  | [operand] => .ok operand
  | _ => .error .mistake

end Arguments

namespace Command

def markupOptions : List KnownOption := [.valued "mode" (some 'm'), .valued "max-lines" none]

def listingOptions : List KnownOption :=
  [.valued "format" (some 'f'), .flag "no-attributes", .flag "no-cardinalities"]

def ofName (name : String) (texts : List String) : Except Aside Command := do
  match name with
  | "notation" =>
    let arguments ← Arguments.read markupOptions texts
    let maxLines ← arguments.number "max-lines"
    return makeMarkup (← arguments.file) ((arguments.value? "mode").getD "er") maxLines
  | "describe" =>
    let arguments ← Arguments.read listingOptions texts
    return listSchema (← arguments.file) ((arguments.value? "format").getD "mermaid")
      (arguments.isSet "no-attributes") (arguments.isSet "no-cardinalities")
  | "sql-to-algebra" => return algebraOfSql (← (← Arguments.read [] texts).operand)
  | "algebra-to-sql" => return sqlOfAlgebra (← (← Arguments.read [] texts).operand)
  | "validate" => return checkMarkup (← (← Arguments.read [] texts).file)
  | _ => throw .mistake

/-- Whether an argument in the first place asks for the version, also by a letter with more after it. -/
def asksVersion (text : String) : Bool := text = "--version" || text.startsWith "-V"

def asksUsage (text : String) : Bool := text = "help" || text = "--help" || text.startsWith "-h"

/-- The command that arguments stand for, or what is answered in place of one. -/
def ofArguments : List String → Except Aside Command
  | [] => .error .mistake
  | first :: rest =>
    if asksVersion first then .error .version
    else if asksUsage first then .error .usage
    else ofName first rest

end Command

def versionText : String := "relnote 0.1.0\n"

def usageText : String :=
  "Usage: relnote <COMMAND>\n\n" ++
  "  notation [FILE] [-m MODE] [--max-lines N]\n" ++
  "  describe [FILE] [-f FORMAT] [--no-attributes] [--no-cardinalities]\n" ++
  "  sql-to-algebra QUERY\n" ++
  "  algebra-to-sql EXPRESSION\n" ++
  "  validate [FILE]\n"

def Aside.ending : Aside → Ending
  | version => { status := 0, output := versionText }
  | usage => { status := 0, output := usageText }
  | mistake => { status := 2, errors := usageText }

def endingOf {m : Type → Type} [Monad m] (read : Input → m (Except ReadFault String))
    (texts : List String) : m Ending :=
  match Command.ofArguments texts with
  | .error aside => return aside.ending
  | .ok command => command.ending read

end ErDiagram
