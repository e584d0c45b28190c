/-!
# Inputs of commands

A command reads one text, either from a file or from the standard input. Reading can fail, and a
fault is told in the words and with the number of the operating system. Bytes that are no UTF-8 are
no text.
-/

namespace ErDiagram

inductive Input where
  | standard
  | file (path : String)
deriving DecidableEq, Repr

/-- Whether a path has one part and that is a dash. Slashes and dots after it do not count. -/
def isDashPath (path : String) : Bool :=
  match path.splitOn "/" with
  | [] => false
  | first :: rest => first = "-" && rest.all fun part => part = "" || part = "."

/-- The input that a command reads where a file may be named. -/
def Input.ofFile : Option String → Input
  | none => standard
  | some path => if isDashPath path then standard else file path

/-- What the input is called when it cannot be read. -/
def Input.name : Input → String
  | standard => "stdin"
  | file path => path

inductive ReadFault where
  | system (description : String) (code : Nat)
  | notText
deriving DecidableEq, Repr

namespace ReadFault

def hasCode (code : Nat) : ReadFault → Bool
  | system _ own => own = code
  | notText => false

def notFound : ReadFault := system "No such file or directory" 2

def notFolder : ReadFault := system "Not a directory" 20

def isFolder : ReadFault := system "Is a directory" 21

def nameTooLong : ReadFault := system "File name too long" 36

def notPermitted : ReadFault := system "Permission denied" 13

def tooManyLinks : ReadFault := system "Too many levels of symbolic links" 40

/-- The fault of an error number. The description counts only for a number without words here. -/
def ofCode (description : String) (code : Nat) : ReadFault :=
  let worded := [notFound, notPermitted, notFolder, isFolder, nameTooLong, tooManyLinks]
  (worded.find? (·.hasCode code)).getD (system description code)

def message : ReadFault → String
  | system description code => description ++ " (os error " ++ toString code ++ ")"
  | notText => "stream did not contain valid UTF-8"

end ReadFault

def textOfBytes (bytes : ByteArray) : Except ReadFault String :=
  match String.fromUTF8? bytes with
  | some text => .ok text
  | none => .error .notText

end ErDiagram
