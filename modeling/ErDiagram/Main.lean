import ErDiagram.Command.Arguments

/-!
# The program

Runs the command that the arguments name against files and the standard input.
-/

namespace ErDiagram

/-- The fault of an error number, which comes with either sign. -/
def faultOfNumber (text : String) (number : UInt32) : ReadFault :=
  .ofCode text (min number.toNat (-number).toNat)

def faultOfError : IO.Error → ReadFault
  | .alreadyExists _ number text => faultOfNumber text number
  | .otherError number text => faultOfNumber text number
  | .resourceBusy number text => faultOfNumber text number
  | .resourceVanished number text => faultOfNumber text number
  | .unsupportedOperation number text => faultOfNumber text number
  | .hardwareFault number text => faultOfNumber text number
  | .unsatisfiedConstraints number text => faultOfNumber text number
  | .illegalOperation number text => faultOfNumber text number
  | .protocolError number text => faultOfNumber text number
  | .timeExpired number text => faultOfNumber text number
  | .interrupted _ number text => faultOfNumber text number
  | .noFileOrDirectory _ number text => faultOfNumber text number
  | .invalidArgument _ number text => faultOfNumber text number
  | .permissionDenied _ number text => faultOfNumber text number
  | .resourceExhausted _ number text => faultOfNumber text number
  | .inappropriateType _ number text => faultOfNumber text number
  | .noSuchThing _ number text => faultOfNumber text number
  | .unexpectedEof => .system "unexpected end of file" 0
  | .userError text => .system text 0

def readInput (input : Input) : IO (Except ReadFault String) := do
  try
    let bytes ← match input with
      | .standard => (← IO.getStdin).readBinToEnd
      | .file path => IO.FS.readBinFile path
    return textOfBytes bytes
  catch error => return .error (faultOfError error)

def runProgram (arguments : List String) : IO UInt32 := do
  let ending ← endingOf readInput arguments
  IO.print ending.output
  IO.eprint ending.errors
  return ending.status.toUInt32

end ErDiagram

def main (arguments : List String) : IO UInt32 := ErDiagram.runProgram arguments
