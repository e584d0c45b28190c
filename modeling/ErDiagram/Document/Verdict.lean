import ErDiagram.Document
import ErDiagram.Text.Word

/-!
# Verdicts on markup

Before markup is drawn it is checked in two respects: its first line must begin with the header, and
some line must open an entity. A missing header is put in front without looking any further.
-/

namespace ErDiagram

open Text

inductive Verdict where
  | valid
  /-- The header was missing. Holds the markup with the header in front. -/
  | corrected (markup : String)
  | noEntities
deriving DecidableEq, Repr

/-- Whether a line begins with a word and an opening brace after it. -/
def opensEntity (line : List Char) : Bool :=
  let start := trimStart line
  !(start.takeWhile isWordChar).isEmpty &&
    (trimStart (start.dropWhile isWordChar)).head? = some '\x7b'

def hasHeader (markup : List Char) : Bool :=
  (after? header.toList (trim ((lines markup).head?.getD []))).isSome

namespace Verdict

def ofMarkup (markup : String) : Verdict :=
  if !hasHeader markup.toList then corrected (header ++ "\n" ++ markup)
  else if (lines markup.toList).any opensEntity then valid
  else noEntities

/-- Whether there is something to draw, as given or corrected. -/
def isUsable : Verdict → Bool
  | noEntities => false
  | _ => true

def message : Verdict → String
  | valid => "notation is valid"
  | corrected _ => "added missing erDiagram header"
  | noEntities => "no entities found in the diagram"

end Verdict

/-- The markup to draw in place of the given one, or the reason why there is nothing to draw. -/
def drawable (markup : String) : Except String String :=
  let verdict := Verdict.ofMarkup markup
  if !verdict.isUsable then .error verdict.message
  else match verdict with
    | .corrected better => .ok better
    | _ => .ok markup

end ErDiagram
