import ErDiagram.Text.Blank

/-!
# Searching with a preferred match

A reader looks at the start of a text and gives a value or fails. The functions here build readers
from what a shape may begin with and a reader `next` for what follows it. Where several splits are
possible the order of preference is fixed: `shortest` tries the shortest run first, `longest` the
longest, and `anywhere` the leftmost start. The first split for which `next` succeeds is the answer.
-/

namespace ErDiagram.Text

variable {α : Type}

def after? : List Char → List Char → Option (List Char)
  | [], text => some text
  | _ :: _, [] => none
  | p :: part, c :: text => if p = c then after? part text else none

def extend (c : Char) (found : List Char × α) : List Char × α := (c :: found.1, found.2)

def literal (part : String) (next : List Char → Option α) (text : List Char) : Option α :=
  (after? part.toList text).bind next

/-- Splits off a run of characters that `accepts` allows, as short as `next` permits. -/
def shortest (accepts : Char → Bool) (next : List Char → Option α) :
    List Char → Option (List Char × α)
  | [] => (next []).map ([], ·)
  | c :: rest =>
    match next (c :: rest) with
    | some value => some ([], value)
    | none =>
      if accepts c then (shortest accepts next rest).map (extend c) else none

/-- Splits off a run of characters that `accepts` allows, as long as `next` permits. -/
def longest (accepts : Char → Bool) (next : List Char → Option α) :
    List Char → Option (List Char × α)
  | [] => (next []).map ([], ·)
  | c :: rest =>
    let extended := if accepts c then longest accepts next rest else none
    match extended with
    | some found => some (extend c found)
    | none => (next (c :: rest)).map ([], ·)

/-- Passes over blanks, as many as `next` permits. -/
def blanks (next : List Char → Option α) (text : List Char) : Option α :=
  (longest isBlank next text).map (·.2)

/-- Passes over one blank or more, as many as `next` permits. -/
def someBlanks (next : List Char → Option α) : List Char → Option α
  | [] => none
  | c :: rest => if isBlank c then blanks next rest else none

/-- Reads at the leftmost place where that succeeds. -/
def anywhere (read : List Char → Option α) : List Char → Option α
  | [] => read []
  | c :: rest =>
    match read (c :: rest) with
    | some value => some value
    | none => anywhere read rest

def cut (part : String) : List Char → Option (List Char × List Char) :=
  shortest (fun _ => true) (after? part.toList)

def occursIn (part : String) (text : List Char) : Bool := (cut part text).isSome

def isInLine (c : Char) : Bool := c != '\n'

def restOfLine (text : List Char) : List Char := text.takeWhile isInLine

end ErDiagram.Text
