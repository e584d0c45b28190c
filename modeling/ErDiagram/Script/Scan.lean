import ErDiagram.Script.Token
import ErDiagram.Text.Search
import ErDiagram.Text.Word

/-!
# From text to tokens

`scan` reads a script from its start. Each step takes a token or something between tokens: a blank,
a comment, or a character that no token begins with. A comment that is never closed and a quote that
is never closed run to the end of the script.
-/

namespace ErDiagram.Script

open Text

/-- What a step takes from a text: a token or nothing of worth, and the text after it. -/
structure ScanStep where
  token : Option Token
  rest : List Char

/-- The text up to a closing character, in which a doubled closing character stands for itself, and
what follows. -/
def delimited (close : Char) : List Char → List Char × List Char
  | [] => ([], [])
  | [c] => if c = close then ([], []) else ([c], [])
  | c :: d :: rest =>
    if c != close then extend c (delimited close (d :: rest))
    else if d = close then extend close (delimited close rest)
    else ([], d :: rest)

/-- The text after a block comment whose opening has been read. -/
def afterBlockComment (text : List Char) : List Char :=
  match cut "*/" text with
  | none => []
  | some (_, rest) => rest

/-- The digits of a number after its sign, with a fraction if a point follows them. -/
def numberTail (text : List Char) : List Char × List Char :=
  let whole := text.takeWhile Char.isDigit
  match text.dropWhile Char.isDigit with
  | '.' :: rest => (whole ++ '.' :: rest.takeWhile Char.isDigit, rest.dropWhile Char.isDigit)
  | rest => (whole, rest)

def beginsWord (c : Char) : Bool := isAlphabetic c || c == '_'

def continuesWord (c : Char) : Bool := isAlphabetic c || isNumeric c || c == '_' || c == '$'

def delimitedStep (token : String → Token) (close : Char) (text : List Char) : ScanStep :=
  let found := delimited close text
  ⟨some (token (String.ofList found.1)), found.2⟩

def numberStep (sign : List Char) (text : List Char) : ScanStep :=
  let found := numberTail text
  ⟨some (.number (String.ofList (sign ++ found.1))), found.2⟩

def signToken? (c : Char) : Option Token :=
  if c = '(' then some .leftParen
  else if c = ')' then some .rightParen
  else if c = ',' then some .comma
  else if c = ';' then some .semicolon
  else if c = '.' then some .dot
  else none

def beginsWith (p : Char → Bool) (text : List Char) : Bool := text.head?.any p

def itemStep (c : Char) (rest : List Char) : ScanStep :=
  if c = '#' || (c = '-' && beginsWith (· == '-') rest) then ⟨none, rest.dropWhile isInLine⟩
  else if c = '/' && beginsWith (· == '*') rest then ⟨none, afterBlockComment rest.tail⟩
  else if c = '-' && beginsWith Char.isDigit rest then numberStep ['-'] rest
  else if c.isDigit then numberStep [] (c :: rest)
  else if c = '"' || c = '\x60' then delimitedStep .identifier c rest
  else if c = '[' then delimitedStep .identifier ']' rest
  else if c = '\x27' then delimitedStep .text c rest
  else if beginsWord c then
    ⟨some (Token.ofWord (c :: rest.takeWhile continuesWord)), rest.dropWhile continuesWord⟩
  else ⟨none, rest⟩

def scanStep (c : Char) (rest : List Char) : ScanStep :=
  if isBlank c then ⟨none, rest⟩
  else match signToken? c with
    | some token => ⟨some token, rest⟩
    | none => itemStep c rest

theorem length_delimited_le (close : Char) (text : List Char) :
    (delimited close text).2.length ≤ text.length := by
  fun_induction delimited close text <;> simp_all [extend] <;> omega

theorem length_after?_le {part text rest : List Char} (found : after? part text = some rest) :
    rest.length ≤ text.length := by
  fun_induction after? part text <;> simp_all
  omega

theorem length_shortest_le {α : Type} {accepts : Char → Bool} {next : List Char → Option α}
    {size : α → Nat} (bounded : ∀ text value, next text = some value → size value ≤ text.length)
    {text : List Char} {found : List Char × α} (split : shortest accepts next text = some found) :
    size found.2 ≤ text.length := by
  induction text generalizing found with
  | nil =>
    simp only [shortest, Option.map_eq_some_iff] at split
    obtain ⟨value, read, rfl⟩ := split
    exact bounded _ _ read
  | cons c rest ih =>
    simp only [shortest] at split
    cases here : next (c :: rest) with
    | some value =>
      simp only [here, Option.some.injEq] at split
      exact split ▸ bounded _ _ here
    | none =>
      simp only [here] at split
      split at split
      · obtain ⟨later, read, rfl⟩ := Option.map_eq_some_iff.mp split
        exact Nat.le_succ_of_le (ih read : size later.2 ≤ rest.length)
      · contradiction

theorem length_afterBlockComment_le (text : List Char) :
    (afterBlockComment text).length ≤ text.length := by
  unfold afterBlockComment
  split
  · exact Nat.zero_le _
  · next found =>
    exact length_shortest_le (fun _ _ read => length_after?_le read) found

theorem length_dropWhile_le {α : Type} (p : α → Bool) (l : List α) :
    (l.dropWhile p).length ≤ l.length := (List.dropWhile_sublist p).length_le

theorem length_numberTail_le (text : List Char) : (numberTail text).2.length ≤ text.length := by
  have dropped := length_dropWhile_le Char.isDigit text
  unfold numberTail
  split
  · next rest point =>
    have fraction := length_dropWhile_le Char.isDigit rest
    rw [point] at dropped
    simp only [List.length_cons] at dropped ⊢
    omega
  · exact dropped

theorem length_numberTail_lt {c : Char} {rest : List Char} (digit : c.isDigit = true) :
    (numberTail (c :: rest)).2.length ≤ rest.length := by
  have dropped := length_dropWhile_le Char.isDigit rest
  unfold numberTail
  rw [List.dropWhile_cons_of_pos digit]
  split
  · next later point =>
    have fraction := length_dropWhile_le Char.isDigit later
    rw [point] at dropped
    simp only [List.length_cons] at dropped ⊢
    omega
  · exact dropped

theorem length_itemStep_le (c : Char) (rest : List Char) :
    (itemStep c rest).rest.length ≤ rest.length := by
  unfold itemStep
  split
  · exact length_dropWhile_le _ _
  split
  · exact Nat.le_trans (length_afterBlockComment_le _) (by simp)
  split
  · exact length_numberTail_le _
  split
  · next digit => exact length_numberTail_lt digit
  split
  · exact length_delimited_le _ _
  split
  · exact length_delimited_le _ _
  split
  · exact length_delimited_le _ _
  split
  · exact length_dropWhile_le _ _
  · exact Nat.le_refl _

theorem length_scanStep_le (c : Char) (rest : List Char) :
    (scanStep c rest).rest.length ≤ rest.length := by
  unfold scanStep
  split
  · exact Nat.le_refl _
  split
  · exact Nat.le_refl _
  · exact length_itemStep_le c rest

def scanText : List Char → List Token
  | [] => []
  | c :: rest => (scanStep c rest).token.toList ++ scanText (scanStep c rest).rest
termination_by text => text.length
decreasing_by
  simp only [List.length_cons]
  exact Nat.lt_succ_of_le (length_scanStep_le c rest)

def scan (script : String) : List Token := scanText script.toList

end ErDiagram.Script
