import ErDiagram.Proofs.Text.Search
import ErDiagram.Script.Scan

/-!
# How scripts are spelled

A script is a row of lexemes: tokens in one of their spellings, and blanks, comments and signs of no
worth between them. A keyword may be written in any case, and a name may stand alone or between any
of three pairs of quotes. Which lexeme may stand where depends only on the first character after it,
since that character could continue a word or a number or double a closing quote.
-/

namespace ErDiagram.Script

set_option autoImplicit false

open Text

inductive Quotes where
  | double
  | grave
  | square
deriving DecidableEq

namespace Quotes

def opening : Quotes → Char
  | double => '"'
  | grave => '\x60'
  | square => '['

def closing : Quotes → Char
  | double => '"'
  | grave => '\x60'
  | square => ']'

end Quotes

inductive Lexeme where
  | blank (c : Char)
  | lineComment (hash : Bool) (comment : List Char)
  | blockComment (comment : List Char)
  | other (c : Char)
  | keyword (word : Keyword) (letters : List Char)
  | bareName (letters : List Char)
  | quotedName (quotes : Quotes) (name : String)
  | text (content : String)
  | number (negative : Bool) (whole : List Char) (fraction : Option (List Char))
  | leftParen
  | rightParen
  | comma
  | semicolon
  | dot

def doubled (close : Char) (text : List Char) : List Char :=
  text.flatMap fun c => if c = close then [c, c] else [c]

def numeral (negative : Bool) (whole : List Char) (fraction : Option (List Char)) : List Char :=
  (if negative then ['-'] else []) ++ whole ++
    match fraction with
    | none => []
    | some digits => '.' :: digits

/-- Whether the character is of no worth: neither a blank nor the start of a token or comment, unless
the next character makes it one. -/
def IsOther (c : Char) : Prop :=
  isBlank c = false ∧ signToken? c = none ∧ c ≠ '#' ∧ c.isDigit = false ∧
    c ∉ ['"', '\x60', '[', '\x27'] ∧ beginsWord c = false

/-- Whether the letters are a name that needs no quotes. -/
def IsBareName (letters : List Char) : Prop :=
  beginsWith beginsWord letters = true ∧ letters.tail.all continuesWord = true ∧
    ∀ word ∈ Keyword.all, letters.map Char.toUpper ≠ word.spelling.toList

namespace Lexeme

def written : Lexeme → List Char
  | blank c => [c]
  | lineComment hash comment => (if hash then ['#'] else ['-', '-']) ++ comment
  | blockComment comment => '/' :: '*' :: comment ++ ['*', '/']
  | other c => [c]
  | keyword _ letters => letters
  | bareName letters => letters
  | quotedName quotes name =>
    quotes.opening :: doubled quotes.closing name.toList ++ [quotes.closing]
  | text content => '\x27' :: doubled '\x27' content.toList ++ ['\x27']
  | number negative whole fraction => numeral negative whole fraction
  | leftParen => ['(']
  | rightParen => [')']
  | comma => [',']
  | semicolon => [';']
  | dot => ['.']

def token? : Lexeme → Option Token
  | keyword word _ => some (.keyword word)
  | bareName letters => some (.identifier (String.ofList letters))
  | quotedName _ name => some (.identifier name)
  | text content => some (.text content)
  | number negative whole fraction => some (.number (String.ofList (numeral negative whole fraction)))
  | leftParen => some .leftParen
  | rightParen => some .rightParen
  | comma => some .comma
  | semicolon => some .semicolon
  | dot => some .dot
  | _ => none

/-- Whether the lexeme is well written and the text after it does not continue it. -/
def Fits (after : List Char) : Lexeme → Prop
  | blank c => isBlank c = true
  | lineComment _ comment => '\n' ∉ comment ∧ beginsWith isInLine after = false
  | blockComment comment => ¬ "*/".toList <:+: comment
  | other c => IsOther c ∧ (c = '-' → beginsWith (fun d => d == '-' || d.isDigit) after = false) ∧
      (c = '/' → beginsWith (· == '*') after = false)
  | keyword word letters => letters.map Char.toUpper = word.spelling.toList ∧
      beginsWith continuesWord after = false
  | bareName letters => IsBareName letters ∧ beginsWith continuesWord after = false
  | quotedName quotes _ => after.head? ≠ some quotes.closing
  | text _ => after.head? ≠ some '\x27'
  | number _ whole fraction => whole ≠ [] ∧ whole.all Char.isDigit = true ∧
      (fraction.getD []).all Char.isDigit = true ∧ beginsWith Char.isDigit after = false ∧
      (fraction = none → after.head? ≠ some '.')
  | _ => True

end Lexeme

def spelled (lexemes : List Lexeme) : List Char := lexemes.flatMap Lexeme.written

def tokensOf (lexemes : List Lexeme) : List Token := lexemes.filterMap Lexeme.token?

/-- Whether every lexeme fits the text that the lexemes after it spell. -/
def Fit : List Lexeme → Prop
  | [] => True
  | lexeme :: rest => lexeme.Fits (spelled rest) ∧ Fit rest

instance (c : Char) : Decidable (IsOther c) :=
  inferInstanceAs (Decidable (isBlank c = false ∧ signToken? c = none ∧ c ≠ '#' ∧
    c.isDigit = false ∧ c ∉ ['"', '\x60', '[', '\x27'] ∧ beginsWord c = false))

instance (letters : List Char) : Decidable (IsBareName letters) :=
  inferInstanceAs (Decidable (beginsWith beginsWord letters = true ∧
    letters.tail.all continuesWord = true ∧
    ∀ word ∈ Keyword.all, letters.map Char.toUpper ≠ word.spelling.toList))

instance (after : List Char) : (lexeme : Lexeme) → Decidable (lexeme.Fits after)
  | .blank c => inferInstanceAs (Decidable (isBlank c = true))
  | .lineComment _ comment =>
    inferInstanceAs (Decidable ('\n' ∉ comment ∧ beginsWith isInLine after = false))
  | .blockComment comment =>
    decidable_of_iff (¬ occursIn "*/" comment = true) (not_congr occurs_in_iff)
  | .other c => inferInstanceAs (Decidable (IsOther c ∧
      (c = '-' → beginsWith (fun d => d == '-' || d.isDigit) after = false) ∧
      (c = '/' → beginsWith (· == '*') after = false)))
  | .keyword word letters => inferInstanceAs (Decidable
      (letters.map Char.toUpper = word.spelling.toList ∧ beginsWith continuesWord after = false))
  | .bareName letters => inferInstanceAs (Decidable
      (IsBareName letters ∧ beginsWith continuesWord after = false))
  | .quotedName quotes _ => inferInstanceAs (Decidable (after.head? ≠ some quotes.closing))
  | .text _ => inferInstanceAs (Decidable (after.head? ≠ some '\x27'))
  | .number _ whole fraction => inferInstanceAs (Decidable (whole ≠ [] ∧
      whole.all Char.isDigit = true ∧ (fraction.getD []).all Char.isDigit = true ∧
      beginsWith Char.isDigit after = false ∧ (fraction = none → after.head? ≠ some '.')))
  | .leftParen => inferInstanceAs (Decidable True)
  | .rightParen => inferInstanceAs (Decidable True)
  | .comma => inferInstanceAs (Decidable True)
  | .semicolon => inferInstanceAs (Decidable True)
  | .dot => inferInstanceAs (Decidable True)

instance decidableFit : (lexemes : List Lexeme) → Decidable (Fit lexemes)
  | [] => inferInstanceAs (Decidable True)
  | lexeme :: rest =>
    have _ := decidableFit rest
    inferInstanceAs (Decidable (lexeme.Fits (spelled rest) ∧ Fit rest))

end ErDiagram.Script
