import ErDiagram.Proofs.Script.Scanning

/-!
# Every spelling of a script

A list of tokens can be spelled in many ways. Keywords have any case, a name stands bare or between any
of three pairs of quotes, and blanks and comments of three kinds stand between the tokens. Whatever is
chosen, scanning gives back the tokens. What stands between two tokens begins with a blank or with the
first character of a comment, and neither continues a token.
-/

namespace ErDiagram.Script

set_option autoImplicit false

open Text

inductive Token.Spelling : Token → List Char → Prop
  | keyword {word : Keyword} {letters : List Char}
    (same : letters.map Char.toUpper = word.spelling.toList) : Spelling (.keyword word) letters
  | bareName {letters : List Char} (bare : IsBareName letters) :
    Spelling (.identifier (String.ofList letters)) letters
  | quotedName (quotes : Quotes) (name : String) :
    Spelling (.identifier name)
      (quotes.opening :: (doubled quotes.closing name.toList ++ [quotes.closing]))
  | text (content : String) :
    Spelling (.text content) ('\x27' :: (doubled '\x27' content.toList ++ ['\x27']))
  | number (negative : Bool) {whole : List Char} {fraction : Option (List Char)} (nonempty : whole ≠ [])
    (wholeDigits : whole.all Char.isDigit = true)
    (fractionDigits : (fraction.getD []).all Char.isDigit = true) :
    Spelling (.number (String.ofList (numeral negative whole fraction)))
      (numeral negative whole fraction)
  | leftParen : Spelling .leftParen ['(']
  | rightParen : Spelling .rightParen [')']
  | comma : Spelling .comma [',']
  | semicolon : Spelling .semicolon [';']
  | dot : Spelling .dot ['.']

/-- A blank or a comment. The line feed that ends a line comment belongs to it. -/
inductive Filler : List Char → Prop
  | blank {c : Char} (isGap : isBlank c = true) : Filler [c]
  | lineComment {comment : List Char} (hash : Bool) (inLine : '\n' ∉ comment) :
    Filler ((if hash then ['#'] else ['-', '-']) ++ (comment ++ ['\n']))
  | blockComment {comment : List Char} (inside : ¬ "*/".toList <:+: comment) :
    Filler ('/' :: '*' :: (comment ++ ['*', '/']))

/-- Blanks and comments in any number and order. -/
inductive Filling : List Char → Prop
  | nothing : Filling []
  | cons {filler rest : List Char} (first : Filler filler) (later : Filling rest) :
    Filling (filler ++ rest)

/-- The spellings of a list of tokens, with something to keep them apart after each token. -/
inductive Spelling : List Token → List Char → Prop
  | nothing : Spelling [] []
  | cons {token : Token} {tokens : List Token} {word filling rest : List Char}
    (first : token.Spelling word) (between : Filling filling) (apart : filling ≠ [])
    (later : Spelling tokens rest) : Spelling (token :: tokens) (word ++ (filling ++ rest))

theorem other_number_apart_blank : apart blankRanges otherNumberRanges = true := by decide +kernel

theorem blank_not_numeric {c : Char} (blank : isBlank c = true) : isNumeric c = false := by
  have notDecimal : isDecimalDigit c = false :=
    covers_eq_false_of_apart decimal_digit_apart_blank blank
  have notOther : covers otherNumberRanges c.toNat = false :=
    covers_eq_false_of_apart other_number_apart_blank blank
  rw [isNumeric, notDecimal, notOther, Bool.or_false]

theorem blank_ne {c d : Char} (blank : isBlank c = true) (other : isBlank d = false) : c ≠ d := by
  rintro rfl
  exact Bool.false_ne_true (other.symm.trans blank)

theorem blank_continues_no_word {c : Char} (blank : isBlank c = true) : continuesWord c = false := by
  have notLetter : isAlphabetic c = false := covers_eq_false_of_apart alphabetic_apart_blank blank
  have notUnderscore := blank_ne blank (d := '_') (by decide)
  have notDollar := blank_ne blank (d := '$') (by decide)
  simp [continuesWord, notLetter, blank_not_numeric blank, notUnderscore, notDollar]

theorem blank_not_digit {c : Char} (blank : isBlank c = true) : c.isDigit = false := by
  rw [Bool.eq_false_iff]
  intro digit
  exact Bool.false_ne_true ((digit_not_blank digit).symm.trans blank)

/-- Whether no token goes on with the character. -/
structure EndsToken (c : Char) : Prop where
  word : continuesWord c = false
  digit : c.isDigit = false
  other : c ∉ ['.', '"', '\x60', ']', '\x27']

theorem ends_token_of_blank {c : Char} (blank : isBlank c = true) : EndsToken c where
  word := blank_continues_no_word blank
  digit := blank_not_digit blank
  other := by
    intro member
    simp only [List.mem_cons, List.not_mem_nil, or_false] at member
    rcases member with rfl | rfl | rfl | rfl | rfl <;> exact absurd blank (by decide)

theorem ends_token_of_comment {c : Char} (mark : c ∈ ['#', '-', '/']) : EndsToken c := by
  simp only [List.mem_cons, List.not_mem_nil, or_false] at mark
  rcases mark with rfl | rfl | rfl <;> exact ⟨by decide, by decide, by decide⟩

theorem filler_begins {filler : List Char} (isFiller : Filler filler) :
    ∃ c rest, filler = c :: rest ∧ EndsToken c := by
  cases isFiller with
  | blank isGap => exact ⟨_, _, rfl, ends_token_of_blank isGap⟩
  | lineComment hash _ =>
      cases hash with
      | true => exact ⟨_, _, rfl, ends_token_of_comment (by decide)⟩
      | false => exact ⟨_, _, rfl, ends_token_of_comment (by decide)⟩
  | blockComment _ => exact ⟨_, _, rfl, ends_token_of_comment (by decide)⟩

theorem filling_begins {filling : List Char} (isFilling : Filling filling) (nonempty : filling ≠ []) :
    ∃ c rest, filling = c :: rest ∧ EndsToken c := by
  cases isFilling with
  | nothing => contradiction
  | cons first later =>
      obtain ⟨c, rest, rfl, ends⟩ := filler_begins first
      exact ⟨c, _, List.cons_append, ends⟩

theorem scan_filler {filler : List Char} (isFiller : Filler filler) (after : List Char) :
    scanText (filler ++ after) = scanText after := by
  cases isFiller with
  | @blank c isGap =>
      have fits : (Lexeme.blank c).Fits after := isGap
      exact scan_lexeme fits
  | @lineComment comment hash inLine =>
      have feed : scanText ('\n' :: after) = scanText after := scan_step rfl
      have split : (if hash then ['#'] else ['-', '-']) ++ (comment ++ ['\n']) ++ after =
          (Lexeme.lineComment hash comment).written ++ '\n' :: after := by
        simp [Lexeme.written]
      rw [split, scan_line_comment inLine rfl, feed]
  | @blockComment comment inside =>
      have split : '/' :: '*' :: (comment ++ ['*', '/']) ++ after =
          (Lexeme.blockComment comment).written ++ after := by
        simp [Lexeme.written]
      rw [split, scan_block_comment inside]

theorem scan_filling {filling : List Char} (isFilling : Filling filling) (after : List Char) :
    scanText (filling ++ after) = scanText after := by
  induction isFilling with
  | nothing => rfl
  | cons first _ ih => rw [List.append_assoc, scan_filler first, ih]

theorem scan_token {token : Token} {word : List Char} (spelling : token.Spelling word) {c : Char}
    (ends : EndsToken c) (rest : List Char) :
    scanText (word ++ c :: rest) = token :: scanText (c :: rest) := by
  have differs : ∀ d ∈ ['.', '"', '\x60', ']', '\x27'], (c :: rest).head? ≠ some d := by
    rintro d member ⟨⟩
    exact ends.other member
  cases spelling with
  | keyword same => exact scan_keyword same ends.word
  | bareName bare => exact scan_bare_name bare ends.word
  | quotedName quotes name =>
      have stops : (c :: rest).head? ≠ some quotes.closing := differs _ (by cases quotes <;> decide)
      exact scan_quoted_name name stops
  | text content => exact scan_quoted_text content (differs _ (by decide))
  | number negative nonempty wholeDigits fractionDigits =>
      exact scan_number nonempty wholeDigits fractionDigits ends.digit
        fun _ => differs '.' (by decide)
  | leftParen => exact scan_step rfl
  | rightParen => exact scan_step rfl
  | comma => exact scan_step rfl
  | semicolon => exact scan_step rfl
  | dot => exact scan_step rfl

theorem scan_spelling {tokens : List Token} {text : List Char} (spelling : Spelling tokens text) :
    scanText text = tokens := by
  induction spelling with
  | nothing => rw [scanText]
  | cons first between nonempty _ ih =>
      obtain ⟨c, rest, rfl, ends⟩ := filling_begins between nonempty
      rw [List.cons_append, scan_token first ends, ← List.cons_append, scan_filling between, ih]

/-- A script is scanned as the tokens that it spells, whichever spelling is chosen for each of them and
whatever blanks and comments stand before and between them. -/
theorem scan_every_spelling {tokens : List Token} {opening text : List Char}
    (before : Filling opening) (spelling : Spelling tokens text) :
    scan (String.ofList (opening ++ text)) = tokens := by
  rw [scan, String.toList_ofList, scan_filling before, scan_spelling spelling]

theorem scan_every_spelling_of_crowded :
    let opening := "--'\n/***/".toList
    let text := "cReaTe/*]*/[a]]--b]\u00a0'it''s /*'\t\x60create\x60 -12.# 0\n.\r".toList
    let tokens : List Token := [.keyword .create, .identifier "a]--b", .text "it's /*",
      .identifier "create", .number "-12.", .dot]
    Filling opening ∧ Spelling tokens text ∧ scan (String.ofList (opening ++ text)) = tokens := by
  intro opening text tokens
  have gap {c : Char} (isGap : isBlank c = true) : Filling [c] := .cons (.blank isGap) .nothing
  have quote : Filler "--'\n".toList := Filler.lineComment false (by decide : '\n' ∉ ['\x27'])
  have zero : Filler "# 0\n".toList := Filler.lineComment true (by decide : '\n' ∉ [' ', '0'])
  have star : Filler "/***/".toList := Filler.blockComment (by decide : ¬ "*/".toList <:+: ['*'])
  have square : Filler "/*]*/".toList := Filler.blockComment (by decide : ¬ "*/".toList <:+: [']'])
  have keyword : Token.Spelling (.keyword .create) "cReaTe".toList := .keyword rfl
  have number : Token.Spelling (.number "-12.") "-12.".toList :=
    Token.Spelling.number true (by decide : ['1', '2'] ≠ []) rfl (rfl : ((some []).getD []).all Char.isDigit = true)
  have before : Filling opening := .cons quote (.cons star .nothing)
  have numbered : Spelling [.number "-12.", .dot] "-12.# 0\n.\r".toList :=
    .cons number (.cons zero .nothing) (by decide)
      (.cons .dot (gap (c := '\r') rfl) (by decide) .nothing)
  have spelling : Spelling tokens text :=
    .cons keyword (.cons square .nothing) (by decide)
      (.cons (.quotedName .square "a]--b") (gap (c := '\u00a0') rfl) (by decide)
        (.cons (.text "it's /*") (gap (c := '\t') rfl) (by decide)
          (.cons (.quotedName .grave "create") (gap (c := ' ') rfl) (by decide) numbered)))
  exact ⟨before, spelling, scan_every_spelling before spelling⟩

end ErDiagram.Script
