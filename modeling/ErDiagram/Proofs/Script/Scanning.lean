import ErDiagram.Proofs.Script.Lexeme
import ErDiagram.Proofs.Text.Word

/-!
# Scanning what was spelled

A script gives exactly the tokens that its lexemes spell. One lexeme is scanned at a time, and what it
is depends on its first character: a word begins with a character that nothing else begins with.
-/

namespace ErDiagram.Script

set_option autoImplicit false

open Text

/-- Whether no range of one list meets a range of the other. -/
def apart (first second : List CodeRange) : Bool :=
  first.all fun left => second.all fun right =>
    decide (left.last < right.first) || decide (right.last < left.first)

theorem covers_eq_false_of_apart {first second : List CodeRange} {code : Nat}
    (separate : apart first second = true) (covered : covers first code = true) :
    covers second code = false := by
  rw [Bool.eq_false_iff]
  intro both
  obtain ⟨left, inFirst, leftBelow, leftAbove⟩ := exists_range_of_covers covered
  obtain ⟨right, inSecond, rightBelow, rightAbove⟩ := exists_range_of_covers both
  have distinct := List.all_eq_true.mp (List.all_eq_true.mp separate left inFirst) right inSecond
  simp only [Bool.or_eq_true, decide_eq_true_eq] at distinct
  omega

theorem alphabetic_apart_blank : apart blankRanges alphabeticRanges = true := by decide +kernel

theorem decimal_digit_apart_blank : apart blankRanges decimalDigitRanges = true := by decide +kernel

theorem alphabetic_apart_digit : apart [⟨0x30, 0x39⟩] alphabeticRanges = true := by decide +kernel

theorem begins_word_of_alpha {c : Char} (letter : c.isAlpha = true) : beginsWord c = true := by
  have code := is_alpha_iff.mp letter
  obtain ⟨rest, ranges⟩ : ∃ rest, alphabeticRanges = ⟨0x41, 0x5A⟩ :: ⟨0x61, 0x7A⟩ :: rest := ⟨_, rfl⟩
  have alphabetic : isAlphabetic c = true := by
    rw [isAlphabetic, ranges, covers, covers]
    simp only [Bool.and_eq_true, Bool.or_eq_true, decide_eq_true_eq]
    omega
  rw [beginsWord, alphabetic, Bool.true_or]

theorem begins_word_ne {c d : Char} (begins : beginsWord c = true) (other : beginsWord d = false) :
    c ≠ d := by
  rintro rfl
  exact Bool.false_ne_true (other.symm.trans begins)

theorem begins_word_not_blank {c : Char} (begins : beginsWord c = true) : isBlank c = false := by
  rw [Bool.eq_false_iff]
  intro blank
  have notLetter : isAlphabetic c = false := covers_eq_false_of_apart alphabetic_apart_blank blank
  rw [beginsWord, notLetter, Bool.false_or, beq_iff_eq] at begins
  rw [begins] at blank
  exact absurd blank (by decide)

theorem begins_word_not_digit {c : Char} (begins : beginsWord c = true) : c.isDigit = false := by
  rw [Bool.eq_false_iff]
  intro digit
  have covered : covers [⟨0x30, 0x39⟩] c.toNat = true := by simp [covers, is_digit_iff.mp digit]
  have notLetter : isAlphabetic c = false := covers_eq_false_of_apart alphabetic_apart_digit covered
  rw [beginsWord, notLetter, Bool.false_or, beq_iff_eq] at begins
  rw [begins] at digit
  exact absurd digit (by decide)

theorem sign_token_eq_none {c : Char} (left : c ≠ '(') (right : c ≠ ')') (comma : c ≠ ',')
    (semicolon : c ≠ ';') (dot : c ≠ '.') : signToken? c = none := by
  simp [signToken?, left, right, comma, semicolon, dot]

theorem alpha_of_to_upper {c : Char} (upper : c.toUpper.isUpper = true) : c.isAlpha = true := by
  unfold Char.toUpper at upper
  split at upper
  · next lower => exact is_alpha_iff.mpr (.inr lower)
  · exact is_alpha_iff.mpr (.inl (is_upper_iff.mp upper))

theorem take_while_run {p : Char → Bool} {run after : List Char} (all : run.all p = true)
    (stops : beginsWith p after = false) : (run ++ after).takeWhile p = run := by
  have none : after.takeWhile p = [] := by
    cases after with
    | nil => rfl
    | cons c rest =>
        have other : p c = false := stops
        simp [other]
  rw [List.takeWhile_append_of_pos (List.all_eq_true.mp all), none, List.append_nil]

theorem drop_while_run {p : Char → Bool} {run after : List Char} (all : run.all p = true)
    (stops : beginsWith p after = false) : (run ++ after).dropWhile p = after := by
  rw [List.dropWhile_append_of_pos (List.all_eq_true.mp all)]
  cases after with
  | nil => rfl
  | cons c rest =>
      have other : p c = false := stops
      simp [other]

theorem delimited_doubled {close : Char} {after : List Char} (ends : after.head? ≠ some close)
    (content : List Char) :
    delimited close (doubled close content ++ close :: after) = (content, after) := by
  -- Only the last closing character can be single: inside the content each stands twice.
  induction content with
  | nil =>
      cases after with
      | nil => simp [doubled, delimited]
      | cons d rest =>
          have other : d ≠ close := fun same => ends (by rw [same]; rfl)
          simp [doubled, delimited, other]
  | cons c content ih =>
      by_cases same : c = close
      · have split : doubled close (c :: content) ++ close :: after =
            close :: close :: (doubled close content ++ close :: after) := by
          simp [doubled, same]
        rw [split, delimited, if_neg (by simp), if_pos rfl, ih, same]
        rfl
      · have split : doubled close (c :: content) ++ close :: after =
            c :: (doubled close content ++ close :: after) := by
          simp [doubled, same]
        obtain ⟨d, rest, next⟩ : ∃ d rest, doubled close content ++ close :: after = d :: rest :=
          List.exists_cons_of_ne_nil (by simp)
        rw [split, next, delimited, if_pos (by simpa using same), ← next, ih]
        rfl

theorem after_block_comment {comment : List Char} (inside : ¬ "*/".toList <:+: comment)
    (after : List Char) : afterBlockComment (comment ++ '*' :: '/' :: after) = after := by
  have chars : "*/".toList = ['*', '/'] := rfl
  have found : cut "*/" (comment ++ '*' :: '/' :: after) = some (comment, after) := by
    rw [cut, chars]
    apply shortest_append
    · intro c member
      rfl
    · intro front back split nonempty
      rw [← Option.not_isSome_iff_eq_none, is_some_after_iff]
      rintro ⟨more, same⟩
      obtain ⟨c, back, rfl⟩ := List.exists_cons_of_ne_nil nonempty
      have star : '*' = c := (List.cons.inj same).1
      have next := (List.cons.inj same).2
      cases back with
      | nil =>
          have second : '/' = '*' := (List.cons.inj next).1
          exact absurd second (by decide)
      | cons d back =>
          have slash : '/' = d := (List.cons.inj next).1
          apply inside
          rw [chars, split, ← star, ← slash]
          exact ⟨front, back, by simp⟩
    · exact after_append ['*', '/'] after
  rw [afterBlockComment, found]

theorem number_tail_numeral {whole after : List Char} {fraction : Option (List Char)}
    (wholeDigits : whole.all Char.isDigit = true)
    (fractionDigits : (fraction.getD []).all Char.isDigit = true)
    (stops : beginsWith Char.isDigit after = false)
    (noPoint : fraction = none → after.head? ≠ some '.') :
    numberTail (numeral false whole fraction ++ after) = (numeral false whole fraction, after) := by
  cases fraction with
  | none =>
      have text : numeral false whole none = whole := by simp [numeral]
      have taken := take_while_run wholeDigits stops
      have dropped := drop_while_run wholeDigits stops
      rw [text, numberTail, taken, dropped]
      cases after with
      | nil => rfl
      | cons c rest =>
          have other : c ≠ '.' := fun same => noPoint rfl (by rw [same]; rfl)
          split
          · next same => exact absurd (List.cons.inj same).1 other
          · rfl
  | some digits =>
      have text : numeral false whole (some digits) ++ after = whole ++ '.' :: (digits ++ after) := by
        simp [numeral]
      have point : beginsWith Char.isDigit ('.' :: (digits ++ after)) = false := rfl
      have taken := take_while_run wholeDigits point
      have dropped := drop_while_run wholeDigits point
      have takenFraction := take_while_run fractionDigits stops
      have droppedFraction := drop_while_run fractionDigits stops
      rw [Option.getD_some] at takenFraction droppedFraction
      rw [text, numberTail, taken, dropped]
      simp only [takenFraction, droppedFraction]
      simp [numeral]

theorem scan_step {c : Char} {rest after : List Char} {token : Option Token}
    (step : scanStep c rest = ⟨token, after⟩) :
    scanText (c :: rest) = token.toList ++ scanText after := by
  rw [scanText, step]

theorem scan_step_of_item {c : Char} {rest : List Char} (bare : isBlank c = false)
    (noSign : signToken? c = none) : scanStep c rest = itemStep c rest := by
  rw [scanStep, if_neg (by simp [bare]), noSign]

theorem scan_line_comment {hash : Bool} {comment after : List Char} (inLine : '\n' ∉ comment)
    (stops : beginsWith isInLine after = false) :
    scanText ((Lexeme.lineComment hash comment).written ++ after) = scanText after := by
  have all : comment.all isInLine = true := List.all_eq_true.mpr (in_line_of_no_feed inLine)
  have dropped := drop_while_run all stops
  cases hash with
  | true =>
      have step : scanStep '#' (comment ++ after) = ⟨none, after⟩ := by
        rw [scan_step_of_item rfl rfl, itemStep, if_pos (by rfl), dropped]
      exact scan_step step
  | false =>
      have step : scanStep '-' ('-' :: (comment ++ after)) = ⟨none, after⟩ := by
        have skipped : ('-' :: (comment ++ after)).dropWhile isInLine = after := by
          rw [List.dropWhile_cons_of_pos rfl, dropped]
        rw [scan_step_of_item rfl rfl, itemStep, if_pos (by rfl), skipped]
      exact scan_step step

theorem scan_block_comment {comment after : List Char} (inside : ¬ "*/".toList <:+: comment) :
    scanText ((Lexeme.blockComment comment).written ++ after) = scanText after := by
  have text : (Lexeme.blockComment comment).written ++ after =
      '/' :: '*' :: (comment ++ '*' :: '/' :: after) := by
    simp [Lexeme.written]
  have step : scanStep '/' ('*' :: (comment ++ '*' :: '/' :: after)) = ⟨none, after⟩ := by
    rw [scan_step_of_item rfl rfl, itemStep, if_neg (by simp), if_pos (by rfl), List.tail_cons,
      after_block_comment inside]
  rw [text]
  exact scan_step step

theorem begins_with_neither {p q : Char → Bool} {text : List Char}
    (neither : beginsWith (fun c => p c || q c) text = false) :
    beginsWith p text = false ∧ beginsWith q text = false := by
  cases text with
  | nil => exact ⟨rfl, rfl⟩
  | cons c rest => exact (Bool.or_eq_false_iff).mp neither

theorem scan_other {c : Char} {after : List Char} (other : IsOther c)
    (noMinus : c = '-' → beginsWith (fun d => d == '-' || d.isDigit) after = false)
    (noSlash : c = '/' → beginsWith (· == '*') after = false) :
    scanText (c :: after) = scanText after := by
  obtain ⟨bare, noSign, noHash, noDigit, noQuote, noWord⟩ := other
  simp only [List.mem_cons, List.not_mem_nil, or_false, not_or] at noQuote
  obtain ⟨noDouble, noGrave, noSquare, noSingle⟩ := noQuote
  have notComment : (c = '#' || (c = '-' && beginsWith (· == '-') after)) = false := by
    by_cases minus : c = '-'
    · simp [noHash, (begins_with_neither (noMinus minus)).1]
    · simp [noHash, minus]
  have notBlock : (c = '/' && beginsWith (· == '*') after) = false := by
    by_cases slash : c = '/'
    · simp [noSlash slash]
    · simp [slash]
  have notNumber : (c = '-' && beginsWith Char.isDigit after) = false := by
    by_cases minus : c = '-'
    · simp [(begins_with_neither (noMinus minus)).2]
    · simp [minus]
  have step : scanStep c after = ⟨none, after⟩ := by
    rw [scan_step_of_item bare noSign, itemStep]
    simp [notComment, notBlock, notNumber, noDigit, noDouble, noGrave, noSquare, noSingle, noWord]
  exact scan_step step

theorem scan_word {letters after : List Char} (begins : beginsWith beginsWord letters = true)
    (all : letters.tail.all continuesWord = true) (stops : beginsWith continuesWord after = false) :
    scanText (letters ++ after) = Token.ofWord letters :: scanText after := by
  cases letters with
  | nil => contradiction
  | cons c more =>
      have first : beginsWord c = true := begins
      have differs : ∀ d, beginsWord d = false → c ≠ d := fun d => begins_word_ne first
      have noSign := sign_token_eq_none (differs '(' rfl) (differs ')' rfl) (differs ',' rfl)
        (differs ';' rfl) (differs '.' rfl)
      have taken := take_while_run all stops
      have dropped := drop_while_run all stops
      rw [List.tail_cons] at taken dropped
      have step : scanStep c (more ++ after) = ⟨some (Token.ofWord (c :: more)), after⟩ := by
        rw [scan_step_of_item (begins_word_not_blank first) noSign, itemStep]
        simp [differs '#' rfl, differs '-' rfl, differs '/' rfl, begins_word_not_digit first,
          differs '"' rfl, differs '\x60' rfl, differs '[' rfl, differs '\x27' rfl, first, taken,
          dropped]
      exact scan_step step

theorem spelling_upper (word : Keyword) : word.spelling.toList.all Char.isUpper = true := by
  cases word <;> decide

theorem spelling_nonempty (word : Keyword) : word.spelling.toList ≠ [] := by
  cases word <;> decide

theorem of_word_keyword {word : Keyword} {letters : List Char}
    (spells : letters.map Char.toUpper = word.spelling.toList) :
    Token.ofWord letters = .keyword word := by
  rw [Token.ofWord, Keyword.ofWord?, spells]
  cases word <;> rfl

theorem continues_of_begins {c : Char} (begins : beginsWord c = true) : continuesWord c = true := by
  rw [beginsWord, Bool.or_eq_true] at begins
  rcases begins with letter | underscore
  · simp [continuesWord, letter]
  · simp [continuesWord, underscore]

theorem scan_keyword {word : Keyword} {letters after : List Char}
    (spells : letters.map Char.toUpper = word.spelling.toList)
    (stops : beginsWith continuesWord after = false) :
    scanText (letters ++ after) = .keyword word :: scanText after := by
  have begin : ∀ c ∈ letters, beginsWord c = true := by
    intro c member
    have upper := List.mem_map_of_mem (f := Char.toUpper) member
    rw [spells] at upper
    exact begins_word_of_alpha (alpha_of_to_upper (List.all_eq_true.mp (spelling_upper word) _ upper))
  -- The letters differ from the spelling in case only, so each of them is an ASCII letter.
  rw [← of_word_keyword spells]
  apply scan_word _ _ stops
  · cases letters with
    | nil => exact absurd spells.symm (spelling_nonempty word)
    | cons c more => exact begin c List.mem_cons_self
  · apply List.all_eq_true.mpr
    intro c member
    exact continues_of_begins (begin c (List.mem_of_mem_tail member))

theorem scan_bare_name {letters after : List Char} (bare : IsBareName letters)
    (stops : beginsWith continuesWord after = false) :
    scanText (letters ++ after) = .identifier (String.ofList letters) :: scanText after := by
  obtain ⟨begins, all, noKeyword⟩ := bare
  have unknown : Keyword.ofWord? letters = none := by
    apply List.find?_eq_none.mpr
    intro word member
    simpa using (noKeyword word member).symm
  have name : Token.ofWord letters = .identifier (String.ofList letters) := by
    rw [Token.ofWord, unknown]
  rw [← name]
  exact scan_word begins all stops

theorem scan_quoted_name {quotes : Quotes} {after : List Char} (name : String)
    (stops : after.head? ≠ some quotes.closing) :
    scanText ((Lexeme.quotedName quotes name).written ++ after) =
      .identifier name :: scanText after := by
  have found := delimited_doubled stops name.toList
  have step : scanStep quotes.opening
      (doubled quotes.closing name.toList ++ quotes.closing :: after) =
        ⟨some (.identifier name), after⟩ := by
    cases quotes <;>
      simp only [Quotes.opening, Quotes.closing] at found ⊢ <;>
      rw [scan_step_of_item (by decide) (by decide), itemStep] <;>
      simp [delimitedStep, found]
  have text : (Lexeme.quotedName quotes name).written ++ after = quotes.opening ::
      (doubled quotes.closing name.toList ++ quotes.closing :: after) := by
    simp [Lexeme.written]
  rw [text]
  exact scan_step step

theorem scan_quoted_text {after : List Char} (content : String)
    (stops : after.head? ≠ some '\x27') :
    scanText ((Lexeme.text content).written ++ after) = .text content :: scanText after := by
  have found := delimited_doubled stops content.toList
  have step : scanStep '\x27' (doubled '\x27' content.toList ++ '\x27' :: after) =
      ⟨some (.text content), after⟩ := by
    rw [scan_step_of_item (by decide) (by decide), itemStep]
    simp [delimitedStep, found]
  have text : (Lexeme.text content).written ++ after =
      '\x27' :: (doubled '\x27' content.toList ++ '\x27' :: after) := by
    simp [Lexeme.written]
  rw [text]
  exact scan_step step

theorem digit_ne {c d : Char} (digit : c.isDigit = true) (other : d.isDigit = false) : c ≠ d := by
  rintro rfl
  exact Bool.false_ne_true (other.symm.trans digit)

theorem digit_not_blank {c : Char} (digit : c.isDigit = true) : isBlank c = false := by
  apply ascii_word_char_not_blank
  simp [isAsciiWordChar, Char.isAlphanum, digit]

theorem scan_number {negative : Bool} {whole after : List Char} {fraction : Option (List Char)}
    (nonempty : whole ≠ []) (wholeDigits : whole.all Char.isDigit = true)
    (fractionDigits : (fraction.getD []).all Char.isDigit = true)
    (stops : beginsWith Char.isDigit after = false)
    (noPoint : fraction = none → after.head? ≠ some '.') :
    scanText (numeral negative whole fraction ++ after) =
      .number (String.ofList (numeral negative whole fraction)) :: scanText after := by
  have tail := number_tail_numeral wholeDigits fractionDigits stops noPoint
  obtain ⟨c, more, rfl⟩ := List.exists_cons_of_ne_nil nonempty
  have digit : c.isDigit = true := List.all_eq_true.mp wholeDigits c List.mem_cons_self
  have differs : ∀ d, d.isDigit = false → c ≠ d := fun d => digit_ne digit
  obtain ⟨rest, text⟩ : ∃ rest, numeral false (c :: more) fraction ++ after = c :: rest :=
    ⟨_, rfl⟩
  cases negative with
  | true =>
      have signed : numeral true (c :: more) fraction = '-' :: numeral false (c :: more) fraction := by
        simp [numeral]
      have step : scanStep '-' (numeral false (c :: more) fraction ++ after) =
          ⟨some (.number (String.ofList (numeral true (c :: more) fraction))), after⟩ := by
        have begins : beginsWith Char.isDigit (numeral false (c :: more) fraction ++ after) = true := by
          rw [text]
          exact digit
        have noComment : beginsWith (· == '-') (numeral false (c :: more) fraction ++ after) =
            false := by
          rw [text]
          simpa [beginsWith] using differs '-' rfl
        rw [scan_step_of_item rfl rfl, itemStep]
        simp [begins, noComment, numberStep, tail, signed]
      rw [signed]
      exact scan_step (signed ▸ step)
  | false =>
      have noSign := sign_token_eq_none (differs '(' rfl) (differs ')' rfl) (differs ',' rfl)
        (differs ';' rfl) (differs '.' rfl)
      have step : scanStep c rest =
          ⟨some (.number (String.ofList (numeral false (c :: more) fraction))), after⟩ := by
        rw [text] at tail
        rw [scan_step_of_item (digit_not_blank digit) noSign, itemStep]
        simp [differs '#' rfl, differs '-' rfl, differs '/' rfl, digit, numberStep, tail]
      rw [text]
      exact scan_step step

theorem scan_lexeme {lexeme : Lexeme} {after : List Char} (fits : lexeme.Fits after) :
    scanText (lexeme.written ++ after) = lexeme.token?.toList ++ scanText after := by
  cases lexeme with
  | blank c =>
      have isGap : isBlank c = true := fits
      have step : scanStep c after = ⟨none, after⟩ := by rw [scanStep, if_pos isGap]
      exact scan_step step
  | lineComment hash comment => exact scan_line_comment fits.1 fits.2
  | blockComment comment => exact scan_block_comment fits
  | other c => exact scan_other fits.1 fits.2.1 fits.2.2
  | keyword word letters => exact scan_keyword fits.1 fits.2
  | bareName letters => exact scan_bare_name fits.1 fits.2
  | quotedName quotes name => exact scan_quoted_name name fits
  | text content => exact scan_quoted_text content fits
  | number negative whole fraction =>
      obtain ⟨nonempty, wholeDigits, fractionDigits, stops, noPoint⟩ := fits
      exact scan_number nonempty wholeDigits fractionDigits stops noPoint
  | leftParen => exact scan_step rfl
  | rightParen => exact scan_step rfl
  | comma => exact scan_step rfl
  | semicolon => exact scan_step rfl
  | dot => exact scan_step rfl

theorem scan_spelled {lexemes : List Lexeme} (fit : Fit lexemes) :
    scanText (spelled lexemes) = tokensOf lexemes := by
  induction lexemes with
  | nil => rw [spelled, List.flatMap_nil, scanText, tokensOf, List.filterMap_nil]
  | cons lexeme rest ih =>
      obtain ⟨fits, later⟩ := fit
      have whole : spelled (lexeme :: rest) = lexeme.written ++ spelled rest := rfl
      rw [whole, scan_lexeme fits, ih later, tokensOf, tokensOf, List.filterMap_cons]
      cases lexeme.token? <;> rfl

end ErDiagram.Script
