import ErDiagram.Proofs.Text.Line
import ErDiagram.Proofs.Text.Search
import ErDiagram.Text.Word
import ErDiagram.Text.Numeric

/-!
# ASCII words and numbers

Names and types are most often ASCII words: letters, digits and underscores, at least one of them.
Such a word has no blank and none of the signs that structure a line, so it stays whole in every
reading. A number that is written in decimal is such a word, and is read as itself as long as it lies
below the reader's bound.
-/

namespace ErDiagram.Text

set_option autoImplicit false

structure AsciiWord (text : String) : Prop where
  nonempty : text.toList ≠ []
  all : ∀ c ∈ text.toList, isAsciiWordChar c = true

instance (text : String) : Decidable (AsciiWord text) :=
  decidable_of_iff (text.toList ≠ [] ∧ text.toList.all isAsciiWordChar = true)
    ⟨fun ⟨nonempty, all⟩ => ⟨nonempty, List.all_eq_true.mp all⟩,
      fun word => ⟨word.nonempty, List.all_eq_true.mpr word.all⟩⟩

theorem is_upper_iff {c : Char} : c.isUpper = true ↔ 0x41 ≤ c.toNat ∧ c.toNat ≤ 0x5A :=
  ⟨of_decide_eq_true, decide_eq_true⟩

theorem is_lower_iff {c : Char} : c.isLower = true ↔ 0x61 ≤ c.toNat ∧ c.toNat ≤ 0x7A :=
  Bool.and_eq_true_iff.trans (and_congr decide_eq_true_iff decide_eq_true_iff)

theorem is_alpha_iff {c : Char} : c.isAlpha = true ↔
    (0x41 ≤ c.toNat ∧ c.toNat ≤ 0x5A) ∨ (0x61 ≤ c.toNat ∧ c.toNat ≤ 0x7A) :=
  Bool.or_eq_true_iff.trans (or_congr is_upper_iff is_lower_iff)

theorem is_digit_iff {c : Char} : c.isDigit = true ↔ 0x30 ≤ c.toNat ∧ c.toNat ≤ 0x39 :=
  Bool.and_eq_true_iff.trans (and_congr decide_eq_true_iff decide_eq_true_iff)

theorem ascii_word_char_not_blank {c : Char} (word : isAsciiWordChar c = true) :
    isBlank c = false := by
  have code : 48 ≤ c.toNat ∧ c.toNat ≤ 122 := by
    rw [isAsciiWordChar, Char.isAlphanum, Bool.or_eq_true, Bool.or_eq_true, is_alpha_iff, is_digit_iff,
      beq_iff_eq] at word
    rcases word with (letter | digit) | underscore
    · omega
    · omega
    · rw [underscore]
      decide
  have below : ¬ 133 ≤ c.toNat := by omega
  have above : ¬ c.toNat ≤ 32 := by omega
  have control : ¬ c.toNat ≤ 13 := by omega
  simp [isBlank, blankRanges, covers, below, above, control]

theorem ne_of_ascii_word_char {c d : Char} (word : isAsciiWordChar c = true)
    (other : isAsciiWordChar d = false) : c ≠ d := by
  rintro rfl
  exact Bool.false_ne_true (other.symm.trans word)

namespace AsciiWord

variable {text : String}

theorem solid (word : AsciiWord text) : Solid text.toList :=
  fun c member => ascii_word_char_not_blank (word.all c member)

theorem trimmed (word : AsciiWord text) : Trimmed text.toList := trimmed_of_solid word.solid

theorem lacks (word : AsciiWord text) {c : Char} (other : isAsciiWordChar c = false) :
    c ∉ text.toList :=
  fun member => ne_of_ascii_word_char (word.all c member) other rfl

theorem not_infix (word : AsciiWord text) {part : List Char} {c : Char} (member : c ∈ part)
    (other : isAsciiWordChar c = false) : ¬ part <:+: text.toList :=
  fun inside => word.lacks other (inside.subset member)

theorem ne_empty (word : AsciiWord text) : text ≠ "" := by
  rintro rfl
  exact word.nonempty rfl

theorem head (word : AsciiWord text) : text.toList.head?.any isAsciiWordChar = true := by
  cases same : text.toList with
  | nil => exact absurd same word.nonempty
  | cons c rest => exact word.all c (by simp [same])

/-- A word and the sign after it can be told from what follows them. -/
theorem append_inj {first second sign rest other : String} (word : AsciiWord first)
    (wordToo : AsciiWord second) (stops : sign.toList.head?.any (!isAsciiWordChar ·) = true)
    (same : first ++ (sign ++ rest) = second ++ (sign ++ other)) : first = second ∧ rest = other := by
  obtain ⟨c, begins, noWord⟩ := (Option.any_eq_true _ _).mp stops
  have stop (text : String) : ∀ d ∈ (sign ++ text).toList.head?, isAsciiWordChar d = false := by
    intro d isHead
    rw [String.toList_append, List.head?_append, begins] at isHead
    cases isHead
    simpa using noWord
  have lists : first.toList ++ (sign ++ rest).toList = second.toList ++ (sign ++ other).toList := by
    rw [← String.toList_append, same, String.toList_append]
  obtain ⟨words, rests⟩ := run_append_inj word.all wordToo.all (stop rest) (stop other) lists
  exact ⟨String.toList_injective words, (String.append_right_inj _).mp (String.toList_injective rests)⟩

end AsciiWord

theorem digit_of_to_string {number : Nat} {c : Char} (member : c ∈ (toString number).toList) :
    c.isDigit = true := by
  rw [Nat.toString_eq_repr, Nat.toList_repr] at member
  exact Nat.isDigit_of_mem_toDigits (by decide) (by decide) member

theorem ascii_word_to_string (number : Nat) : AsciiWord (toString number) where
  nonempty := by
    rw [Nat.toString_eq_repr, Nat.toList_repr]
    exact List.ne_nil_of_length_pos Nat.length_toDigits_pos
  all := by
    intro c member
    simp [isAsciiWordChar, Char.isAlphanum, digit_of_to_string member]

theorem digits_below {bound : Nat} {text : List Char} (nonempty : text ≠ [])
    (digits : text.all Char.isDigit = true) :
    digitsBelow? bound text =
      if Nat.ofDigitChars 10 text 0 < bound then some (Nat.ofDigitChars 10 text 0) else none := by
  have accepted : (text.isEmpty || !text.all Char.isDigit) = false := by
    rw [digits, Bool.not_true, Bool.or_false, List.isEmpty_eq_false_iff]
    exact nonempty
  rw [digitsBelow?, accepted]
  rfl

theorem digits_below_of_other {bound : Nat} {text : List Char} {c : Char} (member : c ∈ text)
    (other : c.isDigit = false) : digitsBelow? bound text = none := by
  have refused : text.all Char.isDigit = false := by
    rw [List.all_eq_false]
    exact ⟨c, member, by simp [other]⟩
  rw [digitsBelow?, refused, Bool.not_false, Bool.or_true, if_pos rfl]

theorem nat_below_of_no_plus {bound : Nat} {text : List Char} (noPlus : '+' ∉ text) :
    natBelow? bound text = digitsBelow? bound text := by
  rw [natBelow?]
  rintro rest rfl
  exact noPlus List.mem_cons_self

theorem nat_below_to_string {bound number : Nat} (below : number < bound) :
    natBelow? bound (toString number).toList = some number := by
  have noPlus : '+' ∉ (toString number).toList := by
    intro plus
    exact absurd (digit_of_to_string plus) (by decide)
  have digits : (toString number).toList.all Char.isDigit = true :=
    List.all_eq_true.mpr fun _ => digit_of_to_string
  have value : Nat.ofDigitChars 10 (toString number).toList 0 = number := by
    rw [Nat.toString_eq_repr, Nat.toList_repr, Nat.ofDigitChars_ten_toDigits]
  rw [nat_below_of_no_plus noPlus, digits_below (ascii_word_to_string number).nonempty digits, value,
    if_pos below]

end ErDiagram.Text
