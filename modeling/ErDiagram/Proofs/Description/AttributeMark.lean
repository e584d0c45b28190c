import ErDiagram.Description.Line
import ErDiagram.Proofs.Text.Word
import ErDiagram.Proofs.Text.WordLine
import Mathlib.Data.List.Induction

/-!
# What marks a line as an attribute

A line is an attribute if a type name, blanks and an ASCII word stand somewhere in it, one directly
after the other. The type name may be the end of a longer word. Where a line consists of words with
single blanks between them, the question is settled word by word.
-/

namespace ErDiagram

set_option autoImplicit false

open Text

inductive AttributeMark : List Char → Prop
  | mk {type : String} {gap word : List Char} (known : type ∈ attributeTypes)
      (separated : gap ≠ []) (blank : Gap gap) (nonempty : word ≠ [])
      (all : ∀ c ∈ word, isAsciiWordChar c = true) :
      AttributeMark (type.toList ++ gap ++ word)

def endsInType (text : List Char) : Bool :=
  attributeTypes.any fun type => type.toList.isSuffixOf text

/-- Whether the first character that is not a blank may stand in an ASCII word. -/
def wordBegins (text : List Char) : Bool := (trimStart text).head?.any isAsciiWordChar

theorem attribute_type_solid {type : String} (known : type ∈ attributeTypes) :
    Solid type.toList := by
  have all : ∀ type ∈ attributeTypes, Solid type.toList := by decide
  exact all type known

theorem attribute_type_nonempty {type : String} (known : type ∈ attributeTypes) :
    type.toList ≠ [] := by
  have all : ∀ type ∈ attributeTypes, type.toList ≠ [] := by decide
  exact all type known

theorem ends_in_type_iff {text : List Char} :
    endsInType text = true ↔ ∃ type ∈ attributeTypes, type.toList <:+ text := by
  simp [endsInType, List.isSuffixOf_iff_suffix]

theorem begins_attribute_iff {text : List Char} :
    beginsAttribute text = true ↔
      ∃ type ∈ attributeTypes, ∃ rest, text = type.toList ++ rest ∧ wordFollows rest = true := by
  simp only [beginsAttribute, List.any_eq_true, Option.any_eq_true, after_eq_some_iff]

theorem word_follows_cons {c : Char} {rest : List Char} :
    wordFollows (c :: rest) = true ↔ isBlank c = true ∧ wordBegins rest = true := by
  simp only [wordFollows, wordBegins, Bool.and_eq_true]

theorem word_begins_solid_append {word rest : List Char} (solid : Solid word)
    (nonempty : word ≠ []) : wordBegins (word ++ rest) = word.head?.any isAsciiWordChar := by
  cases word with
  | nil => contradiction
  | cons c later =>
      rw [wordBegins, trim_start_of_head]
      · rfl
      · intro d first
        cases first
        exact solid c List.mem_cons_self

theorem begins_attribute_append {mark : List Char} (marked : AttributeMark mark)
    (after : List Char) : beginsAttribute (mark ++ after) = true := by
  obtain ⟨known, separated, blank, nonempty, all⟩ := marked
  rename_i type gap word
  cases gap with
  | nil => contradiction
  | cons c gap =>
      have solid : Solid word := fun d member => ascii_word_char_not_blank (all d member)
      have later : Gap gap := fun d member => blank d (List.mem_cons_of_mem _ member)
      have begins : wordBegins (gap ++ (word ++ after)) = true := by
        rw [wordBegins, trim_start_gap_append later, ← wordBegins,
          word_begins_solid_append solid nonempty]
        cases word with
        | nil => contradiction
        | cons d more => exact all d List.mem_cons_self
      refine begins_attribute_iff.mpr ⟨type, known, c :: (gap ++ (word ++ after)), by simp, ?_⟩
      exact word_follows_cons.mpr ⟨blank c List.mem_cons_self, begins⟩

theorem attribute_mark_of_begins {text : List Char} (begins : beginsAttribute text = true) :
    ∃ mark, AttributeMark mark ∧ mark <+: text := by
  obtain ⟨type, known, rest, rfl, follows⟩ := begins_attribute_iff.mp begins
  cases rest with
  | nil => contradiction
  | cons c rest =>
      obtain ⟨blank, word⟩ := word_follows_cons.mp follows
      obtain ⟨d, first, isWord⟩ := Option.any_eq_true _ _ |>.mp word
      have split : rest = rest.takeWhile isBlank ++ trimStart rest :=
        List.takeWhile_append_dropWhile.symm
      obtain ⟨later, same⟩ := List.head?_eq_some_iff.mp first
      refine ⟨type.toList ++ (c :: rest.takeWhile isBlank) ++ [d], ⟨known, by simp, ?_, by simp, ?_⟩,
        later, ?_⟩
      · intro e member
        rcases List.mem_cons.mp member with rfl | inGap
        · exact blank
        · exact List.mem_takeWhile_imp inGap
      · simpa using isWord
      · conv_rhs => rw [split, same]
        simp

theorem carries_attribute_iff {line : List Char} :
    carriesAttribute line = true ↔ ∃ mark, AttributeMark mark ∧ mark <:+: line := by
  induction line with
  | nil =>
      have none : ∀ mark, AttributeMark mark → mark ≠ [] := by
        rintro mark ⟨known, -, -, -, -⟩ empty
        simp [attribute_type_nonempty known] at empty
      constructor
      · intro carries
        contradiction
      · rintro ⟨mark, marked, inside⟩
        exact absurd (List.infix_nil.mp inside) (none mark marked)
  | cons c rest ih =>
      rw [carriesAttribute, Bool.or_eq_true, ih]
      constructor
      · rintro (begins | ⟨mark, marked, inside⟩)
        · obtain ⟨mark, marked, atStart⟩ := attribute_mark_of_begins begins
          exact ⟨mark, marked, atStart.isInfix⟩
        · exact ⟨mark, marked, inside.trans (List.suffix_cons _ _).isInfix⟩
      · rintro ⟨mark, marked, inside⟩
        rcases List.infix_cons_iff.mp inside with ⟨after, atStart⟩ | later
        · exact .inl (atStart ▸ begins_attribute_append marked after)
        · exact .inr ⟨mark, marked, later⟩

theorem carries_attribute_blank_cons {c : Char} (blank : isBlank c = true) (rest : List Char) :
    carriesAttribute (c :: rest) = carriesAttribute rest := by
  have noType : beginsAttribute (c :: rest) = false := by
    apply Bool.eq_false_iff.mpr
    intro begins
    obtain ⟨type, known, later, split, -⟩ := begins_attribute_iff.mp begins
    cases same : type.toList with
    | nil => exact attribute_type_nonempty known same
    | cons d more =>
        have first : c = d := by
          rw [same] at split
          exact (List.cons.inj split).1
        have solid := attribute_type_solid known d (by simp [same])
        simp [← first, blank] at solid
  rw [carriesAttribute, noType, Bool.false_or]

theorem carries_attribute_gap_append {gap : List Char} (blank : Gap gap) (rest : List Char) :
    carriesAttribute (gap ++ rest) = carriesAttribute rest := by
  induction gap with
  | nil => rfl
  | cons c gap ih =>
      rw [List.cons_append, carries_attribute_blank_cons (blank c List.mem_cons_self)]
      exact ih fun d member => blank d (List.mem_cons_of_mem _ member)

theorem infix_before_gap {part text gap : List Char}
    (last : ∃ front c, part = front ++ [c] ∧ isBlank c = false) (blank : Gap gap)
    (inside : part <:+: text ++ gap) : part <:+: text := by
  obtain ⟨front, c, rfl, bare⟩ := last
  induction gap using List.reverseRecOn with
  | nil => rwa [List.append_nil] at inside
  | append_singleton gap d ih =>
      have earlier : Gap gap := fun e member => blank e (List.mem_append_left _ member)
      rw [← List.append_assoc, List.infix_concat_iff] at inside
      rcases inside with ⟨before, ends⟩ | shorter
      · rw [← List.append_assoc] at ends
        obtain ⟨-, same⟩ := List.append_inj' ends rfl
        cases same
        exact absurd (blank c (by simp)) (by simp [bare])
      · exact ih earlier shorter

theorem carries_attribute_append_gap {gap : List Char} (blank : Gap gap) (text : List Char) :
    carriesAttribute (text ++ gap) = carriesAttribute text := by
  rw [Bool.eq_iff_iff, carries_attribute_iff, carries_attribute_iff]
  constructor
  · rintro ⟨mark, ⟨known, separated, blankGap, nonempty, all⟩, inside⟩
    rename_i type between word
    have split := List.dropLast_concat_getLast nonempty
    have bare : isBlank (word.getLast nonempty) = false :=
      ascii_word_char_not_blank (all _ (List.getLast_mem nonempty))
    refine ⟨_, ⟨known, separated, blankGap, nonempty, all⟩, infix_before_gap ?_ blank inside⟩
    exact ⟨type.toList ++ between ++ word.dropLast, word.getLast nonempty,
      by rw [List.append_assoc _ word.dropLast, split], bare⟩
  · rintro ⟨mark, marked, inside⟩
    exact ⟨mark, marked, inside.trans (List.prefix_append _ _).isInfix⟩

theorem carries_attribute_before_gap {c : Char} (blank : isBlank c = true) (text rest : List Char) :
    carriesAttribute (beforeGap text c ++ rest) = carriesAttribute (text ++ c :: rest) := by
  cases text with
  | nil => exact (carries_attribute_blank_cons blank rest).symm
  | cons d later => simp [beforeGap]

theorem solid_append_cons_inj {first second : List Char} {c d : Char} {left right : List Char}
    (solidFirst : Solid first) (solidSecond : Solid second) (blankFirst : isBlank c = true)
    (blankSecond : isBlank d = true) (same : first ++ c :: left = second ++ d :: right) :
    first = second ∧ left = right := by
  induction first generalizing second with
  | nil =>
      cases second with
      | nil => exact ⟨rfl, (List.cons.inj same).2⟩
      | cons e more =>
          have bare := solidSecond e List.mem_cons_self
          rw [← (List.cons.inj same).1, blankFirst] at bare
          contradiction
  | cons e first ih =>
      cases second with
      | nil =>
          have bare := solidFirst e List.mem_cons_self
          rw [(List.cons.inj same).1, blankSecond] at bare
          contradiction
      | cons f second =>
          obtain ⟨rfl, later⟩ := List.cons.inj same
          obtain ⟨rfl, rest⟩ := ih (fun g member => solidFirst g (List.mem_cons_of_mem _ member))
            (fun g member => solidSecond g (List.mem_cons_of_mem _ member)) later
          exact ⟨rfl, rest⟩

theorem begins_attribute_word {word rest : List Char} {c : Char} (solid : Solid word)
    (blank : isBlank c = true) :
    beginsAttribute (word ++ c :: rest) = true ↔
      (∃ type ∈ attributeTypes, type.toList = word) ∧ wordBegins rest = true := by
  rw [begins_attribute_iff]
  constructor
  · rintro ⟨type, known, later, split, follows⟩
    cases later with
    | nil => contradiction
    | cons d later =>
        obtain ⟨blankLater, word⟩ := word_follows_cons.mp follows
        obtain ⟨same, rfl⟩ := solid_append_cons_inj solid (attribute_type_solid known) blank
          blankLater split
        exact ⟨⟨type, known, same.symm⟩, word⟩
  · rintro ⟨⟨type, known, rfl⟩, begins⟩
    exact ⟨type, known, c :: rest, rfl, word_follows_cons.mpr ⟨blank, begins⟩⟩

/-- The first word of a line decides together with the start of the next one, or a later word does. -/
theorem carries_attribute_word {word rest : List Char} {c : Char} (solid : Solid word)
    (blank : isBlank c = true) :
    carriesAttribute (word ++ c :: rest) = true ↔
      (endsInType word = true ∧ wordBegins rest = true) ∨ carriesAttribute rest = true := by
  induction word with
  | nil =>
      have noType : endsInType [] = false := by decide
      rw [List.nil_append, carries_attribute_blank_cons blank, noType]
      simp
  | cons d word ih =>
      have here : beginsAttribute (d :: word ++ c :: rest) = true ↔
          (∃ type ∈ attributeTypes, type.toList = d :: word) ∧ wordBegins rest = true :=
        begins_attribute_word solid blank
      have ends : endsInType (d :: word) = true ↔
          (∃ type ∈ attributeTypes, type.toList = d :: word) ∨ endsInType word = true := by
        simp only [ends_in_type_iff, List.suffix_cons_iff]
        constructor
        · rintro ⟨type, known, whole | shorter⟩
          · exact .inl ⟨type, known, whole⟩
          · exact .inr ⟨type, known, shorter⟩
        · rintro (⟨type, known, whole⟩ | ⟨type, known, shorter⟩)
          · exact ⟨type, known, .inl whole⟩
          · exact ⟨type, known, .inr shorter⟩
      rw [List.cons_append] at here ⊢
      rw [carriesAttribute, Bool.or_eq_true, here,
        ih fun e member => solid e (List.mem_cons_of_mem _ member), ends, or_and_right, or_assoc]

theorem carries_attribute_solid {word : List Char} (solid : Solid word) :
    carriesAttribute word = false := by
  apply Bool.eq_false_iff.mpr
  intro carries
  obtain ⟨mark, ⟨known, separated, blank, -, -⟩, inside⟩ := carries_attribute_iff.mp carries
  obtain ⟨c, member⟩ := List.exists_mem_of_ne_nil _ separated
  have bare := solid c (inside.subset (by simp [member]))
  rw [blank c member] at bare
  contradiction

/-- Whether a word that ends in a type name stands directly before an ASCII word. -/
def neighboursMark : List (List Char) → Bool
  | word :: next :: rest =>
    (endsInType word && next.head?.any isAsciiWordChar) || neighboursMark (next :: rest)
  | _ => false

theorem carries_attribute_word_line {found : List (List Char)} (areWords : AreWords found) :
    carriesAttribute (wordLine found) = neighboursMark found := by
  induction found with
  | nil => rfl
  | cons word rest ih =>
      obtain ⟨-, solid⟩ := areWords word List.mem_cons_self
      have later := ih fun other member => areWords other (List.mem_cons_of_mem _ member)
      cases rest with
      | nil =>
          rw [word_line_singleton, carries_attribute_solid solid]
          rfl
      | cons next more =>
          obtain ⟨nonempty, nextSolid⟩ := areWords next (by simp)
          have begins : wordBegins (wordLine (next :: more)) = next.head?.any isAsciiWordChar := by
            rw [word_line_cons, word_begins_solid_append nextSolid nonempty]
          rw [Bool.eq_iff_iff, word_line_cons_cons, carries_attribute_word solid rfl, begins, later,
            neighboursMark, Bool.or_eq_true, Bool.and_eq_true]

end ErDiagram
