import ErDiagram.Text.Blank
import Mathlib.Data.List.Basic
import Mathlib.Data.List.TakeWhile

/-!
# Trimming and words

Blanks around a text do not change its trimmed form, and a text is its own trimmed form exactly when
no blank stands at either end. The words of a text are found one at a time: a run without blanks that
ends where a word may end is the first word.
-/

namespace ErDiagram.Text

set_option autoImplicit false

def Solid (text : List Char) : Prop := ∀ c ∈ text, isBlank c = false

def Gap (text : List Char) : Prop := ∀ c ∈ text, isBlank c = true

def Separator (gap : List Char) : Prop := gap ≠ [] ∧ Gap gap

/-- A text that no blank begins or ends. -/
def Trimmed (text : List Char) : Prop := trim text = text

instance (text : List Char) : Decidable (Solid text) :=
  List.decidableBAll (fun c => isBlank c = false) text

instance (text : List Char) : Decidable (Gap text) :=
  List.decidableBAll (fun c => isBlank c = true) text

instance (gap : List Char) : Decidable (Separator gap) :=
  inferInstanceAs (Decidable (gap ≠ [] ∧ Gap gap))

instance (text : List Char) : Decidable (Trimmed text) :=
  inferInstanceAs (Decidable (trim text = text))

theorem solid_append {first second : List Char} (left : Solid first) (right : Solid second) :
    Solid (first ++ second) := by
  intro c member
  rcases List.mem_append.mp member with inFirst | inSecond
  · exact left c inFirst
  · exact right c inSecond

theorem trim_start_of_head {text : List Char} (bare : ∀ c ∈ text.head?, isBlank c = false) :
    trimStart text = text := by
  cases text with
  | nil => rfl
  | cons c rest => exact List.dropWhile_cons_of_neg (by simp [bare c rfl])

theorem trim_end_of_last {text : List Char} (bare : ∀ c ∈ text.getLast?, isBlank c = false) :
    trimEnd text = text := by
  have reversed : trimStart text.reverse = text.reverse := by
    apply trim_start_of_head
    simpa only [List.head?_reverse] using bare
  have same : trimEnd text = text.reverse.reverse := congrArg List.reverse reversed
  rw [same, List.reverse_reverse]

theorem trim_start_gap_append {gap : List Char} (blank : Gap gap) (text : List Char) :
    trimStart (gap ++ text) = trimStart text :=
  List.dropWhile_append_of_pos blank

theorem trim_end_append_gap {gap : List Char} (blank : Gap gap) (text : List Char) :
    trimEnd (text ++ gap) = trimEnd text := by
  unfold trimEnd
  rw [List.reverse_append, List.dropWhile_append_of_pos]
  intro c member
  exact blank c (List.mem_reverse.mp member)

theorem trim_gap_append {gap : List Char} (blank : Gap gap) (text : List Char) :
    trim (gap ++ text) = trim text := by
  unfold trim
  rw [trim_start_gap_append blank]

theorem trim_append_gap {gap : List Char} (blank : Gap gap) (text : List Char) :
    trim (text ++ gap) = trim text := by
  induction text with
  | nil =>
      have empty : trimStart gap = [] := List.dropWhile_eq_nil_iff.mpr blank
      rw [List.nil_append, trim, empty]
      rfl
  | cons c rest ih =>
      by_cases here : isBlank c = true
      · have single : Gap [c] := by simpa [Gap] using here
        have extended := trim_gap_append single (rest ++ gap)
        have shorter := trim_gap_append single rest
        rw [List.singleton_append] at extended shorter
        rw [List.cons_append, extended, ih, shorter]
      · have bare : ∀ later : List Char, trimStart (c :: later) = c :: later := by
          intro later
          exact trim_start_of_head (by simpa using here)
        unfold trim
        rw [List.cons_append, bare, bare, ← List.cons_append, trim_end_append_gap blank]

theorem trim_eq_nil_iff {text : List Char} : trim text = [] ↔ Gap text := by
  constructor
  · intro empty
    have reversed : (trimStart text).reverse.dropWhile isBlank = [] := List.reverse_eq_nil_iff.mp empty
    have afterStart : Gap (trimStart text) := by
      intro c member
      exact List.dropWhile_eq_nil_iff.mp reversed c (List.mem_reverse.mpr member)
    -- What follows the blanks at the start begins with no blank, so nothing follows them.
    have nothing : trimStart text = [] := by
      have first := List.head?_dropWhile_not isBlank text
      cases start : trimStart text with
      | nil => rfl
      | cons c rest =>
          rw [show text.dropWhile isBlank = c :: rest from start] at first
          rw [start] at afterStart
          simp [afterStart c List.mem_cons_self] at first
    exact List.dropWhile_eq_nil_iff.mp nothing
  · intro blank
    exact trim_append_gap blank []

theorem length_trim_start_le (text : List Char) : (trimStart text).length ≤ text.length :=
  (List.dropWhile_sublist _).length_le

theorem length_trim_end_le (text : List Char) : (trimEnd text).length ≤ text.length := by
  simpa [trimEnd, trimStart] using length_trim_start_le text.reverse

theorem length_trim_le (text : List Char) : (trim text).length ≤ text.length :=
  (length_trim_end_le _).trans (length_trim_start_le _)

theorem trimmed_iff {text : List Char} :
    Trimmed text ↔
      (∀ c ∈ text.head?, isBlank c = false) ∧ (∀ c ∈ text.getLast?, isBlank c = false) := by
  constructor
  · intro trimmed
    -- Both steps of trimming keep the length, so neither takes anything away.
    have whole : (trimEnd (trimStart text)).length = text.length := congrArg List.length trimmed
    have afterStart := length_trim_end_le (trimStart text)
    have atStart : trimStart text = text :=
      (List.dropWhile_sublist _).eq_of_length_le (by unfold trimStart at *; omega)
    have atEnd : trimEnd text = text := by
      rw [Trimmed, trim, atStart] at trimmed
      exact trimmed
    constructor
    · intro c first
      have head := List.head?_dropWhile_not isBlank text
      rw [show text.dropWhile isBlank = text from atStart] at head
      simpa [Option.mem_def.mp first] using head
    · intro c last
      have head := List.head?_dropWhile_not isBlank text.reverse
      have reversed : text.reverse.dropWhile isBlank = text.reverse := by
        simpa [trimEnd] using congrArg List.reverse atEnd
      rw [reversed, List.head?_reverse] at head
      simpa [Option.mem_def.mp last] using head
  · rintro ⟨first, last⟩
    rw [Trimmed, trim, trim_start_of_head first, trim_end_of_last last]

theorem not_gap_of_last {front back : List Char}
    (bare : ∀ c ∈ (front ++ back).getLast?, isBlank c = false) (nonempty : back ≠ []) :
    ¬ Gap back := by
  intro blank
  have last := bare (back.getLast nonempty) (by
    rw [List.getLast?_append_of_ne_nil _ nonempty]
    exact List.getLast?_eq_some_getLast nonempty)
  rw [blank _ (List.getLast_mem nonempty)] at last
  contradiction

theorem trimmed_of_solid {text : List Char} (solid : Solid text) : Trimmed text := by
  apply trimmed_iff.mpr
  constructor
  · intro c first
    exact solid c (List.mem_of_mem_head? first)
  · intro c last
    exact solid c (List.mem_of_mem_getLast? last)

/-- What is left of a text and the blank after it once blanks at the start are gone. -/
def beforeGap (text : List Char) (blank : Char) : List Char :=
  if text.isEmpty then [] else text ++ [blank]

theorem trim_append_cons {text rest : List Char} {c : Char} (trimmed : Trimmed text)
    (blank : isBlank c = true) (trimmedRest : Trimmed rest) (nonempty : rest ≠ []) :
    trim (text ++ c :: rest) = beforeGap text c ++ rest := by
  have single : Gap [c] := by simpa [Gap] using blank
  obtain ⟨-, last⟩ := trimmed_iff.mp trimmedRest
  cases text with
  | nil => exact (trim_gap_append single rest).trans trimmedRest
  | cons d later =>
      obtain ⟨first, -⟩ := trimmed_iff.mp trimmed
      have whole : Trimmed (d :: later ++ c :: rest) := by
        apply trimmed_iff.mpr
        constructor
        · exact first
        · rwa [List.getLast?_append_of_ne_nil _ (List.cons_ne_nil c rest),
            ← List.singleton_append, List.getLast?_append_of_ne_nil _ nonempty]
      rw [whole]
      simp [beforeGap]

theorem trim_before_gap {text : List Char} {c : Char} (trimmed : Trimmed text)
    (blank : isBlank c = true) : trim (beforeGap text c) = text := by
  cases text with
  | nil => rfl
  | cons d later => exact (trim_append_gap (by simpa [Gap] using blank) _).trans trimmed

theorem words_solid_append {word rest : List Char} (solid : Solid word) (nonempty : word ≠ [])
    (ends : atWordEnd rest = true) : words (word ++ rest) = word :: words rest := by
  induction word with
  | nil => contradiction
  | cons c later ih =>
      have here : ¬ isBlank c = true := by simp [solid c List.mem_cons_self]
      have solidLater : Solid later := fun d member => solid d (List.mem_cons_of_mem _ member)
      cases later with
      | nil => rw [List.singleton_append, words, if_neg here, if_pos ends]
      | cons d more =>
          have inside : ¬ atWordEnd (d :: more ++ rest) = true := by
            simp [atWordEnd, solidLater d List.mem_cons_self]
          rw [List.cons_append, words, if_neg here, if_neg inside, ih solidLater (by simp)]

theorem words_solid_cons {word rest : List Char} {c : Char} (solid : Solid word)
    (nonempty : word ≠ []) (blank : isBlank c = true) :
    words (word ++ c :: rest) = word :: words rest := by
  have ends : atWordEnd (c :: rest) = true := blank
  rw [words_solid_append solid nonempty ends, words, if_pos blank]

theorem words_solid {word : List Char} (solid : Solid word) (nonempty : word ≠ []) :
    words word = [word] := by
  have ends : atWordEnd [] = true := rfl
  have single := words_solid_append solid nonempty ends
  rwa [List.append_nil, words] at single

theorem words_blank_cons {c : Char} (blank : isBlank c = true) (rest : List Char) :
    words (c :: rest) = words rest := by
  rw [words, if_pos blank]

theorem words_gap_append {gap : List Char} (blank : Gap gap) (rest : List Char) :
    words (gap ++ rest) = words rest := by
  induction gap with
  | nil => rfl
  | cons c gap ih =>
      rw [List.cons_append, words_blank_cons (blank c List.mem_cons_self)]
      exact ih fun d member => blank d (List.mem_cons_of_mem _ member)

theorem words_bare_cons {c : Char} (bare : isBlank c = false) (rest : List Char) :
    words (c :: rest) =
      if atWordEnd rest then [c] :: words rest
      else (c :: (words rest).headD []) :: (words rest).tail := by
  rw [words, if_neg (by simp [bare])]
  split
  · rfl
  · cases words rest <;> rfl

theorem flatten_words (text : List Char) : (words text).flatten = text.filter (!isBlank ·) := by
  induction text with
  | nil => rfl
  | cons c rest ih =>
      by_cases here : isBlank c = true
      · simp [words_blank_cons here, here, ih]
      · rw [words_bare_cons (by simpa using here)]
        split
        · simp [here, ih]
        · cases found : words rest with
          | nil => simp [here, ← ih, found]
          | cons word later => simp [here, ← ih, found]

theorem gap_of_no_words {text : List Char} (none : words text = []) : Gap text := by
  have kept := flatten_words text
  rw [none, List.flatten_nil, eq_comm, List.filter_eq_nil_iff] at kept
  simpa [Gap] using kept

theorem nil_not_in_words (text : List Char) : [] ∉ words text := by
  induction text with
  | nil => simp [words]
  | cons c rest ih =>
      by_cases here : isBlank c = true
      · rwa [words_blank_cons here]
      · rw [words_bare_cons (by simpa using here)]
        split
        · simpa using ih
        · simpa using mt List.mem_of_mem_tail ih

theorem words_append_cons {c : Char} (blank : isBlank c = true) (front rest : List Char) :
    words (front ++ c :: rest) = words front ++ words rest := by
  induction front with
  | nil => exact words_blank_cons blank rest
  | cons d front ih =>
      rw [List.cons_append]
      by_cases here : isBlank d = true
      · rw [words_blank_cons here, words_blank_cons here, ih]
      · have bare : isBlank d = false := by simpa using here
        rw [words_bare_cons bare, words_bare_cons bare, ih]
        cases front with
        | nil => simp [atWordEnd, blank, words]
        | cons e more =>
            rw [List.cons_append, atWordEnd, atWordEnd]
            split
            · rfl
            · next inside =>
              rw [words_bare_cons (by simpa using inside)]
              split <;> rfl

theorem words_append_gap {gap : List Char} (blank : Gap gap) (text : List Char) :
    words (text ++ gap) = words text := by
  cases gap with
  | nil => rw [List.append_nil]
  | cons c gap =>
      have nothing : words gap = [] := by
        have later := words_gap_append (fun d member => blank d (List.mem_cons_of_mem c member)) []
        rwa [List.append_nil] at later
      rw [words_append_cons (blank c List.mem_cons_self), nothing, List.append_nil]

theorem first_word_split {text word : List Char} {later : List (List Char)}
    (found : words text = word :: later) :
    ∃ gap rest, text = gap ++ (word ++ rest) ∧ Gap gap ∧ word ≠ [] ∧ Solid word ∧
      atWordEnd rest = true ∧ words rest = later := by
  induction text generalizing word later with
  | nil => cases found
  | cons c rest ih =>
      by_cases here : isBlank c = true
      · rw [words_blank_cons here] at found
        obtain ⟨gap, after, rfl, blank, others⟩ := ih found
        exact ⟨c :: gap, after, rfl, List.forall_mem_cons.mpr ⟨here, blank⟩, others⟩
      · have bare : isBlank c = false := by simpa using here
        rw [words_bare_cons bare] at found
        split at found
        · next ends =>
          cases found
          have solid : Solid [c] := by simpa [Solid] using bare
          exact ⟨[], rest, rfl, by simp [Gap], by simp, solid, ends, rfl⟩
        · next inside =>
          cases next : words rest with
          | nil =>
              -- Without another word only blanks could follow, and a word may end before them.
              have blank := gap_of_no_words next
              cases rest with
              | nil => exact absurd rfl inside
              | cons d more => exact absurd (blank d List.mem_cons_self) inside
          | cons first others =>
              rw [next] at found
              cases found
              obtain ⟨gap, after, split, blank, -, solid, ends, counted⟩ := ih next
              cases gap with
              | nil =>
                  refine ⟨[], after, by rw [split]; rfl, by simp [Gap], by simp, ?_, ends, counted⟩
                  exact List.forall_mem_cons.mpr ⟨bare, solid⟩
              | cons d more =>
                  rw [split] at inside
                  exact absurd (blank d List.mem_cons_self) inside

end ErDiagram.Text
