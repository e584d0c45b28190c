import ErDiagram.Proofs.Text.Blank
import ErDiagram.Proofs.Text.Line

/-!
# Lines of words

A line that consists of words with one space between any two is trimmed, and reading its words gives
back the words that it was made of.
-/

namespace ErDiagram.Text

set_option autoImplicit false

def wordLine (found : List (List Char)) : List Char := [' '].intercalate found

def AreWords (found : List (List Char)) : Prop := ∀ word ∈ found, word ≠ [] ∧ Solid word

instance (found : List (List Char)) : Decidable (AreWords found) :=
  inferInstanceAs (Decidable (∀ word ∈ found, word ≠ [] ∧ Solid word))

theorem are_words_words (text : List Char) : AreWords (words text) := by
  intro word isWord
  have solid : Solid word := by
    intro c member
    have kept := List.mem_flatten_of_mem isWord member
    rw [flatten_words] at kept
    simpa using (List.mem_filter.mp kept).2
  exact ⟨fun empty => nil_not_in_words text (empty ▸ isWord), solid⟩

theorem word_line_cons_cons (word next : List Char) (rest : List (List Char)) :
    wordLine (word :: next :: rest) = word ++ ' ' :: wordLine (next :: rest) := by
  simp [wordLine, List.intercalate_cons_cons]

theorem word_line_singleton (word : List Char) : wordLine [word] = word :=
  List.intercalate_singleton

theorem word_line_cons (word : List Char) (rest : List (List Char)) :
    wordLine (word :: rest) = word ++ rest.flatMap (' ' :: ·) := by
  induction rest generalizing word with
  | nil => rw [word_line_singleton, List.flatMap_nil, List.append_nil]
  | cons next rest ih => rw [word_line_cons_cons, ih, List.flatMap_cons, List.cons_append]

theorem word_line_append {first second : List (List Char)} (nonempty : first ≠ [])
    (nonemptySecond : second ≠ []) :
    wordLine (first ++ second) = wordLine first ++ ' ' :: wordLine second := by
  obtain ⟨word, rest, rfl⟩ := List.exists_cons_of_ne_nil nonempty
  obtain ⟨next, later, rfl⟩ := List.exists_cons_of_ne_nil nonemptySecond
  rw [List.cons_append, word_line_cons, word_line_cons, word_line_cons, List.flatMap_append,
    List.flatMap_cons, List.append_assoc, List.cons_append]

theorem word_line_ne_nil {found : List (List Char)} (areWords : AreWords found)
    (nonempty : found ≠ []) : wordLine found ≠ [] := by
  match found with
  | [] => contradiction
  | [word] =>
      rw [word_line_singleton]
      exact (areWords word (by simp)).1
  | word :: next :: rest =>
      rw [word_line_cons_cons]
      simp

theorem head_word_line {word : List Char} {rest : List (List Char)} (nonempty : word ≠ []) :
    (wordLine (word :: rest)).head? = word.head? := by
  cases rest with
  | nil => rw [word_line_singleton]
  | cons next later => rw [word_line_cons_cons, List.head?_append_of_ne_nil _ nonempty]

theorem last_word_line {front : List (List Char)} {word : List Char} (nonempty : word ≠ []) :
    (wordLine (front ++ [word])).getLast? = word.getLast? := by
  induction front with
  | nil => rw [List.nil_append, word_line_singleton]
  | cons first front ih =>
      cases front with
      | nil =>
          rw [List.singleton_append, word_line_cons_cons, word_line_singleton,
            ← List.singleton_append (x := ' '), ← List.append_assoc,
            List.getLast?_append_of_ne_nil _ nonempty]
      | cons next later =>
          have inner : wordLine (next :: (later ++ [word])) ≠ [] := by
            intro empty
            rw [List.cons_append, empty, List.getLast?_nil] at ih
            exact nonempty (List.getLast?_eq_none_iff.mp ih.symm)
          rw [List.cons_append, List.cons_append, word_line_cons_cons,
            ← List.singleton_append (x := ' '), ← List.append_assoc,
            List.getLast?_append_of_ne_nil _ inner]
          exact ih

theorem trimmed_word_line {found : List (List Char)} (areWords : AreWords found) :
    Trimmed (wordLine found) := by
  apply trimmed_iff.mpr
  constructor
  · cases found with
    | nil => simp [wordLine]
    | cons word rest =>
        obtain ⟨nonempty, solid⟩ := areWords word List.mem_cons_self
        rw [head_word_line nonempty]
        exact fun c first => solid c (List.mem_of_mem_head? first)
  · rcases List.eq_nil_or_concat found with rfl | ⟨front, word, rfl⟩
    · simp [wordLine]
    · obtain ⟨nonempty, solid⟩ := areWords word (by simp)
      rw [List.concat_eq_append, last_word_line nonempty]
      exact fun c last => solid c (List.mem_of_mem_getLast? last)

theorem words_word_line {found : List (List Char)} (areWords : AreWords found) :
    words (wordLine found) = found := by
  induction found with
  | nil => rfl
  | cons word rest ih =>
      obtain ⟨nonempty, solid⟩ := areWords word List.mem_cons_self
      have later := ih fun other member => areWords other (List.mem_cons_of_mem _ member)
      cases rest with
      | nil => rw [word_line_singleton, words_solid solid nonempty]
      | cons next more =>
          rw [word_line_cons_cons, words_solid_cons solid nonempty rfl, later]

theorem not_mem_word_line {found : List (List Char)} {c : Char} (noSpace : c ≠ ' ')
    (lacks : ∀ word ∈ found, c ∉ word) : c ∉ wordLine found := by
  intro member
  cases found with
  | nil => simp [wordLine] at member
  | cons word rest =>
      rw [word_line_cons, List.mem_append, List.mem_flatMap] at member
      rcases member with inFirst | ⟨later, isLater, inLater⟩
      · exact lacks word List.mem_cons_self inFirst
      · rcases List.mem_cons.mp inLater with space | inWord
        · exact noSpace space
        · exact lacks later (List.mem_cons_of_mem _ isLater) inWord

theorem line_feed_not_in_word_line {found : List (List Char)} (areWords : AreWords found) :
    '\n' ∉ wordLine found := by
  apply not_mem_word_line (by decide)
  intro word isWord inWord
  exact absurd ((areWords word isWord).2 '\n' inWord) (by decide)

theorem unbroken_word_line {gap : List Char} {found : List (List Char)} (noFeed : '\n' ∉ gap)
    (areWords : AreWords found) (nonempty : found ≠ []) : Unbroken (gap ++ wordLine found) := by
  constructor
  · rw [List.mem_append]
    rintro (inGap | inLine)
    · exact noFeed inGap
    · exact line_feed_not_in_word_line areWords inLine
  · intro last
    rw [List.getLast?_append_of_ne_nil _ (word_line_ne_nil areWords nonempty)] at last
    have bare := (trimmed_iff.mp (trimmed_word_line areWords)).2 '\r' last
    exact absurd bare (by decide)

end ErDiagram.Text
