import ErDiagram.Proofs.Text.Blank
import ErDiagram.Proofs.Text.Line

/-!
# Lines without the blanks around them

Which line feed ends a line, whether a carriage return stands before it, and whether the last line has
one at all makes no difference once lines are trimmed and empty lines left out. What remains of a text is
what remains of its pieces between line feeds.
-/

namespace ErDiagram.Text

set_option autoImplicit false

theorem trim_start_split (text : List Char) : ∃ gap, Gap gap ∧ text = gap ++ trimStart text :=
  ⟨text.takeWhile isBlank, fun _ member => List.mem_takeWhile_imp member,
    List.takeWhile_append_dropWhile.symm⟩

theorem trim_split (text : List Char) :
    ∃ before after, Gap before ∧ Gap after ∧ text = before ++ (trim text ++ after) := by
  obtain ⟨before, gapBefore, start⟩ := trim_start_split text
  obtain ⟨after, gapAfter, ending⟩ := trim_start_split (trimStart text).reverse
  refine ⟨before, after.reverse, gapBefore, ?_, ?_⟩
  · exact fun c member => gapAfter c (List.mem_reverse.mp member)
  · have whole : trim text ++ after.reverse = trimStart text := by
      rw [trim, trimEnd, ← List.reverse_append]
      exact List.reverse_eq_iff.mpr ending.symm
    rw [whole, ← start]

theorem trimmed_trim (text : List Char) : Trimmed (trim text) := by
  obtain ⟨before, after, gapBefore, gapAfter, split⟩ := trim_split text
  have same := congrArg trim split
  rw [trim_gap_append gapBefore, trim_append_gap gapAfter] at same
  exact same.symm

theorem last_trim_concat {c : Char} (bare : isBlank c = false) (text : List Char) :
    (trim (text ++ [c])).getLast? = some c := by
  obtain ⟨front, start⟩ : ∃ front, trimStart (text ++ [c]) = front ++ [c] := by
    induction text with
    | nil => exact ⟨[], trim_start_of_head (by rintro _ ⟨⟩; exact bare)⟩
    | cons d rest ih =>
        by_cases here : isBlank d = true
        · have single : Gap [d] := by simpa [Gap] using here
          rw [List.cons_append, ← List.singleton_append, trim_start_gap_append single]
          exact ih
        · exact ⟨d :: rest, trim_start_of_head (by rintro _ ⟨⟩; simpa using here)⟩
  have ending : trimEnd (front ++ [c]) = front ++ [c] := by
    apply trim_end_of_last
    rw [List.getLast?_concat]
    rintro _ ⟨⟩
    exact bare
  rw [trim, start, ending, List.getLast?_concat]

/-- A line as it is left when a line feed follows it. -/
def withoutReturn (line : List Char) : List Char :=
  if line.getLast? = some '\r' then line.dropLast else line

theorem without_return_cons {c : Char} {line : List Char} (inside : c = '\r' → line ≠ []) :
    withoutReturn (c :: line) = c :: withoutReturn line := by
  cases line with
  | nil =>
      have other : c ≠ '\r' := fun carriage => inside carriage rfl
      simp [withoutReturn, other]
  | cons d later =>
      rw [withoutReturn, withoutReturn, List.getLast?_cons_cons]
      split <;> rfl

theorem trim_without_return (line : List Char) : trim (withoutReturn line) = trim line := by
  rw [withoutReturn]
  split
  · next carriage =>
    obtain ⟨front, rfl⟩ := List.getLast?_eq_some_iff.mp carriage
    rw [List.dropLast_concat, trim_append_gap (by decide)]
  · rfl

theorem lines_append_feed {line : List Char} (inLine : '\n' ∉ line) (rest : List Char) :
    lines (line ++ '\n' :: rest) = withoutReturn line :: lines rest := by
  induction line with
  | nil => rfl
  | cons c later ih =>
      rw [List.mem_cons, not_or] at inLine
      obtain ⟨noFeed, inLater⟩ := inLine
      by_cases ended : c = '\r' ∧ later = []
      · obtain ⟨rfl, rfl⟩ := ended
        rfl
      · have inside : c = '\r' → later ≠ [] := fun carriage empty => ended ⟨carriage, empty⟩
        have noReturn : c = '\r' → (later ++ '\n' :: rest).head? ≠ some '\n' := by
          intro carriage
          obtain ⟨d, more, rfl⟩ := List.exists_cons_of_ne_nil (inside carriage)
          rintro ⟨⟩
          exact inLater List.mem_cons_self
        rw [List.cons_append, lines_cons (Ne.symm noFeed) noReturn, ih inLater, List.headD_cons,
          List.tail_cons, without_return_cons inside]

/-- A text is a last line alone, or a line with a line feed and a text after it. -/
@[elab_as_elim]
theorem line_induction {motive : List Char → Prop} (last : ∀ line, '\n' ∉ line → motive line)
    (feed : ∀ line rest, '\n' ∉ line → motive rest → motive (line ++ '\n' :: rest))
    (text : List Char) : motive text := by
  by_cases several : '\n' ∈ text
  · obtain ⟨line, rest, split, inLine⟩ := List.eq_append_cons_of_mem several
    have shorter : rest.length < text.length := by
      rw [split, List.length_append, List.length_cons]
      omega
    rw [split]
    exact feed line rest inLine (line_induction last feed rest)
  · exact last text several
termination_by text.length

/-- The lines that hold more than blanks, without the blanks around them. -/
def filledLines (text : List Char) : List (List Char) :=
  ((lines text).map trim).filter (!·.isEmpty)

theorem filled_lines_feed {line : List Char} (inLine : '\n' ∉ line) (rest : List Char) :
    filledLines (line ++ '\n' :: rest) = [trim line].filter (!·.isEmpty) ++ filledLines rest := by
  rw [filledLines, lines_append_feed inLine, List.map_cons, trim_without_return,
    ← List.singleton_append, List.filter_append]
  rfl

theorem filled_lines_last {line : List Char} (inLine : '\n' ∉ line) :
    filledLines line = [trim line].filter (!·.isEmpty) := by
  by_cases empty : line = []
  · subst empty
    rfl
  · rw [filledLines, lines_of_unbroken inLine empty, List.map_singleton]

theorem filled_lines_append (first second : List Char) :
    filledLines (first ++ '\n' :: second) = filledLines first ++ filledLines second := by
  induction first using line_induction with
  | last line inLine => rw [filled_lines_feed inLine, filled_lines_last inLine]
  | feed line rest inLine ih =>
      rw [List.append_assoc, List.cons_append, filled_lines_feed inLine, ih, filled_lines_feed inLine,
        List.append_assoc]

/-- Lines that are joined come back, though not always with the blanks that end them. -/
theorem filled_lines_join {found : List String} (inLines : ∀ line ∈ found, '\n' ∉ line.toList) :
    filledLines (joinLines found).toList =
      (found.map fun line => trim line.toList).filter (!·.isEmpty) := by
  induction found with
  | nil => rfl
  | cons line rest ih =>
      obtain ⟨inLine, inRest⟩ := List.forall_mem_cons.mp inLines
      cases rest with
      | nil => exact filled_lines_last (by simpa [joinLines] using inLine)
      | cons next later =>
          have split : (joinLines (line :: next :: later)).toList =
              line.toList ++ '\n' :: (joinLines (next :: later)).toList := by
            simp [joinLines, String.intercalate_cons_cons]
          rw [split, filled_lines_feed inLine, ih inRest, ← List.filter_append]
          rfl

theorem filled_lines_end {found : List String} (inLines : ∀ line ∈ found, '\n' ∉ line.toList) :
    filledLines (endLines found).toList =
      (found.map fun line => trim line.toList).filter (!·.isEmpty) := by
  by_cases empty : found = []
  · subst empty
    rfl
  · have split : (endLines found).toList = (joinLines found).toList ++ '\n' :: [] := by
      rw [← joinLines_append_lineFeed empty, String.toList_append]
      rfl
    rw [split, filled_lines_append, filled_lines_join inLines]
    exact List.append_nil _

end ErDiagram.Text
