import ErDiagram.Proofs.Text.Blank
import ErDiagram.Proofs.Text.Lowercase
import ErDiagram.Text.Search

/-!
# Line breaks and the width of blanks

A line feed may be replaced by a space. Both are blanks without influence on the case of a letter, so
the change may be made before lower case is taken and blanks are trimmed, or after.

Two texts that differ only in the lengths and the kinds of their blanks have the same characters
between the blanks.
-/

namespace ErDiagram.Text

set_option autoImplicit false

def unbreak (c : Char) : Char := if c = '\n' then ' ' else c

/-- A text with a space in the place of each line feed. -/
def withoutBreaks (text : String) : String := String.ofList (text.toList.map unbreak)

theorem is_blank_unbreak (c : Char) : isBlank (unbreak c) = isBlank c := by
  rw [unbreak]
  split
  · next feed => rw [feed]; decide
  · rfl

theorem eq_unbreak_iff {p c : Char} (solid : isBlank p = false) : p = unbreak c ↔ p = c := by
  have notSpace : p ≠ ' ' := by
    rintro rfl
    exact absurd solid (by decide)
  have notFeed : p ≠ '\n' := by
    rintro rfl
    exact absurd solid (by decide)
  rw [unbreak]
  split
  · next feed => simp [feed, notSpace, notFeed]
  · rfl

theorem spelled_unbreak {part : List Char} (solid : Solid part) :
    ∀ p ∈ part, ∀ c, p = unbreak c ↔ p = c := by
  intro p member c
  exact eq_unbreak_iff (solid p member)

theorem map_unbreak_of_no_feed {text : List Char} (noFeed : '\n' ∉ text) :
    text.map unbreak = text := by
  have fixed : ∀ c ∈ text, unbreak c = id c := by
    intro c member
    have other : c ≠ '\n' := fun feed => noFeed (feed ▸ member)
    exact if_neg other
  rw [List.map_congr_left fixed, List.map_id]

theorem no_feed_in_map_unbreak (text : List Char) : '\n' ∉ text.map unbreak := by
  rw [List.mem_map]
  rintro ⟨c, -, same⟩
  rw [unbreak] at same
  split at same
  · exact absurd same (by decide)
  · contradiction

theorem cased_ahead_unbreak (text : List Char) :
    casedAhead (text.map unbreak) = casedAhead text := by
  have ignored : isCaseIgnorable ∘ unbreak = isCaseIgnorable := by
    funext c
    rw [Function.comp_apply, unbreak]
    split
    · next feed => rw [feed]; decide
    · rfl
  rw [casedAhead, casedAhead, List.dropWhile_map, ignored]
  cases text.dropWhile isCaseIgnorable with
  | nil => rfl
  | cons c rest =>
      rw [List.map_cons, unbreak]
      dsimp only
      split
      · next feed => rw [feed]; decide
      · rfl

theorem lower_letter_not_feed {c : Char} (other : c ≠ '\n') : lowerLetter c ≠ '\n' := by
  have targets : ∀ run ∈ lowercaseRuns, 90 < run.target := by decide +kernel
  rw [lowerLetter]
  rcases lower_code_cases lowercaseRuns c.toNat with same | ⟨run, member, above⟩
  · rwa [same, Char.ofNat_toNat]
  · have beyond := targets run member
    intro feed
    have code := congrArg Char.toNat feed
    have ten : '\n'.toNat = 10 := rfl
    rcases code_of_nat (lowerCode lowercaseRuns c.toNat) with same | zero <;> omega

theorem lower_letter_unbreak (c : Char) : lowerLetter (unbreak c) = unbreak (lowerLetter c) := by
  by_cases feed : c = '\n'
  · rw [feed]
    decide
  · rw [unbreak, if_neg feed, unbreak, if_neg (lower_letter_not_feed feed)]

theorem lower_in_context_unbreak (before : List Char) (c : Char) (after : List Char) :
    lowerInContext (before.map unbreak) (unbreak c) (after.map unbreak) =
      (lowerInContext before c after).map unbreak := by
  have dotted : unbreak c = '\u0130' ↔ c = '\u0130' := by
    rw [eq_comm, eq_unbreak_iff (by decide), eq_comm]
  have sigma : unbreak c = '\u03a3' ↔ c = '\u03a3' := by
    rw [eq_comm, eq_unbreak_iff (by decide), eq_comm]
  simp only [lowerInContext, dotted, sigma, cased_ahead_unbreak, lower_letter_unbreak]
  split_ifs <;> rfl

theorem lower_after_unbreak (before text : List Char) :
    lowerAfter (before.map unbreak) (text.map unbreak) = (lowerAfter before text).map unbreak := by
  induction text generalizing before with
  | nil => rfl
  | cons c rest ih =>
      rw [List.map_cons, lowerAfter, lowerAfter, lower_in_context_unbreak, List.map_append,
        ← List.map_cons, ih]

theorem trim_unbreak (text : List Char) : trim (text.map unbreak) = (trim text).map unbreak := by
  have blank : isBlank ∘ unbreak = isBlank := funext is_blank_unbreak
  have atStart (text : List Char) : trimStart (text.map unbreak) = (trimStart text).map unbreak := by
    rw [trimStart, List.dropWhile_map, blank, trimStart]
  rw [trim, atStart, trimEnd, ← List.map_reverse, List.dropWhile_map, blank, ← List.map_reverse, trim,
    trimEnd]

/-- It does not matter whether line breaks are replaced before or after a text is normalized. -/
theorem trim_lowercase_without_breaks (text : String) :
    trim (lowercase (withoutBreaks text)).toList = (trim (lowercase text).toList).map unbreak := by
  rw [lowercase, withoutBreaks, String.toList_ofList, String.toList_ofList, lowercase,
    String.toList_ofList, ← trim_unbreak]
  exact congrArg trim (lower_after_unbreak [] text.toList)

/-- The text with one space in the place of each run of blanks. -/
def collapse : List Char → List Char
  | [] => []
  | c :: rest =>
    if isBlank c then
      if rest.head?.any isBlank then collapse rest else ' ' :: collapse rest
    else c :: collapse rest

/-- Whether two texts are equal up to the lengths and the kinds of their runs of blanks. -/
def SameButBlanks (first second : String) : Prop :=
  collapse first.toList = collapse second.toList

instance (first second : String) : Decidable (SameButBlanks first second) :=
  inferInstanceAs (Decidable (collapse first.toList = collapse second.toList))

/-- The characters of a text that are no blanks. -/
def bare (text : List Char) : List Char := text.filter (!isBlank ·)

theorem bare_append (first second : List Char) : bare (first ++ second) = bare first ++ bare second :=
  List.filter_append first second

theorem bare_collapse (text : List Char) : bare (collapse text) = bare text := by
  induction text with
  | nil => rfl
  | cons c rest ih =>
      have space : isBlank ' ' = true := rfl
      rw [bare, bare] at ih ⊢
      rw [collapse]
      split
      · next blank =>
        split <;> simp [ih, blank, space]
      · next here => simp [ih, here]

theorem bare_of_same_but_blanks {first second : String} (same : SameButBlanks first second) :
    bare first.toList = bare second.toList := by
  rw [← bare_collapse first.toList, same, bare_collapse]

theorem bare_unbreak (text : List Char) : bare (text.map unbreak) = bare text := by
  induction text with
  | nil => rfl
  | cons c rest ih =>
      rw [bare, bare] at ih ⊢
      rw [List.map_cons, List.filter_cons, List.filter_cons, ih, is_blank_unbreak]
      split
      · next solid =>
        have other : c ≠ '\n' := by
          rintro rfl
          exact absurd solid (by decide)
        rw [unbreak, if_neg other]
      · rfl

/-- A text that ends with no blank holds more than its first line if it holds a line feed. -/
theorem bare_rest_of_line_lt {text : List Char} (feed : '\n' ∈ text)
    (last : ∀ c ∈ text.getLast?, isBlank c = false) :
    (bare (restOfLine text)).length < (bare text).length := by
  have split : restOfLine text ++ text.dropWhile isInLine = text := List.takeWhile_append_dropWhile
  have later : text.dropWhile isInLine ≠ [] := by
    intro nothing
    exact absurd (List.dropWhile_eq_nil_iff.mp nothing '\n' feed) (by decide)
  have solid : bare (text.dropWhile isInLine) ≠ [] := by
    intro blank
    refine not_gap_of_last (split.symm ▸ last) later fun c member => ?_
    simpa using List.filter_eq_nil_iff.mp blank c member
  have lengths := congrArg (fun text => (bare text).length) split
  have positive := List.length_pos_iff.mpr solid
  simp only [bare_append, List.length_append] at lengths
  omega

end ErDiagram.Text
