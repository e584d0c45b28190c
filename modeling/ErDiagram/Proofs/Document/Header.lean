import ErDiagram.Proofs.Command.Agreement
import ErDiagram.Proofs.Document.Verdict

/-!
# Adding a header

Markup without a header is given one on a line of its own. That line says nothing in either dialect and
opens no entity, so the markup is read as before and judged by its own lines. It is not corrected again:
what has been found fit for drawing is given back as it is or holds no entity at all.
-/

namespace ErDiagram

set_option autoImplicit false

open Text

def withHeader (markup : String) : String := "erDiagram\n" ++ markup

/-- The first line of the markup begins with the header, blanks apart. -/
def BeginsWithHeader (markup : String) : Prop :=
  "erDiagram".toList <+: trim ((lines markup.toList).headD [])

def OpensEntity (markup : String) : Prop :=
  ∃ line ∈ lines markup.toList, opensEntity line = true

instance (markup : String) : Decidable (BeginsWithHeader markup) :=
  inferInstanceAs (Decidable ("erDiagram".toList <+: trim ((lines markup.toList).headD [])))

instance (markup : String) : Decidable (OpensEntity markup) :=
  inferInstanceAs (Decidable (∃ line ∈ lines markup.toList, opensEntity line = true))

variable {markup better : String}

theorem has_header_iff : hasHeader markup.toList = true ↔ BeginsWithHeader markup := by
  rw [hasHeader, is_some_after_iff, BeginsWithHeader, List.headD_eq_head?_getD]
  rfl

theorem corrected_of_no_header (missing : ¬ BeginsWithHeader markup) :
    Verdict.ofMarkup markup = .corrected (withHeader markup) := by
  rw [← has_header_iff, Bool.not_eq_true] at missing
  rw [Verdict.ofMarkup, missing]
  rfl

theorem better_of_corrected (corrected : Verdict.ofMarkup markup = .corrected better) :
    better = withHeader markup := by
  by_cases begins : BeginsWithHeader markup
  · rw [Verdict.ofMarkup, has_header_iff.mpr begins] at corrected
    simp only [Bool.not_true, Bool.false_eq_true, if_false] at corrected
    split at corrected <;> contradiction
  · rw [corrected_of_no_header begins] at corrected
    cases corrected
    rfl

theorem lines_with_header (markup : String) :
    lines (withHeader markup).toList = header.toList :: lines markup.toList := by
  have split : (withHeader markup).toList = header.toList ++ '\n' :: markup.toList := by
    rw [withHeader, String.toList_append]
    rfl
  rw [split]
  apply lines_append_line_feed
  exact ⟨by decide, by decide⟩

theorem begins_with_header_added (markup : String) : BeginsWithHeader (withHeader markup) := by
  rw [BeginsWithHeader, lines_with_header, List.headD_cons]
  decide

/-- The header opens no entity, so markup with a header added is judged by its own lines. -/
theorem verdict_with_header (markup : String) :
    Verdict.ofMarkup (withHeader markup) =
      if OpensEntity markup then .valid else .noEntities := by
  have closed : opensEntity header.toList = false := by decide
  rw [Verdict.ofMarkup, has_header_iff.mpr (begins_with_header_added markup), lines_with_header,
    List.any_cons, closed, Bool.false_or]
  simp only [Bool.not_true, Bool.false_eq_true, if_false, List.any_eq_true]
  exact if_congr Iff.rfl rfl rfl

theorem statements_with_header (dialect : Dialect) (defaultLabel markup : String) :
    statementsOf dialect defaultLabel (withHeader markup) =
      statementsOf dialect defaultLabel markup := by
  have silent : readLine dialect defaultLabel none header.toList = ⟨none, none⟩ := by
    cases dialect <;> rfl
  rw [statementsOf, lines_with_header, statements_after_cons silent]
  rfl

theorem drawable_again (drawn : drawable markup = .ok better) :
    drawable better = .ok better ∨ drawable better = .error "no entities found in the diagram" := by
  cases verdict : Verdict.ofMarkup markup with
  | valid =>
      rw [drawable, verdict] at drawn
      cases drawn
      left
      rw [drawable, verdict]
      rfl
  | corrected found =>
      rw [drawable, verdict] at drawn
      cases drawn
      rw [better_of_corrected verdict, drawable, verdict_with_header]
      split
      · exact .inl rfl
      · exact .inr rfl
  | noEntities =>
      rw [drawable, verdict] at drawn
      contradiction

theorem check_again {file : Option String} {text : String}
    (written : (endingOn (fun _ => .ok markup) (.checkMarkup file)).Writes text) :
    (endingOn (fun _ => .ok text) (.checkMarkup file)).Writes text ∨
      endingOn (fun _ => .ok text) (.checkMarkup file) =
        { status := 1, errors := "ERROR: no entities found in the diagram\n" } := by
  rcases drawable_again ((run_writes_drawable_iff rfl).mp written) with same | nothing
  · exact .inl ((run_writes_drawable_iff rfl).mpr same)
  · right
    obtain ⟨missing, message⟩ := drawable_eq_error_iff.mp nothing
    have fails : (Command.checkMarkup file).FailsBy (fun _ => .ok text)
      (.unusable (Verdict.ofMarkup text)) := .unusable rfl missing
    have told : (CommandError.unusable (Verdict.ofMarkup text)).message =
      "no entities found in the diagram" := message
    rw [ending_of_fails_by fails, told]
    rfl

/-- Markup that has been given a header says what it said before and is not corrected again. Once markup
can be drawn it stays as it is, unless no entity is found in it. -/
theorem header_added_once (markup : String) :
    (∀ better, Verdict.ofMarkup markup = .corrected better →
        better = "erDiagram\n" ++ markup ∧
        (∀ other, Verdict.ofMarkup better ≠ .corrected other) ∧
        Verdict.ofMarkup better = (if OpensEntity markup then .valid else .noEntities) ∧
        ∀ dialect defaultLabel, ∃ document,
          readDescription dialect { defaultLabel } better = .ok document ∧
            readDescription dialect { defaultLabel } markup = .ok document) ∧
      (¬ BeginsWithHeader markup → Verdict.ofMarkup markup = .corrected ("erDiagram\n" ++ markup)) ∧
      (∀ text, drawable markup = .ok text →
        drawable text = .ok text ∨ drawable text = .error "no entities found in the diagram") ∧
      ∀ file text, (endingOn (fun _ => .ok markup) (.checkMarkup file)).Writes text →
        (endingOn (fun _ => .ok text) (.checkMarkup file)).Writes text ∨
          endingOn (fun _ => .ok text) (.checkMarkup file) =
            { status := 1, errors := "ERROR: no entities found in the diagram\n" } := by
  refine ⟨?_, corrected_of_no_header, fun text => drawable_again, ?_⟩
  rotate_left
  · intro file text written
    exact check_again written
  intro better corrected
  have same := better_of_corrected corrected
  have judged := verdict_with_header markup
  rw [← same] at judged
  refine ⟨same, ?_, judged, ?_⟩
  · intro other again
    rw [judged] at again
    split at again <;> contradiction
  · intro dialect defaultLabel
    refine ⟨statementsOf dialect defaultLabel markup, ?_, rfl⟩
    rw [readDescription, same, statements_with_header]

/-- A header below an empty line does not count, and markup that is given one need not hold an entity. -/
theorem header_added_above_empty_line :
    let users := "\r\n erDiagram\nusers \x7b id"
    Verdict.ofMarkup users = .corrected ("erDiagram\n" ++ users) ∧
      Verdict.ofMarkup ("erDiagram\n" ++ users) = .valid ∧
      drawable ("erDiagram\n" ++ users) = .ok ("erDiagram\n" ++ users) ∧
      (endingOn (fun _ => .ok "users id") (.checkMarkup none)).Writes "erDiagram\nusers id" ∧
      endingOn (fun _ => .ok "erDiagram\nusers id") (.checkMarkup none) =
        { status := 1, errors := "ERROR: no entities found in the diagram\n" } := by
  intro users
  obtain ⟨better, adds, again, -⟩ := header_added_once users
  obtain ⟨-, addsId, -, run⟩ := header_added_once "users id"
  have corrected := adds (by decide)
  obtain ⟨-, -, judged, -⟩ := better _ corrected
  rw [if_pos (by decide)] at judged
  have drawn : drawable users = .ok ("erDiagram\n" ++ users) := by
    rw [drawable, corrected]
    rfl
  have given : drawable "users id" = .ok "erDiagram\nusers id" := by
    rw [drawable, addsId (by decide)]
    rfl
  have empty : Verdict.ofMarkup "erDiagram\nusers id" = .noEntities := by decide
  have written : (endingOn (fun _ => .ok "users id") (.checkMarkup none)).Writes "erDiagram\nusers id" :=
    (run_writes_drawable_iff rfl).mpr given
  refine ⟨corrected, judged, ?_, written, ?_⟩
  · apply (again _ drawn).resolve_right
    rw [drawable, judged]
    simp [Verdict.isUsable]
  · apply (run none _ written).resolve_left
    rw [run_writes_drawable_iff rfl, drawable, empty]
    simp [Verdict.isUsable]

end ErDiagram
