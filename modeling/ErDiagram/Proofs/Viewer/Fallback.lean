import ErDiagram.Proofs.Description.Reading
import ErDiagram.Proofs.Text.Blank
import ErDiagram.Proofs.Viewer.Memory

/-!
# What a viewer shows

A description is refused only for its length. A refused one is shown as it stands. Any other is drawn
from its markup, and the markup is shown as text if the renderer fails. The text view shows the same
text as the last display would show without a renderer, and finds none only where nothing was displayed
or a blank description was refused: no markup is blank.
-/

namespace ErDiagram

set_option autoImplicit false

open Text

/-- The whole markup that the lines of a request give. -/
def Request.fullMarkup (options : ReadingOptions) (request : Request) : String :=
  Document.render (statementsOf request.dialect options.defaultLabel request.description)

theorem markup_of_refused {options : ReadingOptions} {request : Request}
    (refused : options.Refuse request.description) :
    markup? request.dialect options request.description = none := by
  obtain ⟨limit, bounded, exceeded⟩ := refused
  have failed : readDescription request.dialect options request.description =
      .error (.tooManyLines (lines request.description.toList).length limit) := by
    simp only [readDescription, bounded, if_pos exceeded]
  rw [markup?, failed]

theorem markup_of_accepted {options : ReadingOptions} {request : Request}
    (accepted : ¬ options.Refuse request.description) :
    markup? request.dialect options request.description = some (request.fullMarkup options) := by
  rw [markup?, read_accepted request.dialect accepted, Request.fullMarkup]

theorem has_content_iff {text : String} : hasContent text = true ↔ ¬ Gap text.toList := by
  rw [hasContent, Bool.not_eq_true', List.isEmpty_eq_false_iff, Ne, trim_eq_nil_iff]

/-- The header keeps any markup from being blank. -/
theorem markup_has_content (document : Document) : hasContent document.render = true := by
  have written : 'e' ∈ document.render.toList := by
    rw [Document.render, Document.lines, endLines_cons, String.toList_append, String.toList_append]
    exact List.mem_append_left _ (List.mem_append_left _ (by decide))
  rw [has_content_iff]
  intro blank
  exact absurd (blank 'e' written) (by decide)

/-- What it takes to display a request when the renderer fails for the reason `fault`, if it does. -/
structure Response.Displays (options : ReadingOptions) (fault : Option String) (request : Request)
    (response : Response) : Prop where
  refused : options.Refuse request.description →
    response.calls = [.text request.description] ∧ response.answer = .displayed .readingFailed
  rendered : ¬ options.Refuse request.description → fault = none →
    response.calls = [.diagram (request.fullMarkup options)] ∧ response.answer = .displayed .rendered
  failed : ∀ reason, ¬ options.Refuse request.description → fault = some reason →
    response.calls = [.diagram (request.fullMarkup options), .text (request.fullMarkup options)] ∧
      response.answer = .displayed (.renderingFailed reason)

/-- What it takes to view as text what was displayed last. -/
structure Response.Views (options : ReadingOptions) (last : Option Request) (response : Response) :
    Prop where
  notFound : response.answer = .viewed false ↔
    last = none ∨ ∃ request, last = some request ∧ options.Refuse request.description ∧
      Gap request.description.toList
  notice : response.answer = .viewed false → response.calls = [.text noDataNotice]
  description : ∀ request, last = some request → options.Refuse request.description →
    ¬ Gap request.description.toList →
      response.answer = .viewed true ∧ response.calls = [.text request.description]
  markup : ∀ request, last = some request → ¬ options.Refuse request.description →
    response.answer = .viewed true ∧ response.calls = [.text (request.fullMarkup options)]

theorem display_displays (options : ReadingOptions) (fault : Option String) (request : Request) :
    (request.display options fault).Displays options fault request := by
  constructor
  · intro refused
    simp only [Request.display, markup_of_refused refused, and_self]
  · rintro accepted rfl
    simp only [Request.display, markup_of_accepted accepted, and_self]
  · rintro reason accepted rfl
    simp only [Request.display, markup_of_accepted accepted, and_self]

/-- The text that a viewer finds after a display is the markup, or a description that is not blank. -/
theorem text_after_refused {options : ReadingOptions} {request : Request}
    (refused : options.Refuse request.description) :
    (Viewer.after options (some request)).text? =
      if hasContent request.description then some request.description else none := by
  rw [Viewer.text?, Viewer.after, Option.bind_some, markup_of_refused refused]
  rfl

theorem text_after_accepted {options : ReadingOptions} {request : Request}
    (accepted : ¬ options.Refuse request.description) :
    (Viewer.after options (some request)).text? = some (request.fullMarkup options) := by
  have content : hasContent (request.fullMarkup options) = true := markup_has_content _
  rw [Viewer.text?, Viewer.after, Option.bind_some, markup_of_accepted accepted]
  simp only [Option.some_or, Option.filter_some, content, if_true]

theorem text_view_found {viewer : Viewer} {text : String} (found : viewer.text? = some text) :
    viewer.viewAsText = ⟨viewer, [.text text], .viewed true⟩ := by
  rw [Viewer.viewAsText, found]

theorem text_view_not_found {viewer : Viewer} (missing : viewer.text? = none) :
    viewer.viewAsText = ⟨viewer, [.text noDataNotice], .viewed false⟩ := by
  rw [Viewer.viewAsText, missing]

theorem text_view_views (options : ReadingOptions) (last : Option Request) :
    (Viewer.after options last).viewAsText.Views options last := by
  cases last with
  | none =>
      rw [text_view_not_found rfl]
      constructor <;> simp
  | some request =>
      by_cases refused : options.Refuse request.description
      · have text := text_after_refused refused
        by_cases blank : Gap request.description.toList
        · have empty : hasContent request.description = false :=
            Bool.eq_false_iff.mpr fun content => has_content_iff.mp content blank
          rw [empty, if_neg Bool.false_ne_true] at text
          rw [text_view_not_found text]
          constructor <;> simp [refused, blank]
        · rw [if_pos (has_content_iff.mpr blank)] at text
          rw [text_view_found text]
          constructor <;> simp [refused, blank]
      · rw [text_view_found (text_after_accepted refused)]
        constructor <;> simp [refused]

/-- After any actions, and whatever the renderer answers, each action shows what the options allow of the
description in question: the one displayed, or the one displayed last. -/
theorem fallback_chain (options : ReadingOptions) (faults : List (Option String))
    (actions : List Action) :
    let session := (Session.run options { faults } actions).2
    let last := lastDisplayed? actions
    let fault := session.faults.head?.join
    (∀ request, (session.perform options (.display request)).1.Displays options fault request) ∧
      (∀ request, last = some request →
        (session.perform options .retry).1.Displays options fault request) ∧
      (last = none → (session.perform options .retry).1.calls = []) ∧
      (session.perform options .viewAsText).1.Views options last := by
  intro session last fault
  have remembered : session.viewer = Viewer.after options last := by
    have run := viewer_of_run options actions none faults
    rwa [Option.or_none] at run
  refine ⟨fun request => display_displays options fault request, ?_, ?_, ?_⟩
  · intro request displayed
    have known : session.viewer.request = some request := by rw [remembered, Viewer.after, displayed]
    rw [retry_displays_again known]
    exact display_displays options fault request
  · intro nothing
    have forgotten : session.viewer.request = none := by rw [remembered, Viewer.after, nothing]
    rw [nothing_to_retry forgotten]
  · have viewed := text_view_views options last
    rw [← remembered] at viewed
    exact viewed

theorem fallback_chain_after_refusal :
    let options : ReadingOptions := { maxLines := some 1 }
    let users : Request := ⟨"users (", .relational⟩
    let blank : Request := ⟨"\n \n", .entityRelationship⟩
    let session := (Session.run options { faults := [none, some "parse error"] }
      [.display users, .viewAsText, .display blank]).2
    ¬ options.Refuse users.description ∧ options.Refuse blank.description ∧
      (session.perform options (.display users)).1.calls =
        [.diagram "erDiagram\n    users \x7b\n", .text "erDiagram\n    users \x7b\n"] ∧
      (session.perform options .retry).1.calls = [.text blank.description] ∧
      (session.perform options .viewAsText).1.calls = [.text noDataNotice] := by
  intro options users blank session
  have accepted : ¬ options.Refuse users.description := by
    rintro ⟨limit, bounded, exceeded⟩
    cases bounded
    exact absurd exceeded (by decide)
  have refused : options.Refuse blank.description := ⟨1, rfl, by decide⟩
  obtain ⟨displays, retries, -, views⟩ :=
    fallback_chain options [none, some "parse error"] [.display users, .viewAsText, .display blank]
  have drawn : users.fullMarkup options = "erDiagram\n    users \x7b\n" := by decide
  have reason : session.faults.head?.join = some "parse error" := by decide
  have failed := (displays users).failed "parse error" accepted reason
  rw [drawn] at failed
  have notFound := views.notFound.mpr (.inr ⟨blank, rfl, refused, by decide⟩)
  exact ⟨accepted, refused, failed.1,
    ((retries blank rfl).refused refused).1, views.notice notFound⟩

end ErDiagram
