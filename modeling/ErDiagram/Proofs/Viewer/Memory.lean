import ErDiagram.Viewer

/-!
# What a viewer remembers

A session performs its actions one after another. Whatever they are and however the renderer answers,
the viewer remembers the request that was displayed last, with the markup that this request alone
gives. A retry therefore does what displaying that request again does, and a view as text changes
nothing.
-/

namespace ErDiagram

set_option autoImplicit false

/-- The responses to the actions in order, and the session after them. -/
def Session.run (options : ReadingOptions) (session : Session) :
    List Action → List Response × Session
  | [] => ([], session)
  | action :: rest =>
    let performed := session.perform options action
    let later := performed.2.run options rest
    (performed.1 :: later.1, later.2)

def Action.displayed? : Action → Option Request
  | display request => some request
  | retry => none
  | viewAsText => none

/-- The request of the last of the actions that displays one. -/
def lastDisplayed? (actions : List Action) : Option Request :=
  (actions.filterMap Action.displayed?).getLast?

/-- The memory of a viewer that has displayed this request last, or none so far. -/
def Viewer.after (options : ReadingOptions) (last : Option Request) : Viewer where
  request := last
  markup := last.bind fun request => markup? request.dialect options request.description

theorem last_displayed_cons (action : Action) (rest : List Action) (last : Option Request) :
    (lastDisplayed? (action :: rest)).or last =
      (lastDisplayed? rest).or (action.displayed?.or last) := by
  cases action with
  | display request =>
      have tail : lastDisplayed? (.display request :: rest) =
          (lastDisplayed? rest).or (some request) := by
        have listed : (Action.display request :: rest).filterMap Action.displayed? =
            request :: rest.filterMap Action.displayed? := rfl
        rw [lastDisplayed?, listed, List.getLast?_cons, lastDisplayed?]
        cases (rest.filterMap Action.displayed?).getLast? <;> rfl
      rw [tail, Option.or_assoc]
      rfl
  | retry => rfl
  | viewAsText => rfl

theorem viewer_of_display (options : ReadingOptions) (fault : Option String) (request : Request) :
    (request.display options fault).viewer = Viewer.after options (some request) := by
  rw [Request.display, Viewer.after, Option.bind_some]
  cases markup? request.dialect options request.description with
  | none => rfl
  | some markup => cases fault <;> rfl

theorem viewer_of_text_view (viewer : Viewer) : viewer.viewAsText.viewer = viewer := by
  rw [Viewer.viewAsText]
  split <;> rfl

theorem viewer_of_perform (options : ReadingOptions) (fault : Option String) (last : Option Request)
    (action : Action) :
    ((Viewer.after options last).perform options fault action).viewer =
      Viewer.after options (action.displayed?.or last) := by
  cases action with
  | display request => exact viewer_of_display options fault request
  | viewAsText => exact viewer_of_text_view _
  | retry =>
      cases last with
      | none => rfl
      | some request => exact viewer_of_display options fault request

/-- After any actions the viewer remembers the request displayed last, which may be the one from before
the actions. -/
theorem viewer_of_run (options : ReadingOptions) (actions : List Action) (last : Option Request)
    (faults : List (Option String)) :
    (Session.run options ⟨Viewer.after options last, faults⟩ actions).2.viewer =
      Viewer.after options ((lastDisplayed? actions).or last) := by
  induction actions generalizing last faults with
  | nil => rfl
  | cons action rest ih =>
      have kept := viewer_of_perform options faults.head?.join last action
      rw [last_displayed_cons, ← ih (action.displayed?.or last), ← kept]
      rfl

theorem session_of_text_view (options : ReadingOptions) (session : Session) :
    (session.perform options .viewAsText).2 = session := by
  have noDiagram : session.viewer.viewAsText.calls.countP Call.isDiagram = 0 := by
    rw [Viewer.viewAsText]
    split <;> rfl
  simp only [Session.perform, Viewer.perform, viewer_of_text_view, noDiagram, List.drop_zero]

theorem nothing_to_retry {session : Session} (forgotten : session.viewer.request = none)
    (options : ReadingOptions) :
    session.perform options .retry = (⟨session.viewer, [], .nothingToRetry⟩, session) := by
  have idle : session.viewer.retry options session.faults.head?.join =
      ⟨session.viewer, [], .nothingToRetry⟩ := by
    rw [Viewer.retry, forgotten]
  simp only [Session.perform, Viewer.perform, idle, List.countP_nil, List.drop_zero]

theorem retry_displays_again {session : Session} {request : Request}
    (remembered : session.viewer.request = some request) (options : ReadingOptions) :
    session.perform options .retry = session.perform options (.display request) := by
  have same : session.viewer.retry options session.faults.head?.join =
      request.display options session.faults.head?.join := by
    rw [Viewer.retry, remembered]
  simp only [Session.perform, Viewer.perform, same]

theorem retries_display_again (times : Nat) {session : Session} {request : Request}
    (remembered : session.viewer.request = some request) (options : ReadingOptions) :
    session.run options (List.replicate times .retry) =
      session.run options (List.replicate times (.display request)) := by
  induction times generalizing session with
  | zero => rfl
  | succ times ih =>
      have again := retry_displays_again remembered options
      have next : (session.perform options (.display request)).2.viewer.request = some request := by
        have viewer := viewer_of_display options session.faults.head?.join request
        exact congrArg Viewer.request viewer
      simp only [List.replicate_succ, Session.run, again, ih next]

theorem markup_eq_none_iff (dialect : Dialect) (options : ReadingOptions) (description : String) :
    markup? dialect options description = none ↔
      ∃ fault, readDescription dialect options description = .error fault := by
  rw [markup?]
  cases readDescription dialect options description with
  | error fault => simp
  | ok document => simp

/-- A session that has displayed nothing remembers nothing, and has nothing to retry. -/
structure Session.Unused (options : ReadingOptions) (session : Session) : Prop where
  forgotten : session.viewer.request = none
  markup : session.viewer.markup = none
  retried : session.perform options .retry = (⟨session.viewer, [], .nothingToRetry⟩, session)

/-- A session agrees with the request that it has displayed last. Any number of retries are answered
with the same calls and outcomes as displaying the request so often again, and lead to the same
session. -/
structure Session.Agrees (options : ReadingOptions) (session : Session) (request : Request) : Prop where
  remembered : session.viewer.request = some request
  markup : session.viewer.markup = markup? request.dialect options request.description
  unreadable : session.viewer.markup = none ↔
    ∃ fault, readDescription request.dialect options request.description = .error fault
  retried : ∀ times, session.run options (List.replicate times .retry) =
    session.run options (List.replicate times (.display request))

/-- After any actions, and whatever the renderer answers, the memory is that of the last display. -/
theorem memory_of_last_display (options : ReadingOptions) (faults : List (Option String))
    (actions : List Action) :
    let session := (Session.run options { faults } actions).2
    (match lastDisplayed? actions with
      | none => session.Unused options
      | some request => session.Agrees options request) ∧
    (session.perform options .viewAsText).2 = session := by
  intro session
  have remembered : session.viewer = Viewer.after options (lastDisplayed? actions) := by
    have run := viewer_of_run options actions none faults
    rwa [Option.or_none] at run
  refine ⟨?_, session_of_text_view options session⟩
  cases last : lastDisplayed? actions with
  | none =>
      rw [last] at remembered
      have forgotten : session.viewer.request = none := by rw [remembered, Viewer.after]
      have markup : session.viewer.markup = none := by rw [remembered]; rfl
      exact ⟨forgotten, markup, nothing_to_retry forgotten options⟩
  | some request =>
      rw [last] at remembered
      have known : session.viewer.request = some request := by rw [remembered, Viewer.after]
      have markup : session.viewer.markup =
          markup? request.dialect options request.description := by rw [remembered]; rfl
      refine ⟨known, markup, ?_, fun times => retries_display_again times known options⟩
      rw [markup, markup_eq_none_iff]

end ErDiagram
