import ErDiagram.Description.Reading

/-!
# Viewing a diagram

A viewer hands markup to a renderer that may fail, and falls back to text. A description that cannot
be read is shown as it stands, and markup that cannot be rendered is shown as text. The last request
is kept, so that it can be tried again or be viewed as text. Reports of failures are left out.
-/

namespace ErDiagram

open Text

structure Request where
  description : String
  dialect : Dialect
deriving DecidableEq, Repr

/-- What a viewer remembers: the last request, and its markup if the description could be read. -/
structure Viewer where
  request : Option Request := none
  markup : Option String := none
deriving DecidableEq, Repr

inductive Call where
  | diagram (markup : String)
  | text (shown : String)
deriving DecidableEq, Repr

inductive Outcome where
  | rendered
  | renderingFailed (fault : String)
  | readingFailed
deriving DecidableEq, Repr

inductive Action where
  | display (request : Request)
  | retry
  | viewAsText
deriving DecidableEq, Repr

/-- The answer to an action. A retry without a request does nothing, and the text view says whether
it found a text. -/
inductive Answer where
  | displayed (outcome : Outcome)
  | nothingToRetry
  | viewed (found : Bool)
deriving DecidableEq, Repr

/-- What an action leads to: the memory after it, the calls that it makes in order, and its answer. -/
structure Response where
  viewer : Viewer
  calls : List Call
  answer : Answer
deriving DecidableEq, Repr

/-- What the text view shows when there is no text. -/
def noDataNotice : String := "No data to display."

def renderingFaultMessage (fault : String) : String := "Render error: " ++ fault

def hasContent (text : String) : Bool := !(trim text.toList).isEmpty

/-- Shows a request. If the renderer is asked to draw, `fault` says why it fails, if it does. -/
def Request.display (options : ReadingOptions) (fault : Option String) (request : Request) :
    Response :=
  match markup? request.dialect options request.description with
  | none => ⟨⟨some request, none⟩, [.text request.description], .displayed .readingFailed⟩
  | some markup =>
    match fault with
    | none => ⟨⟨some request, some markup⟩, [.diagram markup], .displayed .rendered⟩
    | some fault =>
      ⟨⟨some request, some markup⟩, [.diagram markup, .text markup],
        .displayed (.renderingFailed fault)⟩

namespace Viewer

def retry (options : ReadingOptions) (fault : Option String) (viewer : Viewer) : Response :=
  match viewer.request with
  | none => ⟨viewer, [], .nothingToRetry⟩
  | some request => request.display options fault

def text? (viewer : Viewer) : Option String :=
  (viewer.markup.or (viewer.request.map (·.description))).filter hasContent

def viewAsText (viewer : Viewer) : Response :=
  match viewer.text? with
  | some text => ⟨viewer, [.text text], .viewed true⟩
  | none => ⟨viewer, [.text noDataNotice], .viewed false⟩

def perform (options : ReadingOptions) (fault : Option String) (viewer : Viewer) :
    Action → Response
  | .display request => request.display options fault
  | .retry => viewer.retry options fault
  | .viewAsText => viewer.viewAsText

end Viewer

def Call.isDiagram : Call → Bool
  | diagram _ => true
  | text _ => false

/-- A viewer at work with a renderer whose answers are known: for each time that it will be asked to
draw, why it fails, if it does. A renderer without further answers succeeds. -/
structure Session where
  viewer : Viewer := {}
  faults : List (Option String) := []

def Session.perform (options : ReadingOptions) (session : Session) (action : Action) :
    Response × Session :=
  let response := session.viewer.perform options session.faults.head?.join action
  (response, ⟨response.viewer, session.faults.drop (response.calls.countP Call.isDiagram)⟩)

end ErDiagram
