import FormGate.Document.Feedback

/-!
# Calls to the host

A pass reads and changes the page only by calls to the host that shows it. A call says what is
asked and of which element; its kind decides what is answered. Some calls are built on others of the
host's own. Here the host is a document.
-/

namespace FormGate

/-- The kinds of call. -/
inductive CallKind
  | forms
  | carriers
  | resolve
  | named
  | closestForm
  | container
  | tagName
  | attributeOf
  | caption
  | value
  | setValue
  | isChecked
  | addClass
  | removeClass
  | feedback
  | insertFeedback
  | setLines
  | remove
  | submitControls
  | setDisabled
  | submit
  | scrollTo
  deriving DecidableEq, Repr

/-- What a pass may ask of the host. Submitting and scrolling are left to the triggers. -/
inductive Call
  | forms (scope : Option Element)
  | carriers (scope : Element) (name : String)
  | resolve (reference : String) (scope : Option Element)
  | closestForm (e : Element)
  | tagName (e : Element)
  | attributeOf (e : Element) (name : String)
  | value (e : Element)
  | setValue (e : Element) (value : String)
  | isChecked (e : Element)
  | addClass (e : Element) (name : String)
  | removeClass (e : Element) (name : String)
  | feedback (e : Element) (name : String)
  | insertFeedback (e : Element) (tag : String) (classes lines : List String)
  | setLines (e : Element) (lines : List String)
  | remove (e : Element)
  | submitControls (scope : Element)
  | setDisabled (e : Element) (disabled : Bool)
  deriving DecidableEq, Repr

namespace Call

/-- The kinds of the calls that a call comes to on a document: its own, and then those on which it
is built. A feedback element is given its lines only after its place was found. -/
def kinds (d : Document) : Call → List CallKind
  | forms _ => [.forms]
  | carriers _ _ => [.carriers]
  | resolve reference _ =>
    if reference.toList.head? == some '#' then [.resolve] else [.resolve, .named]
  | closestForm _ => [.closestForm]
  | tagName _ => [.tagName]
  | attributeOf _ _ => [.attributeOf]
  | value _ => [.value]
  | setValue _ _ => [.setValue]
  | isChecked _ => [.isChecked]
  | addClass _ _ => [.addClass]
  | removeClass _ _ => [.removeClass]
  | feedback _ _ => [.feedback, .container]
  | insertFeedback e _ _ _ =>
    match d.space (d.container e) with
    | .ok _ => [.insertFeedback, .container, .setLines]
    | .error _ => [.insertFeedback, .container]
  | setLines _ _ => [.setLines]
  | remove _ => [.remove]
  | submitControls _ => [.submitControls]
  | setDisabled _ _ => [.setDisabled]

/-- What a call is answered with. -/
abbrev Answer : Call → Type
  | forms _ | carriers _ _ | resolve _ _ | feedback _ _ | submitControls _ => List Element
  | closestForm _ => Option Element
  | tagName _ | value _ => String
  | attributeOf _ _ => Option String
  | isChecked _ => Bool
  | setValue _ _ | addClass _ _ | removeClass _ _ | insertFeedback _ _ _ _ | setLines _ _
  | remove _ | setDisabled _ _ => Unit

/-- What a document answers to a call, and the document afterwards. -/
def perform : (c : Call) → Document → Except Failure c.Answer × Document
  | forms scope, d => (.ok (d.forms scope), d)
  | carriers scope name, d => (.ok (d.carriers scope name), d)
  | resolve reference scope, d => (.ok (d.resolve reference scope), d)
  | closestForm e, d => (.ok (d.closestForm? e), d)
  | tagName e, d => (.ok (d.tagName e), d)
  | attributeOf e name, d => (.ok (d.attribute? e name), d)
  | value e, d => (.ok (d.value e), d)
  | setValue e v, d => (.ok (), d.setValue e v)
  | isChecked e, d => (.ok (d.isChecked e), d)
  | addClass e name, d => (.ok (), d.addClass e name)
  | removeClass e name, d => (.ok (), d.removeClass e name)
  | feedback e name, d => (d.feedback e name, d)
  | insertFeedback e tag classes lines, d =>
    let (r, d) := (Document.insertFeedback e tag classes lines).run.run d
    (r.map fun _ => (), d)
  | setLines e lines, d => (Document.setLines e lines).run.run d
  | remove e, d => (.ok (), d.remove e)
  | submitControls scope, d => (.ok (d.submitControls scope), d)
  | setDisabled e disabled, d => (.ok (), d.setFlag e "disabled" disabled)

end Call

end FormGate
