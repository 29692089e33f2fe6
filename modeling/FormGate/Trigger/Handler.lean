import FormGate.Trigger.World

/-!
# Handling triggers

An attempt to submit is prevented first, and the form is submitted again only if every field is
valid. A field that loses the focus is validated together with its form and submits nothing. A
trigger that arrives while another pass is evaluating is ignored. Whatever fails, the controller
ends up idle.
-/

namespace FormGate

open World

namespace Report

def enter (r : Report) (phase : Phase) : StateM World Report := do
  modify (World.enter phase)
  return { r with transitions := r.transitions ++ [phase] }

/-- Returns to the idle phase. -/
def settleDown (r : Report) : StateM World Report := do
  if (← get).phase = .idle then return r else r.enter .idle

/-- Completes a report with the diagnostics since the marker. -/
def finish (r : Report) (marker : Nat) : StateM World Report := do
  let r ← r.settleDown
  return { r with diagnostics := (← get).collector.since marker }

/-- Breaks a pass off for a failure, which is reported as an error. -/
def abort (r : Report) (marker : Nat) (e : Failure) : StateM World Report := do
  let context : Context := { operation := r.trigger.operation, component := "TriggerController" }
  modify fun w => { w with collector := w.collector.report e context .error }
  finish { r with aborted := true } marker

/-- Leaves a trigger alone to which the form has not opted in. -/
def ignore (r : Report) : StateM World Handled := do
  let _ ← r.settleDown
  return {}

/-- What follows the evaluation of a form: it is submitted if it is valid, and else the first
invalid field is scrolled to where the form has opted in to that. -/
def decide (r : Report) (before : Before) (marker : Nat) (b : Binding) (o : FormOutcome) :
    StateM World Report := do
  let decision : Phase := if o.valid then .submittable else .blocked
  let r ← enter { r with outcome := some o } decision
  let r := { r with decision := some decision }
  if o.valid then
    match ← onPage before (fun _ => [.submit, .caption]) fun d => (.ok (), d.submit b.form) with
    | .ok () => finish { r with submitted := true } marker
    | .error e => r.abort marker e
  else
    match b.scroll, o.firstInvalid? with
    | true, some field =>
      match ← onPage before (fun _ => [.scrollTo, .caption]) fun d => (.ok (), d.scrollTo field.element) with
      | .ok () => r.finish marker
      | .error e => r.abort marker e
    | _, _ => r.finish marker

end Report

namespace Setup

def handleSubmit (s : Setup) (before : Before) (form : Element) : StateM World Handled := do
  let w ← get
  if w.phase = .evaluating then return {}
  let marker := w.collector.mark
  let r : Report := { trigger := .submit form }
  match ← runPass before (s.binding form) with
  | .error e => return ⟨some (← r.abort marker e), true⟩
  | .ok b =>
    if !b.validatesOnSubmit then r.ignore
    else
      let r ← r.enter .evaluating
      match ← runPass before (s.validateForm form) with
      | .error e => return ⟨some (← r.abort marker e), true⟩
      | .ok o => return ⟨some (← r.decide before marker b o), true⟩

/-- The form around an element that has lost the focus, if it has opted in to that. -/
def liveForm (s : Setup) (e : Element) : Pass (Option Element) := do
  match ← Pass.ask (.closestForm e) with
  | none => return none
  | some form => return if (← s.binding form).onBlur then some form else none

/-- Judges the element that has lost the focus, where it carries rules. -/
def judgeLeft (s : Setup) (e form : Element) : Pass (Option (Descriptor × Outcome)) := do
  match ← Pass.ask (.attributeOf e s.config.attributes.rules) with
  | none => return none
  | some _ => return some (← s.validateField e (some form))

def handleBlur (s : Setup) (before : Before) (e : Element) : StateM World Handled := do
  let w ← get
  if w.phase = .evaluating then return {}
  let marker := w.collector.mark
  let r : Report := { trigger := .blur e }
  match ← runPass before (s.liveForm e) with
  | .error failure => return ⟨some (← r.abort marker failure), false⟩
  | .ok none => r.ignore
  | .ok (some form) =>
    let r ← r.enter .evaluating
    match ← runPass before (s.judgeLeft e form) with
    | .error failure => return ⟨some (← r.abort marker failure), false⟩
    | .ok judged =>
      let r : Report := { r with fieldOutcome := judged.map (·.2) }
      match ← runPass before (s.validateForm form judged) with
      | .error failure => return ⟨some (← r.abort marker failure), false⟩
      | .ok o => return ⟨some (← Report.finish { r with outcome := some o } marker), false⟩

def handle (s : Setup) (before : Before) : Trigger → StateM World Handled
  | .submit form => s.handleSubmit before form
  | .blur e => s.handleBlur before e

/-- What the pending interventions do before a call, at most `depth` of them inside each other. -/
def intervene (s : Setup) : (depth : Nat) → Before
  | 0, _ => pure (.ok ())
  | depth + 1, kind => do
    let (i, pending) := Intervention.due kind (← get).pending
    modify fun w => { w with pending }
    match i with
    | none => return .ok ()
    | some i =>
      i.triggers.forM fun t => do
        let arrival := (← get).phase
        let handled ← s.handle (s.intervene depth) t
        modify fun w => { w with interludes := w.interludes ++ [⟨handled, w.page, arrival⟩] }
      return match i.failure with
        | some e => .error e
        | none => .ok ()

/-- Handles a trigger into which the given interventions may come. -/
def handleWith (s : Setup) (interventions : List Intervention) (t : Trigger) :
    StateM World Handled := do
  modify fun w => { w with pending := interventions, interludes := [] }
  s.handle (s.intervene interventions.length) t

end Setup

end FormGate
