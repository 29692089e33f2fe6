import FormGate.Diagnostic.Collector
import FormGate.Pass.Form

/-!
# Triggers

A form opts in to being validated when it is submitted, or when one of its fields loses the focus,
by its attributes. What a trigger did is told in a report.
-/

namespace FormGate

/-- The phases of the handling of a trigger. -/
inductive Phase
  | idle
  | evaluating
  | submittable
  | blocked
  deriving DecidableEq, Repr

def Phase.name : Phase → String
  | idle => "idle"
  | evaluating => "evaluating"
  | submittable => "submittable"
  | blocked => "blocked"

/-- The events that start a pass: an attempt to submit a form, and an element that loses the
focus. -/
inductive Trigger
  | submit (form : Element)
  | blur (e : Element)
  deriving DecidableEq, Repr

namespace Trigger

def name : Trigger → String
  | submit _ => "submit"
  | blur _ => "blur"

/-- The operation that handles a trigger, as diagnostics name it. -/
def operation : Trigger → String
  | submit _ => "handle_submit"
  | blur _ => "handle_blur"

end Trigger

/-- The triggers that a form has opted in to, and whether it scrolls to its first invalid field. -/
structure Binding where
  form : Element
  onSubmit : Bool := false
  onBlur : Bool := false
  scroll : Bool := false
  deriving DecidableEq, Repr

/-- A form that is validated when a field loses the focus is validated on submission too. -/
def Binding.validatesOnSubmit (b : Binding) : Bool :=
  b.onSubmit || b.onBlur

namespace Setup

open Pass

/-- Whether an attribute turns something on. -/
def isEnabled (s : Setup) (value : Option String) : Bool :=
  value.any fun v => Text.lower (Text.trim v) == s.config.attributes.enabledValue

/-- Reads what a form has opted in to. -/
def binding (s : Setup) (form : Element) : Pass Binding := do
  let a := s.config.attributes
  let onSubmit ← ask (.attributeOf form a.onSubmit)
  let onBlur ← ask (.attributeOf form a.onBlur)
  let scroll ← ask (.attributeOf form a.scroll)
  return ⟨form, s.isEnabled onSubmit, s.isEnabled onBlur, s.isEnabled scroll⟩

/-- The forms in a scope that have opted in to any trigger. -/
def bindings (s : Setup) (scope : Option Element) : Pass (List Binding) := do
  let forms ← ask (.forms scope)
  let all ← forms.mapM s.binding
  return all.filter (·.validatesOnSubmit)

end Setup

/-- What one trigger did: the phases that it entered, what it decided, the outcomes, and the
diagnostics that were reported meanwhile. -/
structure Report where
  trigger : Trigger
  decision : Option Phase := none
  outcome : Option FormOutcome := none
  fieldOutcome : Option Outcome := none
  transitions : List Phase := []
  submitted : Bool := false
  aborted : Bool := false
  diagnostics : List Diagnostic := []

def Report.valid (r : Report) : Bool :=
  r.outcome.any (·.valid)

/-- How a trigger was handled: its report, unless it was ignored, and whether the page's own
submission was prevented. -/
structure Handled where
  report : Option Report := none
  prevented : Bool := false

end FormGate
