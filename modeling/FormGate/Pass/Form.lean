import FormGate.Pass.Field

/-!
# Validating a form

Every field of a form is judged in document order. A field that is not valid gets one feedback
element with all its messages and the class for invalid fields; a valid field loses both. In the
end the submit buttons are enabled exactly if all fields are valid.
-/

namespace FormGate

namespace Pass

/-- Enables or disables the submit buttons of a form. -/
def gateControls (scope : Element) (valid : Bool) : Pass Unit := do
  let controls ← ask (.submitControls scope)
  controls.forM fun c => ask (.setDisabled c !valid)

end Pass

namespace Setup

open Pass

/-- Brings what the page shows of a field in line with its outcome. -/
def applyFeedback (s : Setup) (e : Element) (o : Outcome) : Pass Unit := do
  let p := s.config.presentation
  let existing ← ask (.feedback e p.feedbackClass)
  if o.valid then
    existing.forM fun f => ask (.remove f)
    ask (.removeClass e p.invalidClass)
  else
    match existing with
    | [] => ask (.insertFeedback e p.feedbackTag p.feedbackClasses o.errors)
    | first :: more =>
      ask (.setLines first o.errors)
      more.forM fun f => ask (.remove f)
    ask (.addClass e p.invalidClass)

/-- Judges a field and shows its outcome. -/
def validateField (s : Setup) (e : Element) (scope : Option Element) :
    Pass (Descriptor × Outcome) := do
  let r ← s.validate e scope
  s.applyFeedback e r.2
  return r

/-- Validates a form. A field that was judged before in the same pass is not judged again. -/
def validateForm (s : Setup) (scope : Element) (before : Option (Descriptor × Outcome) := none) :
    Pass FormOutcome := do
  let elements ← ask (.carriers scope s.config.attributes.rules)
  let fields ← elements.mapM fun e =>
    match before with
    | some r => if r.1.element = e then pure r else s.validateField e (some scope)
    | none => s.validateField e (some scope)
  let o : FormOutcome := ⟨fields⟩
  gateControls scope o.valid
  return o

end Setup

end FormGate
