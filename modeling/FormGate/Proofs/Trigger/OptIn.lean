import FormGate.Proofs.Config.Accepted
import FormGate.Proofs.Trigger.Blur
import FormGate.Proofs.Trigger.Prevention

/-!
# What turns an opt-in on

The value of an opt-in attribute is compared without its outer blanks and in lower case, the enabled
value as it was configured. So a value that differs from the enabled one in outer blanks and letter case
alone turns its flag on exactly if the enabled value is folded itself (`Setup.opted_in_iff`). Any other
enabled value is accepted too, and then a form that is marked with this very value has not opted in
(`Setup.configured_value_ignored`).
-/

namespace FormGate

open Document Pass World

/-- The text without outer blanks and in lower case. -/
def Text.folded (s : String) : String :=
  lower (trim s)

inductive OptIn
  | onSubmit
  | onBlur
  | scroll
  deriving DecidableEq, Repr

namespace OptIn

/-- The attribute by which a form opts in. -/
def attributeName (a : Config.Attributes) : OptIn → String
  | onSubmit => a.onSubmit
  | onBlur => a.onBlur
  | scroll => a.scroll

def flag (b : Binding) : OptIn → Bool
  | onSubmit => b.onSubmit
  | onBlur => b.onBlur
  | scroll => b.scroll

theorem validatesOnSubmit_iff (b : Binding) :
    b.validatesOnSubmit = true ↔ ∃ o : OptIn, o ≠ scroll ∧ o.flag b = true := by
  rw [Binding.validatesOnSubmit, Bool.or_eq_true]
  constructor
  · rintro (on | on)
    · exact ⟨onSubmit, by decide, on⟩
    · exact ⟨onBlur, by decide, on⟩
  · rintro ⟨o, other, on⟩
    cases o with
    | onSubmit => exact .inl on
    | onBlur => exact .inr on
    | scroll => exact absurd rfl other

end OptIn

namespace Setup

variable (s : Setup)

theorem flag_bindingOn (o : OptIn) (d : Document) (form : Element) :
    o.flag (s.bindingOn d form) =
      s.isEnabled (d.attribute? form (o.attributeName s.config.attributes)) := by
  cases o <;> rfl

/-- Of the values that are the enabled one when folded, each turns a flag on or none does. -/
theorem isEnabled_iff_of_folded {v : String}
    (same : Text.folded v = Text.folded s.config.attributes.enabledValue) :
    s.isEnabled (some v) = true ↔
      Text.folded s.config.attributes.enabledValue = s.config.attributes.enabledValue := by
  show (Text.folded v == s.config.attributes.enabledValue) = true ↔ _
  rw [same, beq_iff_eq]

/-- When nothing intervenes, an attempt to submit is prevented if the form has opted in. -/
theorem prevented_iff_validatesOnSubmit {d : Document} {w : World} (page : w.page = some d)
    (free : w.phase ≠ .evaluating) (form : Element) :
    ((s.handle undisturbed (.submit form)).run w).1.prevented = true ↔
      (s.bindingOn d form).validatesOnSubmit = true := by
  have read := (runs_binding (s := s) d form).world_silent page
  have course := s.handleSubmit_course undisturbed form w
  rw [show s.handle undisturbed (.submit form) = s.handleSubmit undisturbed form from rfl,
    course.prevented_iff, optsOut_iff read, and_iff_right free, Bool.not_eq_false]

/-- A form opts in by values that are the enabled one up to outer blanks and letter case exactly if the
enabled value is folded, and then the value as it was configured is one of them. The forms that are
listed, and those whose submissions are prevented, are the ones that have opted in. -/
theorem opted_in_iff (d : Document) (form : Element) :
    ∃ b, (s.binding form).Runs d b d [] ∧
      (∀ (o : OptIn) (v : String), d.attribute? form (o.attributeName s.config.attributes) = some v →
        Text.folded v = Text.folded s.config.attributes.enabledValue →
        (o.flag b = true ↔
          Text.folded s.config.attributes.enabledValue = s.config.attributes.enabledValue)) ∧
      (∀ o : OptIn, o ≠ .scroll → d.attribute? form (o.attributeName s.config.attributes) =
          some s.config.attributes.enabledValue →
        Text.folded s.config.attributes.enabledValue = s.config.attributes.enabledValue →
        b.validatesOnSubmit = true) ∧
      (∀ scope, form ∈ d.forms scope →
        ∃ bs, (s.bindings scope).Runs d bs d [] ∧ (b ∈ bs ↔ b.validatesOnSubmit = true)) ∧
      ∀ w : World, w.page = some d → w.phase ≠ .evaluating →
        (((s.handle undisturbed (.submit form)).run w).1.prevented = true ↔
          b.validatesOnSubmit = true) := by
  have agrees (o : OptIn) (v : String)
      (given : d.attribute? form (o.attributeName s.config.attributes) = some v)
      (same : Text.folded v = Text.folded s.config.attributes.enabledValue) :
      o.flag (s.bindingOn d form) = true ↔
        Text.folded s.config.attributes.enabledValue = s.config.attributes.enabledValue := by
    rw [flag_bindingOn, given, s.isEnabled_iff_of_folded same]
  refine ⟨s.bindingOn d form, runs_binding d form, agrees, fun o other given folded => ?_,
    fun scope listed => ⟨_, runs_bindings scope d, ?_⟩,
    fun w page free => s.prevented_iff_validatesOnSubmit page free form⟩
  · exact (OptIn.validatesOnSubmit_iff _).2 ⟨o, other, (agrees o _ given rfl).2 folded⟩
  · rw [List.mem_filter, and_iff_right (List.mem_map_of_mem listed)]

/-! ## A form that is marked with the enabled value -/

/-- A form that is marked for validation on submission. -/
def marked (value : String) : Document where
  tree := .cons ⟨0, .element "form", [("data-validate-on-submit", value)]⟩ "" .nil "" .nil
  fresh := 1

/-- A form opts in by the enabled value in another letter case and with a blank behind it. -/
theorem opted_in_of_blank_behind :
    let w : World := { page := some (marked "TRUE "), collector := { command := "triggers", limit := 500 } }
    (({} : Setup).handle undisturbed (.submit 0)).run w |>.1.prevented = true := by
  intro w
  obtain ⟨b, -, agrees, -, -, prevented⟩ := opted_in_iff {} (marked "TRUE ") 0
  have on : b.onSubmit = true := (agrees .onSubmit "TRUE " rfl (by decide +kernel)).2 (by decide +kernel)
  refine (prevented w rfl (by decide)).2 ?_
  rw [Binding.validatesOnSubmit, on]
  rfl

/-- The enabled value is configured with a capital letter. -/
def capitalised : Setup where
  config := { attributes := { enabledValue := "Yes" } }

/-- An enabled value with a capital letter is accepted, and a form that is marked with this very value
is neither listed nor are its submissions prevented. -/
theorem configured_value_ignored :
    let w : World := { page := some (marked "Yes"), collector := { command := "triggers", limit := 500 } }
    Config.ofFields [("attributes", .object [("enabledValue", .text "Yes")])] = .ok capitalised.config ∧
    (marked "Yes").attribute? 0 capitalised.config.attributes.onSubmit =
      some capitalised.config.attributes.enabledValue ∧
    (capitalised.bindings none).Runs (marked "Yes") [] (marked "Yes") [] ∧
    ((capitalised.handle undisturbed (.submit 0)).run w).1.prevented = false := by
  intro w
  have out : (capitalised.bindingOn (marked "Yes") 0).validatesOnSubmit = false := by decide +kernel
  refine ⟨by decide +kernel, by decide, ?_, ?_⟩
  · have listed := runs_bindings (s := capitalised) none (marked "Yes")
    rwa [show (((marked "Yes").forms none).map (capitalised.bindingOn (marked "Yes"))).filter
      (·.validatesOnSubmit) = [] by decide +kernel] at listed
  · rw [← Bool.not_eq_true, capitalised.prevented_iff_validatesOnSubmit rfl (by decide) 0, out]
    decide

end Setup

end FormGate
