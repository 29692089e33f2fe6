import FormGate.Pass.Form
import FormGate.Proofs.Trigger.World
import Mathlib.Data.List.Forall2

/-!
# What every result of a pass has in common

Some of what is said of a result does not hang on what the host answers, nor on what happens between
the calls: a descriptor names the element that was described, and the fields of a form are judged in
the order in which they were found.
-/

namespace FormGate

variable {α β : Type}

/-- Whatever its calls are answered, a program ends with a value of a kind. -/
def Program.Ends (P : α → Prop) : Program α → Prop
  | done a => P a
  | call _ next => ∀ answer, (next answer).Ends P
  | report _ _ next => next.Ends P

theorem Program.Ends.bind {P : β → Prop} {Q : α → Prop} {x : Program α} {f : α → Program β}
    (hx : x.Ends Q) (hf : ∀ a, Q a → (f a).Ends P) : (x.bind f).Ends P := by
  induction x with
  | done a => exact hf a hx
  | call c next ih => exact fun answer => ih answer (hx answer)
  | report e context next ih => exact ih hx

theorem Program.Ends.run {P : α → Prop} {x : Program α} (h : x.Ends P) (before : World.Before)
    (w : World) : P ((World.run before x).run w).1 := by
  induction x generalizing w with
  | done a => exact h
  | call c next ih =>
    rw [World.run, World.run_bind_apply]
    exact ih _ (h _) _
  | report e context next ih =>
    rw [World.run, World.run_bind_apply]
    exact ih h _

namespace Pass

/-- Whatever its calls are answered, a result of the pass is of a kind. -/
def Gives (x : Pass α) (P : α → Prop) : Prop :=
  Program.Ends (fun r => ∀ a, r = .ok a → P a) x.run

/-- Whatever comes before its calls, a result of the pass is of the kind. -/
theorem Gives.of_run {P : α → Prop} {x : Pass α} (h : x.Gives P) {before : World.Before}
    {w w' : World} {a : α} (run : (World.runPass before x).run w = (.ok a, w')) : P a := by
  have result := Program.Ends.run h before w
  unfold World.runPass at run
  rw [run] at result
  exact result a rfl

theorem Gives.pure {P : α → Prop} {a : α} (h : P a) : (pure a : Pass α).Gives P := by
  intro b same
  cases same
  exact h

theorem Gives.throw (P : α → Prop) (e : Failure) : (throw e : Pass α).Gives P := by
  intro a impossible
  cases impossible

theorem Gives.any (x : Pass α) : x.Gives fun _ => True := by
  unfold Gives
  induction ExceptT.run x with
  | done r => exact fun _ _ => trivial
  | call c next ih => exact ih
  | report e context next ih => exact ih

theorem Gives.bind {P : β → Prop} {Q : α → Prop} {x : Pass α} {f : α → Pass β} (hx : x.Gives Q)
    (hf : ∀ a, Q a → (f a).Gives P) : (x >>= f).Gives P := by
  refine Program.Ends.bind hx fun r hr => ?_
  cases r with
  | ok a => exact hf a (hr a rfl)
  | error e =>
    intro b impossible
    cases impossible

/-- What comes before does not matter where it tells nothing that is needed. -/
theorem Gives.after {P : β → Prop} (x : Pass α) {f : α → Pass β} (hf : ∀ a, (f a).Gives P) :
    (x >>= f).Gives P :=
  (Gives.any x).bind fun a _ => hf a

theorem Gives.mapM {P : α → β → Prop} {f : α → Pass β} (hf : ∀ x, (f x).Gives (P x))
    (xs : List α) : (xs.mapM f).Gives (List.Forall₂ P xs) := by
  induction xs with
  | nil => exact .pure .nil
  | cons x xs ih =>
    rw [List.mapM_cons]
    refine (hf x).bind fun y hy => ih.bind fun ys hys => ?_
    exact .pure (.cons hy hys)

end Pass

namespace Setup

open Pass

variable (s : Setup)

theorem gives_describe (e : Element) : (s.describe e).Gives (·.element = e) := by
  refine Gives.after _ fun name => Gives.after _ fun raw => ?_
  cases raw with
  | none => exact .throw _ _
  | some raw =>
    have rest : (do
        let kind ← kindOf e
        reportAll (s.readReports raw (name.filter (!·.isEmpty)))
        return ⟨e, name.filter (!·.isEmpty), kind, s.catalog.rules raw⟩ : Pass Descriptor).Gives
          (·.element = e) :=
      Gives.after _ fun _ => Gives.after _ fun _ => .pure rfl
    dsimp only
    cases (Text.trim raw).isEmpty with
    | true => exact Gives.after _ fun _ => rest
    | false => exact rest

theorem gives_validateField (e : Element) (scope : Option Element) :
    (s.validateField e scope).Gives (·.1.element = e) := by
  have validated : (s.validate e scope).Gives (·.1.element = e) :=
    (s.gives_describe e).bind fun d element => Gives.after _ fun _ => .pure element
  exact validated.bind fun r element => Gives.after _ fun _ => .pure element

/-- The fields of a form are told one by one in the order in which they were found. -/
theorem gives_fields (scope : Element) (before : Option (Descriptor × Outcome))
    (elements : List Element) :
    (elements.mapM fun e =>
      match before with
      | some r => if r.1.element = e then pure r else s.validateField e (some scope)
      | none => s.validateField e (some scope) : Pass (List (Descriptor × Outcome))).Gives
        fun rs => rs.map (·.1.element) = elements := by
  have one : ∀ e, (match before with
      | some r => if r.1.element = e then pure r else s.validateField e (some scope)
      | none => s.validateField e (some scope) : Pass (Descriptor × Outcome)).Gives
        (·.1.element = e) := by
    intro e
    cases before with
    | none => exact s.gives_validateField e _
    | some r =>
      dsimp only
      split_ifs with same
      · exact .pure same
      · exact s.gives_validateField e _
  have all := (Gives.mapM one elements).bind (f := pure) fun rs hrs => Gives.pure
    (P := fun rs : List (Descriptor × Outcome) => rs.map (·.1.element) = elements) ?_
  · simpa using all
  · induction hrs with
    | nil => rfl
    | cons element _ ih => rw [List.map_cons, element, ih]

end Setup

end FormGate
