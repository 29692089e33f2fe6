import FormGate.Pass.Form
import FormGate.Proofs.Pass.OldElements
import FormGate.Trigger.Handler

/-!
# Passes that leave the elders alone

A pass obeys a condition on calls if it makes no others, as long as what it is answered is true. The
passes over a form obey the condition that keeps a page its elders: what they take out and give lines
they found as feedback, and what they write they made of a value by rules.
-/

namespace FormGate

open Document

variable {α β : Type} {safe : Call → Prop} {truthful : (c : Call) → c.Answer → Prop}

/-- Where all answers are truthful a program makes safe calls only and ends with a value of a kind.
Any call may fail. -/
def Program.Obeys (safe : Call → Prop) (truthful : (c : Call) → c.Answer → Prop) (P : α → Prop) :
    Program α → Prop
  | done a => P a
  | call c next =>
    safe c ∧ ∀ r, (∀ a, r = .ok a → truthful c a) → (next r).Obeys safe truthful P
  | report _ _ next => next.Obeys safe truthful P

theorem Program.Obeys.bind {P : β → Prop} {Q : α → Prop} {x : Program α} {f : α → Program β}
    (hx : x.Obeys safe truthful Q) (hf : ∀ a, Q a → (f a).Obeys safe truthful P) :
    (x.bind f).Obeys safe truthful P := by
  induction x with
  | done a => exact hf a hx
  | call c next ih => exact ⟨hx.1, fun r hr => ih r (hx.2 r hr)⟩
  | report e context next ih => exact ih hx

namespace Pass

/-- Where all answers are truthful a pass makes safe calls only, and its result is of a kind. -/
def Obeys (safe : Call → Prop) (truthful : (c : Call) → c.Answer → Prop) (P : α → Prop)
    (x : Pass α) : Prop :=
  Program.Obeys safe truthful (fun r => ∀ a, r = .ok a → P a) x.run

namespace Obeys

variable {P : β → Prop} {Q : α → Prop}

theorem ask {c : Call} (h : safe c) : (ask c).Obeys safe truthful (truthful c) :=
  ⟨h, fun _ truth => truth⟩

theorem pure {a : α} (h : Q a) : (pure a : Pass α).Obeys safe truthful Q := by
  rintro b ⟨⟩
  exact h

theorem throw (e : Failure) : (throw e : Pass α).Obeys safe truthful Q := by
  rintro a ⟨⟩

theorem report (e : Failure) (context : Context) :
    (report e context).Obeys safe truthful fun _ => True :=
  fun _ _ => trivial

theorem bind {x : Pass α} {f : α → Pass β} (hx : x.Obeys safe truthful Q)
    (hf : ∀ a, Q a → (f a).Obeys safe truthful P) : (x >>= f).Obeys safe truthful P := by
  refine Program.Obeys.bind hx fun r hr => ?_
  cases r with
  | ok a => exact hf a (hr a rfl)
  | error e => exact Obeys.throw e

/-- After an answer of which nothing is needed a pass goes on as it does after any. -/
theorem after {c : Call} (h : safe c) {f : c.Answer → Pass β}
    (hf : ∀ a, (f a).Obeys safe truthful P) : (Pass.ask c >>= f).Obeys safe truthful P :=
  (Obeys.ask h).bind fun a _ => hf a

theorem mono {R : α → Prop} {x : Pass α} (hx : x.Obeys safe truthful Q) (h : ∀ a, Q a → R a) :
    x.Obeys safe truthful R := by
  have weaker := hx.bind (f := Pure.pure) fun a ha => Obeys.pure (h a ha)
  rwa [bind_pure] at weaker

theorem any {x : Pass α} (hx : x.Obeys safe truthful Q) : x.Obeys safe truthful fun _ => True :=
  hx.mono fun _ _ => trivial

theorem reportAll (reports : List (Failure × Context)) :
    (reportAll reports).Obeys safe truthful fun _ => True := by
  induction reports with
  | nil => exact .pure trivial
  | cons p reports ih => exact (Obeys.report p.1 p.2).bind fun _ _ => ih

theorem forM {f : α → Pass Unit} {xs : List α}
    (hf : ∀ x ∈ xs, (f x).Obeys safe truthful fun _ => True) :
    (xs.forM f).Obeys safe truthful fun _ => True := by
  induction xs with
  | nil => exact .pure trivial
  | cons x xs ih =>
    rw [List.forall_mem_cons] at hf
    exact hf.1.bind fun _ _ => ih hf.2

theorem mapM {f : α → Pass β} (hf : ∀ x, (f x).Obeys safe truthful fun _ => True) (xs : List α) :
    (xs.mapM f).Obeys safe truthful fun _ => True := by
  induction xs with
  | nil => exact .pure trivial
  | cons x xs ih =>
    rw [List.mapM_cons]
    exact (hf x).bind fun _ _ => ih.bind fun _ _ => .pure trivial

theorem foldlM {f : β → α → Pass β} (hf : ∀ b x, P b → (f b x).Obeys safe truthful P) (xs : List α)
    {b : β} (hb : P b) : (xs.foldlM f b).Obeys safe truthful P := by
  induction xs generalizing b with
  | nil => exact .pure hb
  | cons x xs ih =>
    rw [List.foldlM_cons]
    exact (hf b x hb).bind fun b hb => ih hb

theorem catchFault {x : Pass α} (hx : x.Obeys safe truthful Q) :
    (catchFault x).Obeys safe truthful fun _ => True :=
  Program.Obeys.bind hx fun _ _ _ _ => trivial

end Obeys

end Pass

/-! ## The passes -/

namespace Setup

open Pass

variable {s : Setup} {d₀ : Document}

theorem obeys_kindOf (e : Element) :
    (kindOf e).Obeys (s.Safe d₀) (s.Truthful d₀) fun _ => True := by
  refine .after trivial fun tag => ?_
  split_ifs
  · exact .after trivial fun _ => .pure trivial
  · exact .pure trivial
  · exact .pure trivial

theorem obeys_tickedOf (e : Element) (kind : FieldKind) :
    (tickedOf e kind).Obeys (s.Safe d₀) (s.Truthful d₀) fun _ => True := by
  unfold tickedOf
  split
  · exact (Obeys.ask trivial).any
  · exact .pure trivial

theorem obeys_describe (e : Element) :
    (s.describe e).Obeys (s.Safe d₀) (s.Truthful d₀) (·.element = e) := by
  refine .after trivial fun name => .after trivial fun raw => ?_
  cases raw with
  | none => exact .throw _
  | some raw =>
    have rest : (do
        let kind ← kindOf e
        reportAll (s.readReports raw (name.filter (!·.isEmpty)))
        return ⟨e, name.filter (!·.isEmpty), kind, s.catalog.rules raw⟩ : Pass Descriptor).Obeys
          (s.Safe d₀) (s.Truthful d₀) (·.element = e) :=
      (obeys_kindOf e).bind fun _ _ => (Obeys.reportAll _).bind fun _ _ => .pure rfl
    dsimp only
    cases (Text.trim raw).isEmpty with
    | true => exact (Obeys.report _ _).bind fun _ _ => rest
    | false => exact rest

theorem obeys_settledValue (e : Element) :
    (s.settledValue e).Obeys (s.Safe d₀) (s.Truthful d₀) fun _ => True := by
  refine .after trivial fun value => .after trivial fun raw => ?_
  cases raw with
  | none => exact .pure trivial
  | some raw =>
    dsimp only
    split_ifs
    · exact .pure trivial
    · exact (obeys_kindOf e).bind fun kind _ => (obeys_tickedOf e kind).bind fun _ _ => .pure trivial

theorem obeys_lookup (scope : Option Element) (reference : String) :
    (s.lookup scope reference).Obeys (s.Safe d₀) (s.Truthful d₀) fun _ => True := by
  refine .after trivial fun found => ?_
  rcases found with _ | ⟨other, _ | ⟨another, more⟩⟩
  · exact .throw _
  · refine .after trivial fun name => ?_
    cases name with
    | none => exact .throw _
    | some name =>
      dsimp only
      split_ifs
      · exact .throw _
      · exact (obeys_settledValue other).bind fun _ _ => .pure trivial
  · exact .throw _

/-- What a judgement puts in place of a value is at one of its ends. -/
theorem obeys_settle {lookup : String → Pass (Except Fault Referenced)}
    (hl : ∀ r, (lookup r).Obeys safe truthful fun _ => True) (j : Judgement) :
    (j.settle lookup).Obeys safe truthful fun found => ∀ v, found = .ok v → ∀ w,
      v.replacement = some w → j.Puts w := by
  induction j with
  | verdict v =>
    refine .pure ?_
    rintro v ⟨⟩ w put
    exact .verdict put
  | fault f => exact .pure nofun
  | consult reference next ih =>
    refine (hl reference).bind fun found _ => (ih found).mono fun r hr v same w put => ?_
    exact .consult reference found (hr v same w put)

theorem obeys_judge {lookup : String → Pass Referenced}
    (hl : ∀ r, (lookup r).Obeys safe truthful fun _ => True) (r : Rule) (q : Question) :
    (s.judge lookup r q).Obeys safe truthful fun found => ∀ v, found = .ok v → ∀ w,
      v.replacement = some w → s.catalog.Replaces q.value w := by
  unfold judge
  cases get : s.catalog.get? r.name with
  | none => exact .pure nofun
  | some d =>
    refine (obeys_settle (fun r => (hl r).catchFault) (d.judge q)).mono fun found hf v same w put => ?_
    exact ⟨r.name, d, q, get, rfl, hf v same w put⟩

/-- The running value stays one that may be written into the field. -/
theorem obeys_applyRule {e : Element} {lookup : String → Pass Referenced}
    (hl : ∀ r, (lookup r).Obeys safe truthful fun _ => True) (f : Descriptor) (checked : Bool)
    (p : Progress) (r : Rule) (suits : s.Suits d₀ e p.value) :
    (s.applyRule f checked lookup p r).Obeys safe truthful fun p => s.Suits d₀ e p.value := by
  refine (obeys_judge hl r _).bind fun found puts => ?_
  cases found with
  | error fault => exact (Obeys.report _ _).bind fun _ _ => .pure suits
  | ok v =>
    refine .pure ?_
    unfold Progress.after
    cases put : v.replacement with
    | none => exact suits
    | some w =>
      intro n₀ member id area
      exact (suits n₀ member id area).tail (puts v rfl w put)

theorem obeys_evaluate (f : Descriptor) (scope : Option Element) :
    (s.evaluate f scope).Obeys (s.Safe d₀) (s.Truthful d₀) fun _ => True := by
  have applied (scope : Option Element) : (do
      let value ← ask (.value f.element)
      let checked ← tickedOf f.element f.kind
      let p ← f.rules.foldlM (s.applyRule f checked (s.lookup scope)) ⟨value, []⟩
      if p.value == value then return ⟨p.errors, none⟩
      else
        ask (.setValue f.element p.value)
        return ⟨p.errors, some p.value⟩ : Pass Outcome).Obeys (s.Safe d₀) (s.Truthful d₀)
          fun _ => True := by
    refine (Obeys.ask trivial).bind fun value suits => ?_
    refine (obeys_tickedOf _ _).bind fun checked _ => ?_
    have judged : (f.rules.foldlM (s.applyRule f checked (s.lookup scope)) ⟨value, []⟩).Obeys
        (s.Safe d₀) (s.Truthful d₀) fun p => s.Suits d₀ f.element p.value :=
      Obeys.foldlM (obeys_applyRule (obeys_lookup scope) f checked) f.rules suits
    refine judged.bind fun p suits => ?_
    split_ifs
    · exact .pure trivial
    · exact (Obeys.ask suits).bind fun _ _ => .pure trivial
  cases scope with
  | some e => exact applied (some e)
  | none => exact .after trivial applied

theorem obeys_validate (e : Element) (scope : Option Element) :
    (s.validate e scope).Obeys (s.Safe d₀) (s.Truthful d₀) fun _ => True :=
  (obeys_describe e).bind fun f _ => (obeys_evaluate f scope).bind fun _ _ => .pure trivial

/-- Only what was found as feedback is taken out or given lines. -/
theorem obeys_applyFeedback (e : Element) (o : Outcome) :
    (s.applyFeedback e o).Obeys (s.Safe d₀) (s.Truthful d₀) fun _ => True := by
  have marked : s.Safe d₀ (.addClass e s.config.presentation.invalidClass) := rfl
  refine (Obeys.ask trivial).bind fun existing later => ?_
  replace later := later rfl
  dsimp only
  split_ifs
  · refine (Obeys.forM fun f hf => (Obeys.ask (later f hf)).any).bind fun _ _ => ?_
    exact (Obeys.ask trivial).any
  · cases existing with
    | nil =>
      refine .after trivial fun _ => ?_
      exact (Obeys.ask marked).any
    | cons first more =>
      rw [List.forall_mem_cons] at later
      refine .after later.1 fun _ => ?_
      refine (Obeys.forM fun f hf => (Obeys.ask (later.2 f hf)).any).bind fun _ _ => ?_
      exact (Obeys.ask marked).any

theorem obeys_validateField (e : Element) (scope : Option Element) :
    (s.validateField e scope).Obeys (s.Safe d₀) (s.Truthful d₀) fun _ => True :=
  (obeys_validate e scope).bind fun r _ =>
    (obeys_applyFeedback e r.2).bind fun _ _ => .pure trivial

theorem obeys_validateForm (scope : Element) (before : Option (Descriptor × Outcome)) :
    (s.validateForm scope before).Obeys (s.Safe d₀) (s.Truthful d₀) fun _ => True := by
  refine .after trivial fun elements => ?_
  refine (Obeys.mapM (fun e => ?_) elements).bind fun fields _ => ?_
  · cases before with
    | none => exact obeys_validateField e _
    | some r =>
      dsimp only
      split_ifs
      · exact .pure trivial
      · exact obeys_validateField e _
  · have gated : (gateControls scope (FormOutcome.mk fields).valid).Obeys (s.Safe d₀)
        (s.Truthful d₀) fun _ => True :=
      .after trivial fun controls => .forM fun c _ => (Obeys.ask trivial).any
    exact gated.bind fun _ _ => .pure trivial

theorem obeys_binding (form : Element) :
    (s.binding form).Obeys (s.Safe d₀) (s.Truthful d₀) fun _ => True :=
  .after trivial fun _ => .after trivial fun _ => .after trivial fun _ => .pure trivial

theorem obeys_liveForm (e : Element) :
    (s.liveForm e).Obeys (s.Safe d₀) (s.Truthful d₀) fun _ => True := by
  refine .after trivial fun around => ?_
  cases around with
  | none => exact .pure trivial
  | some form => exact (obeys_binding form).bind fun b _ => .pure trivial

theorem obeys_judgeLeft (e form : Element) :
    (s.judgeLeft e form).Obeys (s.Safe d₀) (s.Truthful d₀) fun _ => True := by
  refine .after trivial fun raw => ?_
  cases raw with
  | none => exact .pure trivial
  | some raw => exact (obeys_validateField e _).bind fun _ _ => .pure trivial

end Setup

end FormGate
