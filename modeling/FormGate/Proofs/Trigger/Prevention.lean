import FormGate.Proofs.Document.WellFormed
import FormGate.Proofs.Trigger.Course

/-!
# When a submission is prevented

An attempt to submit is prevented unless the form is found not to have opted in, or another pass is
evaluating. That the form has opted in is read off the page, on which whatever comes in between
leaves it opted in. So an attempt to submit a form that has opted in is let through exactly during an
evaluation (`submit_prevented_iff`).
-/

namespace FormGate

open World

/-- The page of a world came about from that of another. -/
def World.Descends (w w' : World) : Prop :=
  ∀ d, w.page = some d → ∃ d', w'.page = some d' ∧ d.Descends d'

theorem World.descends_of_page {w w' : World} (h : w'.page = w.page) : w.Descends w' :=
  fun d page => ⟨d, h.trans page, Document.Descends.refl d⟩

theorem World.descends_handling : Kept.Handling World.Descends where
  refl _ := descends_of_page rfl
  trans := by
    intro a b c h h' d page
    obtain ⟨d', page', descends⟩ := h d page
    obtain ⟨d'', page'', descends'⟩ := h' d' page'
    exact ⟨d'', page'', descends.trans descends'⟩
  perform := by
    intro w d c page d' page'
    obtain rfl := Option.some.inj (page.symm.trans page')
    exact ⟨_, rfl, c.descends_perform d⟩
  report _ _ := descends_of_page rfl
  enter _ _ := descends_of_page rfl
  submit := by
    intro w d form page d' page'
    obtain rfl := Option.some.inj (page.symm.trans page')
    exact ⟨_, rfl, .of_same (.refl _) rfl⟩
  scroll := by
    intro w d e page d' page'
    obtain rfl := Option.some.inj (page.symm.trans page')
    exact ⟨_, rfl, .of_same (.refl _) rfl⟩

/-- An element keeps the attributes that calls to the host do not change. -/
theorem Document.Descends.attribute? {d d' : Document} (h : d.Descends d') (wf : d.WellFormed)
    {e : Element} {l : Markup.Label} (label : d.label? e = some l) {name : String}
    (unwritten : name ∉ written) : d'.attribute? e name = d.attribute? e name := by
  obtain ⟨wf', -, kin⟩ := h wf
  obtain ⟨hl, id⟩ := wf.label?_eq_some.1 label
  obtain ⟨l', hl', kin⟩ := kin l hl
  have label' : d'.label? e = some l' := wf'.label?_eq_some.2 ⟨hl', kin.id.trans id⟩
  rw [Document.attribute?, Document.attribute?, label, label']
  exact kin.get? name unwritten

namespace Setup

variable (s : Setup)

/-- Whether a form has opted in on a page to being validated when it is submitted. -/
def OptedIn (d : Document) (form : Element) : Prop :=
  s.isEnabled (d.attribute? form s.config.attributes.onSubmit) = true ∨
    s.isEnabled (d.attribute? form s.config.attributes.onBlur) = true

/-- The form is read not to have opted in. -/
def OptsOut (before : Before) (form : Element) (w : World) : Prop :=
  ∃ b w', (runPass before (s.binding form)).run w = (.ok b, w') ∧ b.validatesOnSubmit = false

/-- The attributes by which forms opt in are none that calls to the host change. -/
structure OptsInApart : Prop where
  onSubmit : s.config.attributes.onSubmit ∉ Document.written
  onBlur : s.config.attributes.onBlur ∉ Document.written

variable {s}

theorem optsOut_iff {before : Before} {form : Element} {w w' : World} {b : Binding}
    (read : (runPass before (s.binding form)).run w = (.ok b, w')) :
    s.OptsOut before form w ↔ b.validatesOnSubmit = false := by
  constructor
  · rintro ⟨b', w'', read', out⟩
    rw [read] at read'
    cases read'
    exact out
  · exact fun out => ⟨b, w', read, out⟩

theorem SubmitCourse.prevented_iff {before : Before} {form : Element} {w w' : World} {h : Handled}
    (course : s.SubmitCourse before form w h w') :
    h.prevented = true ↔ w.phase ≠ .evaluating ∧ ¬ s.OptsOut before form w := by
  cases course with
  | ignored evaluating => simp [evaluating]
  | unread free read =>
    refine iff_of_true rfl ⟨free, ?_⟩
    rintro ⟨b, w', read', -⟩
    rw [read] at read'
    cases read'
  | declined free read out => simp [optsOut_iff read, out]
  | broken free read opted pass => simp [free, optsOut_iff read, opted]
  | decided free read opted pass decide => simp [free, optsOut_iff read, opted]

theorem descends_intervene (s : Setup) (depth : Nat) :
    Kept.Before World.Descends (s.intervene depth) :=
  s.kept_intervene descends_handling.toChained (fun _ _ => descends_of_page rfl)
    (fun _ hb t w => descends_handling.handle hb s t w) depth

section Reading

variable {before : Before} (hb : Kept.Before World.Descends before) {d : Document}
  (wf : d.WellFormed) {e : Element} {l : Markup.Label} (label : d.label? e = some l)
include hb wf label

/-- An attribute that is read is that of the page at the start, whatever came in between. -/
theorem read_attribute {name : String} {w w' : World} {v : Option String}
    (read : (runPass before (Pass.ask (.attributeOf e name))).run w = (.ok v, w'))
    (page : ∃ d', w.page = some d' ∧ d.Descends d') (unwritten : name ∉ Document.written) :
    v = d.attribute? e name ∧ ∃ d', w'.page = some d' ∧ d.Descends d' := by
  obtain ⟨d₀, page, descends⟩ := page
  rw [runPass_ask] at read
  obtain ⟨w₁, d₁, h, page₁, answer, rfl⟩ := descends_handling.toKept.onPage_ok hb read
  obtain ⟨d₂, page₂, descends'⟩ := h d₀ page
  obtain rfl := Option.some.inj (page₁.symm.trans page₂)
  refine ⟨?_, d₁, rfl, descends.trans descends'⟩
  rw [← (descends.trans descends').attribute? wf label unwritten]
  exact (Except.ok.inj answer).symm

theorem read_binding (apart : s.OptsInApart) {w w' : World} {b : Binding}
    (read : (runPass before (s.binding e)).run w = (.ok b, w')) (page : w.page = some d) :
    b.validatesOnSubmit = true ↔ s.OptedIn d e := by
  unfold binding at read
  obtain ⟨onSubmit, w₁, first, read⟩ := runPass_bind_ok read
  obtain ⟨onBlur, w₂, second, read⟩ := runPass_bind_ok read
  obtain ⟨scroll, w₃, -, read⟩ := runPass_bind_ok read
  cases read
  obtain ⟨rfl, page₁⟩ :=
    read_attribute hb wf label first ⟨d, page, Document.Descends.refl d⟩ apart.onSubmit
  obtain ⟨rfl, -⟩ := read_attribute hb wf label second page₁ apart.onBlur
  simp [Binding.validatesOnSubmit, OptedIn]

end Reading

/-- An attempt to submit is prevented exactly if no other pass is evaluating and the form is not
read to have opted out. On a page on which the form has opted in, it is let through exactly during an
evaluation, however many triggers and failures come in between. -/
theorem submit_prevented_iff (s : Setup) (form : Element) (w : World) :
    (∀ before, ((s.handle before (.submit form)).run w).1.prevented = true ↔
      w.phase ≠ .evaluating ∧ ¬ s.OptsOut before form w) ∧
    ∀ (d : Document) (depth : Nat), s.OptsInApart → w.page = some d → d.WellFormed →
      s.OptedIn d form →
        (((s.handle (s.intervene depth) (.submit form)).run w).1.prevented = true ↔
          w.phase ≠ .evaluating) := by
  have exact_condition : ∀ before, ((s.handle before (.submit form)).run w).1.prevented = true ↔
      w.phase ≠ .evaluating ∧ ¬ s.OptsOut before form w := fun before =>
    (s.handleSubmit_course before form w).prevented_iff
  refine ⟨exact_condition, fun d depth apart page wf opted => ?_⟩
  rw [exact_condition]
  refine and_iff_left ?_
  rintro ⟨b, w', read, out⟩
  cases label : d.label? form with
  | none =>
    have unset : ∀ name, d.attribute? form name = none := fun name => by
      rw [Document.attribute?, label]
      rfl
    rw [OptedIn, unset, unset] at opted
    simp [isEnabled] at opted
  | some l =>
    have := (read_binding (s.descends_intervene depth) wf label apart read page).2 opted
    rw [out] at this
    cases this

/-- A form that has opted in, when nothing is going on and during an evaluation. -/
theorem prevented_when_idle :
    let form : Markup.Label := ⟨0, .element "form", [("data-validate-on-submit", "true")]⟩
    let w (phase : Phase) : World :=
      { page := some { tree := .cons form "" .nil "" .nil, fresh := 1 }
        collector := { command := "triggers", limit := 500 }
        phase }
    (((handle {} (intervene {} 1) (.submit 0)).run (w .idle)).1.prevented = true) ∧
      ¬ (((handle {} (intervene {} 1) (.submit 0)).run (w .evaluating)).1.prevented = true) := by
  intro form w
  let d : Document := { tree := .cons form "" .nil "" .nil, fresh := 1 }
  have apart : OptsInApart {} := ⟨by decide, by decide⟩
  have wf : d.WellFormed := ⟨by decide, by decide⟩
  have opted : OptedIn {} d 0 := .inl (by decide +kernel)
  have iff := fun phase => (submit_prevented_iff {} 0 (w phase)).2 d 1 apart rfl wf opted
  exact ⟨(iff .idle).2 (by decide), fun h => (iff .evaluating).1 h rfl⟩

end Setup

end FormGate
