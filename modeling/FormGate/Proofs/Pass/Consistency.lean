import FormGate.Proofs.Pass.Controls
import FormGate.Proofs.Pass.Others

/-!
# Validating a whole form

The fields of a form have their turns in document order. What a turn shows outlives the turns of all
later fields, so that at the end of a pass the page shows the outcome of every field, the submit
buttons go by all of them, and nothing else has changed.
-/

namespace FormGate

open Markup Document Pass

namespace Pass

theorem yields_mapM_cons {α β : Type} {f : α → Pass β} {x : α} {xs : List α} {d d' : Document}
    {ys : List β} (h : ((x :: xs).mapM f).Yields d ys d') :
    ∃ y d₁ ys', (f x).Yields d y d₁ ∧ (xs.mapM f).Yields d₁ ys' d' ∧ ys = y :: ys' := by
  rw [List.mapM_cons] at h
  obtain ⟨y, d₁, first, h⟩ := yields_bind.1 h
  obtain ⟨ys', d₂, later, done⟩ := yields_bind.1 h
  obtain ⟨rfl, rfl⟩ := yields_pure.1 done
  exact ⟨y, d₁, ys', first, later, rfl⟩

theorem yields_carriers {scope : Element} {name : String} {d d' : Document} {es : List Element} :
    (ask (.carriers scope name)).Yields d es d' ↔ es = d.carriers scope name ∧ d' = d :=
  yields_ask_of_perform rfl

theorem yields_submitControls {scope : Element} {d d' : Document} {es : List Element} :
    (ask (.submitControls scope)).Yields d es d' ↔ es = d.submitControls scope ∧ d' = d :=
  yields_ask_of_perform rfl

/-- Buttons are enabled or disabled one after the other. -/
theorem yields_gateControls {scope : Element} {valid : Bool} {d d' : Document} {u : Unit}
    (h : (gateControls scope valid).Yields d u d') :
    d' = (d.submitControls scope).foldl (fun d e => d.setFlag e "disabled" !valid) d := by
  unfold gateControls at h
  obtain ⟨controls, d₁, asked, h⟩ := yields_bind.1 h
  obtain ⟨rfl, rfl⟩ := yields_submitControls.1 asked
  refine yields_forM (fun f _ d u d' set => ?_) h
  exact (congrArg Prod.snd (yields_ask.1 set)).symm

end Pass

namespace Setup

variable {s : Setup}

/-- A page before and after some of the fields of a scope had their turns. -/
structure Swept (s : Setup) (scope : Element) (es : List Element) (rs : List (Descriptor × Outcome))
    (d d' : Document) : Prop where
  ready : s.Ready d'
  fields : rs.map (·.1.element) = es
  carriers : d'.carriers scope s.config.attributes.rules = d.carriers scope s.config.attributes.rules
  shows : ∀ r ∈ rs, s.Shows d' r.1.element r.2
  others : ∀ e ∈ d.carriers scope s.config.attributes.rules, e ∉ es → ∀ o, s.Shows d e o →
    s.Shows d' e o
  page : ∀ m, (∀ r ∈ rs, s.Fits m r.1.element r.2) → m.page d' = m.page d

/-- The turns of fields of a scope, one after the other. -/
theorem swept (distinct : s.Distinct) {scope : Element} {es : List Element}
    {rs : List (Descriptor × Outcome)} {d d' : Document} (ready : s.Ready d) (once : es.Nodup)
    (inside : ∀ e ∈ es, e ∈ d.carriers scope s.config.attributes.rules)
    (h : (es.mapM fun e => s.validateField e (some scope)).Yields d rs d') :
    s.Swept scope es rs d d' := by
  induction es generalizing d rs with
  | nil =>
    obtain ⟨rfl, rfl⟩ := yields_pure.1 h
    exact ⟨ready, rfl, rfl, by simp, fun _ _ _ _ shown => shown, fun _ _ => rfl⟩
  | cons e es ih =>
    obtain ⟨r, d₁, rs, first, later, rfl⟩ := yields_mapM_cons h
    rw [List.nodup_cons] at once
    rw [List.forall_mem_cons] at inside
    obtain ⟨n, found, l, hl, field, rfl⟩ := mem_select inside.1
    obtain ⟨element, T, rfl⟩ :=
      exists_turn distinct ready ((labels_of_node? found).subset hl) field first
    have wf := (first.descends ready.wellFormed).1
    have ready₁ := T.ready' ready distinct wf
    have carriers := T.carriers_eq distinct ready inside.1
    have rest := ih ready₁ once.2 (fun e he => carriers ▸ inside.2 e he) later
    constructor
    · exact rest.ready
    · rw [List.map_cons, element, rest.fields]
    · rw [rest.carriers, carriers]
    · rw [List.forall_mem_cons]
      refine ⟨?_, rest.shows⟩
      rw [element]
      -- what the first field shows outlives the later turns, which are turns of other fields
      exact rest.others _ (carriers ▸ inside.1) once.1 _ (T.shows distinct ready wf)
    · intro x hx other o shown
      rw [List.mem_cons, not_or] at other
      obtain ⟨n', found', l', hl', field', rfl⟩ := mem_select hx
      have apart := T.apart_of_field distinct ready ((labels_of_node? found').subset hl') field'
        (Ne.symm other.1)
      exact rest.others _ (carriers ▸ hx) other.2 o (apart.shows distinct ready ready₁ shown)
    · intro m fits
      rw [List.forall_mem_cons] at fits
      rw [rest.page m fits.2, T.page_eq distinct ready (element ▸ fits.1)]

/-! ## The end of a pass -/

/-- What a pass with this outcome may change of a page. -/
def mask (s : Setup) (o : FormOutcome) (controls : List Element) : Mask where
  invalidClass := s.config.presentation.invalidClass
  feedbackClass := s.config.presentation.feedbackClass
  fields := o.fields.map (·.1.element)
  written := (o.fields.filter (·.2.replaced.isSome)).map (·.1.element)
  controls := controls

theorem fits_mask {o : FormOutcome} (controls : List Element) {r : Descriptor × Outcome}
    (hr : r ∈ o.fields) : s.Fits (s.mask o controls) r.1.element r.2 where
  invalid := rfl
  feedback := rfl
  field := List.contains_iff_mem.2 (List.mem_map_of_mem hr)
  written replaced := by
    have some : r.2.replaced.isSome = true := Option.isSome_iff_ne_none.2 replaced
    exact List.contains_iff_mem.2 (List.mem_map_of_mem (List.mem_filter.2 ⟨hr, some⟩))

/-- A page before and after a form was validated. The outcome is about the elements of the scope that
carry rules, each once, in document order. The page shows it of every field, and by the submit buttons
of the scope. Nothing else has changed, and the page is ready for the next pass. -/
structure Consistent (s : Setup) (scope : Element) (o : FormOutcome) (d d' : Document) : Prop where
  fields : o.fields.map (·.1.element) = d.carriers scope s.config.attributes.rules
  once : (o.fields.map (·.1.element)).Nodup
  carriers : d'.carriers scope s.config.attributes.rules = d.carriers scope s.config.attributes.rules
  valid : o.valid = true ↔ ∀ r ∈ o.fields, r.2.errors = []
  shows : ∀ r ∈ o.fields, s.Shows d' r.1.element r.2
  controls : ∀ c ∈ d'.submitControls scope, d'.isDisabled c = !o.valid
  page : (s.mask o (d'.submitControls scope)).page d' = (s.mask o (d'.submitControls scope)).page d
  log : d.SameLog d'
  ready : s.Ready d'

theorem nodup_carriers {d : Document} (h : d.WellFormed) (scope : Element) (name : String) :
    (d.carriers scope name).Nodup := by
  rw [carriers, select, labelsIn]
  cases found : d.node? scope with
  | none => exact List.nodup_nil
  | some n =>
    have kept : (n.labels.filter (·.has name)).Sublist d.labels :=
      List.filter_sublist.trans (labels_of_node? found)
    exact h.nodup.sublist (kept.map _)

theorem consistent_of_yields (distinct : s.Distinct) {scope : Element} {o : FormOutcome}
    {d d' : Document} (ready : s.Ready d) (h : (s.validateForm scope).Yields d o d') :
    s.Consistent scope o d d' := by
  have log := h.sameLog
  unfold validateForm at h
  obtain ⟨es, d₁, asked, h⟩ := yields_bind.1 h
  obtain ⟨rfl, rfl⟩ := yields_carriers.1 asked
  obtain ⟨rs, d₂, turns, h⟩ := yields_bind.1 h
  obtain ⟨u, d₃, gate, done⟩ := yields_bind.1 h
  obtain ⟨rfl, rfl⟩ := yields_pure.1 done
  obtain rfl := yields_gateControls gate
  have once := nodup_carriers ready.wellFormed scope s.config.attributes.rules
  have turns := swept distinct ready once (fun _ he => he) turns
  have gate := gated distinct scope (d₂.submitControls scope) (!FormOutcome.valid ⟨rs⟩) turns.ready
  constructor
  · exact turns.fields
  · rw [turns.fields]
    exact once
  · rw [gate.carriers, turns.carriers]
  · simp [FormOutcome.valid, Outcome.valid]
  · exact fun r hr => gate.shows _ _ (turns.shows r hr)
  · intro c hc
    rw [gate.controls] at hc
    obtain ⟨n, found, l, hl, -, rfl⟩ := mem_select hc
    refine gate.disabled _ hc ?_
    have label := (turns.ready.wellFormed.label?_eq_some (e := l.id)).2
      ⟨(labels_of_node? found).subset hl, rfl⟩
    rw [label]
    rfl
  · rw [gate.controls]
    have controls : ∀ e ∈ d₂.submitControls scope,
        (s.mask ⟨rs⟩ (d₂.submitControls scope)).controls.contains e = true :=
      fun e he => List.contains_iff_mem.2 he
    rw [gate.page _ controls, turns.page _ fun r hr => fits_mask _ hr]
  · exact log
  · exact gate.ready

/-- Validating a form leaves a page that is consistent with the outcome, whenever it returns and
nothing else intervenes. -/
theorem validateForm_consistent (distinct : s.Distinct) {scope : Element} {o : FormOutcome}
    {w w' : World} {d : Document} (page : w.page = some d) (ready : s.Ready d)
    (returns : (World.runPass World.undisturbed (s.validateForm scope)).run w = (.ok o, w')) :
    ∃ d', w'.page = some d' ∧ s.Consistent scope o d d' := by
  obtain ⟨d', page', yields⟩ := World.runPass_undisturbed page returns
  exact ⟨d', page', consistent_of_yields distinct ready yields⟩

/-- Two fields in one container, of which the first lacks its value and the second is still marked
from the pass before. -/
theorem consistent_side_by_side :
    let rules := ("data-validate-validation", "required")
    let page : Document :=
      { tree := .cons ⟨0, .element "form", []⟩ ""
          (.cons ⟨1, .element "input", [rules, ("value", "")]⟩ "" .nil ""
            (.cons ⟨2, .element "input", [rules, ("value", "x"), ("class", "is-invalid")]⟩ "" .nil ""
              (.cons ⟨3, .element "div", [("class", "invalid-feedback")]⟩ "Required" .nil ""
                (.cons ⟨4, .element "button", [("type", "submit")]⟩ "Send" .nil "" .nil))))
          "" .nil
        fresh := 5 }
    let w : World := { page := some page, collector := { command := "check", limit := 500 } }
    ∃ o d', o.valid = false ∧ Consistent {} 0 o page d' ∧
      ((World.runPass World.undisturbed (validateForm {} 0)).run w).1.toOption = some o := by
  intro rules page w
  have fails : ((World.runPass World.undisturbed (validateForm {} 0)).run w).1.toOption.map
      (·.valid) = some false := by
    decide +kernel
  rcases run : (World.runPass World.undisturbed (validateForm {} 0)).run w with ⟨r, w'⟩
  rw [run] at fails
  cases r with
  | error e => cases fails
  | ok o =>
    obtain ⟨d', -, consistent⟩ :=
      validateForm_consistent (s := {}) (by decide +kernel) rfl (by decide +kernel) run
    exact ⟨o, d', Option.some.inj fails, consistent, rfl⟩

end Setup

end FormGate
