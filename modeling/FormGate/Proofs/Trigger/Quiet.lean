import FormGate.Proofs.Diagnostic.Window
import FormGate.Proofs.Pass.Result
import FormGate.Proofs.Trigger.Gate

/-!
# Passes in which no trigger arrives

Where what may still intervene brings no further triggers, a call to the host can fail and nothing
else comes in between. A pass then leaves the phase, the interludes and the logs of the page as they
were, and all that it adds to the collector are warnings (`Harmless.run`).
-/

namespace FormGate

variable {α β : Type}

namespace World

def scrolls (w : World) : List Element :=
  (w.page.map (·.scrolls)).getD []

theorem submissions_of_page {w : World} {d : Document} (page : w.page = some d) :
    w.submissions = d.submissions := by
  rw [submissions, page]
  rfl

theorem scrolls_of_page {w : World} {d : Document} (page : w.page = some d) :
    w.scrolls = d.scrolls := by
  rw [scrolls, page]
  rfl

@[simp] theorem rest_submissions (w : World) : w.rest.submissions = w.submissions := by
  rw [submissions, rest_page]
  rfl

@[simp] theorem rest_scrolls (w : World) : w.rest.scrolls = w.scrolls := by
  rw [scrolls, rest_page]
  rfl

@[simp] theorem failed_submissions (t : Trigger) (e : Failure) (w : World) :
    (w.failed t e).submissions = w.submissions := rfl

@[simp] theorem failed_scrolls (t : Trigger) (e : Failure) (w : World) :
    (w.failed t e).scrolls = w.scrolls := rfl

/-- Nothing that may still intervene brings a trigger. -/
def Quiet (w : World) : Prop :=
  ∀ i ∈ w.pending, i.triggers = []

/-- A quiet world of which nothing has changed but what may still intervene. -/
def Waits (w w' : World) : Prop :=
  w'.Quiet ∧ ∃ pending, w' = { w with pending }

/-- A world in which a controller awaits the next trigger. -/
structure Awaiting (w : World) : Prop where
  idle : w.phase = .idle
  quiet : w.Quiet
  bounded : w.collector.Bounded
  limit : 1 ≤ w.collector.limit

/-- What comes before a call in a quiet world can make it fail, and does nothing else. -/
def Harmless (before : Before) : Prop :=
  ∀ (kind : CallKind) (w : World), w.Quiet → w.Waits ((before kind).run w).2

theorem Waits.refl {w : World} (quiet : w.Quiet) : w.Waits w :=
  ⟨quiet, w.pending, rfl⟩

theorem Waits.trans {a b c : World} (h : a.Waits b) (h' : b.Waits c) : a.Waits c := by
  obtain ⟨-, pending, rfl⟩ := h
  obtain ⟨quiet, pending', rfl⟩ := h'
  exact ⟨quiet, pending', rfl⟩

theorem Waits.page {w w' : World} (h : w.Waits w') : w'.page = w.page := by
  obtain ⟨-, pending, rfl⟩ := h
  rfl

theorem Waits.collector {w w' : World} (h : w.Waits w') : w'.collector = w.collector := by
  obtain ⟨-, pending, rfl⟩ := h
  rfl

theorem Waits.phase {w w' : World} (h : w.Waits w') : w'.phase = w.phase := by
  obtain ⟨-, pending, rfl⟩ := h
  rfl

/-! ## What is due -/

theorem triggers_due (kind : CallKind) {is : List Intervention}
    (quiet : ∀ i ∈ is, i.triggers = []) :
    (∀ i, (Intervention.due kind is).1 = some i → i.triggers = []) ∧
      ∀ i ∈ (Intervention.due kind is).2, i.triggers = [] := by
  cases is with
  | nil =>
    constructor
    · intro i impossible
      cases impossible
    · intro i impossible
      cases impossible
  | cons i rest =>
    rw [List.forall_mem_cons] at quiet
    unfold Intervention.due
    dsimp only
    split_ifs
    · exact ⟨fun j impossible => (nomatch impossible), List.forall_mem_cons.2 quiet⟩
    · cases i.skip with
      | zero =>
        refine ⟨fun j same => ?_, quiet.2⟩
        cases same
        exact quiet.1
      | succ n => exact ⟨fun j impossible => (nomatch impossible), List.forall_mem_cons.2 quiet⟩

theorem harmless_intervene (s : Setup) (depth : Nat) : Harmless (s.intervene depth) := by
  intro kind w quiet
  cases depth with
  | zero => exact .refl quiet
  | succ depth =>
    obtain ⟨now, later⟩ := triggers_due kind quiet
    have waits : w.Waits { w with pending := (Intervention.due kind w.pending).2 } :=
      ⟨later, _, rfl⟩
    unfold Setup.intervene
    rw [run_get_bind]
    dsimp only
    rw [run_bind_apply]
    cases due : (Intervention.due kind w.pending).1 with
    | none => exact waits
    | some i =>
      dsimp only
      rw [run_bind_apply, now i due]
      cases i.failure with
      | none => exact waits
      | some e => exact waits

namespace Harmless

variable {before : World.Before} (hb : Harmless before)
include hb

theorem beforeAll (kinds : List CallKind) {w : World} (quiet : w.Quiet) :
    w.Waits ((World.beforeAll before kinds).run w).2 := by
  induction kinds generalizing w with
  | nil => exact .refl quiet
  | cons kind kinds ih =>
    rw [World.beforeAll, run_bind_apply]
    have first := hb kind w quiet
    cases ((before kind).run w).1 with
    | error e => exact first
    | ok u => exact first.trans (ih first.1)

/-- A call in a quiet world fails and does nothing, or is made on the page as it is. -/
theorem onPage (kinds : Document → List CallKind) (act : Document → Except Failure α × Document)
    {w : World} (quiet : w.Quiet) :
    ∃ w₁, w.Waits w₁ ∧
      ((∃ e, (World.onPage before kinds act).run w = (.error e, w₁)) ∨
        ∃ d, w.page = some d ∧
          (World.onPage before kinds act).run w =
            ((act d).1, { w₁ with page := some (act d).2 })) := by
  rw [onPage_run]
  cases page : w.page with
  | none => exact ⟨w, .refl quiet, .inl ⟨_, rfl⟩⟩
  | some d =>
    have waits := hb.beforeAll (kinds d) quiet
    refine ⟨_, waits, ?_⟩
    dsimp only
    cases ((World.beforeAll before (kinds d)).run w).1 with
    | error e => exact .inl ⟨e, rfl⟩
    | ok u =>
      dsimp only
      rw [waits.page, page]
      exact .inr ⟨d, rfl, rfl⟩

variable {kinds : Document → List CallKind} {act : Document → Except Failure α × Document}
  {w w' : World} (quiet : w.Quiet)
include quiet

theorem onPage_ok {a : α} (call : (World.onPage before kinds act).run w = (.ok a, w')) :
    ∃ w₁ d, w.Waits w₁ ∧ w.page = some d ∧ (act d).1 = .ok a ∧
      w' = { w₁ with page := some (act d).2 } := by
  obtain ⟨w₁, waits, ⟨e, eq⟩ | ⟨d, page, eq⟩⟩ := hb.onPage kinds act quiet
  · rw [call] at eq
    cases eq
  · rw [call] at eq
    exact ⟨w₁, d, waits, page, (congrArg Prod.fst eq).symm, congrArg Prod.snd eq⟩

/-- A call that can only fail for what comes before it does nothing where it fails. -/
theorem onPage_error {e : Failure} (answered : ∀ d, ∃ a, (act d).1 = .ok a)
    (call : (World.onPage before kinds act).run w = (.error e, w')) : w.Waits w' := by
  obtain ⟨w₁, waits, ⟨e', eq⟩ | ⟨d, page, eq⟩⟩ := hb.onPage kinds act quiet
  · rw [call] at eq
    cases eq
    exact waits
  · obtain ⟨a, ok⟩ := answered d
    rw [call, ok] at eq
    cases eq

end Harmless

/-! ## Passes -/

/-- A world before and after steps in which no trigger arrived, nothing was written to the logs of the
page, and these failures were reported. -/
structure Passed (told : List (Failure × Context)) (w w' : World) : Prop where
  quiet : w'.Quiet
  collector : w'.collector = w.collector.addAll (told.map Diagnostic.warning)
  submissions : w'.submissions = w.submissions
  scrolls : w'.scrolls = w.scrolls
  hosted : w'.page.isSome = w.page.isSome

theorem Passed.trans {told told' : List (Failure × Context)} {a b c : World}
    (h : Passed told a b) (h' : Passed told' b c) : Passed (told ++ told') a c where
  quiet := h'.quiet
  collector := by rw [h'.collector, h.collector, List.map_append, Collector.addAll_append]
  submissions := h'.submissions.trans h.submissions
  scrolls := h'.scrolls.trans h.scrolls
  hosted := h'.hosted.trans h.hosted

theorem Passed.enter {told : List (Failure × Context)} {w w' : World} (h : Passed told w w')
    (phase : Phase) : Passed told w (w'.enter phase) :=
  ⟨h.quiet, h.collector, h.submissions, h.scrolls, h.hosted⟩

theorem Waits.passed {w w' : World} (h : w.Waits w') : Passed [] w w' := by
  obtain ⟨quiet, pending, rfl⟩ := h
  exact ⟨quiet, rfl, rfl, rfl, rfl⟩

theorem Passed.perform {w w₁ : World} {d : Document} (waits : w.Waits w₁) (page : w.page = some d)
    (c : Call) : Passed [] w { w₁ with page := some (c.perform d).2 } := by
  obtain ⟨quiet, pending, rfl⟩ := waits
  have log := c.sameLog_perform d
  refine ⟨quiet, rfl, ?_, ?_, ?_⟩
  · simp [World.submissions, page, log.submissions]
  · simp [World.scrolls, page, log.scrolls]
  · simp [page]

theorem Passed.report {w : World} (quiet : w.Quiet) (e : Failure) (context : Context) :
    Passed [(e, context)] w { w with collector := w.collector.report e context } :=
  ⟨quiet, rfl, rfl, rfl, rfl⟩

namespace Harmless

variable {before : World.Before} (hb : Harmless before)
include hb

theorem run (x : Program α) {w : World} (quiet : w.Quiet) :
    (∃ told, Passed told w ((World.run before x).run w).2) ∧
      ((World.run before x).run w).2.phase = w.phase := by
  induction x generalizing w with
  | done a => exact ⟨⟨[], (Waits.refl quiet).passed⟩, rfl⟩
  | call c next ih =>
    rw [World.run, run_bind_apply]
    obtain ⟨w₁, waits, ⟨e, eq⟩ | ⟨d, page, eq⟩⟩ := hb.onPage (fun d => c.kinds d) c.perform quiet
    · rw [eq]
      obtain ⟨⟨told, later⟩, phase⟩ := ih (.error e) waits.1
      exact ⟨⟨_, waits.passed.trans later⟩, phase.trans waits.phase⟩
    · rw [eq]
      have called := Passed.perform waits page c
      obtain ⟨⟨told, later⟩, phase⟩ := ih (c.perform d).1 called.quiet
      exact ⟨⟨_, called.trans later⟩, phase.trans waits.phase⟩
  | report e context next ih =>
    rw [World.run, run_bind_apply]
    have reported := Passed.report quiet e context
    obtain ⟨⟨told, later⟩, phase⟩ := ih reported.quiet
    exact ⟨⟨_, reported.trans later⟩, phase⟩

/-- Whatever a pass comes to in a quiet world, it stays in its phase, writes to no log and reports
warnings. -/
theorem runPass {x : Pass α} {w w' : World} {r : Except Failure α} (quiet : w.Quiet)
    (h : (World.runPass before x).run w = (r, w')) :
    (∃ told, Passed told w w') ∧ w'.phase = w.phase := by
  have passed := hb.run x.run quiet
  unfold World.runPass at h
  rwa [h] at passed

end Harmless

/-! ## Looking at the page -/

/-- Without a page, the first call breaks a pass off. -/
theorem runPass_ask_hostless (before : Before) (c : Call) (f : c.Answer → Pass α) {w : World}
    (hostless : w.page = none) :
    (runPass before (Pass.ask c >>= f)).run w = (.error .noHost, w) := by
  rw [runPass_bind, runPass_ask, onPage_run, hostless]

theorem hosted_of_ask {before : Before} {c : Call} {f : c.Answer → Pass α} {w w' : World} {a : α}
    (run : (runPass before (Pass.ask c >>= f)).run w = (.ok a, w')) : ∃ d, w.page = some d := by
  cases page : w.page with
  | some d => exact ⟨d, rfl⟩
  | none =>
    rw [runPass_ask_hostless before c f page] at run
    cases run

/-- Run anywhere in a quiet world, a pass does nothing, and what it comes to is read off the page. -/
def Looks (before : Before) (x : Pass α) (read : Document → α) : Prop :=
  ∀ (w : World) r w', w.Quiet → (runPass before x).run w = (r, w') →
    w.Waits w' ∧ ∀ a d, r = .ok a → w.page = some d → a = read d

theorem Looks.pure {before : Before} (a : α) : Looks before (pure a) fun _ => a := by
  intro w r w' quiet run
  cases run
  exact ⟨.refl quiet, fun b d same _ => (Except.ok.inj same).symm⟩

theorem Looks.bind {before : Before} {x : Pass α} {f : α → Pass β} {read : Document → α}
    {g : α → Document → β} (hx : Looks before x read) (hf : ∀ a, Looks before (f a) (g a)) :
    Looks before (x >>= f) fun d => g (read d) d := by
  intro w r w' quiet run
  rw [runPass_bind] at run
  rcases first : (runPass before x).run w with ⟨r₁, w₁⟩
  rw [first] at run
  obtain ⟨waits, answer⟩ := hx w r₁ w₁ quiet first
  cases r₁ with
  | error e =>
    cases run
    exact ⟨waits, fun a d impossible => (nomatch impossible)⟩
  | ok a =>
    obtain ⟨later, result⟩ := hf a w₁ r w' waits.1 run
    refine ⟨waits.trans later, fun b d same page => ?_⟩
    rw [result b d same (waits.page.trans page), answer a d rfl page]

theorem Harmless.looks {before : Before} (hb : Harmless before) {c : Call}
    {read : Document → c.Answer} (h : ∀ d, c.perform d = (.ok (read d), d)) :
    Looks before (Pass.ask c) read := by
  intro w r w' quiet run
  rw [runPass_ask] at run
  obtain ⟨w₁, waits, ⟨e, eq⟩ | ⟨d, page, eq⟩⟩ := hb.onPage (fun d => c.kinds d) c.perform quiet
  · rw [run] at eq
    cases eq
    exact ⟨waits, fun a d impossible => (nomatch impossible)⟩
  · rw [run, h] at eq
    cases eq
    obtain ⟨quiet₁, pending, rfl⟩ := waits
    refine ⟨⟨quiet₁, pending, by rw [← page]⟩, fun a d' same page' => ?_⟩
    obtain rfl := Option.some.inj (page.symm.trans page')
    exact (Except.ok.inj same).symm

end World

/-! ## What a form has opted in to -/

namespace Setup

open World

variable (s : Setup)

/-- What a form has opted in to on a page. -/
def bindingOn (d : Document) (form : Element) : Binding where
  form
  onSubmit := s.isEnabled (d.attribute? form s.config.attributes.onSubmit)
  onBlur := s.isEnabled (d.attribute? form s.config.attributes.onBlur)
  scroll := s.isEnabled (d.attribute? form s.config.attributes.scroll)

/-- The form around an element on a page, if it has opted in to the loss of the focus. -/
def liveFormOn (d : Document) (e : Element) : Option Element :=
  (d.closestForm? e).filter fun form => (s.bindingOn d form).onBlur

variable {before : Before} (hb : Harmless before)
include hb

theorem looks_binding (form : Element) :
    Looks before (s.binding form) fun d => s.bindingOn d form := by
  have answered (name : String) :
      Looks before (Pass.ask (.attributeOf form name)) fun d => d.attribute? form name :=
    hb.looks fun d => rfl
  exact (answered _).bind fun onSubmit => (answered _).bind fun onBlur =>
    (answered _).bind fun scroll => .pure _

theorem looks_liveForm (e : Element) :
    Looks before (s.liveForm e) fun d => s.liveFormOn d e := by
  have closest : Looks before (Pass.ask (.closestForm e)) fun d => d.closestForm? e :=
    hb.looks fun d => rfl
  unfold liveForm
  refine closest.bind (g := fun form d => form.filter fun form => (s.bindingOn d form).onBlur)
    fun form => ?_
  cases form with
  | none => exact .pure none
  | some form => exact (s.looks_binding hb form).bind fun b => .pure _

omit hb in
theorem hosted_of_binding {form : Element} {w w' : World} {b : Binding}
    (run : (runPass before (s.binding form)).run w = (.ok b, w')) : ∃ d, w.page = some d :=
  hosted_of_ask run

omit hb in
theorem hosted_of_liveForm {e : Element} {w w' : World} {form : Option Element}
    (run : (runPass before (s.liveForm e)).run w = (.ok form, w')) : ∃ d, w.page = some d :=
  hosted_of_ask run

/-- The outcome of a form lists the fields that the page holds at the start, in their order. -/
theorem fields_of_validateForm {scope : Element} {judged : Option (Descriptor × Outcome)}
    {w w' : World} {d : Document} (page : w.page = some d) (quiet : w.Quiet) {o : FormOutcome}
    (run : (runPass before (s.validateForm scope judged)).run w = (.ok o, w')) :
    o.fields.map (·.1.element) = d.carriers scope s.config.attributes.rules := by
  have asking : Looks before (Pass.ask (.carriers scope s.config.attributes.rules)) fun d =>
      d.carriers scope s.config.attributes.rules := hb.looks fun d => rfl
  unfold validateForm at run
  obtain ⟨elements, w₁, asked, run⟩ := runPass_bind_ok run
  obtain ⟨rs, w₂, turns, run⟩ := runPass_bind_ok run
  obtain ⟨u, w₃, gate, done⟩ := runPass_bind_ok run
  cases done
  have found := (asking w _ w₁ quiet asked).2 elements d rfl page
  exact ((s.gives_fields scope judged elements).of_run turns).trans found

/-- The element that lost the focus is judged exactly where it carries rules. -/
theorem isSome_of_judgeLeft {e form : Element} {w w' : World} {d : Document}
    (page : w.page = some d) (quiet : w.Quiet) {judged : Option (Descriptor × Outcome)}
    (run : (runPass before (s.judgeLeft e form)).run w = (.ok judged, w')) :
    judged.isSome = (d.attribute? e s.config.attributes.rules).isSome := by
  have asking : Looks before (Pass.ask (.attributeOf e s.config.attributes.rules)) fun d =>
      d.attribute? e s.config.attributes.rules := hb.looks fun d => rfl
  unfold judgeLeft at run
  obtain ⟨raw, w₁, asked, run⟩ := runPass_bind_ok run
  have found := (asking w _ w₁ quiet asked).2 raw d rfl page
  dsimp only at found
  rw [← found]
  cases raw with
  | none =>
    cases run
    rfl
  | some raw =>
    obtain ⟨r, w₂, -, done⟩ := runPass_bind_ok run
    cases done
    rfl

end Setup

end FormGate
