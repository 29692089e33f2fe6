import FormGate.Proofs.Trigger.Diagram

/-!
# Triggers that arrive during an evaluation

A controller that is evaluating refuses every trigger, and to refuse one changes nothing. So a run
into which triggers come during its evaluation comes to the same as the run without them
(`Setup.evaluation_undisturbed`). For this the two runs are followed side by side (`World.InStep`):
their worlds stay related, unless a trigger comes to the first one at another time.
-/

namespace FormGate

namespace World

variable {α β : Type}

/-! ## Two runs side by side -/

/-- Whether a trigger among the noted ones came at another time than during an evaluation. -/
def Astray (calls : List Interlude) : Prop :=
  ∃ c ∈ calls, c.arrival ≠ .evaluating

/-- A relation between the worlds of two runs, which have the same page, the same diagnostics and the
same phase. It does not hang on these. -/
structure Paired (R : World → World → Prop) : Prop where
  total : ∀ w, ∃ w', R w w'
  page : ∀ {w w' : World}, R w w' → w'.page = w.page
  collector : ∀ {w w' : World}, R w w' → w'.collector = w.collector
  phase : ∀ {w w' : World}, R w w' → w'.phase = w.phase
  withPage : ∀ {w w' : World}, R w w' → ∀ page, R { w with page } { w' with page }
  withCollector : ∀ {w w' : World}, R w w' → ∀ collector, R { w with collector } { w' with collector }
  enter : ∀ {w w' : World}, R w w' → ∀ phase, R (w.enter phase) (w'.enter phase)

/-- Two runs that start in related worlds come to the same and end in related worlds, unless the
first one goes astray. Where it did, it stays so. -/
structure InStep (astray : List Interlude → Prop) (R : World → World → Prop)
    (x x' : StateM World α) : Prop where
  keeps : ∀ w, astray w.interludes → astray (x.run w).2.interludes
  step : ∀ w w', R w w' → astray (x.run w).2.interludes ∨
    (x'.run w').1 = (x.run w).1 ∧ R (x.run w).2 (x'.run w').2

namespace InStep

variable {astray : List Interlude → Prop} {R : World → World → Prop}

theorem pure (a : α) : InStep astray R (pure a) (pure a) :=
  ⟨fun _ went => went, fun _ _ rel => .inr ⟨rfl, rel⟩⟩

theorem bind {x x' : StateM World α} {f f' : α → StateM World β} (hx : InStep astray R x x')
    (hf : ∀ a, InStep astray R (f a) (f' a)) : InStep astray R (x >>= f) (x' >>= f') where
  keeps w went := (hf _).keeps _ (hx.keeps w went)
  step w w' rel := by
    rw [run_bind_apply, run_bind_apply]
    obtain went | ⟨same, rel⟩ := hx.step w w' rel
    · exact .inl ((hf _).keeps _ went)
    · rw [same]
      exact (hf _).step _ _ rel

theorem modify {f : World → World} (interludes : ∀ w, (f w).interludes = w.interludes)
    (kept : ∀ {w w' : World}, R w w' → R (f w) (f w')) :
    InStep astray R (modify f) (modify f) where
  keeps w went := by
    show astray (f w).interludes
    rwa [interludes]
  step _ _ rel := .inr ⟨rfl, kept rel⟩

section Paired

variable (paired : Paired R)
include paired

/-- What is read of related worlds may be gone on with where both go on in step. -/
theorem read {f f' : World → StateM World β}
    (hf : ∀ v v', R v v' → InStep astray R (f v) (f' v')) :
    InStep astray R (get >>= f) (get >>= f') where
  keeps w went := by
    obtain ⟨w', rel⟩ := paired.total w
    exact (hf w w' rel).keeps w went
  step w w' rel := (hf w w' rel).step w w' rel

variable {before before' : Before} (hb : ∀ kind, InStep astray R (before kind) (before' kind))
include hb

omit paired in
theorem beforeAll (kinds : List CallKind) :
    InStep astray R (World.beforeAll before kinds) (World.beforeAll before' kinds) := by
  induction kinds with
  | nil => exact .pure _
  | cons kind kinds ih =>
    refine .bind (hb kind) fun r => ?_
    cases r with
    | error e => exact .pure _
    | ok u => exact ih

theorem onPage (kinds : Document → List CallKind) (act : Document → Except Failure α × Document) :
    InStep astray R (World.onPage before kinds act) (World.onPage before' kinds act) := by
  refine .read paired fun v v' rel => ?_
  rw [paired.page rel]
  cases v.page with
  | none => exact .pure _
  | some d =>
    refine .bind (.beforeAll hb (kinds d)) fun r => ?_
    cases r with
    | error e => exact .pure _
    | ok u =>
      refine .read paired fun v v' rel => ?_
      rw [paired.page rel]
      cases v.page with
      | none => exact .pure _
      | some d =>
        exact .bind (.modify (fun _ => rfl) fun rel => paired.withPage rel _) fun _ => .pure _

theorem run (x : Program α) : InStep astray R (World.run before x) (World.run before' x) := by
  induction x with
  | done a => exact .pure a
  | call c next ih => exact .bind (.onPage paired hb _ _) fun r => ih r
  | report e context next ih =>
    refine .bind ⟨fun _ went => went, fun w w' rel => .inr ⟨rfl, ?_⟩⟩ fun _ => ih
    show R { w with collector := _ } { w' with collector := w'.collector.report e context }
    rw [paired.collector rel]
    exact paired.withCollector rel _

theorem runPass (x : Pass α) :
    InStep astray R (World.runPass before x) (World.runPass before' x) :=
  .run paired hb x.run

end Paired

end InStep

end World

open World

/-! ## Handlers side by side -/

section Handlers

variable {astray : List Interlude → Prop} {R : World → World → Prop} (paired : Paired R)
include paired

namespace Report

theorem inStep_enter (r : Report) (phase : Phase) : InStep astray R (r.enter phase) (r.enter phase) :=
  .bind (.modify (fun _ => rfl) fun rel => paired.enter rel phase) fun _ => .pure _

theorem inStep_settleDown (r : Report) : InStep astray R r.settleDown r.settleDown := by
  refine .read paired fun v v' rel => ?_
  rw [paired.phase rel]
  split_ifs
  · exact .pure r
  · exact r.inStep_enter paired .idle

theorem inStep_finish (r : Report) (marker : Nat) :
    InStep astray R (r.finish marker) (r.finish marker) := by
  refine .bind (r.inStep_settleDown paired) fun r => .read paired fun v v' rel => ?_
  rw [paired.collector rel]
  exact .pure _

theorem inStep_abort (r : Report) (marker : Nat) (e : Failure) :
    InStep astray R (r.abort marker e) (r.abort marker e) := by
  refine .bind ⟨fun _ went => went, fun w w' rel => .inr ⟨rfl, ?_⟩⟩ fun _ =>
    inStep_finish paired _ marker
  show R { w with collector := _ } { w' with collector := w'.collector.report e _ .error }
  rw [paired.collector rel]
  exact paired.withCollector rel _

theorem inStep_ignore (r : Report) : InStep astray R r.ignore r.ignore :=
  .bind (r.inStep_settleDown paired) fun _ => .pure _

variable {before before' : Before} (hb : ∀ kind, InStep astray R (before kind) (before' kind))
include hb

theorem inStep_decide (r : Report) (marker : Nat) (b : Binding) (o : FormOutcome) :
    InStep astray R (r.decide before marker b o) (r.decide before' marker b o) := by
  refine .bind (inStep_enter paired _ _) fun r => ?_
  dsimp only
  split
  · refine .bind (.onPage paired hb _ _) fun call => ?_
    cases call with
    | ok u => exact inStep_finish paired _ marker
    | error e => exact inStep_abort paired _ marker e
  · split
    · refine .bind (.onPage paired hb _ _) fun call => ?_
      cases call with
      | ok u => exact inStep_finish paired _ marker
      | error e => exact inStep_abort paired _ marker e
    · exact inStep_finish paired _ marker

end Report

namespace Setup

variable {before before' : Before} (hb : ∀ kind, InStep astray R (before kind) (before' kind))
include hb

theorem inStep_handleSubmit (s : Setup) (form : Element) :
    InStep astray R (s.handleSubmit before form) (s.handleSubmit before' form) := by
  refine .read paired fun v v' rel => ?_
  rw [paired.phase rel, paired.collector rel]
  split_ifs
  · exact .pure _
  · refine .bind (.runPass paired hb _) fun read => ?_
    cases read with
    | error e => exact .bind (Report.inStep_abort paired _ _ e) fun _ => .pure _
    | ok b =>
      dsimp only
      split_ifs
      · exact Report.inStep_ignore paired _
      · refine .bind (Report.inStep_enter paired _ _) fun r =>
          .bind (.runPass paired hb _) fun pass => ?_
        cases pass with
        | error e => exact .bind (Report.inStep_abort paired _ _ e) fun _ => .pure _
        | ok o => exact .bind (Report.inStep_decide paired hb _ _ b o) fun _ => .pure _

theorem inStep_handleBlur (s : Setup) (e : Element) :
    InStep astray R (s.handleBlur before e) (s.handleBlur before' e) := by
  refine .read paired fun v v' rel => ?_
  rw [paired.phase rel, paired.collector rel]
  split_ifs
  · exact .pure _
  · refine .bind (.runPass paired hb _) fun read => ?_
    rcases read with f | _ | form
    · exact .bind (Report.inStep_abort paired _ _ f) fun _ => .pure _
    · exact Report.inStep_ignore paired _
    · refine .bind (Report.inStep_enter paired _ _) fun r =>
        .bind (.runPass paired hb _) fun judged => ?_
      cases judged with
      | error f => exact .bind (Report.inStep_abort paired _ _ f) fun _ => .pure _
      | ok judged =>
        refine .bind (.runPass paired hb _) fun pass => ?_
        cases pass with
        | error f => exact .bind (Report.inStep_abort paired _ _ f) fun _ => .pure _
        | ok o => exact .bind (Report.inStep_finish paired _ _) fun _ => .pure _

/-- A handler goes on in step where what comes before its calls does. -/
theorem inStep_handle (s : Setup) (t : Trigger) :
    InStep astray R (s.handle before t) (s.handle before' t) := by
  cases t with
  | submit form => exact s.inStep_handleSubmit paired hb form
  | blur e => exact s.inStep_handleBlur paired hb e

end Setup

end Handlers

/-! ## Interventions without their triggers -/

/-- The intervention without its triggers. -/
def Intervention.quieted (i : Intervention) : Intervention :=
  { i with triggers := [] }

/-- How a call goes on after the intervention. -/
def Intervention.answer (i : Intervention) : Except Failure Unit :=
  match i.failure with
  | some e => .error e
  | none => .ok ()

@[simp] theorem Intervention.awaits_quieted (i : Intervention) (kind : CallKind) :
    i.quieted.awaits kind = i.awaits kind := rfl

theorem Intervention.due_quieted (kind : CallKind) (is : List Intervention) :
    due kind (is.map quieted) = ((due kind is).1.map quieted, (due kind is).2.map quieted) := by
  cases is with
  | nil => rfl
  | cons i rest =>
    have skip_quieted : i.quieted.skip = i.skip := rfl
    cases awaits : i.awaits kind with
    | false => simp [due, awaits]
    | true =>
      cases skip : i.skip with
      | zero => simp [due, awaits, skip, skip_quieted]
      | succ n =>
        simp only [due, List.map_cons, awaits_quieted, awaits, skip_quieted, skip]
        rfl

namespace World

/-- The world without the triggers that may still come, and without those that came. -/
def quieted (w : World) : World :=
  { w with pending := w.pending.map Intervention.quieted, interludes := [] }

theorem paired_quieted : Paired fun w w' => w' = w.quieted where
  total w := ⟨_, rfl⟩
  page rel := by rw [rel]; rfl
  collector rel := by rw [rel]; rfl
  phase rel := by rw [rel]; rfl
  withPage rel page := by rw [rel]; rfl
  withCollector rel collector := by rw [rel]; rfl
  enter rel phase := by rw [rel]; rfl

/-- Two worlds of which the first has noted some more triggers, all of which it refused. -/
structure Refuses (w w' : World) : Prop where
  same : w = { w' with interludes := w.interludes }
  noted : w'.interludes.Sublist w.interludes
  refused : ∀ c ∈ w.interludes, c ∈ w'.interludes ∨ c.arrival = .evaluating ∧ c.handled = {}

theorem Refuses.refl (w : World) : Refuses w w :=
  ⟨rfl, .refl _, fun _ hc => .inl hc⟩

/-- What is done to both worlds apart from what they noted. -/
theorem Refuses.map {w w' : World} (h : Refuses w w') {f : World → World}
    (interludes : ∀ w, (f w).interludes = w.interludes)
    (apart : ∀ w cs, f { w with interludes := cs } = { f w with interludes := cs }) :
    Refuses (f w) (f w') where
  same := by
    rw [interludes w, ← apart]
    exact congrArg f h.same
  noted := by
    rw [interludes w, interludes w']
    exact h.noted
  refused := by
    rw [interludes w, interludes w']
    exact h.refused

theorem paired_refuses : Paired Refuses where
  total w := ⟨w, .refl w⟩
  page rel := by rw [rel.same]
  collector rel := by rw [rel.same]
  phase rel := by rw [rel.same]
  withPage rel page := rel.map (f := fun w => { w with page }) (fun _ => rfl) fun _ _ => rfl
  withCollector rel collector :=
    rel.map (f := fun w => { w with collector }) (fun _ => rfl) fun _ _ => rfl
  enter rel phase := rel.map (fun _ => rfl) fun _ _ => rfl

theorem Refuses.note {w w' : World} (h : Refuses w w') (c : Interlude) :
    Refuses { w with interludes := w.interludes ++ [c] }
      { w' with interludes := w'.interludes ++ [c] } where
  same := congrArg (fun v : World => { v with interludes := w.interludes ++ [c] }) h.same
  noted := h.noted.append (.refl _)
  refused := by
    intro x hx
    rcases List.mem_append.1 hx with hx | hx
    · exact (h.refused x hx).imp_left (List.mem_append_left _)
    · exact .inl (List.mem_append_right _ hx)

theorem Refuses.more {w w' : World} (h : Refuses w w') {cs : List Interlude}
    (refused : ∀ c ∈ cs, c.arrival = .evaluating ∧ c.handled = {}) :
    Refuses { w with interludes := w.interludes ++ cs } w' where
  same := congrArg (fun v : World => { v with interludes := w.interludes ++ cs }) h.same
  noted := h.noted.trans (List.sublist_append_left _ _)
  refused := by
    intro x hx
    rcases List.mem_append.1 hx with hx | hx
    · exact h.refused x hx
    · exact .inr (refused x hx)

end World

namespace Setup

/-- Lets triggers arrive one after the other. -/
def arrive (s : Setup) (before : Before) (ts : List Trigger) : StateM World Unit :=
  ts.forM fun t => do
    let arrival := (← get).phase
    let handled ← s.handle before t
    modify fun w => { w with interludes := w.interludes ++ [⟨handled, w.page, arrival⟩] }

/-- Lets further triggers arrive just before the calls that are made during an evaluation. -/
def interrupted (s : Setup) (further : CallKind → World → List Trigger) (before : Before) : Before :=
  fun kind => do
    let w ← get
    if w.phase = .evaluating then s.arrive before (further kind w)
    before kind

variable (s : Setup)

theorem handledIn_of_evaluating (before : Before) (t : Trigger) {w : World}
    (evaluating : w.phase = .evaluating) :
    s.handledIn before t w =
      { w with interludes := w.interludes ++ [⟨{}, w.page, .evaluating⟩] } := by
  unfold handledIn
  rw [handle_of_evaluating s before t w evaluating, ← evaluating]

theorem arrive_run (before : Before) (ts : List Trigger) (w : World) :
    (s.arrive before ts).run w = ((), ts.foldl (fun w t => s.handledIn before t w) w) :=
  Prod.ext rfl (s.forM_triggers_run before ts w)

theorem arrive_of_evaluating (before : Before) (ts : List Trigger) {w : World}
    (evaluating : w.phase = .evaluating) :
    ((s.arrive before ts).run w).2 =
      { w with interludes := w.interludes ++ ts.map fun _ => ⟨{}, w.page, .evaluating⟩ } := by
  rw [arrive_run]
  induction ts generalizing w with
  | nil => simp
  | cons t ts ih =>
    have first := s.handledIn_of_evaluating before t evaluating
    have later := ih (w := s.handledIn before t w) (by rw [first]; exact evaluating)
    rw [List.foldl_cons]
    refine later.trans ?_
    rw [first]
    simp

theorem intervene_run (depth : Nat) (kind : CallKind) (w : World) :
    (s.intervene (depth + 1) kind).run w =
      let w₁ := { w with pending := (Intervention.due kind w.pending).2 }
      match (Intervention.due kind w.pending).1 with
      | none => (.ok (), w₁)
      | some i => (i.answer, ((s.arrive (s.intervene depth) i.triggers).run w₁).2) := by
  unfold intervene
  rw [run_get_bind]
  dsimp only
  rw [run_bind_apply]
  cases (Intervention.due kind w.pending).1 with
  | none => rfl
  | some i => rfl

/-! ## Further triggers during an evaluation -/

theorem inStep_arrive {before : Before} (hb : ∀ kind,
    InStep (fun _ => False) Refuses (before kind) (before kind)) (ts : List Trigger) :
    InStep (fun _ => False) Refuses (s.arrive before ts) (s.arrive before ts) := by
  refine ⟨fun _ => id, fun w w' rel => .inr ⟨rfl, ?_⟩⟩
  rw [arrive_run, arrive_run]
  induction ts generalizing w w' with
  | nil => exact rel
  | cons t ts ih =>
    refine ih _ _ ?_
    obtain impossible | ⟨same, rel'⟩ := (s.inStep_handle paired_refuses hb t).step w w' rel
    · exact impossible.elim
    · have noted : (⟨((s.handle before t).run w').1, ((s.handle before t).run w').2.page, w'.phase⟩ :
          Interlude) = ⟨((s.handle before t).run w).1, ((s.handle before t).run w).2.page, w.phase⟩ := by
        rw [same, paired_refuses.page rel', paired_refuses.phase rel]
      show Refuses (s.handledIn before t w) (s.handledIn before t w')
      unfold handledIn
      dsimp only
      rw [noted]
      exact rel'.note _

/-- What the pending interventions do is the same for a controller that refused more triggers. -/
theorem inStep_intervene (depth : Nat) (kind : CallKind) :
    InStep (fun _ => False) Refuses (s.intervene depth kind) (s.intervene depth kind) := by
  induction depth generalizing kind with
  | zero => exact .pure _
  | succ depth ih =>
    refine ⟨fun _ => id, fun w w' rel => ?_⟩
    have pending : w'.pending = w.pending := by rw [rel.same]
    have waiting (pending : List Intervention) : Refuses { w with pending } { w' with pending } :=
      rel.map (f := fun w => { w with pending }) (fun _ => rfl) fun _ _ => rfl
    rw [intervene_run, intervene_run, pending]
    cases (Intervention.due kind w.pending).1 with
    | none => exact .inr ⟨rfl, waiting _⟩
    | some i =>
      obtain impossible | ⟨-, rel'⟩ := (s.inStep_arrive ih i.triggers).step _ _ (waiting _)
      · exact impossible.elim
      · exact .inr ⟨rfl, rel'⟩

theorem inStep_interrupted (further : CallKind → World → List Trigger) {before : Before}
    (hb : ∀ kind, InStep (fun _ => False) Refuses (before kind) (before kind)) (kind : CallKind) :
    InStep (fun _ => False) Refuses (s.interrupted further before kind) (before kind) := by
  refine ⟨fun _ => id, fun w w' rel => ?_⟩
  unfold interrupted
  rw [run_get_bind]
  split_ifs with evaluating
  · rw [run_bind_apply, s.arrive_of_evaluating before _ evaluating]
    refine (hb kind).step _ _ (rel.more fun c hc => ?_)
    obtain ⟨t, -, rfl⟩ := List.mem_map.1 hc
    exact ⟨rfl, rfl⟩
  · exact (hb kind).step w w' rel

/-! ## Interventions without their triggers -/

theorem astray_arrive {before : Before}
    (hb : ∀ kind, InStep Astray (fun w w' => w' = w.quieted) (before kind) (before kind))
    (ts : List Trigger) {w : World} (went : Astray w.interludes) :
    Astray ((s.arrive before ts).run w).2.interludes := by
  rw [arrive_run]
  induction ts generalizing w with
  | nil => exact went
  | cons t ts ih =>
    obtain ⟨c, hc, other⟩ := (s.inStep_handle paired_quieted hb t).keeps w went
    exact ih ⟨c, List.mem_append_left _ hc, other⟩

/-- Either the triggers come during an evaluation, and it is as if they had not come, or they come at
another time. -/
theorem arrive_quieted {before : Before}
    (hb : ∀ kind, InStep Astray (fun w w' => w' = w.quieted) (before kind) (before kind))
    (ts : List Trigger) (w : World) :
    Astray ((s.arrive before ts).run w).2.interludes ∨
      ((s.arrive before ts).run w).2.quieted = w.quieted := by
  by_cases evaluating : w.phase = .evaluating
  · rw [s.arrive_of_evaluating before ts evaluating]
    exact .inr rfl
  · cases ts with
    | nil => exact .inr rfl
    | cons t ts =>
      have came : Astray (s.handledIn before t w).interludes :=
        ⟨_, List.mem_append_right _ (List.mem_singleton_self _), evaluating⟩
      have later := s.astray_arrive hb ts came
      rw [arrive_run] at later ⊢
      exact .inl later

/-- What the pending interventions do during an evaluation is what they do without their triggers. -/
theorem inStep_quieted (depth : Nat) (kind : CallKind) :
    InStep Astray (fun w w' => w' = w.quieted) (s.intervene depth kind) (s.intervene depth kind) := by
  induction depth generalizing kind with
  | zero => exact .pure _
  | succ depth ih =>
    constructor
    · intro w went
      rw [intervene_run]
      cases (Intervention.due kind w.pending).1 with
      | none => exact went
      | some i => exact s.astray_arrive ih i.triggers went
    · rintro w _ rfl
      have due := Intervention.due_quieted kind w.pending
      rw [intervene_run, intervene_run]
      rw [show w.quieted.pending = w.pending.map Intervention.quieted from rfl, due]
      cases (Intervention.due kind w.pending).1 with
      | none => exact .inr ⟨rfl, rfl⟩
      | some i =>
        obtain went | same := s.arrive_quieted ih i.triggers
          { w with pending := (Intervention.due kind w.pending).2 }
        · exact .inl went
        · exact .inr ⟨rfl, same.symm⟩

/-! ## The run without the triggers -/

/-- What a controller does while it evaluates is not disturbed by triggers that arrive meanwhile. It
refuses each of them, and the report, the page with what was submitted and scrolled to, the
diagnostics and the phases are those of the run without them: without the triggers of the pending
interventions, where all of these came during an evaluation, and without any further ones that come
just before calls of the evaluation. -/
theorem evaluation_undisturbed (s : Setup) (t : Trigger) (w : World) :
    (∀ interventions : List Intervention,
      let r := (s.handleWith interventions t).run w
      (∀ c ∈ r.2.interludes, c.arrival = .evaluating) →
        (∀ c ∈ r.2.interludes, c.handled = {}) ∧
        (s.handleWith (interventions.map .quieted) t).run w = (r.1, r.2.quieted)) ∧
    ∀ (depth : Nat) (further : CallKind → World → List Trigger),
      let r := (s.handle (s.interrupted further (s.intervene depth)) t).run w
      let plain := (s.handle (s.intervene depth) t).run w
      r.1 = plain.1 ∧ r.2 = { plain.2 with interludes := r.2.interludes } ∧
        plain.2.interludes.Sublist r.2.interludes ∧
        ∀ c ∈ r.2.interludes, c ∈ plain.2.interludes ∨ c.arrival = .evaluating ∧ c.handled = {} := by
  constructor
  · intro interventions r evaluating
    obtain ⟨ms, cs, -, calls, excluded⟩ :=
      grows_handling.handle (fun kind w => (s.intervene_orderly interventions.length kind w).grows)
        s t { w with pending := interventions, interludes := [] }
    rw [List.nil_append] at calls
    refine ⟨fun c hc => ?_, ?_⟩
    · have noted : c ∈ cs := by rwa [← calls]
      exact excluded c noted (evaluating c hc)
    · have step := (s.inStep_handle paired_quieted (s.inStep_quieted interventions.length) t).step
        { w with pending := interventions, interludes := [] } _ rfl
      obtain ⟨c, hc, other⟩ | ⟨same, world⟩ := step
      · exact absurd (evaluating c hc) other
      · rw [handleWith_run, List.length_map]
        exact Prod.ext same world
  · intro depth further r plain
    have step := (s.inStep_handle paired_refuses
      (s.inStep_interrupted further (s.inStep_intervene depth)) t).step w w (.refl w)
    obtain impossible | ⟨same, rel⟩ := step
    · exact impossible.elim
    · exact ⟨same.symm, rel.same, rel.noted, rel.refused⟩

/-- While a form is evaluated, it is submitted again and its field loses the focus. -/
theorem undisturbed_by_two :
    let rules := ("data-validate-validation", "trim|required")
    let page : Document :=
      { tree := .cons ⟨0, .element "form", [("data-validate-on-submit", "true")]⟩ ""
          (.cons ⟨1, .element "input", [rules, ("value", " x ")]⟩ "" .nil "" .nil) "" .nil
        fresh := 2 }
    let w : World := { page := some page, collector := { command := "triggers", limit := 500 } }
    let twice : List Intervention := [{ kind := some .setValue, triggers := [.submit 0, .blur 1] }]
    let r := (handleWith {} twice (.submit 0)).run w
    r.2.interludes.map (·.arrival) = [.evaluating, .evaluating] ∧
      r.2.page.map (·.submissions) = some [0] ∧
      (∀ c ∈ r.2.interludes, c.handled = {}) ∧
      (handleWith {} (twice.map .quieted) (.submit 0)).run w = (r.1, r.2.quieted) := by
  intro rules page w twice
  exact ⟨by decide +kernel, by decide +kernel,
    (evaluation_undisturbed {} (.submit 0) w).1 twice (by decide +kernel)⟩

end Setup

end FormGate
