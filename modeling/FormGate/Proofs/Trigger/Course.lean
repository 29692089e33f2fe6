import FormGate.Proofs.Trigger.World

/-!
# The courses that the handling of a trigger can take

`SubmitCourse` and `BlurCourse` say once how an attempt to submit and the loss of the focus can go:
what was run in which world, what was found, and which report and which world that comes to. The
handlers take one of these courses (`handleSubmit_course`, `handleBlur_course`), and all that is
proved of them is proved by these cases.
-/

namespace FormGate

open World

namespace World

/-- The world back in the idle phase. -/
@[irreducible] def rest (w : World) : World :=
  if w.phase = .idle then w else w.enter .idle

/-- The world after a failure broke off the handling of a trigger. -/
def failed (t : Trigger) (e : Failure) (w : World) : World :=
  let context : Context := { operation := t.operation, component := "TriggerController" }
  { w with collector := w.collector.report e context .error }

@[simp] theorem rest_page (w : World) : w.rest.page = w.page := by
  unfold rest; split_ifs <;> rfl

@[simp] theorem rest_collector (w : World) : w.rest.collector = w.collector := by
  unfold rest; split_ifs <;> rfl

@[simp] theorem rest_interludes (w : World) : w.rest.interludes = w.interludes := by
  unfold rest; split_ifs <;> rfl

@[simp] theorem rest_phase (w : World) : w.rest.phase = .idle := by
  unfold rest
  split_ifs with h
  · exact h
  · rfl

theorem rest_of_idle {w : World} (h : w.phase = .idle) : w.rest = w := by
  unfold rest; rw [if_pos h]

theorem rest_of_ne_idle {w : World} (h : w.phase ≠ .idle) : w.rest = w.enter .idle := by
  unfold rest; rw [if_neg h]

end World

namespace Report

/-- The report of a pass that ends in a phase. -/
def rested (r : Report) (phase : Phase) : Report :=
  if phase = .idle then r else { r with transitions := r.transitions ++ [.idle] }

/-- The report of a pass that ends in a world. -/
def closed (r : Report) (marker : Nat) (w : World) : Report :=
  { r.rested w.phase with diagnostics := w.collector.since marker }

/-- The report of a pass that a failure broke off in a world. -/
def broken (r : Report) (marker : Nat) (e : Failure) (w : World) : Report :=
  closed { r with aborted := true } marker (w.failed r.trigger e)

/-- The report once it was decided on an outcome. -/
def deciding (r : Report) (o : FormOutcome) (decision : Phase) : Report :=
  { r with
    outcome := some o
    transitions := r.transitions ++ [decision]
    decision := some decision }

theorem rested_eq (r : Report) (phase : Phase) :
    r.rested phase = { r with transitions := (r.rested phase).transitions } := by
  unfold rested; split_ifs <;> rfl

section Fields

variable (r : Report) (marker : Nat) (e : Failure) (w : World)

@[simp] theorem closed_trigger : (r.closed marker w).trigger = r.trigger := by
  unfold closed; rw [rested_eq]

@[simp] theorem closed_decision : (r.closed marker w).decision = r.decision := by
  unfold closed; rw [rested_eq]

@[simp] theorem closed_outcome : (r.closed marker w).outcome = r.outcome := by
  unfold closed; rw [rested_eq]

@[simp] theorem closed_submitted : (r.closed marker w).submitted = r.submitted := by
  unfold closed; rw [rested_eq]

@[simp] theorem closed_aborted : (r.closed marker w).aborted = r.aborted := by
  unfold closed; rw [rested_eq]

theorem closed_transitions : (r.closed marker w).transitions =
    if w.phase = .idle then r.transitions else r.transitions ++ [.idle] := by
  unfold closed rested; split_ifs <;> rfl

theorem broken_transitions : (r.broken marker e w).transitions =
    if w.phase = .idle then r.transitions else r.transitions ++ [.idle] := by
  unfold broken; rw [closed_transitions]; rfl

@[simp] theorem broken_submitted : (r.broken marker e w).submitted = r.submitted := by
  unfold broken; rw [closed_submitted]

@[simp] theorem closed_fieldOutcome : (r.closed marker w).fieldOutcome = r.fieldOutcome := by
  unfold closed; rw [rested_eq]

@[simp] theorem broken_trigger : (r.broken marker e w).trigger = r.trigger := by
  unfold broken; rw [closed_trigger]

@[simp] theorem broken_decision : (r.broken marker e w).decision = r.decision := by
  unfold broken; rw [closed_decision]

@[simp] theorem broken_outcome : (r.broken marker e w).outcome = r.outcome := by
  unfold broken; rw [closed_outcome]

@[simp] theorem broken_fieldOutcome : (r.broken marker e w).fieldOutcome = r.fieldOutcome := by
  unfold broken; rw [closed_fieldOutcome]

@[simp] theorem broken_aborted : (r.broken marker e w).aborted = true := by
  unfold broken; rw [closed_aborted]

end Fields

/-- A pass that breaks off before it has begun lists no further phase. -/
theorem broken_transitions_of_idle (r : Report) (marker : Nat) (e : Failure) {w : World}
    (idle : w.phase = .idle) : (r.broken marker e w).transitions = r.transitions := by
  rw [broken_transitions, if_pos idle]

/-- A pass that breaks off once it has begun lists its return to the idle phase. -/
theorem broken_transitions_of_awake (r : Report) (marker : Nat) (e : Failure) {w : World}
    (awake : w.phase ≠ .idle) :
    (r.broken marker e w).transitions = r.transitions ++ [.idle] := by
  rw [broken_transitions, if_neg awake]

theorem enter_run (r : Report) (phase : Phase) (w : World) :
    (r.enter phase).run w = ({ r with transitions := r.transitions ++ [phase] }, w.enter phase) :=
  rfl

theorem settleDown_run (r : Report) (w : World) :
    r.settleDown.run w = (r.rested w.phase, w.rest) := by
  unfold settleDown rested rest
  rw [run_get_bind]
  split_ifs <;> rfl

theorem finish_run (r : Report) (marker : Nat) (w : World) :
    (r.finish marker).run w = (r.closed marker w, w.rest) := by
  unfold finish
  rw [run_bind_apply, settleDown_run]
  show (({ r.rested w.phase with diagnostics := w.rest.collector.since marker } : Report), w.rest) = _
  rw [rest_collector]
  rfl

theorem abort_run (r : Report) (marker : Nat) (e : Failure) (w : World) :
    (r.abort marker e).run w = (r.broken marker e w, (w.failed r.trigger e).rest) := by
  unfold abort
  rw [run_bind_apply]
  exact finish_run _ _ _

end Report

/-! ## Deciding -/

/-- How it can go on once the fields of a form were evaluated. -/
inductive DecideCourse (before : Before) (marker : Nat) (b : Binding) (o : FormOutcome) (r : Report)
    (w : World) : Report → World → Prop
  | submitted {w₁ : World} (valid : o.valid = true)
      (call : (onPage before (fun _ => [.submit, .caption]) fun d => (.ok (), d.submit b.form)).run
        (w.enter .submittable) = (.ok (), w₁)) :
      DecideCourse before marker b o r w
        (Report.closed { r.deciding o .submittable with submitted := true } marker w₁) w₁.rest
  | refused {e : Failure} {w₁ : World} (valid : o.valid = true)
      (call : (onPage before (fun _ => [.submit, .caption]) fun d => (.ok (), d.submit b.form)).run
        (w.enter .submittable) = (.error e, w₁)) :
      DecideCourse before marker b o r w ((r.deciding o .submittable).broken marker e w₁)
        (w₁.failed r.trigger e).rest
  | blocked (invalid : o.valid = false)
      (still : ∀ field, b.scroll = true → o.firstInvalid? = some field → False) :
      DecideCourse before marker b o r w
        ((r.deciding o .blocked).closed marker (w.enter .blocked)) (w.enter .blocked).rest
  | scrolled {field : Descriptor} {w₁ : World} (invalid : o.valid = false) (scroll : b.scroll = true)
      (first : o.firstInvalid? = some field)
      (call : (onPage before (fun _ => [.scrollTo, .caption])
        fun d => (.ok (), d.scrollTo field.element)).run (w.enter .blocked) = (.ok (), w₁)) :
      DecideCourse before marker b o r w ((r.deciding o .blocked).closed marker w₁) w₁.rest
  | unscrolled {field : Descriptor} {e : Failure} {w₁ : World} (invalid : o.valid = false)
      (scroll : b.scroll = true) (first : o.firstInvalid? = some field)
      (call : (onPage before (fun _ => [.scrollTo, .caption])
        fun d => (.ok (), d.scrollTo field.element)).run (w.enter .blocked) = (.error e, w₁)) :
      DecideCourse before marker b o r w ((r.deciding o .blocked).broken marker e w₁)
        (w₁.failed r.trigger e).rest

open Report in
theorem Report.decide_course (r : Report) (before : Before) (marker : Nat) (b : Binding)
    (o : FormOutcome) (w : World) :
    DecideCourse before marker b o r w ((r.decide before marker b o).run w).1
      ((r.decide before marker b o).run w).2 := by
  unfold Report.decide
  rw [run_bind_apply]
  by_cases valid : o.valid = true
  · simp only [valid, if_true]
    rw [run_bind_apply, enter_run]
    rcases call : (onPage before (fun _ => [.submit, .caption])
      fun d => (.ok (), d.submit b.form)).run (w.enter .submittable) with ⟨x, w₁⟩
    cases x with
    | ok u =>
      dsimp only
      rw [finish_run]
      exact .submitted valid call
    | error e =>
      dsimp only
      rw [abort_run]
      exact .refused valid call
  · have invalid : o.valid = false := by simpa using valid
    simp only [invalid, Bool.false_eq_true, if_false]
    rw [enter_run]
    dsimp only
    split
    · rename_i field scroll first
      rw [run_bind_apply]
      rcases call : (onPage before (fun _ => [.scrollTo, .caption])
        fun d => (.ok (), d.scrollTo field.element)).run (w.enter .blocked) with ⟨x, w₁⟩
      cases x with
      | ok u =>
        dsimp only
        rw [finish_run]
        exact .scrolled invalid scroll first call
      | error e =>
        dsimp only
        rw [abort_run]
        exact .unscrolled invalid scroll first call
    · rename_i still
      rw [finish_run]
      exact .blocked invalid still

/-! ## Attempts to submit -/

theorem Setup.binding_form {s : Setup} {before : Before} {form : Element} {b : Binding}
    {w w' : World} (read : (runPass before (s.binding form)).run w = (.ok b, w')) :
    b.form = form := by
  unfold Setup.binding at read
  obtain ⟨onSubmit, w₁, -, read⟩ := runPass_bind_ok read
  obtain ⟨onBlur, w₂, -, read⟩ := runPass_bind_ok read
  obtain ⟨scroll, w₃, -, read⟩ := runPass_bind_ok read
  cases read
  rfl

section Submit

variable (s : Setup) (before : Before) (form : Element) (w : World)

/-- The report of an attempt to submit at its start, and once its pass has begun. -/
def Report.ofSubmit (form : Element) (transitions : List Phase := []) : Report :=
  { trigger := .submit form, transitions }

/-- How the handling of an attempt to submit can go. -/
inductive Setup.SubmitCourse : Handled → World → Prop
  | ignored (evaluating : w.phase = .evaluating) : SubmitCourse {} w
  | unread {e : Failure} {w₁ : World} (free : w.phase ≠ .evaluating)
      (read : (runPass before (s.binding form)).run w = (.error e, w₁)) :
      SubmitCourse ⟨some ((Report.ofSubmit form).broken w.collector.mark e w₁), true⟩
        (w₁.failed (.submit form) e).rest
  | declined {b : Binding} {w₁ : World} (free : w.phase ≠ .evaluating)
      (read : (runPass before (s.binding form)).run w = (.ok b, w₁))
      (out : b.validatesOnSubmit = false) : SubmitCourse {} w₁.rest
  | broken {b : Binding} {e : Failure} {w₁ w₂ : World} (free : w.phase ≠ .evaluating)
      (read : (runPass before (s.binding form)).run w = (.ok b, w₁))
      (opted : b.validatesOnSubmit = true)
      (pass : (runPass before (s.validateForm form)).run (w₁.enter .evaluating) = (.error e, w₂)) :
      SubmitCourse
        ⟨some ((Report.ofSubmit form [.evaluating]).broken w.collector.mark e w₂), true⟩
        (w₂.failed (.submit form) e).rest
  | decided {b : Binding} {o : FormOutcome} {r : Report} {w₁ w₂ w₃ : World}
      (free : w.phase ≠ .evaluating)
      (read : (runPass before (s.binding form)).run w = (.ok b, w₁))
      (opted : b.validatesOnSubmit = true)
      (pass : (runPass before (s.validateForm form)).run (w₁.enter .evaluating) = (.ok o, w₂))
      (decide : DecideCourse before w.collector.mark b o (Report.ofSubmit form [.evaluating]) w₂
        r w₃) :
      SubmitCourse ⟨some r, true⟩ w₃

theorem Setup.handleSubmit_course :
    s.SubmitCourse before form w ((s.handleSubmit before form).run w).1
      ((s.handleSubmit before form).run w).2 := by
  unfold handleSubmit
  rw [run_get_bind]
  by_cases free : w.phase = .evaluating
  · simp only [free, if_true]
    exact .ignored free
  · simp only [free, if_false]
    rw [run_bind_apply]
    rcases read : (runPass before (s.binding form)).run w with ⟨x, w₁⟩
    cases x with
    | error e =>
      dsimp only
      rw [run_bind_apply, Report.abort_run]
      exact .unread free read
    | ok b =>
      dsimp only
      by_cases opted : b.validatesOnSubmit = true
      · simp only [opted, Bool.not_true, Bool.false_eq_true, if_false]
        rw [run_bind_apply, Report.enter_run]
        dsimp only
        rw [run_bind_apply]
        rcases pass : (runPass before (s.validateForm form)).run (w₁.enter .evaluating) with ⟨y, w₂⟩
        cases y with
        | error e =>
          dsimp only
          rw [run_bind_apply, Report.abort_run]
          exact .broken free read opted pass
        | ok o =>
          dsimp only
          rw [run_bind_apply]
          exact .decided free read opted pass (Report.decide_course _ _ _ _ _ _)
      · have out : b.validatesOnSubmit = false := by simpa using opted
        simp only [out, Bool.not_false, if_true]
        unfold Report.ignore
        rw [run_bind_apply, Report.settleDown_run]
        exact .declined free read out

end Submit

/-! ## Elements that lose the focus -/

section Blur

variable (s : Setup) (before : Before) (e : Element) (w : World)

/-- The report of an element that lost the focus at its start, and once its pass has begun. -/
def Report.ofBlur (e : Element) (transitions : List Phase := []) : Report :=
  { trigger := .blur e, transitions }

/-- How the handling of an element that loses the focus can go. -/
inductive Setup.BlurCourse : Handled → World → Prop
  | ignored (evaluating : w.phase = .evaluating) : BlurCourse {} w
  | unread {f : Failure} {w₁ : World} (free : w.phase ≠ .evaluating)
      (read : (runPass before (s.liveForm e)).run w = (.error f, w₁)) :
      BlurCourse ⟨some ((Report.ofBlur e).broken w.collector.mark f w₁), false⟩
        (w₁.failed (.blur e) f).rest
  | declined {w₁ : World} (free : w.phase ≠ .evaluating)
      (read : (runPass before (s.liveForm e)).run w = (.ok none, w₁)) : BlurCourse {} w₁.rest
  | unjudged {form : Element} {f : Failure} {w₁ w₂ : World} (free : w.phase ≠ .evaluating)
      (read : (runPass before (s.liveForm e)).run w = (.ok (some form), w₁))
      (judge : (runPass before (s.judgeLeft e form)).run (w₁.enter .evaluating) = (.error f, w₂)) :
      BlurCourse ⟨some ((Report.ofBlur e [.evaluating]).broken w.collector.mark f w₂), false⟩
        (w₂.failed (.blur e) f).rest
  | broken {form : Element} {judged : Option (Descriptor × Outcome)} {f : Failure}
      {w₁ w₂ w₃ : World} (free : w.phase ≠ .evaluating)
      (read : (runPass before (s.liveForm e)).run w = (.ok (some form), w₁))
      (judge : (runPass before (s.judgeLeft e form)).run (w₁.enter .evaluating) =
        (.ok judged, w₂))
      (pass : (runPass before (s.validateForm form judged)).run w₂ = (.error f, w₃)) :
      BlurCourse
        ⟨some (Report.broken { Report.ofBlur e [.evaluating] with
          fieldOutcome := judged.map (·.2) } w.collector.mark f w₃), false⟩
        (w₃.failed (.blur e) f).rest
  | finished {form : Element} {judged : Option (Descriptor × Outcome)} {o : FormOutcome}
      {w₁ w₂ w₃ : World} (free : w.phase ≠ .evaluating)
      (read : (runPass before (s.liveForm e)).run w = (.ok (some form), w₁))
      (judge : (runPass before (s.judgeLeft e form)).run (w₁.enter .evaluating) =
        (.ok judged, w₂))
      (pass : (runPass before (s.validateForm form judged)).run w₂ = (.ok o, w₃)) :
      BlurCourse
        ⟨some (Report.closed { Report.ofBlur e [.evaluating] with
          fieldOutcome := judged.map (·.2), outcome := some o } w.collector.mark w₃), false⟩
        w₃.rest

theorem Setup.handleBlur_course :
    s.BlurCourse before e w ((s.handleBlur before e).run w).1
      ((s.handleBlur before e).run w).2 := by
  unfold handleBlur
  rw [run_get_bind]
  by_cases free : w.phase = .evaluating
  · simp only [free, if_true]
    exact .ignored free
  · simp only [free, if_false]
    rw [run_bind_apply]
    rcases read : (runPass before (s.liveForm e)).run w with ⟨x, w₁⟩
    rcases x with f | _ | form
    · dsimp only
      rw [run_bind_apply, Report.abort_run]
      exact .unread free read
    · dsimp only
      unfold Report.ignore
      rw [run_bind_apply, Report.settleDown_run]
      exact .declined free read
    · dsimp only
      rw [run_bind_apply, Report.enter_run]
      dsimp only
      rw [run_bind_apply]
      rcases judge : (runPass before (s.judgeLeft e form)).run (w₁.enter .evaluating) with ⟨y, w₂⟩
      cases y with
      | error f =>
        dsimp only
        rw [run_bind_apply, Report.abort_run]
        exact .unjudged free read judge
      | ok judged =>
        dsimp only
        rw [run_bind_apply]
        rcases pass : (runPass before (s.validateForm form judged)).run w₂ with ⟨z, w₃⟩
        cases z with
        | error f =>
          dsimp only
          rw [run_bind_apply, Report.abort_run]
          exact .broken free read judge pass
        | ok o =>
          dsimp only
          rw [run_bind_apply, Report.finish_run]
          exact .finished free read judge pass

end Blur

/-! ## What every course keeps to -/

/-- The passes that handlers run. -/
inductive Setup.Stage (s : Setup) : {α : Type} → Pass α → Prop
  | binding (form : Element) : Stage s (s.binding form)
  | liveForm (e : Element) : Stage s (s.liveForm e)
  | judgeLeft (e form : Element) : Stage s (s.judgeLeft e form)
  | validateForm (form : Element) (judged : Option (Descriptor × Outcome)) :
      Stage s (s.validateForm form judged)

/-- A relation between worlds that each part of a handler keeps to: its passes, its decision, and
what it notes of itself. -/
structure World.Followed (s : Setup) (before : Before) (R : World → World → Prop) : Prop
    extends Chained R where
  report : ∀ (w : World) (c : Collector), R w { w with collector := c }
  enter : ∀ (w : World) (phase : Phase), R w (w.enter phase)
  pass : ∀ {α : Type} {x : Pass α} {w w' : World} {r : Except Failure α},
    s.Stage x → (runPass before x).run w = (r, w') → R w w'
  submit : ∀ {form : Element} {w w' : World} {r : Except Failure Unit},
    (onPage before (fun _ => [.submit, .caption]) fun d => (.ok (), d.submit form)).run w =
      (r, w') → R w w'
  scroll : ∀ {e : Element} {w w' : World} {r : Except Failure Unit},
    (onPage before (fun _ => [.scrollTo, .caption]) fun d => (.ok (), d.scrollTo e)).run w =
      (r, w') → R w w'

namespace World.Followed

variable {s : Setup} {before : Before} {R : World → World → Prop} (hR : Followed s before R)
include hR

theorem rest (w : World) : R w w.rest := by
  by_cases idle : w.phase = .idle
  · rw [rest_of_idle idle]
    exact hR.refl w
  · rw [rest_of_ne_idle idle]
    exact hR.enter w .idle

theorem failed (t : Trigger) (e : Failure) (w : World) : R w (w.failed t e).rest :=
  hR.trans (hR.report w _) (hR.rest _)

theorem decide {marker : Nat} {b : Binding} {o : FormOutcome} {r out : Report} {w w' : World}
    (course : DecideCourse before marker b o r w out w') : R w w' := by
  cases course with
  | submitted valid call =>
    exact hR.trans (hR.trans (hR.enter w .submittable) (hR.submit call)) (hR.rest _)
  | refused valid call =>
    exact hR.trans (hR.trans (hR.enter w .submittable) (hR.submit call)) (hR.failed _ _ _)
  | blocked invalid still => exact hR.trans (hR.enter w .blocked) (hR.rest _)
  | scrolled invalid scroll first call =>
    exact hR.trans (hR.trans (hR.enter w .blocked) (hR.scroll call)) (hR.rest _)
  | unscrolled invalid scroll first call =>
    exact hR.trans (hR.trans (hR.enter w .blocked) (hR.scroll call)) (hR.failed _ _ _)

theorem submitCourse {form : Element} {w w' : World} {h : Handled}
    (course : s.SubmitCourse before form w h w') : R w w' := by
  cases course with
  | ignored evaluating => exact hR.refl w
  | unread free read => exact hR.trans (hR.pass (.binding form) read) (hR.failed _ _ _)
  | declined free read out => exact hR.trans (hR.pass (.binding form) read) (hR.rest _)
  | broken free read opted pass =>
    have opened := hR.trans (hR.pass (.binding form) read) (hR.enter _ .evaluating)
    exact hR.trans (hR.trans opened (hR.pass (.validateForm form none) pass)) (hR.failed _ _ _)
  | decided free read opted pass decide =>
    have opened := hR.trans (hR.pass (.binding form) read) (hR.enter _ .evaluating)
    exact hR.trans (hR.trans opened (hR.pass (.validateForm form none) pass)) (hR.decide decide)

theorem blurCourse {e : Element} {w w' : World} {h : Handled}
    (course : s.BlurCourse before e w h w') : R w w' := by
  cases course with
  | ignored evaluating => exact hR.refl w
  | unread free read => exact hR.trans (hR.pass (.liveForm e) read) (hR.failed _ _ _)
  | declined free read => exact hR.trans (hR.pass (.liveForm e) read) (hR.rest _)
  | @unjudged form _ _ _ free read judge =>
    have opened := hR.trans (hR.pass (.liveForm e) read) (hR.enter _ .evaluating)
    exact hR.trans (hR.trans opened (hR.pass (.judgeLeft e form) judge)) (hR.failed _ _ _)
  | @broken form judged _ _ _ _ free read judge pass =>
    have opened := hR.trans (hR.pass (.liveForm e) read) (hR.enter _ .evaluating)
    have left := hR.trans opened (hR.pass (.judgeLeft e form) judge)
    exact hR.trans (hR.trans left (hR.pass (.validateForm form judged) pass)) (hR.failed _ _ _)
  | @finished form judged _ _ _ _ free read judge pass =>
    have opened := hR.trans (hR.pass (.liveForm e) read) (hR.enter _ .evaluating)
    have left := hR.trans opened (hR.pass (.judgeLeft e form) judge)
    exact hR.trans (hR.trans left (hR.pass (.validateForm form judged) pass)) (hR.rest _)

/-- Whatever the trigger and its course, the world that it leaves is reached by the relation. -/
theorem handle (t : Trigger) (w : World) : R w ((s.handle before t).run w).2 := by
  cases t with
  | submit form => exact hR.submitCourse (s.handleSubmit_course before form w)
  | blur e => exact hR.blurCourse (s.handleBlur_course before e w)

end World.Followed

/-- A relation between worlds that every call to the host keeps to, and all that a handler does
besides. -/
structure World.Kept.Handling (R : World → World → Prop) : Prop extends Kept R where
  enter : ∀ (w : World) (phase : Phase), R w (w.enter phase)
  submit : ∀ (w : World) (d : Document) (form : Element),
    w.page = some d → R w { w with page := some (d.submit form) }
  scroll : ∀ (w : World) (d : Document) (e : Element),
    w.page = some d → R w { w with page := some (d.scrollTo e) }

namespace World.Kept.Handling

variable {R : World → World → Prop} (hR : Kept.Handling R) {before : World.Before}
  (hb : Kept.Before R before)
include hR hb

theorem act {kinds : Document → List CallKind} {act : Document → Document} {w w' : World}
    {r : Except Failure Unit}
    (step : ∀ w d, w.page = some d → R w { w with page := some (act d) })
    (call : (World.onPage before kinds fun d => (.ok (), act d)).run w = (r, w')) : R w w' := by
  obtain ⟨w₁, h, ⟨e, eq⟩ | ⟨d, page, eq⟩⟩ := hR.toKept.onPage hb kinds (fun d => (.ok (), act d)) w
  · rw [call] at eq
    cases eq
    exact h
  · rw [call] at eq
    cases eq
    exact hR.trans h (step w₁ d page)

theorem followed (s : Setup) : Followed s before R where
  refl := hR.refl
  trans := hR.trans
  report := hR.report
  enter := hR.enter
  pass _ run := hR.runPass hb run
  submit {form} _ _ _ call := hR.act hb (fun w d page => hR.submit w d form page) call
  scroll {e} _ _ _ call := hR.act hb (fun w d page => hR.scroll w d e page) call

theorem handle (s : Setup) (t : Trigger) (w : World) : R w ((s.handle before t).run w).2 :=
  (hR.followed hb s).handle t w

end World.Kept.Handling

/-! ## Triggers inside each other -/

/-- A trigger with all that intervenes while it is handled. -/
structure Arrival where
  trigger : Trigger
  interventions : List Intervention := []

namespace Setup

/-- Handles triggers one after the other on one controller. Every call of a handler is told of,
those in the middle of others too, in the order in which they end. -/
def serve (s : Setup) : List Arrival → StateM World (List Interlude)
  | [] => pure []
  | a :: more => do
    let arrival := (← get).phase
    let handled ← s.handleWith a.interventions a.trigger
    let w ← get
    let later ← s.serve more
    return w.interludes ++ ⟨handled, w.page, arrival⟩ :: later

/-- The world after a trigger was handled, in which its interlude is noted. -/
def handledIn (s : Setup) (before : Before) (t : Trigger) (w : World) : World :=
  let r := (s.handle before t).run w
  { r.2 with interludes := r.2.interludes ++ [⟨r.1, r.2.page, w.phase⟩] }

variable (s : Setup)

theorem handleWith_run (interventions : List Intervention) (t : Trigger) (w : World) :
    (s.handleWith interventions t).run w =
      (s.handle (s.intervene interventions.length) t).run
        { w with pending := interventions, interludes := [] } := rfl

theorem serve_nil_run (w : World) : (s.serve []).run w = ([], w) := rfl

theorem serve_cons_run (a : Arrival) (more : List Arrival) (w : World) :
    (s.serve (a :: more)).run w =
      let r := (s.handleWith a.interventions a.trigger).run w
      let later := (s.serve more).run r.2
      (r.2.interludes ++ ⟨r.1, r.2.page, w.phase⟩ :: later.1, later.2) := rfl

theorem forM_triggers_run (before : Before) (ts : List Trigger) (w : World) :
    ((ts.forM fun t => do
      let arrival := (← get).phase
      let handled ← s.handle before t
      modify fun w => { w with
        interludes := w.interludes ++ [⟨handled, w.page, arrival⟩] } : StateM World Unit).run w).2 =
      ts.foldl (fun w t => s.handledIn before t w) w := by
  induction ts generalizing w with
  | nil => rfl
  | cons t ts ih =>
    rw [List.forM, run_bind_apply]
    exact ih _

/-- What every handled trigger keeps to if what comes before its calls does, is kept to by all that
intervenes, however deep. -/
theorem kept_intervene {R : World → World → Prop} (hR : Chained R)
    (hpending : ∀ w pending, R w { w with pending })
    (hhandle : ∀ before, Kept.Before R before → ∀ t w, R w (s.handledIn before t w)) (depth : Nat) :
    Kept.Before R (s.intervene depth) := by
  induction depth with
  | zero =>
    intro kind w
    exact hR.refl w
  | succ depth ih =>
    intro kind w
    unfold intervene
    rw [run_get_bind]
    dsimp only
    rw [run_bind_apply]
    refine hR.trans (hpending w (Intervention.due kind w.pending).2) ?_
    cases (Intervention.due kind w.pending).1 with
    | none => exact hR.refl _
    | some i =>
      dsimp only
      rw [run_bind_apply]
      have run (ts : List Trigger) (w : World) :
          R w (ts.foldl (fun w t => s.handledIn (s.intervene depth) t w) w) :=
        List.foldlRecOn ts _ (hR.refl w) fun w' kept t _ => hR.trans kept (hhandle _ ih t w')
      have triggers := run i.triggers { w with pending := (Intervention.due kind w.pending).2 }
      rw [← s.forM_triggers_run] at triggers
      cases i.failure with
      | none => exact triggers
      | some e => exact triggers

end Setup

end FormGate
