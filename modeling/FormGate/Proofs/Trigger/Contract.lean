import FormGate.Proofs.Trigger.Quiet

/-!
# The contract of the handlers

Where calls to the host may fail but no trigger arrives in the middle of a pass, a controller is idle
after every trigger, whatever fails (`Setup.Served.idle`), and what a handler reports and does to the
page and to the collector keeps to a contract (`Setup.contract`): which phases it lists for which
outcome, when it submits, where it scrolls to, and which diagnostics it tells.
-/

namespace FormGate

open World

/-! ## What is reported -/

/-- The diagnostic of a failure that broke the handling of a trigger off. -/
def Trigger.breakage (t : Trigger) (e : Failure) : Diagnostic :=
  .ofFailure e { operation := t.operation, component := "TriggerController" } .error

/-- The phases, the decision and the outcome that a report of an attempt to submit lists: it was
broken off before the pass or in the middle of it, or the pass ended and was decided on. -/
inductive SubmitPath : (transitions : List Phase) → (decision : Option Phase) →
    (outcome : Option FormOutcome) → (aborted : Bool) → Prop
  | unread : SubmitPath [] none none true
  | broken : SubmitPath [.evaluating, .idle] none none true
  | submittable {o : FormOutcome} (valid : o.valid = true) (aborted : Bool) :
      SubmitPath [.evaluating, .submittable, .idle] (some .submittable) (some o) aborted
  | blocked {o : FormOutcome} (invalid : o.valid = false) (aborted : Bool) :
      SubmitPath [.evaluating, .blocked, .idle] (some .blocked) (some o) aborted

/-- The phases and the outcomes that a report of an element that lost the focus lists: it was broken
off before the pass or in the middle of it, or the pass ended. -/
inductive BlurPath : (transitions : List Phase) → (outcome : Option FormOutcome) →
    (fieldOutcome : Option Outcome) → (aborted : Bool) → Prop
  | unread : BlurPath [] none none true
  | broken (fieldOutcome : Option Outcome) :
      BlurPath [.evaluating, .idle] none fieldOutcome true
  | finished (o : FormOutcome) (fieldOutcome : Option Outcome) :
      BlurPath [.evaluating, .idle] (some o) fieldOutcome false

/-- The report of an attempt to submit that was decided on. -/
def Report.decided (form : Element) (o : FormOutcome) (decision : Phase)
    (submitted aborted : Bool) (diagnostics : List Diagnostic) : Report where
  trigger := .submit form
  decision := some decision
  outcome := some o
  transitions := [.evaluating, decision, .idle]
  submitted
  aborted
  diagnostics

theorem Report.closed_deciding {form : Element} {o : FormOutcome} {decision : Phase}
    (submitted : Bool) {marker : Nat} {w : World} (awake : w.phase ≠ .idle) :
    Report.closed { (Report.ofSubmit form [.evaluating]).deciding o decision with submitted }
      marker w = .decided form o decision submitted false (w.collector.since marker) := by
  unfold closed rested
  rw [if_neg awake]
  rfl

/-- How a decision is reported when a failure breaks the pass off. -/
theorem Report.broken_deciding {form : Element} {o : FormOutcome} {decision : Phase} {marker : Nat}
    {e : Failure} {w : World} (awake : w.phase ≠ .idle) :
    ((Report.ofSubmit form [.evaluating]).deciding o decision).broken marker e w =
      .decided form o decision false true
        ((w.failed (.submit form) e).collector.since marker) := by
  unfold broken closed rested
  rw [if_neg (show (w.failed _ e).phase ≠ .idle from awake)]
  rfl

/-- The world in which the next calls to the host are to fail in this way. -/
def World.armed (failing : List Intervention) (w : World) : World :=
  { w with pending := failing, interludes := [] }

theorem DecideCourse.idle {before : Before} {marker : Nat} {b : Binding} {o : FormOutcome}
    {r out : Report} {w w' : World} (course : DecideCourse before marker b o r w out w') :
    w'.phase = .idle := by
  cases course <;> exact rest_phase _

namespace Setup

variable (s : Setup)

/-- Where a report of an attempt to submit has the page scroll to: to the first invalid field, where
the submission was blocked and the form has opted in to that. -/
def scrollTargets (form : Element) (w : World) (r : Report) : List Element :=
  if r.decision = some .blocked ∧ (w.page.any fun d => (s.bindingOn d form).scroll) = true then
    ((r.outcome.bind (·.firstInvalid?)).map (·.element)).toList
  else []

/-- A handler tells the latest of the diagnostics that were added meanwhile. Those are warnings about
the set-up of the form and, where a failure broke the pass off, that failure in the end. -/
structure Tells (t : Trigger) (r : Report) (w w' : World) : Prop where
  told : ∃ (warnings : List (Failure × Context)) (breakage : Option Failure),
    let added := warnings.map Diagnostic.warning ++ (breakage.map t.breakage).toList
    (r.aborted = true ↔ breakage.isSome = true) ∧ w'.collector = w.collector.addAll added ∧
      r.diagnostics = added.drop (added.length - w.collector.limit)
  last : r.aborted = true → ∃ e, r.diagnostics.getLast? = some (t.breakage e)

structure SubmitReport (form : Element) (r : Report) (w w' : World) : Prop where
  trigger : r.trigger = .submit form
  path : SubmitPath r.transitions r.decision r.outcome r.aborted
  hostless : w.page = none →
    r.transitions = [] ∧ r.diagnostics = [(Trigger.submit form).breakage .noHost]
  early : r.transitions = [] → w'.page = w.page
  submitted : r.submitted = true ↔ r.decision = some .submittable ∧ r.aborted = false
  submissions : w'.submissions = w.submissions ++ if r.submitted then [form] else []
  scrolls : w'.scrolls = w.scrolls ++ if r.aborted then [] else s.scrollTargets form w r
  unscrolled : r.decision = some .blocked → r.aborted = true → s.scrollTargets form w r ≠ []
  fields : ∀ o, r.outcome = some o → ∃ d, w.page = some d ∧
    o.fields.map (·.1.element) = d.carriers form s.config.attributes.rules
  fieldOutcome : r.fieldOutcome = none
  tells : Tells (.submit form) r w w'

/-- What is promised of the report of an element that lost the focus. -/
structure BlurReport (e : Element) (r : Report) (w w' : World) : Prop where
  trigger : r.trigger = .blur e
  path : BlurPath r.transitions r.outcome r.fieldOutcome r.aborted
  hostless : w.page = none →
    r.transitions = [] ∧ r.diagnostics = [(Trigger.blur e).breakage .noHost]
  early : r.transitions = [] → w'.page = w.page
  decision : r.decision = none
  submitted : r.submitted = false
  submissions : w'.submissions = w.submissions
  scrolls : w'.scrolls = w.scrolls
  live : r.transitions ≠ [] → ∃ d form, w.page = some d ∧ s.liveFormOn d e = some form
  judged : r.aborted = false → ∃ d, w.page = some d ∧
    (r.fieldOutcome.isSome = true ↔ (d.attribute? e s.config.attributes.rules).isSome = true)
  tells : Tells (.blur e) r w w'

structure SubmitContract (form : Element) (h : Handled) (w w' : World) : Prop where
  idle : w'.phase = .idle
  declined : h.report = none → h.prevented = false ∧ w'.page = w.page ∧
    w'.collector = w.collector ∧
    ∃ d, w.page = some d ∧ (s.bindingOn d form).validatesOnSubmit = false
  reported : ∀ r, h.report = some r → h.prevented = true ∧ s.SubmitReport form r w w'

/-- What is promised of an element that loses the focus. -/
structure BlurContract (e : Element) (h : Handled) (w w' : World) : Prop where
  idle : w'.phase = .idle
  unprevented : h.prevented = false
  declined : h.report = none → w'.page = w.page ∧ w'.collector = w.collector ∧
    ∃ d, w.page = some d ∧ s.liveFormOn d e = none
  reported : ∀ r, h.report = some r → s.BlurReport e r w w'

variable {s} in
theorem SubmitContract.of_report {form : Element} {r : Report} {w w' : World}
    (idle : w'.phase = .idle) (report : s.SubmitReport form r w w') :
    s.SubmitContract form ⟨some r, true⟩ w w' where
  idle
  declined none := absurd none (Option.some_ne_none r)
  reported r' same := by
    obtain rfl : r = r' := Option.some.inj same
    exact ⟨rfl, report⟩

variable {s} in
theorem BlurContract.of_report {e : Element} {r : Report} {w w' : World}
    (idle : w'.phase = .idle) (report : s.BlurReport e r w w') :
    s.BlurContract e ⟨some r, false⟩ w w' where
  idle
  unprevented := rfl
  declined none := absurd none (Option.some_ne_none r)
  reported r' same := by
    obtain rfl : r = r' := Option.some.inj same
    exact report

def Contract : Trigger → Handled → World → World → Prop
  | .submit form => s.SubmitContract form
  | .blur e => s.BlurContract e

/-! ## What a handler tells -/

section Tells

variable {t : Trigger} {w w' : World} {warnings : List (Failure × Context)}
  (bounded : w.collector.Bounded)
  (added : w'.collector = w.collector.addAll (warnings.map Diagnostic.warning))
include bounded added

/-- A pass that ends tells the warnings since its beginning. -/
theorem tells_closed {r : Report} (ended : r.aborted = false) :
    Tells t (r.closed w.collector.mark w') w w'.rest where
  told := by
    refine ⟨warnings, none, by simp [ended], ?_, ?_⟩
    · rw [rest_collector, added]
      simp
    · show w'.collector.since w.collector.mark = _
      rw [added]
      simpa using bounded.since_addAll (warnings.map Diagnostic.warning)
  last aborted := by
    rw [Report.closed_aborted, ended] at aborted
    cases aborted

/-- A pass that is broken off tells the failure after the warnings. -/
theorem tells_broken (limit : 1 ≤ w.collector.limit) {r : Report} (trigger : r.trigger = t)
    (e : Failure) : Tells t (r.broken w.collector.mark e w') w (w'.failed t e).rest := by
  have collector : (w'.failed t e).collector =
      w.collector.addAll (warnings.map Diagnostic.warning ++ [t.breakage e]) := by
    rw [Collector.addAll_append, ← added]
    rfl
  have diagnostics : (r.broken w.collector.mark e w').diagnostics =
      (warnings.map Diagnostic.warning ++ [t.breakage e]).drop
        ((warnings.map Diagnostic.warning ++ [t.breakage e]).length - w.collector.limit) := by
    rw [← bounded.since_addAll, ← collector, ← trigger]
    rfl
  constructor
  · refine ⟨warnings, some e, by simp, ?_, diagnostics⟩
    rw [rest_collector]
    exact collector
  · intro _
    refine ⟨e, ?_⟩
    -- the limit leaves room for the failure, which was added last
    rw [diagnostics, List.drop_append_of_le_length, List.getLast?_append]
    · rfl
    · rw [List.length_append, List.length_singleton]
      omega

end Tells

/-- Where nothing was reported before, a broken pass tells nothing but its failure. -/
theorem diagnostics_broken {w w' : World} (bounded : w.collector.Bounded)
    (limit : 1 ≤ w.collector.limit) {r : Report} (e : Failure) (silent : w'.collector = w.collector) :
    (r.broken w.collector.mark e w').diagnostics = [r.trigger.breakage e] := by
  have since := bounded.since_addAll [r.trigger.breakage e]
  rw [List.length_singleton, Nat.sub_eq_zero_of_le limit, List.drop_zero] at since
  rw [← since]
  show (w'.failed r.trigger e).collector.since _ = _
  unfold World.failed
  rw [silent]
  rfl

/-! ## Attempts to submit -/

section Submit

variable {s : Setup} {form : Element} {w : World} {d : Document} (page : w.page = some d)
  {o : FormOutcome}
  (fields : o.fields.map (·.1.element) = d.carriers form s.config.attributes.rules)
include page fields

/-- A report that was decided on keeps to the contract if it submits, scrolls and tells as it says. -/
theorem submitReport_decided {decision : Phase} {submitted aborted : Bool}
    {diagnostics : List Diagnostic} {r : Report} {w' : World}
    (report : r = .decided form o decision submitted aborted diagnostics)
    (path : SubmitPath [.evaluating, decision, .idle] (some decision) (some o) aborted)
    (sent : submitted = true ↔ decision = .submittable ∧ aborted = false)
    (submissions : w'.submissions = w.submissions ++ if submitted then [form] else [])
    {targets : List Element}
    (aim : targets = if decision = .blocked ∧ (s.bindingOn d form).scroll = true then
      (o.firstInvalid?.map (·.element)).toList else [])
    (scrolls : w'.scrolls = w.scrolls ++ if aborted then [] else targets)
    (unscrolled : decision = .blocked → aborted = true → targets ≠ [])
    (tells : Tells (.submit form) r w w') : s.SubmitReport form r w w' := by
  subst report
  have targets_eq : s.scrollTargets form w
      (.decided form o decision submitted aborted diagnostics) = targets := by
    unfold scrollTargets
    rw [page, aim]
    simp [Report.decided]
  constructor
  · rfl
  · exact path
  · intro hostless
    rw [page] at hostless
    cases hostless
  · intro none
    cases none
  · simpa [Report.decided] using sent
  · exact submissions
  · rw [targets_eq]
    exact scrolls
  · intro blocked
    rw [targets_eq]
    exact unscrolled (Option.some.inj blocked)
  · intro o' same
    obtain rfl := Option.some.inj same
    exact ⟨d, page, fields⟩
  · rfl
  · exact tells

variable {before : Before} (hb : Harmless before) (bounded : w.collector.Bounded)
  (limit : 1 ≤ w.collector.limit)
include hb bounded limit

theorem submitReport_of_decided {warnings : List (Failure × Context)} {w₂ w₃ : World} {r : Report}
    (passed : Passed warnings w w₂)
    (course : DecideCourse before w.collector.mark (s.bindingOn d form) o
      (Report.ofSubmit form [.evaluating]) w₂ r w₃) : s.SubmitReport form r w w₃ := by
  cases course with
  | submitted valid call =>
    obtain ⟨u, d', waits, page', -, rfl⟩ := hb.onPage_ok (passed.enter .submittable).quiet call
    have same := (passed.enter .submittable).trans waits.passed
    have page₁ : u.page = some d' := waits.page.trans page'
    have awake : u.phase ≠ .idle := by simp [waits.phase, enter]
    refine submitReport_decided page fields (Report.closed_deciding true awake)
      (.submittable valid _) (by simp) ?_ rfl ?_ (by simp) ?_
    · rw [← same.submissions, submissions_of_page page₁, rest_submissions, submissions_of_page rfl]
      rfl
    · rw [← same.scrolls, scrolls_of_page page₁, rest_scrolls, scrolls_of_page rfl]
      simp [Document.submit]
    · apply tells_closed bounded
      · exact same.collector
      · rfl
  | @refused e w₄ valid call =>
    have waits := hb.onPage_error (passed.enter .submittable).quiet (fun d => ⟨(), rfl⟩) call
    have same := (passed.enter .submittable).trans waits.passed
    have awake : w₄.phase ≠ .idle := by simp [waits.phase, enter]
    refine submitReport_decided page fields (Report.broken_deciding awake)
      (.submittable valid _) (by simp) ?_ rfl ?_ (by simp) ?_
    · simpa using same.submissions
    · simpa using same.scrolls
    · refine tells_broken bounded same.collector limit ?_ e
      rfl
  | blocked invalid still =>
    have same := passed.enter .blocked
    have awake : (w₂.enter .blocked).phase ≠ .idle := by simp [enter]
    have aimless : (if (s.bindingOn d form).scroll = true then
        (o.firstInvalid?.map (·.element)).toList else []) = [] := by
      split_ifs with scroll
      · cases first : o.firstInvalid? with
        | none => rfl
        | some field => exact (still field scroll first).elim
      · rfl
    refine submitReport_decided page fields (Report.closed_deciding false awake)
      (.blocked invalid _) (by simp) ?_ rfl ?_ (by simp) ?_
    · simpa using same.submissions
    · simpa [aimless] using same.scrolls
    · refine tells_closed bounded same.collector ?_
      rfl
  | @scrolled field _ invalid scroll first call =>
    obtain ⟨u, d', waits, page', -, rfl⟩ := hb.onPage_ok (passed.enter .blocked).quiet call
    have same := (passed.enter .blocked).trans waits.passed
    have page₁ : u.page = some d' := waits.page.trans page'
    have awake : u.phase ≠ .idle := by simp [waits.phase, enter]
    refine submitReport_decided page fields (Report.closed_deciding false awake)
      (.blocked invalid _) (by simp) ?_ rfl ?_ (by simp) ?_
    · rw [← same.submissions, submissions_of_page page₁, rest_submissions, submissions_of_page rfl]
      simp [Document.scrollTo]
    · rw [← same.scrolls, scrolls_of_page page₁, rest_scrolls, scrolls_of_page rfl]
      simp [Document.scrollTo, scroll, first]
    · apply tells_closed bounded
      · exact same.collector
      · rfl
  | @unscrolled field e w₄ invalid scroll first call =>
    have waits := hb.onPage_error (passed.enter .blocked).quiet (fun d => ⟨(), rfl⟩) call
    have same := (passed.enter .blocked).trans waits.passed
    have awake : w₄.phase ≠ .idle := by simp [waits.phase, enter]
    refine submitReport_decided page fields (Report.broken_deciding awake)
      (.blocked invalid _) (by simp) ?_ rfl ?_ (by simp [scroll, first]) ?_
    · simpa using same.submissions
    · simpa using same.scrolls
    · refine tells_broken bounded same.collector limit ?_ e
      rfl

end Submit

variable {s : Setup} {before : Before}

/-- An attempt to submit that broke off before anything was decided is reported as promised if its
phases are. -/
theorem submitReport_broken {form : Element} {begun : List Phase} {w w₁ : World} {f : Failure}
    {r : Report} (report : r = (Report.ofSubmit form begun).broken w.collector.mark f w₁)
    (bounded : w.collector.Bounded) (limit : 1 ≤ w.collector.limit)
    {warnings : List (Failure × Context)} (passed : Passed warnings w w₁)
    (path : SubmitPath r.transitions none none true)
    (hostless : w.page = none →
      r.transitions = [] ∧ r.diagnostics = [(Trigger.submit form).breakage .noHost])
    (early : r.transitions = [] → w₁.page = w.page) :
    s.SubmitReport form r w (w₁.failed (.submit form) f).rest := by
  subst report
  constructor
  · simp [Report.ofSubmit]
  · simpa [Report.ofSubmit] using path
  · exact hostless
  · intro none
    rw [rest_page]
    exact early none
  · simp [Report.ofSubmit]
  · simpa [Report.ofSubmit] using passed.submissions
  · simpa [Report.ofSubmit] using passed.scrolls
  · simp [Report.ofSubmit]
  · simp [Report.ofSubmit]
  · simp [Report.ofSubmit]
  · refine tells_broken bounded passed.collector limit ?_ f
    rfl

theorem SubmitCourse.contract (hb : Harmless before) {form : Element} {w w' : World}
    (awaiting : w.Awaiting) {h : Handled} (course : s.SubmitCourse before form w h w') :
    s.SubmitContract form h w w' := by
  obtain ⟨idle, quiet, bounded, limit⟩ := awaiting
  cases course with
  | ignored evaluating =>
    rw [idle] at evaluating
    cases evaluating
  | @unread e w₁ free read =>
    have waits := (s.looks_binding hb form w _ w₁ quiet read).1
    have transitions := (Report.ofSubmit form).broken_transitions_of_idle w.collector.mark e
      (waits.phase.trans idle)
    refine .of_report (rest_phase _) (submitReport_broken rfl bounded limit waits.passed ?_ ?_
      fun _ => waits.page)
    · rw [transitions]
      exact .unread
    · intro hostless
      refine ⟨transitions, ?_⟩
      unfold binding at read
      rw [runPass_ask_hostless before _ _ hostless] at read
      cases read
      exact diagnostics_broken bounded limit _ rfl
  | @declined b w₁ free read out =>
    obtain ⟨waits, answer⟩ := s.looks_binding hb form w _ w₁ quiet read
    obtain ⟨d, page⟩ := s.hosted_of_binding read
    obtain rfl := answer b d rfl page
    refine ⟨rest_phase _, fun _ => ⟨rfl, ?_, ?_, d, page, out⟩, fun r none => absurd none.symm (Option.some_ne_none r)⟩
    · rw [rest_page, waits.page]
    · rw [rest_collector, waits.collector]
  | @broken b e w₁ w₂ free read opted pass =>
    have waits := (s.looks_binding hb form w _ w₁ quiet read).1
    obtain ⟨d, page⟩ := s.hosted_of_binding read
    obtain ⟨⟨warnings, later⟩, phase⟩ := hb.runPass (waits.passed.enter .evaluating).quiet pass
    have awake : w₂.phase ≠ .idle := by simp [phase, enter]
    have transitions := (Report.ofSubmit form [.evaluating]).broken_transitions_of_awake
      w.collector.mark e awake
    refine .of_report (rest_phase _) (submitReport_broken rfl bounded limit
      ((waits.passed.enter .evaluating).trans later) ?_ ?_ ?_)
    · rw [transitions]
      exact .broken
    · simp [page]
    · simp [transitions]
  | @decided b o r w₁ w₂ _ free read opted pass decide =>
    obtain ⟨waits, answer⟩ := s.looks_binding hb form w _ w₁ quiet read
    obtain ⟨d, page⟩ := s.hosted_of_binding read
    obtain rfl := answer b d rfl page
    have entered := waits.passed.enter .evaluating
    obtain ⟨⟨warnings, later⟩, phase⟩ := hb.runPass entered.quiet pass
    have page₁ : (w₁.enter .evaluating).page = some d := waits.page.trans page
    have fields := s.fields_of_validateForm hb page₁ entered.quiet pass
    exact .of_report decide.idle
      (submitReport_of_decided page fields hb bounded limit (entered.trans later) decide)

/-! ## Elements that lose the focus -/

section Blur

variable {e form : Element} {w w₂ : World} {d : Document} (bounded : w.collector.Bounded)
  {warnings : List (Failure × Context)} (passed : Passed warnings w w₂)
  {fieldOutcome : Option Outcome}
include bounded passed

theorem blurReport_broken {begun : List Phase} {f : Failure} {r : Report}
    (report : r = Report.broken { Report.ofBlur e begun with fieldOutcome } w.collector.mark f w₂)
    (limit : 1 ≤ w.collector.limit) (path : BlurPath r.transitions none fieldOutcome true)
    (hostless : w.page = none →
      r.transitions = [] ∧ r.diagnostics = [(Trigger.blur e).breakage .noHost])
    (early : r.transitions = [] → w₂.page = w.page)
    (live : r.transitions ≠ [] → ∃ d form, w.page = some d ∧ s.liveFormOn d e = some form) :
    s.BlurReport e r w (w₂.failed (.blur e) f).rest := by
  subst report
  constructor
  · simp [Report.ofBlur]
  · simpa [Report.ofBlur] using path
  · exact hostless
  · intro none
    rw [rest_page]
    exact early none
  · simp [Report.ofBlur]
  · simp [Report.ofBlur]
  · simpa using passed.submissions
  · simpa using passed.scrolls
  · exact live
  · simp
  · refine tells_broken bounded passed.collector limit ?_ f
    rfl

variable (page : w.page = some d) (live : s.liveFormOn d e = some form) (awake : w₂.phase ≠ .idle)
include page live awake

/-- A pass that was broken off in the middle is reported as promised. -/
theorem blurReport_interrupted (limit : 1 ≤ w.collector.limit) (f : Failure) :
    s.BlurReport e (Report.broken { Report.ofBlur e [.evaluating] with fieldOutcome }
      w.collector.mark f w₂) w (w₂.failed (.blur e) f).rest := by
  have transitions := Report.broken_transitions_of_awake
    { Report.ofBlur e [.evaluating] with fieldOutcome } w.collector.mark f awake
  refine blurReport_broken bounded passed rfl limit ?_ ?_ ?_ fun _ => ⟨d, form, page, live⟩
  · rw [transitions]
    exact .broken fieldOutcome
  · simp [page]
  · simp [transitions]

theorem blurReport_closed {o : FormOutcome}
    (judged : fieldOutcome.isSome = (d.attribute? e s.config.attributes.rules).isSome) :
    s.BlurReport e (Report.closed
      { Report.ofBlur e [.evaluating] with fieldOutcome, outcome := some o }
      w.collector.mark w₂) w w₂.rest := by
  have transitions : (Report.closed
      { Report.ofBlur e [.evaluating] with fieldOutcome, outcome := some o }
      w.collector.mark w₂).transitions = [.evaluating, .idle] := by
    rw [Report.closed_transitions, if_neg awake]
    rfl
  constructor
  · simp [Report.ofBlur]
  · rw [transitions]
    simpa [Report.ofBlur] using BlurPath.finished o fieldOutcome
  · simp [page]
  · simp [transitions]
  · simp [Report.ofBlur]
  · simp [Report.ofBlur]
  · simpa using passed.submissions
  · simpa using passed.scrolls
  · exact fun _ => ⟨d, form, page, live⟩
  · exact fun _ => ⟨d, page, by simp [judged]⟩
  · refine tells_closed bounded passed.collector ?_
    rfl

end Blur

/-- An element that loses the focus while the controller is idle is handled by the contract. -/
theorem BlurCourse.contract (hb : Harmless before) {e : Element} {w w' : World}
    (awaiting : w.Awaiting) {h : Handled} (course : s.BlurCourse before e w h w') :
    s.BlurContract e h w w' := by
  obtain ⟨idle, quiet, bounded, limit⟩ := awaiting
  cases course with
  | ignored evaluating =>
    rw [idle] at evaluating
    cases evaluating
  | @unread f w₁ free read =>
    have waits := (s.looks_liveForm hb e w _ w₁ quiet read).1
    have transitions := (Report.ofBlur e).broken_transitions_of_idle w.collector.mark f
      (waits.phase.trans idle)
    refine .of_report (rest_phase _) (blurReport_broken bounded waits.passed rfl limit ?_ ?_
      (fun _ => waits.page) fun begun => absurd transitions begun)
    · rw [transitions]
      exact .unread
    · intro hostless
      refine ⟨transitions, ?_⟩
      unfold liveForm at read
      rw [runPass_ask_hostless before _ _ hostless] at read
      cases read
      exact diagnostics_broken bounded limit _ rfl
  | @declined w₁ free read =>
    obtain ⟨waits, answer⟩ := s.looks_liveForm hb e w _ w₁ quiet read
    obtain ⟨d, page⟩ := s.hosted_of_liveForm read
    refine ⟨rest_phase _, rfl, fun _ => ⟨?_, ?_, d, page, ?_⟩, fun r none => absurd none.symm (Option.some_ne_none r)⟩
    · rw [rest_page, waits.page]
    · rw [rest_collector, waits.collector]
    · exact (answer _ d rfl page).symm
  | @unjudged form f w₁ w₂ free read judge =>
    obtain ⟨waits, answer⟩ := s.looks_liveForm hb e w _ w₁ quiet read
    obtain ⟨d, page⟩ := s.hosted_of_liveForm read
    have entered := waits.passed.enter .evaluating
    obtain ⟨⟨warnings, later⟩, phase⟩ := hb.runPass entered.quiet judge
    have awake : w₂.phase ≠ .idle := by simp [phase, enter]
    exact .of_report (rest_phase _) (blurReport_interrupted bounded (entered.trans later) page
      (answer _ d rfl page).symm awake limit f)
  | @broken form judged f w₁ w₂ w₃ free read judge pass =>
    obtain ⟨waits, answer⟩ := s.looks_liveForm hb e w _ w₁ quiet read
    obtain ⟨d, page⟩ := s.hosted_of_liveForm read
    have entered := waits.passed.enter .evaluating
    obtain ⟨⟨warnings, judging⟩, phase⟩ := hb.runPass entered.quiet judge
    obtain ⟨⟨warnings', passing⟩, phase'⟩ := hb.runPass judging.quiet pass
    have awake : w₃.phase ≠ .idle := by simp [phase', phase, enter]
    exact .of_report (rest_phase _) (blurReport_interrupted bounded
      ((entered.trans judging).trans passing) page (answer _ d rfl page).symm awake limit f)
  | @finished form judged o w₁ w₂ w₃ free read judge pass =>
    obtain ⟨waits, answer⟩ := s.looks_liveForm hb e w _ w₁ quiet read
    obtain ⟨d, page⟩ := s.hosted_of_liveForm read
    have entered := waits.passed.enter .evaluating
    obtain ⟨⟨warnings, judging⟩, phase⟩ := hb.runPass entered.quiet judge
    obtain ⟨⟨warnings', passing⟩, phase'⟩ := hb.runPass judging.quiet pass
    have awake : w₃.phase ≠ .idle := by simp [phase', phase, enter]
    have page₁ : (w₁.enter .evaluating).page = some d := waits.page.trans page
    have found := s.isSome_of_judgeLeft hb page₁ entered.quiet judge
    exact .of_report (rest_phase _) (blurReport_closed bounded
      ((entered.trans judging).trans passing) page (answer _ d rfl page).symm awake
      (by simpa using found))

/-! ## Triggers one after the other -/

/-- What a controller promises of a trigger, whatever calls to the host fail meanwhile. -/
theorem handle_contract (s : Setup) (hb : Harmless before) (t : Trigger) {w : World}
    (awaiting : w.Awaiting) :
    s.Contract t ((s.handle before t).run w).1 w ((s.handle before t).run w).2 := by
  cases t with
  | submit form => exact SubmitCourse.contract hb awaiting (s.handleSubmit_course before form w)
  | blur e => exact BlurCourse.contract hb awaiting (s.handleBlur_course before e w)

/-- The worlds to which a new controller comes by triggers one after the other, none of them in the
middle of another. Any calls to the host may fail meanwhile, there may be no page at all, and in
between the page may become any other. -/
inductive Served (s : Setup) : World → Prop
  | created (page : Option Document) {collector : Collector} (bounded : collector.Bounded)
      (limit : 1 ≤ collector.limit) : Served s { page, collector }
  | handled {w : World} (served : Served s w) (t : Trigger) {failing : List Intervention}
      (quiet : ∀ i ∈ failing, i.triggers = []) : Served s ((s.handleWith failing t).run w).2
  | edited {w : World} (served : Served s w) (page : Option Document) : Served s { w with page }

/-- What a handler adds to a collector leaves it within its limit. -/
theorem Contract.bounded {t : Trigger} {h : Handled} {w w' : World} (contract : s.Contract t h w w')
    (bounded : w.collector.Bounded) :
    w'.phase = .idle ∧ w'.collector.Bounded ∧ w'.collector.limit = w.collector.limit := by
  have told {r : Report} (tells : Tells t r w w') :
      w'.collector.Bounded ∧ w'.collector.limit = w.collector.limit := by
    obtain ⟨warnings, breakage, -, added, -⟩ := tells.told
    rw [added]
    exact ⟨bounded.addAll _, Collector.addAll_limit _ _⟩
  cases t with
  | submit form =>
    refine ⟨contract.idle, ?_⟩
    cases report : h.report with
    | some r => exact told (contract.reported r report).2.tells
    | none =>
      rw [(contract.declined report).2.2.1]
      exact ⟨bounded, rfl⟩
  | blur e =>
    refine ⟨contract.idle, ?_⟩
    cases report : h.report with
    | some r => exact told (contract.reported r report).tells
    | none =>
      rw [(contract.declined report).2.1]
      exact ⟨bounded, rfl⟩

/-- Whatever has failed before, the controller is idle and awaits the next trigger. -/
theorem Served.awaiting {w : World} (served : s.Served w) {failing : List Intervention}
    (quiet : ∀ i ∈ failing, i.triggers = []) : (w.armed failing).Awaiting := by
  induction served generalizing failing with
  | created page bounded limit => exact ⟨rfl, quiet, bounded, limit⟩
  | @handled w served t failing' quiet' ih =>
    have awaiting := ih quiet'
    have contract := s.handle_contract (harmless_intervene s failing'.length) t awaiting
    obtain ⟨idle, bounded, limit⟩ := Contract.bounded contract awaiting.bounded
    exact ⟨idle, quiet, bounded, limit ▸ awaiting.limit⟩
  | edited served page ih => exact ⟨(ih quiet).idle, quiet, (ih quiet).bounded, (ih quiet).limit⟩

/-- The contract of the handlers. After any triggers one after the other on one controller, whichever
calls to the host failed meanwhile, the controller is idle, and it handles the next trigger as
promised, whichever calls fail then. -/
theorem contract_of_served (s : Setup) {w : World} (served : s.Served w) (t : Trigger)
    {failing : List Intervention} (quiet : ∀ i ∈ failing, i.triggers = []) :
    w.phase = .idle ∧ s.Contract t ((s.handleWith failing t).run w).1 (w.armed failing)
      ((s.handleWith failing t).run w).2 := by
  have awaiting := served.awaiting quiet
  refine ⟨awaiting.idle, ?_⟩
  rw [handleWith_run]
  exact s.handle_contract (harmless_intervene s failing.length) t awaiting

/-- After an attempt to submit during which the first reading of a value failed, the same form is
submitted. -/
theorem contract_after_failure :
    let rules := ("data-validate-validation", "required")
    let page : Document :=
      { tree := .cons ⟨0, .element "form", [("data-validate-on-submit", "true")]⟩ ""
          (.cons ⟨1, .element "input", [rules, ("value", "x")]⟩ "" .nil "" .nil) "" .nil
        fresh := 2 }
    let failing : List Intervention :=
      [{ kind := some .value, failure := some (.crash .runtime "gone") }]
    let w : World := { page := some page, collector := { command := "triggers", limit := 500 } }
    let w₁ := ((handleWith {} failing (.submit 0)).run w).2
    Contract {} (.submit 0) ((handleWith {} failing (.submit 0)).run w).1 (w.armed failing) w₁ ∧
      w₁.phase = .idle ∧
      Contract {} (.submit 0) ((handleWith {} [] (.submit 0)).run w₁).1 (w₁.armed [])
        ((handleWith {} [] (.submit 0)).run w₁).2 ∧
      ((handleWith {} [] (.submit 0)).run w₁).2.submissions = [0] := by
  intro rules page failing w w₁
  have quiet : ∀ i ∈ failing, i.triggers = [] := by decide
  have served : Served {} w := .created _ (Nat.zero_le _) (by decide)
  have first := contract_of_served {} served (.submit 0) quiet
  have unfailing : ∀ i ∈ ([] : List Intervention), i.triggers = [] := by decide
  have second := contract_of_served {} (.handled served (.submit 0) quiet) (.submit 0) unfailing
  exact ⟨first.2, second.1, second.2, by decide +kernel⟩

end Setup

end FormGate
