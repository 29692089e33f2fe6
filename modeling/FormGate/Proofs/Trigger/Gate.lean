import FormGate.Proofs.Document.Edit
import FormGate.Proofs.Trigger.Course

/-!
# The gate in front of submissions

Every step between two worlds accounts for what was submitted between them (`Setup.Accounts`): the
log of submissions grows by the forms that the calls of handlers report as submitted, one for each
such report and in their order, and a call that reports so has evaluated the form itself and found
every field valid (`Setup.Cleared`). Triggers inside each other keep to this at any depth, and so
does every run of them.
-/

namespace FormGate

open World

def Trigger.element : Trigger → Element
  | submit form => form
  | blur e => e

/-- The form that a call reports as submitted. -/
def Handled.submitted? (h : Handled) : Option Element :=
  match h.report with
  | some r => if r.submitted then some r.trigger.element else none
  | none => none

def World.submissions (w : World) : List Element :=
  (w.page.map (·.submissions)).getD []

namespace Setup

variable (s : Setup)

/-- The outcome of the pass that an attempt to submit runs itself: none where it does not come to a
pass, or the pass breaks off. -/
def ownOutcome? (before : Before) (form : Element) (w : World) : Option FormOutcome :=
  if w.phase = .evaluating then none
  else
    match (runPass before (s.binding form)).run w with
    | (.ok b, w) =>
      if b.validatesOnSubmit then
        ((runPass before (s.validateForm form)).run (w.enter .evaluating)).1.toOption
      else none
    | (.error _, _) => none

/-- A call that reports a submission is an attempt to submit, which ran a pass of its own over the
form, found every field valid, decided so, and did not break off. -/
def Cleared (h : Handled) : Prop :=
  ∀ r, h.report = some r → r.submitted = true →
    ∃ before form w o, h = ((s.handle before (.submit form)).run w).1 ∧ r.trigger = .submit form ∧
      s.ownOutcome? before form w = some o ∧ r.outcome = some o ∧
      (∀ f ∈ o.fields, f.2.valid = true) ∧ r.decision = some .submittable ∧ r.aborted = false

/-- What was submitted between two worlds was submitted by the calls noted between them and by the
given ones, in this order, and they were cleared to. -/
def Accounts (own : List Handled) (w w' : World) : Prop :=
  ∃ is : List Interlude, w'.interludes = w.interludes ++ is ∧
    w'.submissions = w.submissions ++ (is.map (·.handled) ++ own).filterMap (·.submitted?) ∧
    ∀ h ∈ is.map (·.handled) ++ own, s.Cleared h

variable {s}

namespace Accounts

theorem refl (w : World) : s.Accounts [] w w :=
  ⟨[], by simp, by simp, by simp⟩

theorem trans {own : List Handled} {a b c : World} (h : s.Accounts [] a b)
    (h' : s.Accounts own b c) : s.Accounts own a c := by
  obtain ⟨is, interludes, submissions, cleared⟩ := h
  obtain ⟨js, interludes', submissions', cleared'⟩ := h'
  refine ⟨is ++ js, ?_, ?_, ?_⟩
  · rw [interludes', interludes, List.append_assoc]
  · rw [submissions', submissions]
    simp
  · intro h hm
    simp only [List.append_nil, List.map_append, List.append_assoc, List.mem_append] at *
    rcases hm with hm | hm
    · exact cleared h hm
    · exact cleared' h hm

/-- A call that ends after what came about before it, and adds the form that it reports. -/
theorem close {h : Handled} {a b c : World} (hab : s.Accounts [] a b)
    (interludes : c.interludes = b.interludes)
    (submissions : c.submissions = b.submissions ++ h.submitted?.toList) (cleared : s.Cleared h) :
    s.Accounts [h] a c := by
  refine trans hab ⟨[], by simp [interludes], ?_, by simpa using cleared⟩
  rw [submissions]
  cases own : h.submitted? <;> simp [own]

end Accounts

theorem accounts_kept : Kept (s.Accounts []) where
  refl := Accounts.refl
  trans := Accounts.trans
  perform := by
    intro w d c page
    refine ⟨[], by simp, ?_, by simp⟩
    simp [World.submissions, page, (c.sameLog_perform d).submissions]
  report := by
    intro w c
    exact ⟨[], by simp, by simp [World.submissions], by simp⟩

theorem accounts_enter (phase : Phase) (w : World) : s.Accounts [] w (w.enter phase) :=
  ⟨[], by simp [enter], by simp [World.submissions, enter], by simp⟩

/-! ## One call of a handler -/

/-- A decision that is reported as a submission was made for a valid outcome. -/
theorem decide_cleared {before : Before} {marker : Nat} {b : Binding} {o : FormOutcome}
    {r out : Report} {w w' : World} (course : DecideCourse before marker b o r w out w')
    (fresh : r.submitted = false) (submitted : out.submitted = true) :
    out.trigger = r.trigger ∧ out.outcome = some o ∧ o.valid = true ∧
      out.decision = some .submittable ∧ out.aborted = r.aborted := by
  cases course with
  | submitted valid call => simp [Report.deciding, valid]
  | refused valid call => simp [Report.deciding, fresh] at submitted
  | blocked invalid still => simp [Report.deciding, fresh] at submitted
  | scrolled invalid scroll first call => simp [Report.deciding, fresh] at submitted
  | unscrolled invalid scroll first call => simp [Report.deciding, fresh] at submitted

/-- A decision adds its form to the log exactly where it is reported as a submission. -/
theorem decide_log {before : Before} (hb : Kept.Before (s.Accounts []) before) {marker : Nat}
    {b : Binding} {o : FormOutcome} {r out : Report} {w w' : World}
    (course : DecideCourse before marker b o r w out w') (fresh : r.submitted = false) :
    ∃ w₁, s.Accounts [] w w₁ ∧ w'.interludes = w₁.interludes ∧
      w'.submissions = w₁.submissions ++ if out.submitted then [b.form] else [] := by
  cases course with
  | submitted valid call =>
    obtain ⟨w₁, d, h, page, -, rfl⟩ := accounts_kept.onPage_ok hb call
    refine ⟨w₁, (accounts_enter _ w).trans h, by simp, ?_⟩
    simp [World.submissions, page, Document.submit]
  | refused valid call =>
    have h := accounts_kept.onPage_error hb call fun d => ⟨(), rfl⟩
    refine ⟨_, (accounts_enter _ w).trans h, by simp [failed], ?_⟩
    simp [World.submissions, failed, Report.deciding, fresh]
  | blocked invalid still =>
    refine ⟨_, accounts_enter .blocked w, by simp, ?_⟩
    simp [World.submissions, Report.deciding, fresh]
  | scrolled invalid scroll first call =>
    obtain ⟨w₁, d, h, page, -, rfl⟩ := accounts_kept.onPage_ok hb call
    refine ⟨w₁, (accounts_enter _ w).trans h, by simp, ?_⟩
    simp [World.submissions, page, Document.scrollTo, Report.deciding, fresh]
  | unscrolled invalid scroll first call =>
    have h := accounts_kept.onPage_error hb call fun d => ⟨(), rfl⟩
    refine ⟨_, (accounts_enter _ w).trans h, by simp [failed], ?_⟩
    simp [World.submissions, failed, Report.deciding, fresh]

/-- An attempt to submit that reports a submission has decided so on the outcome of its own pass. -/
theorem SubmitCourse.cleared {before : Before} {form : Element} {w w' : World} {h : Handled}
    (course : s.SubmitCourse before form w h w') {r : Report} (report : h.report = some r)
    (submitted : r.submitted = true) :
    r.trigger = .submit form ∧ ∃ o, s.ownOutcome? before form w = some o ∧ r.outcome = some o ∧
      (∀ f ∈ o.fields, f.2.valid = true) ∧ r.decision = some .submittable ∧ r.aborted = false := by
  cases course with
  | ignored evaluating => cases report
  | unread free read =>
    cases report
    simp [Report.ofSubmit] at submitted
  | declined free read out => cases report
  | broken free read opted pass =>
    cases report
    simp [Report.ofSubmit] at submitted
  | @decided b o r' w₁ w₂ _ free read opted pass decide =>
    obtain rfl : r' = r := Option.some.inj report
    obtain ⟨trigger, outcome, valid, decision, aborted⟩ := decide_cleared decide rfl submitted
    have own : s.ownOutcome? before form w = some o := by
      simp [ownOutcome?, free, read, opted, pass, Except.toOption]
    exact ⟨trigger, o, own, outcome, by simpa [FormOutcome.valid] using valid, decision, aborted⟩

/-- A call for an element that lost the focus reports no submission. -/
theorem BlurCourse.unsubmitted {before : Before} {e : Element} {w w' : World} {h : Handled}
    (course : s.BlurCourse before e w h w') {r : Report} (report : h.report = some r) :
    r.submitted = false := by
  cases course with
  | ignored evaluating => cases report
  | declined free read => cases report
  | unread free read => cases report; simp [Report.ofBlur]
  | unjudged free read judge => cases report; simp [Report.ofBlur]
  | broken free read judge pass => cases report; simp [Report.ofBlur]
  | finished free read judge pass => cases report; simp [Report.ofBlur]

theorem submitted?_eq_some {h : Handled} {form : Element} (submitted : h.submitted? = some form) :
    ∃ r, h.report = some r ∧ r.submitted = true ∧ r.trigger.element = form := by
  unfold Handled.submitted? at submitted
  cases report : h.report with
  | none => simp [report] at submitted
  | some r =>
    simp only [report, Option.ite_none_right_eq_some, Option.some.injEq] at submitted
    exact ⟨r, rfl, submitted⟩

/-- A call that reports a submission is an attempt to submit that form, and its own pass found every
field of it valid. -/
theorem handle_submitted {before : Before} {t : Trigger} {w : World} {form : Element}
    (submitted : ((s.handle before t).run w).1.submitted? = some form) :
    t = .submit form ∧ ∃ o, s.ownOutcome? before form w = some o ∧
      ∀ f ∈ o.fields, f.2.valid = true := by
  obtain ⟨r, report, sent, element⟩ := submitted?_eq_some submitted
  cases t with
  | submit form' =>
    obtain ⟨trigger, o, own, -, valid, -⟩ :=
      (s.handleSubmit_course before form' w).cleared report sent
    obtain rfl : form' = form := by rw [← element, trigger]; rfl
    exact ⟨rfl, o, own, valid⟩
  | blur e =>
    rw [(s.handleBlur_course before e w).unsubmitted report] at sent
    cases sent

theorem handle_cleared (s : Setup) (before : Before) (t : Trigger) (w : World) :
    s.Cleared ((s.handle before t).run w).1 := by
  intro r report submitted
  cases t with
  | submit form =>
    obtain ⟨trigger, o, cleared⟩ :=
      (s.handleSubmit_course before form w).cleared report submitted
    exact ⟨before, form, w, o, rfl, trigger, cleared⟩
  | blur e =>
    rw [(s.handleBlur_course before e w).unsubmitted report] at submitted
    cases submitted

section Calls

variable {before : Before} (hb : Kept.Before (s.Accounts []) before)
include hb

theorem SubmitCourse.accounts {form : Element} {w w' : World} {h : Handled}
    (course : s.SubmitCourse before form w h w') (cleared : s.Cleared h) :
    s.Accounts [h] w w' := by
  cases course with
  | ignored evaluating =>
    exact (Accounts.refl w).close rfl (by simp [Handled.submitted?]) cleared
  | unread free read =>
    have reading := accounts_kept.runPass hb read
    refine reading.close (by simp [failed]) ?_ cleared
    simp [World.submissions, failed, Handled.submitted?, Report.ofSubmit]
  | declined free read out =>
    have reading := accounts_kept.runPass hb read
    refine reading.close (by simp) ?_ cleared
    simp [World.submissions, Handled.submitted?]
  | broken free read opted pass =>
    have reading := accounts_kept.runPass hb read
    have passing := accounts_kept.runPass hb pass
    refine ((reading.trans (accounts_enter _ _)).trans passing).close (by simp [failed]) ?_ cleared
    simp [World.submissions, failed, Handled.submitted?, Report.ofSubmit]
  | @decided b o r w₁ w₂ _ free read opted pass decide =>
    have reading := accounts_kept.runPass hb read
    have passing := accounts_kept.runPass hb pass
    obtain ⟨w₃, deciding, interludes, submissions⟩ := decide_log hb decide rfl
    refine ((reading.trans (accounts_enter _ _)).trans (passing.trans deciding)).close
      interludes ?_ cleared
    rw [submissions, binding_form read]
    cases submitted : r.submitted with
    | false => simp [Handled.submitted?, submitted]
    | true =>
      obtain ⟨trigger, -⟩ := decide_cleared decide rfl submitted
      simp [Handled.submitted?, submitted, trigger, Report.ofSubmit, Trigger.element]

theorem BlurCourse.accounts {e : Element} {w w' : World} {h : Handled}
    (course : s.BlurCourse before e w h w') (cleared : s.Cleared h) : s.Accounts [h] w w' := by
  cases course with
  | ignored evaluating =>
    exact (Accounts.refl w).close rfl (by simp [Handled.submitted?]) cleared
  | unread free read =>
    have reading := accounts_kept.runPass hb read
    refine reading.close (by simp [failed]) ?_ cleared
    simp [World.submissions, failed, Handled.submitted?, Report.ofBlur]
  | declined free read =>
    have reading := accounts_kept.runPass hb read
    refine reading.close (by simp) ?_ cleared
    simp [World.submissions, Handled.submitted?]
  | unjudged free read judge =>
    have reading := accounts_kept.runPass hb read
    have judging := accounts_kept.runPass hb judge
    refine ((reading.trans (accounts_enter _ _)).trans judging).close (by simp [failed]) ?_ cleared
    simp [World.submissions, failed, Handled.submitted?, Report.ofBlur]
  | broken free read judge pass =>
    have reading := accounts_kept.runPass hb read
    have judging := accounts_kept.runPass hb judge
    have passing := accounts_kept.runPass hb pass
    refine ((reading.trans (accounts_enter _ _)).trans (judging.trans passing)).close
      (by simp [failed]) ?_ cleared
    simp [World.submissions, failed, Handled.submitted?, Report.ofBlur]
  | finished free read judge pass =>
    have reading := accounts_kept.runPass hb read
    have judging := accounts_kept.runPass hb judge
    have passing := accounts_kept.runPass hb pass
    refine ((reading.trans (accounts_enter _ _)).trans (judging.trans passing)).close
      (by simp) ?_ cleared
    simp [World.submissions, Handled.submitted?, Report.ofBlur]

/-- One call adds what it reports to the log, after all that came in the middle of it. -/
theorem handle_accounts (t : Trigger) (w : World) :
    s.Accounts [((s.handle before t).run w).1] w ((s.handle before t).run w).2 := by
  have cleared := s.handle_cleared before t w
  cases t with
  | submit form => exact (s.handleSubmit_course before form w).accounts hb cleared
  | blur e => exact (s.handleBlur_course before e w).accounts hb cleared

theorem handledIn_accounts (t : Trigger) (w : World) :
    s.Accounts [] w (s.handledIn before t w) := by
  obtain ⟨is, interludes, submissions, cleared⟩ := handle_accounts hb t w
  refine ⟨is ++ [⟨((s.handle before t).run w).1, ((s.handle before t).run w).2.page, w.phase⟩],
    ?_, ?_, ?_⟩
  · simp [handledIn, interludes]
  · rw [List.map_append, List.append_nil]
    exact submissions
  · simpa using cleared

end Calls

/-! ## Runs -/

theorem intervene_accounts (s : Setup) (depth : Nat) :
    Kept.Before (s.Accounts []) (s.intervene depth) :=
  s.kept_intervene accounts_kept.toChained (fun _ _ => ⟨[], by simp, by simp [World.submissions], by simp⟩)
    (fun _ => handledIn_accounts) depth

/-- Of the calls of a run, the list of those that were noted and the log agree. -/
theorem serve_accounts (s : Setup) (arrivals : List Arrival) (w : World) :
    let r := (s.serve arrivals).run w
    r.2.submissions = w.submissions ++ r.1.filterMap (·.handled.submitted?) ∧
      ∀ c ∈ r.1, s.Cleared c.handled := by
  induction arrivals generalizing w with
  | nil => exact ⟨(List.append_nil _).symm, fun c hc => nomatch hc⟩
  | cons a more ih =>
    obtain ⟨is, interludes, submissions, cleared⟩ :=
      handle_accounts (s.intervene_accounts a.interventions.length) a.trigger
        { w with pending := a.interventions, interludes := [] }
    rw [← handleWith_run] at interludes submissions cleared
    obtain ⟨later, clearedLater⟩ := ih ((s.handleWith a.interventions a.trigger).run w).2
    rw [List.nil_append] at interludes
    dsimp only
    rw [serve_cons_run]
    dsimp only
    rw [interludes, later, submissions]
    constructor
    · have map : ∀ cs : List Interlude, cs.filterMap (·.handled.submitted?) =
          (cs.map (·.handled)).filterMap (·.submitted?) := by
        intro cs
        rw [List.filterMap_map]
        rfl
      rw [map, map, List.append_assoc, ← List.filterMap_append, List.append_assoc, List.map_append]
      rfl
    · intro c hc
      simp only [List.mem_append, List.mem_cons] at hc
      rcases hc with hc | rfl | hc
      · exact cleared _ (List.mem_append_left _ (List.mem_map_of_mem hc))
      · exact cleared _ (List.mem_append_right _ (List.mem_singleton_self _))
      · exact clearedLater c hc

theorem isSome_submitted? (h : Handled) : h.submitted?.isSome = h.report.any (·.submitted) := by
  unfold Handled.submitted?
  cases h.report with
  | none => rfl
  | some r => cases submitted : r.submitted <;> simp [submitted]

/-- The gate. However triggers arrive, in the middle of each other and with failures anywhere, one
call adds at most its own form to the log, only where it reports so, and only as an attempt to submit
whose own pass found every field valid; the log of a whole run grows by one form for each call that
reports a submission, nested ones included; and such a call was cleared by its own evaluation of the
form. -/
theorem submissions_gated (s : Setup) :
    (∀ depth t w,
      let r := (s.handle (s.intervene depth) t).run w
      (∃ nested : List Interlude, r.2.interludes = w.interludes ++ nested ∧
        r.2.submissions = w.submissions ++ nested.filterMap (·.handled.submitted?) ++
          r.1.submitted?.toList) ∧
      ∀ form, r.1.submitted? = some form → t = .submit form ∧
        ∃ o, s.ownOutcome? (s.intervene depth) form w = some o ∧
          ∀ f ∈ o.fields, f.2.valid = true) ∧
    ∀ arrivals w,
      let r := (s.serve arrivals).run w
      r.2.submissions = w.submissions ++ r.1.filterMap (·.handled.submitted?) ∧
        r.2.submissions.length =
          w.submissions.length + r.1.countP (·.handled.report.any (·.submitted)) ∧
        ∀ c ∈ r.1, s.Cleared c.handled := by
  constructor
  · intro depth t w
    obtain ⟨is, interludes, submissions, -⟩ := handle_accounts (s.intervene_accounts depth) t w
    refine ⟨⟨is, interludes, ?_⟩, fun form => handle_submitted⟩
    rw [submissions, List.filterMap_append, List.filterMap_map, ← List.append_assoc]
    have last : [((s.handle (s.intervene depth) t).run w).1].filterMap (·.submitted?) =
        ((s.handle (s.intervene depth) t).run w).1.submitted?.toList := by
      cases own : ((s.handle (s.intervene depth) t).run w).1.submitted? <;> simp [own]
    rw [last]
    rfl
  · intro arrivals w
    obtain ⟨log, cleared⟩ := s.serve_accounts arrivals w
    refine ⟨log, ?_, cleared⟩
    rw [log, List.length_append, List.length_filterMap_eq_countP]
    simp only [isSome_submitted?]

end Setup

end FormGate
