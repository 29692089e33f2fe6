import FormGate.Proofs.Trigger.Course

/-!
# The diagram of phases

A controller is meant to go from the idle phase through an evaluation, and perhaps a decision, back
to the idle phase. Only an evaluation keeps further triggers out. While a decision is carried out, a
trigger that arrives is handled like any other, and the phase that it leaves is not the one that the
interrupted pass was in. So the diagram is kept to exactly where no trigger arrives during a decision
(`serve_diagram`).
-/

namespace FormGate

open World

namespace Phase

/-- The arrows of the diagram. -/
def mayEnter : Phase → Phase → Bool
  | idle, evaluating => true
  | evaluating, submittable | evaluating, blocked | evaluating, idle => true
  | submittable, idle | blocked, idle => true
  | _, _ => false

/-- Whether a decision is being carried out. -/
def isDecision : Phase → Bool
  | submittable | blocked => true
  | idle | evaluating => false

end Phase

/-- The phases that a pass goes through, if it evaluates anything, make up a whole path of the
diagram. -/
def Report.Complete (r : Report) : Prop :=
  .evaluating ∈ r.transitions →
    r.transitions = [.evaluating, .submittable, .idle] ∨
      r.transitions = [.evaluating, .blocked, .idle] ∨ r.transitions = [.evaluating, .idle]

/-- What the diagram asks of some moves of a controller and of the calls noted meanwhile: each move
is an arrow, and each report is complete. -/
def Diagram (moves : List (Phase × Phase)) (calls : List Interlude) : Prop :=
  (∀ m ∈ moves, m.1.mayEnter m.2 = true) ∧
    ∀ c ∈ calls, ∀ r, c.handled.report = some r → r.Complete

/-- No call arrived while a decision was carried out. -/
def Undecided (calls : List Interlude) : Prop :=
  ∀ c ∈ calls, c.arrival.isDecision = false

/-- Every call that arrived during an evaluation was ignored. -/
def Excluded (calls : List Interlude) : Prop :=
  ∀ c ∈ calls, c.arrival = .evaluating → c.handled = {}

section Lists

variable {ms ms' : List (Phase × Phase)} {cs cs' : List Interlude}

theorem diagram_append :
    Diagram (ms ++ ms') (cs ++ cs') ↔ Diagram ms cs ∧ Diagram ms' cs' := by
  simp only [Diagram, List.forall_mem_append]
  constructor
  · rintro ⟨⟨hm, hm'⟩, hc, hc'⟩
    exact ⟨⟨hm, hc⟩, hm', hc'⟩
  · rintro ⟨⟨hm, hc⟩, hm', hc'⟩
    exact ⟨⟨hm, hm'⟩, hc, hc'⟩

theorem undecided_append : Undecided (cs ++ cs') ↔ Undecided cs ∧ Undecided cs' :=
  List.forall_mem_append

theorem excluded_append : Excluded (cs ++ cs') ↔ Excluded cs ∧ Excluded cs' :=
  List.forall_mem_append

/-- Calls that arrived during an evaluation keep to the diagram if they were ignored. -/
theorem diagram_of_excluded (excluded : Excluded cs) (arrivals : ∀ c ∈ cs, c.arrival = .evaluating) :
    Diagram [] cs ∧ Undecided cs := by
  refine ⟨⟨by simp, fun c hc r hr => ?_⟩, fun c hc => ?_⟩
  · rw [excluded c hc (arrivals c hc)] at hr
    cases hr
  · rw [arrivals c hc]
    rfl

end Lists

/-! ## What goes on in between -/

namespace World

/-- Moves and calls only add up, and every call during an evaluation is ignored. -/
def Grows (w w' : World) : Prop :=
  ∃ ms cs, w'.moves = w.moves ++ ms ∧ w'.interludes = w.interludes ++ cs ∧ Excluded cs

/-- What may have happened by the time that a world came about from another, depending on the phase
at the start. During an evaluation nothing moves. Between passes the diagram is kept to exactly if no
call arrives during a decision. During a decision either nothing happens, or a call arrives in it and
leaves the controller idle. -/
def Orderly (w w' : World) : Prop :=
  ∃ ms cs, w'.moves = w.moves ++ ms ∧ w'.interludes = w.interludes ++ cs ∧ Excluded cs ∧
    match w.phase with
    | .evaluating => w'.phase = .evaluating ∧ ms = [] ∧ ∀ c ∈ cs, c.arrival = .evaluating
    | .idle => w'.phase = .idle ∧ (Diagram ms cs ↔ Undecided cs)
    | .submittable | .blocked =>
      (w'.phase = w.phase ∧ ms = [] ∧ cs = []) ∨ (w'.phase = .idle ∧ ¬ Undecided cs)

theorem Orderly.grows {w w' : World} (h : Orderly w w') : Grows w w' := by
  obtain ⟨ms, cs, moves, calls, excluded, -⟩ := h
  exact ⟨ms, cs, moves, calls, excluded⟩

theorem Orderly.of_idle {w w' : World} (h : Orderly w w') (idle : w.phase = .idle) :
    ∃ ms cs, w'.moves = w.moves ++ ms ∧ w'.interludes = w.interludes ++ cs ∧ Excluded cs ∧
      w'.phase = .idle ∧ (Diagram ms cs ↔ Undecided cs) := by
  unfold Orderly at h
  rwa [idle] at h

theorem grows_handling : Kept.Handling Grows where
  refl w := ⟨[], [], by simp, by simp, by simp [Excluded]⟩
  trans := by
    rintro a b c ⟨ms, cs, moves, calls, excluded⟩ ⟨ms', cs', moves', calls', excluded'⟩
    refine ⟨ms ++ ms', cs ++ cs', ?_, ?_, excluded_append.2 ⟨excluded, excluded'⟩⟩
    · rw [moves', moves, List.append_assoc]
    · rw [calls', calls, List.append_assoc]
  perform w d c page := ⟨[], [], by simp, by simp, by simp [Excluded]⟩
  report w c := ⟨[], [], by simp, by simp, by simp [Excluded]⟩
  enter w phase := ⟨[(w.phase, phase)], [], rfl, by simp [enter], by simp [Excluded]⟩
  submit w d form page := ⟨[], [], by simp, by simp, by simp [Excluded]⟩
  scroll w d e page := ⟨[], [], by simp, by simp, by simp [Excluded]⟩

theorem orderly_of_same {w w' : World} (phase : w'.phase = w.phase) (moves : w'.moves = w.moves)
    (calls : w'.interludes = w.interludes) : Orderly w w' := by
  refine ⟨[], [], by simp [moves], by simp [calls], by simp [Excluded], ?_⟩
  cases at_start : w.phase <;> simp [phase, at_start, Diagram, Undecided]

theorem Orderly.trans {a b c : World} (h : Orderly a b) (h' : Orderly b c) : Orderly a c := by
  obtain ⟨ms, cs, moves, calls, excluded, course⟩ := h
  obtain ⟨ms', cs', moves', calls', excluded', course'⟩ := h'
  refine ⟨ms ++ ms', cs ++ cs', ?_, ?_, excluded_append.2 ⟨excluded, excluded'⟩, ?_⟩
  · rw [moves', moves, List.append_assoc]
  · rw [calls', calls, List.append_assoc]
  · cases at_start : a.phase <;> simp only [at_start] at course ⊢
    case idle =>
      obtain ⟨idle, iff⟩ := course
      simp only [idle] at course'
      rw [diagram_append, undecided_append, iff, course'.2]
      exact ⟨course'.1, Iff.rfl⟩
    case evaluating =>
      obtain ⟨evaluating, rfl, arrivals⟩ := course
      simp only [evaluating] at course'
      exact ⟨course'.1, by simp [course'.2.1],
        List.forall_mem_append.2 ⟨arrivals, course'.2.2⟩⟩
    all_goals
      rcases course with ⟨same, rfl, rfl⟩ | ⟨idle, arrived⟩
      · simpa only [same, at_start, List.nil_append] using course'
      · simp only [idle] at course'
        rw [undecided_append]
        exact .inr ⟨course'.1, fun all => arrived all.1⟩

theorem orderly_kept : Kept Orderly where
  refl _ := orderly_of_same rfl rfl rfl
  trans := Orderly.trans
  perform _ _ _ _ := orderly_of_same rfl rfl rfl
  report _ _ := orderly_of_same rfl rfl rfl

/-! ## Inside one call -/

/-- How far a call can be that found the controller idle: the phases that its report lists, the phase
of the controller, and the moves and calls since it arrived. When something arrived during its
decision, the controller was left idle behind its back. -/
inductive Standing : List Phase → Phase → List (Phase × Phase) → List Interlude → Prop
  | reading {ms cs} (orderly : Diagram ms cs ↔ Undecided cs) : Standing [] .idle ms cs
  | evaluating {ms cs} (orderly : Diagram ms cs ↔ Undecided cs) :
      Standing [.evaluating] .evaluating ms cs
  | deciding {ms cs phase} (decision : phase.isDecision = true)
      (orderly : Diagram ms cs ↔ Undecided cs) : Standing [.evaluating, phase] phase ms cs
  | overtaken {ms cs phase} (decision : phase.isDecision = true) (arrived : ¬ Undecided cs) :
      Standing [.evaluating, phase] .idle ms cs

/-- A call that arrived in a world stands somewhere in another. -/
def Stands (w : World) (transitions : List Phase) (w' : World) : Prop :=
  ∃ ms cs, w'.moves = w.moves ++ ms ∧ w'.interludes = w.interludes ++ cs ∧ Excluded cs ∧
    Standing transitions w'.phase ms cs

namespace Stands

variable {w w' w₁ : World}

theorem start (idle : w.phase = .idle) (h : Orderly w w') : Stands w [] w' := by
  obtain ⟨ms, cs, moves, calls, excluded, still, orderly⟩ := h.of_idle idle
  exact ⟨ms, cs, moves, calls, excluded, still ▸ .reading orderly⟩

theorem evaluate (h : Stands w [] w') : Stands w [.evaluating] (w'.enter .evaluating) := by
  obtain ⟨ms, cs, moves, calls, excluded, standing⟩ := h
  refine ⟨ms ++ [(w'.phase, .evaluating)], cs, ?_, calls, excluded, .evaluating ?_⟩
  · rw [enter, moves, List.append_assoc]
  · generalize w'.phase = phase at standing ⊢
    cases standing with
    | reading orderly =>
      rw [← List.append_nil cs, diagram_append, List.append_nil, orderly]
      simp [Diagram, Phase.mayEnter]

theorem evaluating (h : Stands w [.evaluating] w₁) (h' : Orderly w₁ w') :
    Stands w [.evaluating] w' := by
  obtain ⟨ms, cs, moves, calls, excluded, standing⟩ := h
  obtain ⟨ms', cs', moves', calls', excluded', course⟩ := h'
  generalize phase : w₁.phase = at_start at standing
  cases standing with
  | evaluating orderly =>
    simp only [phase] at course
    obtain ⟨still, rfl, arrivals⟩ := course
    obtain ⟨diagram, undecided⟩ := diagram_of_excluded excluded' arrivals
    refine ⟨ms ++ [], cs ++ cs', ?_, ?_, excluded_append.2 ⟨excluded, excluded'⟩, ?_⟩
    · rw [moves', moves, List.append_assoc]
    · rw [calls', calls, List.append_assoc]
    · rw [still]
      refine .evaluating ?_
      rw [diagram_append, undecided_append, orderly]
      simp [diagram, undecided]

theorem decide (phase : Phase) (decision : phase.isDecision = true)
    (h : Stands w [.evaluating] w') : Stands w [.evaluating, phase] (w'.enter phase) := by
  obtain ⟨ms, cs, moves, calls, excluded, standing⟩ := h
  refine ⟨ms ++ [(w'.phase, phase)], cs, ?_, calls, excluded, .deciding decision ?_⟩
  · rw [enter, moves, List.append_assoc]
  · generalize w'.phase = at_start at standing ⊢
    cases standing with
    | evaluating orderly =>
      rw [← List.append_nil cs, diagram_append, List.append_nil, orderly]
      cases phase <;> simp_all [Diagram, Phase.mayEnter, Phase.isDecision]

/-- What arrives while a decision is carried out overtakes the call. -/
theorem deciding {phase : Phase} (h : Stands w [.evaluating, phase] w₁) (at_start : w₁.phase = phase)
    (decision : phase.isDecision = true) (h' : Orderly w₁ w') : Stands w [.evaluating, phase] w' := by
  obtain ⟨ms, cs, moves, calls, excluded, standing⟩ := h
  obtain ⟨ms', cs', moves', calls', excluded', course⟩ := h'
  refine ⟨ms ++ ms', cs ++ cs', ?_, ?_, excluded_append.2 ⟨excluded, excluded'⟩, ?_⟩
  · rw [moves', moves, List.append_assoc]
  · rw [calls', calls, List.append_assoc]
  · have orderly : Diagram ms cs ↔ Undecided cs := by
      rw [at_start] at standing
      cases standing with
      | deciding _ orderly => exact orderly
      | overtaken decision _ => cases decision
    have courses : (w'.phase = phase ∧ ms' = [] ∧ cs' = []) ∨ (w'.phase = .idle ∧ ¬ Undecided cs') := by
      cases phase <;> simp_all [Phase.isDecision]
    rcases courses with ⟨same, rfl, rfl⟩ | ⟨idle, arrived⟩
    · rw [same, List.append_nil, List.append_nil]
      exact .deciding decision orderly
    · rw [idle]
      exact .overtaken decision fun all => arrived (undecided_append.1 all).2

end Stands

/-- A call that arrived in a world ends in another: it is put back to the idle phase where it stood,
and its report lists all phases up to then, that one included if it was not there by itself. -/
def Ends (w : World) (h : Handled) (w' : World) : Prop :=
  ∃ ts w₁, Stands w ts w₁ ∧ w' = w₁.rest ∧
    ((ts = [] ∧ h.report = none) ∨
      ∃ r, h.report = some r ∧ r.transitions = if w₁.phase = .idle then ts else ts ++ [.idle])

/-- A call that is put back to the idle phase has kept to the diagram unless it was overtaken. -/
theorem Standing.closes {ts : List Phase} {phase : Phase} {ms : List (Phase × Phase)}
    {cs : List Interlude} {c : Interlude} (h : Standing ts phase ms cs) (arrival : c.arrival = .idle)
    (own : (ts = [] ∧ c.handled.report = none) ∨ ∃ r, c.handled.report = some r ∧
      r.transitions = if phase = .idle then ts else ts ++ [.idle]) :
    Diagram (ms ++ if phase = .idle then [] else [(phase, .idle)]) (cs ++ [c]) ↔
      Undecided (cs ++ [c]) := by
  have first : Undecided [c] := by
    simp [Undecided, arrival, Phase.isDecision]
  rw [undecided_append, diagram_append]
  cases h with
  | reading orderly =>
    have complete : Diagram [] [c] := by
      rcases own with ⟨-, none⟩ | ⟨r, report, transitions⟩
      · simp [Diagram, none]
      · simp [Diagram, report, Report.Complete, transitions]
    simp [orderly, first, complete]
  | evaluating orderly =>
    obtain ⟨empty, -⟩ | ⟨r, report, transitions⟩ := own
    · cases empty
    · have complete : Diagram [(.evaluating, .idle)] [c] := by
        simp [Diagram, report, Report.Complete, transitions, Phase.mayEnter]
      simp [orderly, first, complete]
  | deciding decision orderly =>
    obtain ⟨empty, -⟩ | ⟨r, report, transitions⟩ := own
    · cases empty
    · cases phase with
      | idle => cases decision
      | evaluating => cases decision
      | submittable =>
        have complete : Diagram [(.submittable, .idle)] [c] := by
          simp [Diagram, report, Report.Complete, transitions, Phase.mayEnter]
        simp [orderly, first, complete]
      | blocked =>
        have complete : Diagram [(.blocked, .idle)] [c] := by
          simp [Diagram, report, Report.Complete, transitions, Phase.mayEnter]
        simp [orderly, first, complete]
  | @overtaken _ _ phase decision arrived =>
    obtain ⟨empty, -⟩ | ⟨r, report, transitions⟩ := own
    · cases empty
    · have decided : phase ≠ .idle := by
        rintro rfl
        cases decision
      simp [Diagram, report, Report.Complete, transitions, arrived, decided]

theorem Ends.orderly {w w' : World} {c : Interlude} (idle : w.phase = .idle)
    (arrival : c.arrival = .idle) (h : Ends w c.handled w') :
    Orderly w { w' with interludes := w'.interludes ++ [c] } := by
  obtain ⟨ts, w', ⟨ms, cs, moves, calls, excluded, standing⟩, rfl, own⟩ := h
  have alone : Excluded [c] := by
    simp [Excluded, arrival]
  refine ⟨ms ++ if w'.phase = .idle then [] else [(w'.phase, .idle)], cs ++ [c], ?_, ?_,
    excluded_append.2 ⟨excluded, alone⟩, ?_⟩
  · show w'.rest.moves = _
    by_cases settled : w'.phase = .idle
    · rw [rest_of_idle settled, if_pos settled, moves, List.append_nil]
    · rw [rest_of_ne_idle settled, if_neg settled, enter, moves, List.append_assoc]
  · show w'.rest.interludes ++ [c] = _
    rw [rest_interludes, calls, List.append_assoc]
  · rw [idle]
    exact ⟨rest_phase w', standing.closes arrival own⟩

end World

section Calls

variable {s : Setup} {before : Before} (hb : Kept.Before Orderly before)
include hb

/-- What decides on an outcome stands somewhere when it ends, and lists the phases up to there. -/
theorem DecideCourse.stands {marker : Nat} {b : Binding} {o : FormOutcome} {r out : Report}
    {w w₁ w₂ : World} (course : DecideCourse before marker b o r w₁ out w₂)
    (opened : r.transitions = [.evaluating]) (h : Stands w [.evaluating] w₁) :
    ∃ ts w₃, Stands w ts w₃ ∧ w₂ = w₃.rest ∧
      out.transitions = if w₃.phase = .idle then ts else ts ++ [.idle] := by
  have listed : ∀ phase, (r.deciding o phase).transitions = [.evaluating, phase] := fun phase =>
    congrArg (· ++ [phase]) opened
  cases course with
  | @submitted w₄ valid call =>
    obtain ⟨w₃, d, orderly, page, -, rfl⟩ := orderly_kept.onPage_ok hb call
    have standing := (h.decide .submittable rfl).deciding rfl rfl orderly
    refine ⟨_, { w₃ with page := some (d.submit b.form) }, standing, rfl, ?_⟩
    rw [Report.closed_transitions, ← listed]
  | @refused e w₃ valid call =>
    have orderly := orderly_kept.onPage_error hb call fun d => ⟨(), rfl⟩
    have standing := (h.decide .submittable rfl).deciding rfl rfl orderly
    refine ⟨_, w₃.failed r.trigger e, standing, rfl, ?_⟩
    rw [Report.broken_transitions, listed]
    rfl
  | blocked invalid still =>
    refine ⟨_, _, h.decide .blocked rfl, rfl, ?_⟩
    rw [Report.closed_transitions, listed]
  | @scrolled field w₄ invalid scroll first call =>
    obtain ⟨w₃, d, orderly, page, -, rfl⟩ := orderly_kept.onPage_ok hb call
    have standing := (h.decide .blocked rfl).deciding rfl rfl orderly
    refine ⟨_, { w₃ with page := some (d.scrollTo field.element) }, standing, rfl, ?_⟩
    rw [Report.closed_transitions, listed]
  | @unscrolled field e w₃ invalid scroll first call =>
    have orderly := orderly_kept.onPage_error hb call fun d => ⟨(), rfl⟩
    have standing := (h.decide .blocked rfl).deciding rfl rfl orderly
    refine ⟨_, w₃.failed r.trigger e, standing, rfl, ?_⟩
    rw [Report.broken_transitions, listed]
    rfl

namespace Setup

theorem SubmitCourse.ends {form : Element} {w w' : World} {h : Handled}
    (course : s.SubmitCourse before form w h w') (idle : w.phase = .idle) : Ends w h w' := by
  cases course with
  | ignored evaluating => rw [idle] at evaluating; cases evaluating
  | @unread e w₁ free read =>
    have reading := Stands.start idle (orderly_kept.runPass hb read)
    exact ⟨_, w₁.failed (.submit form) e, reading, rfl, .inr ⟨_, rfl, Report.broken_transitions ..⟩⟩
  | declined free read out =>
    have reading := Stands.start idle (orderly_kept.runPass hb read)
    exact ⟨_, _, reading, rfl, .inl ⟨rfl, rfl⟩⟩
  | @broken b e w₁ w₂ free read opted pass =>
    have opened := (Stands.start idle (orderly_kept.runPass hb read)).evaluate
    have passed := opened.evaluating (orderly_kept.runPass hb pass)
    exact ⟨_, w₂.failed (.submit form) e, passed, rfl, .inr ⟨_, rfl, Report.broken_transitions ..⟩⟩
  | decided free read opted pass decide =>
    have opened := (Stands.start idle (orderly_kept.runPass hb read)).evaluate
    have passed := opened.evaluating (orderly_kept.runPass hb pass)
    obtain ⟨ts, w₃, standing, rested, transitions⟩ := decide.stands hb rfl passed
    exact ⟨ts, w₃, standing, rested, .inr ⟨_, rfl, transitions⟩⟩

theorem BlurCourse.ends {e : Element} {w w' : World} {h : Handled}
    (course : s.BlurCourse before e w h w') (idle : w.phase = .idle) : Ends w h w' := by
  cases course with
  | ignored evaluating => rw [idle] at evaluating; cases evaluating
  | @unread f w₁ free read =>
    have reading := Stands.start idle (orderly_kept.runPass hb read)
    exact ⟨_, w₁.failed (.blur e) f, reading, rfl, .inr ⟨_, rfl, Report.broken_transitions ..⟩⟩
  | declined free read =>
    have reading := Stands.start idle (orderly_kept.runPass hb read)
    exact ⟨_, _, reading, rfl, .inl ⟨rfl, rfl⟩⟩
  | @unjudged form f w₁ w₂ free read judge =>
    have opened := (Stands.start idle (orderly_kept.runPass hb read)).evaluate
    have judged := opened.evaluating (orderly_kept.runPass hb judge)
    exact ⟨_, w₂.failed (.blur e) f, judged, rfl, .inr ⟨_, rfl, Report.broken_transitions ..⟩⟩
  | @broken form j f w₁ w₂ w₃ free read judge pass =>
    have opened := (Stands.start idle (orderly_kept.runPass hb read)).evaluate
    have judged := opened.evaluating (orderly_kept.runPass hb judge)
    have passed := judged.evaluating (orderly_kept.runPass hb pass)
    exact ⟨_, w₃.failed (.blur e) f, passed, rfl, .inr ⟨_, rfl, Report.broken_transitions ..⟩⟩
  | finished free read judge pass =>
    have opened := (Stands.start idle (orderly_kept.runPass hb read)).evaluate
    have judged := opened.evaluating (orderly_kept.runPass hb judge)
    have passed := judged.evaluating (orderly_kept.runPass hb pass)
    exact ⟨_, _, passed, rfl, .inr ⟨_, rfl, Report.closed_transitions ..⟩⟩

theorem handle_ends (t : Trigger) {w : World} (idle : w.phase = .idle) :
    Ends w ((s.handle before t).run w).1 ((s.handle before t).run w).2 := by
  cases t with
  | submit form => exact (s.handleSubmit_course before form w).ends hb idle
  | blur e => exact (s.handleBlur_course before e w).ends hb idle

end Setup

end Calls

namespace Setup

variable (s : Setup) (before : Before) (t : Trigger) (w : World)

theorem handle_of_evaluating (h : w.phase = .evaluating) : (s.handle before t).run w = ({}, w) := by
  cases t with
  | submit form =>
    unfold handle handleSubmit
    rw [run_get_bind]
    simp only [h, if_true]
    rfl
  | blur e =>
    unfold handle handleBlur
    rw [run_get_bind]
    simp only [h, if_true]
    rfl

variable {s before t w}

theorem SubmitCourse.idle {form : Element} {w' : World} {h : Handled}
    (course : s.SubmitCourse before form w h w') (free : w.phase ≠ .evaluating) :
    w'.phase = .idle := by
  cases course with
  | ignored evaluating => exact absurd evaluating free
  | unread => exact rest_phase _
  | declined => exact rest_phase _
  | broken => exact rest_phase _
  | decided free read opted pass decide => cases decide <;> exact rest_phase _

theorem BlurCourse.idle {e : Element} {w' : World} {h : Handled}
    (course : s.BlurCourse before e w h w') (free : w.phase ≠ .evaluating) : w'.phase = .idle := by
  cases course with
  | ignored evaluating => exact absurd evaluating free
  | unread => exact rest_phase _
  | declined => exact rest_phase _
  | unjudged => exact rest_phase _
  | broken => exact rest_phase _
  | finished => exact rest_phase _

/-- Any other trigger leaves the controller idle. -/
theorem handle_idle (free : w.phase ≠ .evaluating) :
    ((s.handle before t).run w).2.phase = .idle := by
  cases t with
  | submit form => exact (s.handleSubmit_course before form w).idle free
  | blur e => exact (s.handleBlur_course before e w).idle free

theorem handledIn_orderly (hb : Kept.Before Orderly before) (t : Trigger) (w : World) :
    Orderly w (s.handledIn before t w) := by
  cases phase : w.phase with
  | evaluating =>
    unfold handledIn
    rw [handle_of_evaluating s before t w phase]
    refine ⟨[], [⟨{}, w.page, w.phase⟩], by simp, rfl, by simp [Excluded], ?_⟩
    simp [phase]
  | idle => exact Ends.orderly phase phase (handle_ends hb t phase)
  | _ =>
    obtain ⟨ms, cs, moves, calls, excluded⟩ :=
      grows_handling.handle (fun kind w => (hb kind w).grows) s t w
    have free : w.phase ≠ .evaluating := by rw [phase]; nofun
    refine ⟨ms, cs ++ [⟨((s.handle before t).run w).1, ((s.handle before t).run w).2.page, w.phase⟩],
      moves, ?_, excluded_append.2 ⟨excluded, by simp [Excluded, phase]⟩, ?_⟩
    · rw [← List.append_assoc, ← calls]
      rfl
    · have arrived : ∀ c : Interlude, c.arrival = w.phase → ¬ Undecided (cs ++ [c]) := by
        intro c arrival all
        simpa [arrival, phase, Phase.isDecision] using all c (by simp)
      rw [phase]
      exact .inr ⟨handle_idle free, arrived _ phase.symm⟩

/-! ## Runs -/

theorem intervene_orderly (s : Setup) (depth : Nat) : Kept.Before Orderly (s.intervene depth) :=
  s.kept_intervene orderly_kept.toChained (fun _ _ => orderly_of_same rfl rfl rfl)
    (fun _ => handledIn_orderly) depth

/-- From one idle world to the next, the moves and the calls of a run keep to the diagram exactly if
no call arrives during a decision. -/
theorem serve_orderly (s : Setup) (arrivals : List Arrival) (w : World) (idle : w.phase = .idle) :
    let r := (s.serve arrivals).run w
    r.2.phase = .idle ∧ Excluded r.1 ∧
      ∃ ms, r.2.moves = w.moves ++ ms ∧ (Diagram ms r.1 ↔ Undecided r.1) := by
  induction arrivals generalizing w with
  | nil =>
    exact ⟨idle, fun c hc => (nomatch hc), [], (List.append_nil _).symm,
      by simp [serve_nil_run, Diagram, Undecided]⟩
  | cons a more ih =>
    obtain ⟨ms, cs, moves, calls, excluded, settled, iff⟩ :=
      (handledIn_orderly (s.intervene_orderly a.interventions.length) a.trigger
        { w with pending := a.interventions, interludes := [] }).of_idle idle
    obtain ⟨settled', excluded', ms', moves', iff'⟩ :=
      ih ((s.handleWith a.interventions a.trigger).run w).2 settled
    have noted : cs = ((s.handleWith a.interventions a.trigger).run w).2.interludes ++
        [⟨((s.handleWith a.interventions a.trigger).run w).1,
          ((s.handleWith a.interventions a.trigger).run w).2.page, w.phase⟩] := calls.symm
    rw [serve_cons_run]
    dsimp only
    rw [List.append_cons, ← noted]
    refine ⟨settled', excluded_append.2 ⟨excluded, excluded'⟩, ms ++ ms', ?_, ?_⟩
    · rw [moves', ← List.append_assoc]
      exact congrArg (· ++ ms') moves
    · rw [diagram_append, undecided_append, iff, iff']

/-- The diagram is kept to by a run of a new controller exactly if no trigger arrives during a
decision: then every move is an arrow, and every report of an evaluation lists a whole path. Whatever
arrives, the controller ends idle, and ignores what arrives during an evaluation. -/
theorem serve_diagram (s : Setup) (page : Option Document) (collector : Collector)
    (arrivals : List Arrival) :
    let r := (s.serve arrivals).run { page, collector }
    r.2.phase = .idle ∧ Excluded r.1 ∧ (Diagram r.2.moves r.1 ↔ Undecided r.1) := by
  obtain ⟨idle, excluded, ms, moves, iff⟩ := s.serve_orderly arrivals { page, collector } rfl
  rw [List.nil_append] at moves
  exact ⟨idle, excluded, moves ▸ iff⟩

/-- A form that is submitted once more while it is being submitted leads off the diagram. -/
theorem serve_off_diagram :
    let form : Markup.Label := ⟨0, .element "form", [("data-validate-on-submit", "true")]⟩
    let again : Intervention := { kind := some .submit, triggers := [.submit 0] }
    let r := (Setup.serve {} [⟨.submit 0, [again]⟩]).run
      { page := some { tree := .cons form "" .nil "" .nil, fresh := 1 }
        collector := { command := "triggers", limit := 500 } }
    (.submittable, .evaluating) ∈ r.2.moves ∧ ¬ Diagram r.2.moves r.1 := by
  intro form again r
  have moved : (.submittable, .evaluating) ∈ r.2.moves := by decide +kernel
  exact ⟨moved, fun diagram => absurd (diagram.1 _ moved) (by decide)⟩

end Setup

end FormGate
