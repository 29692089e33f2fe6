import FormGate.Command.Check
import FormGate.Proofs.Command.Script
import FormGate.Proofs.Diagnostic.Window

/-!
# What a check shows and saves

In the end a check shows its finding, to a person or to another program, and saves what it was asked to:
the text of the page, and a summary of the diagnostics where there are any. All of that is told by
what a pass over the form found (`Command.Finding.Sound.concludes`). A page that has no text ends the
check before anything is saved (`Command.Finding.Sound.breaksOff`).
-/

namespace FormGate.Command

open Script

/-- What another program is told of a check, by whether the form has opted in, what a pass over it found
and what was reported. -/
def reportOf (t : Target) (o : CheckOptions) (opted : Bool) (found : FormOutcome) (c : Collector) : Json :=
  .object [("page", .text t.page), ("form", .int o.form), ("opted_in", .bool opted),
    ("decision", .text (if found.valid then "submittable" else "blocked")),
    ("submitted", .bool (opted && found.valid)), ("outcome", found.toJson),
    ("diagnostics", .list (c.retained.map Diagnostic.toJson))]

/-- What is shown of a check. -/
def shownOf (t : Target) (o : CheckOptions) (opted : Bool) (found : FormOutcome) (c : Collector) :
    List Console.Line :=
  if o.format = "json" then [.json (reportOf t o opted found c)]
  else
    (if opted then []
      else [.phrase [.styled
        "Form has not opted in to submit validation; nothing would be intercepted"]]) ++
    [.table ["Field", "Kind", "Rules", "Status", "Errors"]
        (found.fields.map fun p => Finding.row p.1 p.2),
      .phrase [.styled (if found.valid then "Decision: SUBMITTABLE" else "Decision: BLOCKED")]] ++
    if c.retained = [] then []
      else [.phrase [.own "\n", .styled "Rule diagnostics:"], diagnosticsTable c.retained]

/-- What a check saves where the page has a text. -/
def savedOf (o : CheckOptions) (text : String) (c : Collector) : List Action :=
  (match o.write with
    | none => []
    | some path => .savePage path text ::
      if o.format = "json" then []
        else [.print (.phrase [.styled "Wrote:", .own " ", .quoted path])]) ++
  match o.diagnosticsOut with
  | none => []
  | some path => if c.retained = [] then [] else [.saveSummary path c.summary]

/-- The text in which the page of a finding is saved. -/
def Finding.pageText (f : Finding) : Except Failure String :=
  (f.engine.world.page.map (·.text)).getD (.ok "")

/-! ## Saving -/

theorem does_summary (o : CheckOptions) (f : Finding) :
    Does (save { o with write := none } f)
      (savedOf { o with write := none } "" f.engine.world.collector) (.ok ()) := by
  unfold save savedOf
  dsimp only
  cases o.diagnosticsOut with
  | none => exact .pure ()
  | some path =>
    dsimp only
    by_cases any : f.engine.world.collector.retained = []
    · rw [if_pos any, if_neg (mt Collector.hasDiagnostics_eq_true.1 (not_not_intro any))]
      exact .pure ()
    · rw [if_neg any, if_pos (Collector.hasDiagnostics_eq_true.2 any)]
      exact .act _

theorem does_save (o : CheckOptions) (f : Finding) (text : String)
    (written : o.write = none ∨ f.pageText = .ok text) :
    Does (save o f) (savedOf o text f.engine.world.collector) (.ok ()) := by
  have summary := does_summary o f
  cases asked : o.write with
  | none =>
    unfold save savedOf at summary ⊢
    rw [asked]
    exact summary
  | some path =>
    have known := written.resolve_left (by simp [asked])
    unfold Finding.pageText at known
    unfold save savedOf at summary ⊢
    rw [asked]
    dsimp only
    rw [known]
    refine (Does.act _).bind ?_
    by_cases json : o.format = "json"
    · rw [if_neg (by simp [json]), if_pos json]
      exact summary
    · rw [if_pos (by simp [json]), if_neg json]
      exact (Does.say _).bind summary

/-- Nothing is saved if the page has no text although it is asked for. -/
theorem save_breaksOff (o : CheckOptions) (f : Finding) {e : Failure} (asked : o.write ≠ none)
    (failed : f.pageText = .error e) :
    Does (save o f) [] (.error (.failed e)) := by
  obtain ⟨path, asked⟩ := Option.ne_none_iff_exists'.1 asked
  unfold Finding.pageText at failed
  unfold save
  rw [asked]
  dsimp only
  rw [failed]
  exact (Does.throw _).bind_error

theorem exists_save (o : CheckOptions) (f : Finding) : ∃ as r, Does (save o f) as r := by
  by_cases asked : o.write = none
  · exact ⟨_, _, does_save o f "" (.inl asked)⟩
  · cases known : f.pageText with
    | ok text => exact ⟨_, _, does_save o f text (.inr known)⟩
    | error e => exact ⟨_, _, save_breaksOff o f asked known⟩

/-! ## A finding that agrees with itself -/

/-- A finding whose decision is the one that its outcome calls for, and which tells of a submission
exactly where one was made. -/
structure Finding.Sound (f : Finding) : Prop where
  decision : f.decision = if f.outcome.valid then .submittable else .blocked
  submitted : f.submitted = (f.optedIn && f.outcome.valid)

namespace Finding.Sound

variable {t : Target} {o : CheckOptions} {f : Finding} (sound : f.Sound)
include sound

theorem decision_iff : f.decision = .submittable ↔ f.outcome.valid = true := by
  rw [sound.decision]
  split_ifs with valid
  · exact iff_of_true rfl valid
  · exact iff_of_false (by simp) valid

theorem toJson_eq : f.toJson t.page o.form =
    reportOf t o f.optedIn f.outcome f.engine.world.collector := by
  unfold Finding.toJson reportOf
  rw [sound.decision, sound.submitted]
  cases f.outcome.valid <;> rfl

theorem decision_eq : "Decision: " ++ Text.upper f.decision.name =
    if f.outcome.valid then "Decision: SUBMITTABLE" else "Decision: BLOCKED" := by
  rw [sound.decision]
  cases f.outcome.valid <;> decide +kernel

theorem display_does (person : o.format ≠ "json") :
    Does f.display ((shownOf t o f.optedIn f.outcome f.engine.world.collector).map .print)
      (.ok ()) := by
  have diagnostics : Does (if f.engine.world.collector.hasDiagnostics then
      showDiagnostics f.engine.world.collector.retained else pure () : Script Unit)
      ((if f.engine.world.collector.retained = [] then []
        else [.phrase [.own "\n", .styled "Rule diagnostics:"],
          diagnosticsTable f.engine.world.collector.retained] : List Console.Line).map .print)
      (.ok ()) := by
    by_cases any : f.engine.world.collector.retained = []
    · rw [if_pos any, if_neg (mt Collector.hasDiagnostics_eq_true.1 (not_not_intro any))]
      exact .pure ()
    · rw [if_neg any, if_pos (Collector.hasDiagnostics_eq_true.2 any)]
      exact (Does.say _).bind (.act _)
  have rest : Does (do
      act (.print f.table)
      say [.styled ("Decision: " ++ Text.upper f.decision.name)]
      if f.engine.world.collector.hasDiagnostics then
        showDiagnostics f.engine.world.collector.retained : Script Unit) _ (.ok ()) :=
    (Does.act _).bind ((Does.say _).bind diagnostics)
  rw [sound.decision_eq] at rest
  unfold shownOf Finding.display
  rw [if_neg person, sound.decision_eq, List.map_append, List.map_append, List.append_assoc]
  dsimp only
  cases f.optedIn with
  | true => exact rest
  | false => exact (Does.say _).bind rest

/-- What was found is shown first, and the rest is saving. -/
theorem conclude_does {as : List Action} {r : Except Exit Nat} (rest : Does (do
      save o f
      return if f.decision = .submittable then 0 else 1 : Script Nat) as r) :
    Does (conclude t o f)
      ((shownOf t o f.optedIn f.outcome f.engine.world.collector).map .print ++ as) r := by
  unfold conclude
  dsimp only
  by_cases json : o.format = "json"
  · rw [if_pos (beq_iff_eq.2 json), sound.toJson_eq, shownOf, if_pos json]
    exact (Does.act _).bind rest
  · rw [if_neg (mt beq_iff_eq.1 json)]
    exact (sound.display_does json).bind rest

theorem exists_conclude : ∃ as r, Does (conclude t o f) as r := by
  obtain ⟨as, r, saved⟩ := exists_save o f
  cases r with
  | ok a => exact ⟨_, _, sound.conclude_does (saved.bind (.pure _))⟩
  | error e => exact ⟨_, _, sound.conclude_does saved.bind_error⟩

/-- A check shows what was found, saves what it was asked to, and ends with the status that the outcome
calls for. -/
theorem concludes (text : String)
    (written : o.write = none ∨ f.pageText = .ok text) :
    (conclude t o f).run =
      ((shownOf t o f.optedIn f.outcome f.engine.world.collector).map .print ++
        savedOf o text f.engine.world.collector, .status (if f.outcome.valid then 0 else 1)) := by
  have status : (if f.decision = .submittable then 0 else 1) = if f.outcome.valid then 0 else 1 := by
    rw [sound.decision]
    cases f.outcome.valid <;> rfl
  have concluded := sound.conclude_does (t := t) ((does_save o f text written).bind (.pure _))
  rw [concluded.run_ok, List.append_nil, status]

/-- A page that was asked for and has no text ends a check after what was found is shown. -/
theorem breaksOff {e : Failure} (asked : o.write ≠ none)
    (failed : f.pageText = .error e) :
    (conclude t o f).run =
      ((shownOf t o f.optedIn f.outcome f.engine.world.collector).map .print, .failed e) := by
  rw [(sound.conclude_does (t := t) (save_breaksOff o f asked failed).bind_error).run_error,
    List.append_nil]

/-- The status tells whether the outcome is valid, where a page that is valid has a text. -/
theorem status_conclude (written : f.outcome.valid = true → ∃ text, f.pageText = .ok text) :
    (conclude t o f).run.2 = .status 0 ↔ f.outcome.valid = true := by
  have told (text : String) (ok : o.write = none ∨ f.pageText = .ok text) :
      (conclude t o f).run.2 = .status 0 ↔ f.outcome.valid = true := by
    rw [sound.concludes text ok]
    cases f.outcome.valid <;> simp
  by_cases asked : o.write = none
  · exact told "" (.inl asked)
  · cases known : f.pageText with
    | ok text => exact told text (.inr known)
    | error e =>
      rw [sound.breaksOff asked known]
      refine iff_of_false nofun fun valid => ?_
      obtain ⟨text, ok⟩ := written valid
      rw [known] at ok
      cases ok

/-- A check that is to save nothing only shows lines. -/
theorem prints_of_conclude (write : o.write = none) (diagnostics : o.diagnosticsOut = none) :
    ∀ a ∈ (conclude t o f).run.1, ∃ l, a = .print l := by
  have saved : savedOf o "" f.engine.world.collector = [] := by
    rw [savedOf, write, diagnostics]
    rfl
  rw [sound.concludes "" (.inl write), saved, List.append_nil]
  intro a among
  obtain ⟨l, -, rfl⟩ := List.mem_map.1 among
  exact ⟨l, rfl⟩

end Finding.Sound

end FormGate.Command
