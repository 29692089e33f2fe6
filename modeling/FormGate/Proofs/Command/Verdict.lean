import FormGate.Proofs.Command.Execution
import FormGate.Proofs.Command.Report
import FormGate.Proofs.Pass.Writable
import FormGate.Proofs.Trigger.Blur

/-!
# The verdict of a check

A check submits the form where it has opted in, and goes through it by a pass of its own where it has
not. Both come to what one pass over the filled form comes to: the outcome, the diagnostics and the
page are the same, and the status, the decision and the validity of the outcome agree
(`Command.check_agrees`).
-/

namespace FormGate

open Document World

namespace Command

open Script

/-! ## The form as it is filled in -/

/-- The page in which a field was filled in as an assignment says. -/
def filledBy (form : Element) (d : Document) (assignment : String) : Document :=
  match splitAssignment? assignment with
  | none => d
  | some (name, value) => (d.fillNamed name value (some form)).2

/-- The page in which the elements of a name were ticked. -/
def tickedBy (form : Element) (d : Document) (name : String) : Document :=
  (d.named name (some form)).foldl (fun d e => d.setFlag e "checked" true) d

/-- The page on which a form was filled in and ticked as it was asked for. -/
def CheckOptions.fill (o : CheckOptions) (form : Element) (d : Document) : Document :=
  o.checked.foldl (tickedBy form) (o.values.foldl (filledBy form) d)

section Fill

variable {P : Markup.Label → Prop} (stable : Markup.Label.Stable P)

theorem sameLog_setValues (v : String) (es : List Element) (d : Document) :
    d.SameLog (es.foldl (fun d e => d.setValue e v) d) :=
  List.foldlRecOn es _ (.refl d) fun d' same e _ => same.trans (d'.sameLog_setValue e v)

theorem sameLog_ticked (es : List Element) (d : Document) :
    d.SameLog (es.foldl (fun d e => d.setFlag e "checked" true) d) :=
  List.foldlRecOn es _ (.refl d) fun d' same e _ => same.trans (d'.sameLog_setFlag e _ _)

theorem fill_keeps {R : Document → Document → Prop} (refl : ∀ d, R d d)
    (trans : ∀ {a b c}, R a b → R b c → R a c) {form : Element}
    (filled : ∀ d a, R d (filledBy form d a)) (ticked : ∀ d name, R d (tickedBy form d name))
    (o : CheckOptions) (d : Document) : R d (o.fill form d) := by
  have all {α : Type} {step : Document → α → Document} (each : ∀ d x, R d (step d x)) (xs : List α)
      (d : Document) : R d (xs.foldl step d) :=
    List.foldlRecOn xs step (refl d) fun d' kept x _ => trans kept (each d' x)
  exact trans (all filled o.values d) (all ticked o.checked _)

theorem sameLog_fill (o : CheckOptions) (form : Element) (d : Document) :
    d.SameLog (o.fill form d) := by
  refine fill_keeps .refl .trans (fun d a => ?_) (fun d name => sameLog_ticked _ d) o d
  unfold filledBy
  split
  · exact .refl d
  · exact sameLog_setValues _ _ d

include stable in
theorem all_fill (o : CheckOptions) (form : Element) {d : Document} (all : d.All P) :
    (o.fill form d).All P := by
  have ticked (es : List Element) (d : Document) (all : d.All P) :
      (es.foldl (fun d e => d.setFlag e "checked" true) d).All P :=
    List.foldlRecOn es _ all fun _ all e _ => all.setFlag stable (by decide) e true
  refine fill_keeps (R := fun d d' => d.All P → d'.All P) (fun _ all => all) (fun h h' all => h' (h all))
    (fun d a all => ?_) (fun d name all => ticked _ d all) o d all
  unfold filledBy
  split
  · exact all
  · exact all.fillNamed stable _ _ _

end Fill

/-- A check whose arguments are in order: its format, its configuration, the page that it is about,
the form on it, and every assignment. -/
structure Ready (t : Target) (o : CheckOptions) (s : Surroundings) (c : Config) (d : Document)
    (form : Element) : Prop where
  format : o.format ∈ formats
  config : Does (setUp t s.config) [] (.ok c)
  page : ∃ text, s.page = .text text ∧ Document.ofText (fileText text) = .ok d
  form : 0 ≤ o.form ∧ d.forms[o.form.toNat]? = some form
  values : ∀ a ∈ o.values, (splitAssignment? a).isSome = true

theorem tells_fillIn {form : Element} {a : String} (given : (splitAssignment? a).isSome = true)
    (d : Document) : Tells (fillIn form d a) (filledBy form d a) := by
  obtain ⟨⟨name, value⟩, split⟩ := Option.isSome_iff_exists.1 given
  unfold fillIn filledBy
  rw [split]
  dsimp only
  split_ifs
  · exact (Tells.say _).bind (.pure _)
  · exact .pure _

theorem tells_tick (form : Element) (d : Document) (name : String) :
    Tells (tick form d name) (tickedBy form d name) := by
  unfold tick tickedBy
  dsimp only
  split_ifs
  · exact (Tells.say _).bind (.pure _)
  · exact .pure _

theorem tells_fill {o : CheckOptions} (given : ∀ a ∈ o.values, (splitAssignment? a).isSome = true)
    (form : Element) (d : Document) :
    Tells (o.values.foldlM (fillIn form) d) (o.values.foldl (filledBy form) d) ∧
      Tells (o.checked.foldlM (tick form) (o.values.foldl (filledBy form) d)) (o.fill form d) :=
  ⟨.foldlM (fun a ha d => tells_fillIn (given a ha) d) d,
    .foldlM (fun name _ d => tells_tick form d name) _⟩

/-! ## Concluding -/

/-- What is shown, written and told in the end hangs on the engine by its diagnostics and by the text
of its page only. -/
theorem conclude_congr (t : Target) (o : CheckOptions) {f f' : Finding}
    (outcome : f'.outcome = f.outcome) (decision : f'.decision = f.decision)
    (submitted : f'.submitted = f.submitted) (optedIn : f'.optedIn = f.optedIn)
    (collector : f'.engine.world.collector = f.engine.world.collector)
    (text : f'.engine.world.page.map (·.text) = f.engine.world.page.map (·.text)) :
    conclude t o f' = conclude t o f := by
  have json : f'.toJson t.page o.form = f.toJson t.page o.form := by
    unfold Finding.toJson
    rw [outcome, decision, submitted, optedIn, collector]
  have shown : f'.display = f.display := by
    unfold Finding.display Finding.table
    rw [outcome, decision, optedIn, collector]
  have saved : save o f' = save o f := by
    unfold save
    rw [collector, text]
  unfold conclude
  rw [json, shown, saved, decision]

/-! ## The two ways to an outcome -/

end Command

namespace World

/-- When nothing intervenes, what is done on a page is done. -/
theorem onPage_undisturbed {α : Type} (kinds : Document → List CallKind)
    (act : Document → Except Failure α × Document) {w : World} {d : Document} (page : w.page = some d) :
    (onPage undisturbed kinds act).run w = ((act d).1, { w with page := some (act d).2 }) := by
  rw [onPage_run, page]
  dsimp only
  rw [beforeAll_undisturbed]
  dsimp only
  rw [page]

end World

namespace Setup

variable {s : Setup} {w : World} {d d' : Document} {form : Element} {o : FormOutcome}
  {ts : List (Failure × Context)}

/-- How an attempt to submit a form ends that has opted in, and whose fields are evaluated. -/
structure Decided (w : World) (form : Element) (o : FormOutcome) (d' : Document)
    (ts : List (Failure × Context)) (r : Report) (w' : World) : Prop where
  finished : r.aborted = false
  outcome : r.outcome = some o
  decision : r.decision = some (if o.valid then .submittable else .blocked)
  submitted : r.submitted = o.valid
  collector : w'.collector = w.collector.addAll (ts.map Diagnostic.warning)
  page : ∃ d'', w'.page = some d'' ∧ d''.text = d'.text ∧
    d''.submissions = d'.submissions ++ if o.valid then [form] else []

theorem Decided.of_closed {r : Report} {marker : Nat} {w₁ : World} {d'' : Document}
    (finished : r.aborted = false) (outcome : r.outcome = some o)
    (decision : r.decision = some (if o.valid then .submittable else .blocked))
    (submitted : r.submitted = o.valid)
    (collector : w₁.collector = w.collector.addAll (ts.map Diagnostic.warning))
    (page : w₁.page = some d'') (text : d''.text = d'.text)
    (submissions : d''.submissions = d'.submissions ++ if o.valid then [form] else []) :
    Decided w form o d' ts (r.closed marker w₁) w₁.rest where
  finished := (r.closed_aborted marker w₁).trans finished
  outcome := (r.closed_outcome marker w₁).trans outcome
  decision := (r.closed_decision marker w₁).trans decision
  submitted := (r.closed_submitted marker w₁).trans submitted
  collector := (rest_collector w₁).trans collector
  page := ⟨d'', (rest_page w₁).trans page, text, submissions⟩

/-- When nothing intervenes, a decision is carried out on the page that the evaluation left. -/
theorem decided_of_course {w₂ w' : World} {b : Binding} {marker : Nat} {r out : Report}
    (page : w₂.page = some d') (collector : w₂.collector = w.collector.addAll (ts.map Diagnostic.warning))
    (unsettled : r.aborted = false ∧ r.submitted = false)
    (course : DecideCourse undisturbed marker b o r w₂ out w') : Decided w b.form o d' ts out w' := by
  have entered (phase : Phase) : (w₂.enter phase).page = some d' := page
  cases course with
  | submitted valid call =>
    rw [onPage_undisturbed _ _ (entered _)] at call
    cases call
    refine .of_closed unsettled.1 rfl ?_ valid.symm collector rfl rfl ?_
    · rw [if_pos valid]
      rfl
    · rw [if_pos valid]
      rfl
  | refused valid call =>
    rw [onPage_undisturbed _ _ (entered _)] at call
    cases call
  | blocked invalid still =>
    refine .of_closed unsettled.1 rfl ?_ (unsettled.2.trans invalid.symm) collector page rfl ?_
    · rw [invalid]
      rfl
    · rw [invalid, if_neg Bool.false_ne_true, List.append_nil]
  | scrolled invalid _ _ call =>
    rw [onPage_undisturbed _ _ (entered _)] at call
    cases call
    refine .of_closed unsettled.1 rfl ?_ (unsettled.2.trans invalid.symm) collector rfl rfl ?_
    · rw [invalid]
      rfl
    · rw [invalid, if_neg Bool.false_ne_true, List.append_nil]
      rfl
  | unscrolled invalid _ _ call =>
    rw [onPage_undisturbed _ _ (entered _)] at call
    cases call

/-- When nothing intervenes, an attempt to submit ends as its pass does, if the form has opted in, and
else it changes nothing. -/
theorem handleSubmit_run (page : w.page = some d) (free : w.phase ≠ .evaluating)
    (pass : (s.validateForm form).Runs d o d' ts) :
    if (s.bindingOn d form).validatesOnSubmit then
      ∃ r w', (s.handleSubmit undisturbed form).run w = (⟨some r, true⟩, w') ∧
        Decided w form o d' ts r w'
    else (s.handleSubmit undisturbed form).run w = ({}, w.rest) := by
  have read := (runs_binding (s := s) d form).world_silent page
  have ran := pass.world (w := w.enter .evaluating) page
  have course := s.handleSubmit_course undisturbed form w
  rcases handled : (s.handleSubmit undisturbed form).run w with ⟨h, w'⟩
  rw [handled] at course
  cases course with
  | ignored evaluating => exact absurd evaluating free
  | unread _ read' =>
    rw [read] at read'
    cases read'
  | declined _ read' out =>
    rw [read] at read'
    cases read'
    rw [out, if_neg Bool.false_ne_true]
  | broken _ read' _ pass' =>
    rw [read] at read'
    cases read'
    rw [ran] at pass'
    cases pass'
  | decided _ read' opted pass' decide =>
    rw [read] at read'
    cases read'
    rw [ran] at pass'
    cases pass'
    rw [if_pos opted]
    exact ⟨_, _, rfl, decided_of_course rfl rfl ⟨rfl, rfl⟩ decide⟩

end Setup

namespace Command

open Script

variable {g : Engine} {d d' : Document} {form : Element} {o : FormOutcome}
  {ts : List (Failure × Context)}

/-- A finding that agrees with what one pass over the form comes to, for a form that has opted in or
has not. -/
structure Finding.Agrees (f : Finding) (g : Engine) (form : Element) (opted : Bool) (o : FormOutcome)
    (d' : Document) (ts : List (Failure × Context)) : Prop where
  outcome : f.outcome = o
  decision : f.decision = if o.valid then .submittable else .blocked
  optedIn : f.optedIn = opted
  submitted : f.submitted = (opted && o.valid)
  collector : f.engine.world.collector = g.world.collector.addAll (ts.map Diagnostic.warning)
  page : ∃ d'', f.engine.world.page = some d'' ∧ d''.text = d'.text ∧
    d''.submissions = d'.submissions ++ if f.submitted then [form] else []

/-- A pass in a script that comes to a result on its page does nothing else. -/
theorem runPass_eq {α : Type} {x : Setup → Pass α} {a : α} (page : g.world.page = some d)
    (runs : (x g.setup).Runs d a d' ts) : runPass x g = pure (a, { g with world := { g.world with
      page := some d', collector := g.world.collector.addAll (ts.map Diagnostic.warning) } }) := by
  unfold Command.runPass Engine.run
  rw [runs.world page]

/-- The finding agrees with the pass, whether the form is submitted or only gone through. -/
theorem attempt_does (page : g.world.page = some d) (free : g.world.phase ≠ .evaluating)
    (pass : (g.setup.validateForm form).Runs d o d' ts) :
    ∃ f : Finding, Does (attempt form g) [] (.ok f) ∧
      f.Agrees g form (g.setup.bindingOn d form).validatesOnSubmit o d' ts := by
  have handled := Setup.handleSubmit_run (s := g.setup)
    (w := { g.world with pending := [], interludes := [] }) page free pass
  have through {h : Handled} {w : World}
      (run : (g.setup.handleSubmit undisturbed form).run
        { g.world with pending := [], interludes := [] } = (h, w)) :
      g.handle (.submit form) [] = (h, { g with world := w }) := by
    unfold Engine.handle
    rw [Setup.handleWith_run]
    exact congrArg (fun p : Handled × World => (p.1, { g with world := p.2 })) run
  unfold attempt
  split_ifs at handled with opted
  · obtain ⟨r, w', run, decided⟩ := handled
    rw [through run]
    dsimp only
    rw [decided.finished, decided.outcome, decided.decision]
    refine ⟨_, .pure _, rfl, rfl, opted.symm, ?_, decided.collector, ?_⟩
    · rw [opted, Bool.true_and]
      exact decided.submitted
    · rw [decided.submitted]
      exact decided.page
  · rw [through handled]
    dsimp only
    have rested : (World.rest { g.world with pending := [], interludes := [] }).page = some d :=
      (rest_page _).trans page
    have ran := runPass_eq (x := fun s => s.validateForm form)
      (g := { g with world := World.rest { g.world with pending := [], interludes := [] } }) rested pass
    rw [ran, pure_bind]
    refine ⟨_, .pure _, rfl, rfl, (Bool.eq_false_iff.2 opted).symm, ?_, ?_, d', rfl, rfl, ?_⟩
    · rw [Bool.eq_false_iff.2 opted, Bool.false_and]
    · rw [rest_collector]
    · rw [if_neg Bool.false_ne_true, List.append_nil]

/-! ## The verdict -/

/-- A pass over a form tells the fields of the form in their order. -/
theorem fields_of_runs {s : Setup} (pass : (s.validateForm form).Runs d o d' ts) :
    o.fields.map (·.1.element) = d.carriers form s.config.attributes.rules := by
  have ran := pass.world (w := { page := some d, collector := { command := "check", limit := 1 } }) rfl
  exact s.fields_of_validateForm (harmless_intervene s 0) rfl (fun i none => (List.not_mem_nil none).elim)
    ran

theorem submissions_ofText {text : String} (read : Document.ofText text = .ok d) : d.submissions = [] := by
  unfold ofText at read
  cases page : Markup.Page.read text with
  | error e =>
    rw [page] at read
    cases read
  | ok p =>
    rw [page] at read
    cases read
    rfl

section Filled

variable {s : Setup} {text : String} (read : Document.ofText text = .ok d) (options : CheckOptions)
  (runs : (s.validateForm form).Runs (options.fill form d) o d' ts)
include read runs

/-- Filling in a form submits nothing, and neither does a pass over it. -/
theorem submissions_of_fill : d'.submissions = [] := by
  rw [runs.yields.sameLog.submissions, (sameLog_fill options form d).submissions]
  exact submissions_ofText read

/-- A page whose form was filled in and found valid has a text. -/
theorem exists_text_of_fill (valid : o.valid = true) : ∃ text, d'.text = .ok text :=
  Setup.writable_of_valid runs.yields valid
    (all_fill Markup.Label.stable_writable options form (writable_ofText read))

end Filled

theorem loadPage_does {t : Target} {text : String} (read : Document.ofText (fileText text) = .ok d) :
    Does (loadPage t (.text text)) [] (.ok d) := by
  unfold loadPage
  dsimp only
  rw [read]
  exact .pure d

theorem pickForm_does {index : Int} (above : 0 ≤ index) (found : d.forms[index.toNat]? = some form) :
    Does (pickForm d index) [] (.ok form) := by
  unfold pickForm
  dsimp only
  rw [if_neg (Int.not_lt.2 above), found]
  exact .pure form

theorem Finding.Agrees.sound {f : Finding} {opted : Bool} (agrees : f.Agrees g form opted o d' ts) :
    f.Sound where
  decision := by rw [agrees.decision, agrees.outcome]
  submitted := by rw [agrees.submitted, agrees.optedIn, agrees.outcome]

/-- A check whose arguments are in order warns of what could not be filled in or ticked, and concludes
with what the attempt at the filled form comes to. -/
theorem check_does {t : Target} {o : CheckOptions} {s : Surroundings} {c : Config}
    (ready : Ready t o s c d form) {f : Finding} (sound : f.Sound)
    (attempted : Does (attempt form (engineFor "check" (o.fill form d) c)) [] (.ok f)) :
    ∃ warned, (∀ a ∈ warned, Spoken a) ∧
      (check t o s).run = (warned ++ (conclude t o f).run.1, (conclude t o f).run.2) := by
  obtain ⟨text, source, read⟩ := ready.page
  obtain ⟨above, found⟩ := ready.form
  obtain ⟨⟨as, filled, shown⟩, ⟨bs, ticked, shown'⟩⟩ := tells_fill ready.values form d
  obtain ⟨cs, r, concluded⟩ := sound.exists_conclude (t := t) (o := o)
  have done : Does (do
      let d ← o.values.foldlM (fillIn form) d
      let d ← o.checked.foldlM (tick form) d
      let f ← attempt form (engineFor "check" d c)
      conclude t o f) (as ++ bs ++ cs) r := by
    rw [List.append_assoc]
    refine filled.bind (ticked.bind ?_)
    exact attempted.bind_silent concluded
  refine ⟨as ++ bs, List.forall_mem_append.2 ⟨shown, shown'⟩, Does.run_append ?_ concluded⟩
  have known : formats.contains o.format = true := List.contains_iff_mem.2 ready.format
  unfold check
  dsimp only
  rw [known, source, if_neg (by decide)]
  exact ready.config.bind_silent ((loadPage_does read).bind_silent
    ((pickForm_does above found).bind_silent done))

/-- What a check comes to: its finding, on which the status, the decision and the validity of the
outcome agree, and which tells what one pass over the form found on the filled page. This is what is
shown, another program can read it, and the page as the pass left it is what is saved. When the check is
carried out the status is zero exactly if the decision is to submit and everything can be done, which it
can where lines can be shown and nothing is to be saved. -/
structure Verdict (t : Target) (o : CheckOptions) (s : Surroundings) (c : Config) (form : Element)
    (filled : Document) (found : FormOutcome) (g : Engine) (f : Finding) : Prop where
  attempted : Does (attempt form (engineFor "check" filled c)) [] (.ok f)
  run : ∃ warned, (∀ a ∈ warned, Spoken a) ∧
    (check t o s).run = (warned ++ (conclude t o f).run.1, (conclude t o f).run.2)
  told : ∀ text, o.write = none ∨ g.world.page.map (·.text) = some (.ok text) →
    (conclude t o f).run =
      ((shownOf t o f.optedIn found g.world.collector).map .print ++
        savedOf o text g.world.collector, .status (if found.valid then 0 else 1))
  unsaved : ∀ e, o.write ≠ none → g.world.page.map (·.text) = some (.error e) →
    (conclude t o f).run =
      ((shownOf t o f.optedIn found g.world.collector).map .print, .failed e)
  readable : (Json.decimal o.form.natAbs).length ≤ Text.Numeral.maxDigits →
    Json.read ((reportOf t o f.optedIn found g.world.collector).pretty true) =
      .ok (reportOf t o f.optedIn found g.world.collector)
  status : (check t o s).run.2 = .status 0 ↔ f.decision = .submittable
  code : ∀ {σ : Type} (perform : Action → StateM σ (Option String)) (w : σ),
    (((Request.check t o).execute perform s).run w).1.code = 0 ↔
      f.decision = .submittable ∧ AllDone perform (check t o s).run.1 w
  plain : o.write = none → o.diagnosticsOut = none →
    ∀ {σ : Type} (perform : Action → StateM σ (Option String)) (w : σ),
      (∀ l w, ((perform (.print l)).run w).1 = none) →
        ((((Request.check t o).execute perform s).run w).1.code = 0 ↔ f.decision = .submittable)
  decision : f.decision = .submittable ↔ f.outcome.valid = true
  fields : f.outcome.fields.map (·.1.element) = filled.carriers form c.attributes.rules
  optedIn : f.optedIn = (Setup.bindingOn { config := c } filled form).validatesOnSubmit
  submitted : f.submitted = true ↔ f.optedIn = true ∧ (check t o s).run.2 = .status 0
  submissions : f.engine.world.page.map (·.submissions) = some (if f.submitted then [form] else [])
  outcome : f.outcome = found
  collector : f.engine.world.collector = g.world.collector
  text : f.engine.world.page.map (·.text) = g.world.page.map (·.text)
  alike : conclude t o f = conclude t o ⟨g, found, f.decision, f.submitted, f.optedIn⟩

/-- Where the arguments of a check are in order and the pass over the form does not break off, the
check comes to its verdict. Its status is zero exactly if its decision is to submit, and exactly if all
fields that carry rules are valid, provided that what it shows and saves can be shown and saved. The
form is submitted once if it has opted in and the status is zero, and else not at all. But for that,
what is shown and written is what the pass tells. -/
theorem check_agrees {t : Target} {o : CheckOptions} {s : Surroundings} {c : Config} {d : Document}
    {form : Element} (ready : Ready t o s c d form) {found : FormOutcome} {g : Engine}
    (pass : (engineFor "check" (o.fill form d) c).run (Setup.validateForm { config := c } form) =
      (.ok found, g)) :
    ∃ f, Verdict t o s c form (o.fill form d) found g f := by
  obtain ⟨d', runs, page', collector'⟩ := runs_of_engineFor pass
  obtain ⟨f, attempted, agrees⟩ := attempt_does (g := engineFor "check" (o.fill form d) c) rfl
    Phase.noConfusion runs
  obtain ⟨d'', page'', text'', submissions''⟩ := agrees.page
  obtain ⟨source, -, read⟩ := ready.page
  obtain rfl := agrees.outcome
  have sound := agrees.sound
  have collector : f.engine.world.collector = g.world.collector :=
    agrees.collector.trans collector'.symm
  have text : f.engine.world.page.map (·.text) = g.world.page.map (·.text) := by
    rw [page'', page', Option.map_some, Option.map_some, text'']
  have pageText : f.pageText = d'.text := by
    rw [Finding.pageText, page'', Option.map_some, Option.getD_some, text'']
  obtain ⟨warned, shown, run⟩ := check_does ready sound attempted
  have status : (check t o s).run.2 = .status 0 ↔ f.decision = .submittable := by
    rw [run, sound.decision_iff]
    exact sound.status_conclude fun valid => pageText ▸ exists_text_of_fill read o runs valid
  have code {σ : Type} (perform : Action → StateM σ (Option String)) (w : σ) :
      (((Request.check t o).execute perform s).run w).1.code = 0 ↔
        f.decision = .submittable ∧ AllDone perform (check t o s).run.1 w := by
    rw [← status]
    exact code_carryOut perform _ _ w
  have prints (write : o.write = none) (diagnostics : o.diagnosticsOut = none) :
      ∀ a ∈ (check t o s).run.1, ∃ l, a = .print l := by
    rw [run]
    refine List.forall_mem_append.2 ⟨fun a warned => ?_, sound.prints_of_conclude write diagnostics⟩
    obtain ⟨l, same, -⟩ := shown a warned
    exact ⟨l, same⟩
  exact ⟨f, {
    attempted := attempted
    run := ⟨warned, shown, run⟩
    told := fun text' known => by
      rw [← collector]
      refine sound.concludes text' (known.imp_right fun ok => ?_)
      rw [Finding.pageText, text, ok, Option.getD_some]
    unsaved := fun e asked known => by
      rw [← collector]
      refine sound.breaksOff asked ?_
      rw [Finding.pageText, text, known, Option.getD_some]
    readable := fun short => read_reportOf t _ _ short (added_of_pass pass)
    status := status
    code := code
    plain := fun write diagnostics _ perform w shows =>
      (code perform w).trans (and_iff_left (allDone_of_prints perform (prints write diagnostics) shows w))
    decision := sound.decision_iff
    fields := fields_of_runs runs
    optedIn := agrees.optedIn
    submitted := by rw [status, sound.decision_iff, sound.submitted, Bool.and_eq_true]
    submissions := by
      rw [page'', Option.map_some, submissions'', submissions_of_fill read o runs, List.nil_append]
    outcome := rfl
    collector := collector
    text := text
    alike := conclude_congr t o rfl rfl rfl rfl collector text }⟩

/-- A page with a form that has opted in, whose one field has no value. -/
def oneField : String :=
  "<form data-validate-on-submit='true'><input name='a' data-validate-validation='required'/></form>"

/-- The page as it is read. -/
def oneFieldRead : Document where
  tree := .cons ⟨0, .element "form", [("data-validate-on-submit", "true")]⟩ ""
    (.cons ⟨1, .element "input", [("name", "a"), ("data-validate-validation", "required")]⟩ "" .nil ""
      .nil) "" .nil
  fresh := 2

/-- The options with which the field is given a value. -/
def withValue : CheckOptions where
  values := ["a=1"]

/-- The field is given a value, and the form is submitted. -/
theorem check_of_filled :
    let t : Target := { page := "page.xhtml" }
    let s : Surroundings := { page := .text oneField }
    ∃ found g f, Ready t withValue s {} oneFieldRead 0 ∧ found.valid = true ∧
      (engineFor "check" (withValue.fill 0 oneFieldRead) {}).run (Setup.validateForm {} 0) =
        (.ok found, g) ∧
      Verdict t withValue s {} 0 (withValue.fill 0 oneFieldRead) found g f := by
  intro t s
  have read : (Document.ofText (fileText oneField)).toOption = some oneFieldRead := by decide +kernel
  have passes : ((engineFor "check" (withValue.fill 0 oneFieldRead) {}).run
      (Setup.validateForm {} 0)).1.toOption.map (·.valid) = some true := by
    decide +kernel
  have ready : Ready t withValue s {} oneFieldRead 0 :=
    { format := by decide
      config := fun done => by
        rw [List.append_nil]
        rfl
      page := ⟨oneField, rfl, toOption_eq_some read⟩
      form := by decide +kernel
      values := by decide +kernel }
  rcases pass : (engineFor "check" (withValue.fill 0 oneFieldRead) {}).run
    (Setup.validateForm {} 0) with ⟨r, g⟩
  rw [pass] at passes
  obtain ⟨found, same, valid⟩ := Option.map_eq_some_iff.1 passes
  obtain rfl : r = .ok found := toOption_eq_some same
  obtain ⟨f, verdict⟩ := check_agrees ready pass
  exact ⟨found, g, f, ready, valid, rfl, verdict⟩

end Command

end FormGate
