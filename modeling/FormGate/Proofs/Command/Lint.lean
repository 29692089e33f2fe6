import FormGate.Proofs.Command.Verdict
import FormGate.Proofs.Config.Accepted
import FormGate.Proofs.Pass.Warnings

/-!
# What lint tells

The status of lint is zero exactly if all rule texts of the page are clean. On such a page a check
reports nothing but rules that cannot be applied, whatever is filled in and ticked before, as nothing
that a check does makes a rule text or alters one (`Command.lint_exact`).
-/

namespace FormGate

open Document World Pass

/-! ## Describing all fields -/

theorem Document.loose_ofText {text : String} {d : Document} (read : Document.ofText text = .ok d) :
    d.loose = .nil := by
  unfold ofText at read
  cases page : Markup.Page.read text with
  | error e =>
    rw [page] at read
    cases read
  | ok p =>
    rw [page] at read
    cases read
    rfl

theorem Document.mem_carriers_root {text : String} {d : Document} (read : Document.ofText text = .ok d)
    {e : Element} {a : String} :
    e ∈ d.carriers d.root a ↔ d.holds e = true ∧ (d.attribute? e a).isSome = true := by
  have wf := wellFormed_ofText read
  obtain ⟨l, t, c, tree, -⟩ := root_of_ofText read
  have found : d.tree.find? d.root = some ⟨l, t, c, ""⟩ := by simp [root, tree, Markup.Forest.find?]
  have labels : (⟨l, t, c, ""⟩ : Markup.Node).labels = d.tree.labels := by
    simp [tree, Markup.Node.labels, Markup.Forest.labels]
  have held : d.holds e = true ↔ ∃ l' ∈ (⟨l, t, c, ""⟩ : Markup.Node).labels, l'.id = e := by
    rw [holds, Markup.Forest.find?_isSome, labels, Markup.Forest.ids, List.mem_map]
  rw [held]
  constructor
  · intro member
    have node : d.node? d.root = some ⟨l, t, c, ""⟩ := by rw [node?, found, Option.some_or]
    obtain ⟨n, node', l', hl', -, same⟩ := mem_select member
    rw [node, Option.some.injEq] at node'
    subst node'
    exact ⟨⟨l', hl', same⟩, (mem_carriers_iff wf found ⟨l', hl', same⟩ a).1 member⟩
  · rintro ⟨inside, has⟩
    exact (mem_carriers_iff wf found inside a).2 has

namespace Command

open Script

variable {t : Target} {s : Surroundings} {c : Config} {text : String} {d : Document}

/-! ## The configuration -/

theorem loadConfig_cases (found : Option (String × Source)) :
    (∃ c : Config, loadConfig found = pure c ∧ c.Accepted) ∨
      ∃ as e, Does (loadConfig found) as (.error e) := by
  have default : Config.Accepted {} := Config.accepted_of_ofFields Config.ofFields_nil
  unfold loadConfig
  split
  · exact .inl ⟨{}, rfl, default⟩
  · exact .inl ⟨{}, rfl, default⟩
  · exact .inr ⟨_, _, .throw _⟩
  · exact .inr ⟨_, _, .refuse _⟩
  · split
    · rename_i loaded
      exact .inl ⟨_, rfl, Config.accepted_of_load loaded⟩
    · exact .inr ⟨_, _, .refuse _⟩

theorem accepted_of_setUp {found : Option (String × Source)} {as : List Action}
    (loaded : Does (setUp t found) as (.ok c)) : c.Accepted := by
  unfold setUp at loaded
  rcases loadConfig_cases found with ⟨c', same, accepted⟩ | ⟨bs, e, failed⟩
  · rw [same, pure_bind] at loaded
    dsimp only at loaded
    split_ifs at loaded
    · cases (loaded.unique (.pure c')).2
      exact accepted
    · cases (loaded.unique (.refuse _)).2
  · cases (loaded.unique failed.bind_error).2

/-! ## Lint -/

/-- What is reported when all fields of a page are described. -/
def lintReports (c : Config) (d : Document) : List (Failure × Context) :=
  (d.carriers d.root c.attributes.rules).flatMap (Setup.describing { config := c } d)

theorem runPass_silent {α : Type} {x : Setup → Pass α} {g : Engine} {a : α}
    (page : g.world.page = some d) (runs : (x g.setup).Runs d a d []) :
    runPass x g = pure (a, g) := by
  unfold Command.runPass Engine.run
  rw [runs.world_silent page]

/-- After the fields the forms are shown, and the status is that of the collector. -/
theorem tells_findings {g : Engine} (page : g.world.page = some d) : Tells (do
    let (bindings, g) ← runPass (fun s => s.bindings none) g
    bindings.forM fun b =>
      say [.styled "Form", .own " ", .quoted (d.caption b.form),
        .own (": " ++ ", ".intercalate (triggerNames b))]
    if g.world.collector.hasDiagnostics then
      showDiagnostics g.world.collector.retained
      return 1
    else
      say [.own "\n", .styled "No rule problems found!"]
      return 0 : Script Nat) (if g.world.collector.hasDiagnostics then 1 else 0) := by
  rw [runPass_silent page (Setup.runs_bindings none d), pure_bind]
  refine (Tells.forM (fun b => .say _) _).bind ?_
  split_ifs
  · exact ((Tells.say _).bind (.print (by rintro _ ⟨⟩))).bind (.pure 1)
  · exact (Tells.say _).bind (.pure 0)

/-- Lint shows some lines, and its status tells whether anything was reported. -/
theorem tells_lint (loaded : Does (setUp t s.config) [] (.ok c)) (source : s.page = .text text)
    (read : Document.ofText (fileText text) = .ok d) :
    Tells (lint t s) (if lintReports c d = [] then 0 else 1) := by
  have described : (describeAll (d.carriers d.root c.attributes.rules) { config := c }).Runs d
      _ d (lintReports c d) := Runs.mapM_reading fun e he => by
    obtain ⟨raw, field⟩ := Option.isSome_iff_exists.1 ((Document.mem_carriers_root read).1 he).2
    exact Setup.runs_describe { config := c } field
  have page : (engineFor "lint" d c).world.page = some d := rfl
  have warned := Collector.hasDiagnostics_fresh "lint" (accepted_of_setUp loaded).maxRetained
    ((lintReports c d).map Diagnostic.warning)
  have status : (if lintReports c d = [] then 0 else 1) =
      if (Collector.addAll { command := "lint", limit := c.maxRetained }
        ((lintReports c d).map Diagnostic.warning)).hasDiagnostics then 1 else 0 := by
    rw [List.map_eq_nil_iff] at warned
    by_cases none : lintReports c d = []
    · rw [if_pos none, warned.2 none, if_neg Bool.false_ne_true]
    · rw [if_neg none, if_pos (Bool.not_eq_false _ ▸ mt warned.1 none)]
  unfold lint
  rw [source, status]
  refine (Tells.of_silent loaded).bind ((Tells.of_silent (loadPage_does read)).bind ?_)
  refine (Tells.say _).bind ?_
  rw [runPass_eq (x := describeAll _) page described, pure_bind]
  dsimp only
  by_cases empty : (!(d.carriers d.root c.attributes.rules).isEmpty) = true
  · rw [if_pos empty]
    exact (Tells.print (by rintro _ ⟨⟩)).bind (tells_findings rfl)
  · rw [if_neg empty]
    exact tells_findings rfl

/-- Lint ends with zero exactly if all rule texts of the page are clean. -/
theorem lintReports_eq_nil (read : Document.ofText text = .ok d) : lintReports c d = [] ↔
    ∀ e raw, d.holds e = true → d.attribute? e c.attributes.rules = some raw →
      Catalog.default.Clean raw := by
  unfold lintReports
  simp only [List.flatMap_eq_nil_iff, Setup.describing_eq_nil, Document.mem_carriers_root read]
  constructor
  · exact fun h e raw held field => h e ⟨held, Option.isSome_iff_exists.2 ⟨raw, field⟩⟩ raw field
  · exact fun h e he raw field => h e raw he.1 field

/-! ## What check reports on the same page -/

/-- On a page that was read all labels are clean if all rule texts are. -/
theorem cleans_of_clean (read : Document.ofText text = .ok d)
    (clean : ∀ e raw, d.holds e = true → d.attribute? e c.attributes.rules = some raw →
      Catalog.default.Clean raw) : Setup.Cleans { config := c } d := by
  intro l hl raw field
  refine clean l.id raw ?_ ?_
  · rw [labels, loose_ofText read, Markup.Forest.labels, List.append_nil] at hl
    exact Markup.Forest.find?_isSome.2 (Markup.Forest.id_mem_ids hl)
  · rw [attribute?, (wellFormed_ofText read).label?_eq_some.2 ⟨hl, rfl⟩, Option.bind_some]
    exact field

/-- A pass over a filled form of a page whose rule texts are clean leaves only diagnostics of rules that
cannot be applied. -/
theorem retained_of_clean (untouched : c.attributes.rules ∉ touched) {o : CheckOptions}
    {form : Element} (clean : Setup.Cleans { config := c } d) {found : FormOutcome} {g : Engine}
    (pass : (engineFor "check" (o.fill form d) c).run (Setup.validateForm { config := c } form) =
      (.ok found, g)) :
    ∀ x ∈ g.world.collector.retained, x.context.operation = "evaluate_rule" := by
  have filled : Setup.Cleans { config := c } (o.fill form d) :=
    all_fill (Setup.stable_cleanLabel untouched) o form clean
  intro x hx
  obtain ⟨p, applying, rfl⟩ := retained_of_admits (Setup.admits_cleans untouched) filled pass x hx
  exact applying

/-- Lint ends with zero exactly if every element of the page that carries rules has a rule text that
is not blank and of which every token that is not blank spells a rule of the catalog with a parameter
of its shape. Then, unless the rules stand in an attribute that the page is changed by, every check of
the page under the same configuration reports only rules that cannot be applied. -/
theorem lint_exact {t : Target} {s : Surroundings} {c : Config} {text : String} {d : Document}
    (loaded : Does (setUp t s.config) [] (.ok c)) (source : s.page = .text text)
    (read : Document.ofText (fileText text) = .ok d) :
    ((lint t s).run.2 = .status 0 ↔
      ∀ e raw, d.holds e = true → d.attribute? e c.attributes.rules = some raw →
        Catalog.default.Clean raw) ∧
    ((lint t s).run.2 = .status 0 → c.attributes.rules ∉ touched →
      ∀ {t' : Target} {o : CheckOptions} {s' : Surroundings} {form : Element} {found : FormOutcome}
        {g : Engine}, Ready t' o s' c d form →
        (engineFor "check" (o.fill form d) c).run (Setup.validateForm { config := c } form) =
          (.ok found, g) →
        ∃ f, Verdict t' o s' c form (o.fill form d) found g f ∧
          ∀ x ∈ f.engine.world.collector.retained, x.context.operation = "evaluate_rule") := by
  have exact : (lint t s).run.2 = .status 0 ↔
      ∀ e raw, d.holds e = true → d.attribute? e c.attributes.rules = some raw →
        Catalog.default.Clean raw := by
    rw [(tells_lint loaded source read).status, ← lintReports_eq_nil read]
    split_ifs with none
    · exact iff_of_true rfl none
    · exact iff_of_false (by simp) none
  refine ⟨exact, fun zero untouched t' o s' form found g ready pass => ?_⟩
  obtain ⟨f, verdict⟩ := check_agrees ready pass
  refine ⟨f, verdict, ?_⟩
  rw [verdict.collector]
  exact retained_of_clean untouched (cleans_of_clean read (exact.1 zero)) pass

/-- A page whose one field refers to a field that is not there. -/
def lonely : String :=
  "<form><input name='a' data-validate-validation='required|matches[b]'/></form>"

/-- The page as it is read. -/
def lonelyRead : Document where
  tree := .cons ⟨0, .element "form", []⟩ ""
    (.cons ⟨1, .element "input", [("name", "a"), ("data-validate-validation", "required|matches[b]")]⟩
      "" .nil "" .nil) "" .nil
  fresh := 2

/-- Lint finds nothing wrong with the page, and a check of it reports the reference alone. -/
theorem lint_of_lonely :
    let t : Target := { page := "page.xhtml" }
    let s : Surroundings := { page := .text lonely }
    (lint t s).run.2 = .status 0 ∧ ∃ found g f,
      Verdict t {} s {} 0 lonelyRead found g f ∧ f.engine.world.collector.retained.length = 1 ∧
        ∀ x ∈ f.engine.world.collector.retained, x.context.operation = "evaluate_rule" := by
  intro t s
  have read : Document.ofText (fileText lonely) = .ok lonelyRead :=
    toOption_eq_some (by decide +kernel)
  have loaded : Does (setUp t s.config) [] (.ok {}) := fun done => by
    rw [List.append_nil]
    rfl
  have zero : (lint t s).run.2 = .status 0 := by decide +kernel
  have passes : ((engineFor "check" lonelyRead {}).run (Setup.validateForm {} 0)).1.toOption.isSome ∧
      ((engineFor "check" lonelyRead {}).run (Setup.validateForm {} 0)).2.world.collector.retained.length
        = 1 := by
    decide +kernel
  have ready : Ready t {} s {} lonelyRead 0 :=
    { format := by decide
      config := loaded
      page := ⟨lonely, rfl, read⟩
      form := by decide +kernel
      values := by decide +kernel }
  rcases pass : (engineFor "check" lonelyRead {}).run (Setup.validateForm {} 0) with ⟨r, g⟩
  rw [pass] at passes
  obtain ⟨found, same⟩ := Option.isSome_iff_exists.1 passes.1
  obtain rfl : r = .ok found := toOption_eq_some same
  obtain ⟨f, verdict, applying⟩ := (lint_exact loaded rfl read).2 zero (by decide) ready pass
  exact ⟨zero, found, g, f, verdict, verdict.collector ▸ passes.2, applying⟩

end Command

end FormGate
