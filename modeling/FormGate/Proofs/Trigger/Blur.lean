import FormGate.Proofs.Pass.PassRevision
import FormGate.Proofs.Trigger.Quiet

/-!
# Elements that lose the focus

The element that lost the focus is judged before the other fields of its form, and the pass over the
form that follows does not judge it again. On a clean page this makes no difference: the page, the
outcome and what is reported are those of a pass over the form alone (`Setup.blur_agrees`).
-/

namespace FormGate

open Markup Document Pass World

namespace Document

variable {d : Document} {e form : Element} {n : Node}

/-- The form around an element of the page is one of the page, and has the element in it. -/
theorem exists_around (wf : d.WellFormed) (held : d.holds e = true)
    (around : d.closestForm? e = some form) :
    ∃ n, d.tree.find? form = some n ∧ ∃ l ∈ n.labels, l.id = e := by
  unfold closestForm? at around
  dsimp only at around
  rcases Forest.enclosing?_of_mem (fun l => l.tag.localName == "form")
    (Forest.find?_isSome.1 held) none with found | ⟨n, hn, found, inside⟩
  · rw [found] at around
    cases around
  · rw [found] at around
    obtain rfl := Option.some.inj around
    exact ⟨n, Forest.find?_of_mem_nodes wf.nodup_tree hn, List.mem_map.1 inside⟩

/-- An element in a scope is among those that carry an attribute exactly if it has the attribute. -/
theorem mem_carriers_iff (wf : d.WellFormed) (found : d.tree.find? form = some n)
    (inside : ∃ l ∈ n.labels, l.id = e) (a : String) :
    e ∈ d.carriers form a ↔ (d.attribute? e a).isSome = true := by
  obtain ⟨l, hl, rfl⟩ := inside
  have node : d.node? form = some n := by rw [node?, found, Option.some_or]
  have within {l : Label} (hl : l ∈ n.labels) : l ∈ d.labels :=
    List.mem_append_left _ ((Forest.labels_of_find? found).subset hl)
  have own : d.attribute? l.id a = l.get? a := by
    rw [attribute?, wf.label?_eq_some.2 ⟨within hl, rfl⟩, Option.bind_some]
  rw [own, ← Label.has_eq_isSome]
  constructor
  · intro member
    obtain ⟨n', node', l', hl', has, same⟩ := mem_select member
    rw [node, Option.some.injEq] at node'
    subst node'
    rwa [← wf.unique (within hl') (within hl) same]
  · intro has
    rw [carriers, select, labelsIn, node]
    exact List.mem_map_of_mem (List.mem_filter.2 ⟨hl, has⟩)

end Document

theorem perm_early {before : Option Element} {es : List Element} (once : es.Nodup)
    (early : ∀ e, before = some e → e ∈ es) :
    (before.toList ++ es.filter fun e => before ≠ some e).Perm es := by
  cases before with
  | none =>
    have all : es.filter (fun e => (none : Option Element) ≠ some e) = es :=
      List.filter_eq_self.2 fun e _ => rfl
    rw [all]
    exact .refl es
  | some e =>
    have others : es.filter (fun x => some e ≠ some x) = es.erase e := by
      rw [once.erase_eq_filter]
      exact List.filter_congr fun x _ => by grind
    rw [others]
    exact (List.perm_cons_erase (early e rfl)).symm

namespace Setup

variable {s : Setup} {d : Document} {e form : Element}

/-! ## Reading the form -/

theorem runs_binding (d : Document) (form : Element) :
    (s.binding form).Runs d (s.bindingOn d form) d [] :=
  .bind_silent (.ask rfl) (.bind_silent (.ask rfl) (.bind_silent (.ask rfl) (.pure _ d)))

/-- The forms that are listed are those that have opted in to any trigger. -/
theorem runs_bindings (scope : Option Element) (d : Document) : (s.bindings scope).Runs d
    (((d.forms scope).map (s.bindingOn d)).filter (·.validatesOnSubmit)) d [] := by
  have all : ((d.forms scope).mapM s.binding).Runs d _ d _ :=
    Runs.mapM_reading fun e _ => runs_binding d e
  rw [List.flatMap_eq_nil_iff.2 fun _ _ => rfl] at all
  exact .bind_silent (.ask rfl) (.bind_silent all (.pure _ d))

/-- The form around an element is found if it has opted in to the loss of the focus. -/
theorem runs_liveForm (live : s.liveFormOn d e = some form) :
    (s.liveForm e).Runs d (some form) d [] := by
  obtain ⟨around, opted⟩ := Option.filter_eq_some_iff.1 live
  refine .bind_silent (.ask (congrArg (fun a => (Except.ok a, d)) around)) ?_
  refine .bind_silent (runs_binding d form) ?_
  rw [if_pos opted]
  exact .pure (some form) d

/-! ## Judging the element first -/

/-- The element that lost the focus, if it carries rules. -/
def leftOn (s : Setup) (d : Document) (e : Element) : Option Element :=
  if (d.attribute? e s.config.attributes.rules).isSome then some e else none

theorem runs_judgeLeft_of_none (absent : d.attribute? e s.config.attributes.rules = none) :
    (s.judgeLeft e form).Runs d none d [] :=
  .bind_silent (.ask (congrArg (fun a => (Except.ok a, d)) absent)) (.pure none d)

section Stands

variable {distinct : s.Distinct} {N : Nat} {n : Node} (normal : s.Normalises)
  (stands : s.Stands distinct N d form n)
  (named : '\x7b' ∉ s.config.presentation.feedbackTag.toList) (inside : ∃ l ∈ n.labels, l.id = e)
include normal stands named inside

/-- The element that lost the focus has its turn if it carries rules. -/
theorem runs_judgeLeft : ∃ d',
    (s.judgeLeft e form).Runs d ((s.leftOn d e).map (s.judgedOn d form)) d'
        ((s.leftOn d e).toList.flatMap fun e => (s.examine e form).told d) ∧
      s.Turned distinct N d form (s.leftOn d e).toList d' := by
  have field := mem_carriers_iff stands.clean.wellFormed stands.found inside s.config.attributes.rules
  unfold leftOn
  cases raw : d.attribute? e s.config.attributes.rules with
  | none => exact ⟨d, runs_judgeLeft_of_none raw, .start stands.clean⟩
  | some raw' =>
    rw [raw] at field
    obtain ⟨d', runs, turned⟩ := runs_validateField normal stands named (Turned.start stands.clean)
      (field.2 rfl) List.not_mem_nil
    refine ⟨d', ?_, turned⟩
    exact .bind_silent (.ask (congrArg (fun a => (Except.ok a, d)) raw)) (runs.bind (.pure _ d'))

end Stands

/-- Judging an element first comes to what a pass over the form comes to alone. -/
theorem judgeLeft_agrees (distinct : s.Distinct) (normal : s.Normalises)
    (named : '\x7b' ∉ s.config.presentation.feedbackTag.toList) (clean : s.Clean d)
    (held : d.holds e = true) (around : d.closestForm? e = some form) :
    ∃ (judged : Option (Descriptor × Outcome)) (o : FormOutcome) (d' d₁ d₂ : Document)
      (ts ts' ts₁ : List (Failure × Context)),
      (s.judgeLeft e form).Runs d judged d' ts ∧ (s.validateForm form judged).Runs d' o d₂ ts' ∧
        (s.validateForm form).Runs d o d₁ ts₁ ∧ Same d.fresh d₁ d₂ ∧ (ts ++ ts').Perm ts₁ ∧
        judged.map (·.2) = o.outcomeOf? e ∧
        judged.isSome = (d.attribute? e s.config.attributes.rules).isSome := by
  obtain ⟨n, found, inside⟩ := exists_around clean.wellFormed held around
  have field := mem_carriers_iff clean.wellFormed found inside s.config.attributes.rules
  rcases stands_or_plain distinct clean found with stands | plain
  · have early : ∀ x, s.leftOn d e = some x → x ∈ d.carriers form s.config.attributes.rules := by
      intro x left
      unfold leftOn at left
      split_ifs at left with carries
      exact Option.some.inj left ▸ field.2 carries
    obtain ⟨d', first, turned⟩ := runs_judgeLeft normal stands named inside
    obtain ⟨d₂, later, completed₂⟩ := runs_validateForm_of_turned normal stands named (s.leftOn d e)
      (fun x left => Option.mem_toList.2 left)
      (fun x _ other left => other (Option.mem_toList.1 left)) turned
    obtain ⟨d₁, plain, completed₁⟩ := runs_validateForm normal stands named
    refine ⟨_, _, d', d₁, d₂, _, _, _, first, later, plain, ⟨?_, ?_⟩, ?_, ?_, ?_⟩
    · exact completed₂.tree.trans completed₁.tree.symm
    · exact plain.yields.sameLog.symm.trans (first.yields.sameLog.trans later.yields.sameLog)
    · rw [← List.flatMap_append]
      exact (perm_early (nodup_carriers clean.wellFormed form _) early).flatMap_right _
    · rw [outcomeOf?_formOn, leftOn]
      split_ifs with carries member member
      · rfl
      · exact absurd (field.2 carries) member
      · exact absurd (field.1 member) carries
      · rfl
    · unfold leftOn
      split_ifs with carries
      · rw [carries]
        rfl
      · exact (Bool.eq_false_iff.2 carries).symm
  · -- a form without fields and buttons has nothing to judge
    have node : d.node? form = some n := by rw [Document.node?, found, Option.some_or]
    have alone := runs_validateForm_of_plain node plain distinct
    have absent : d.attribute? e s.config.attributes.rules = none := by
      rw [← Option.not_isSome_iff_eq_none, ← field, carriers_of_plain node plain distinct]
      exact List.not_mem_nil
    exact ⟨none, ⟨[]⟩, d, d, d, [], [], [], runs_judgeLeft_of_none absent, alone, alone, .refl _ _,
      .refl _, rfl, by rw [absent]; rfl⟩

/-! ## The whole handling -/

theorem exists_world {α : Type} {x : Pass α} {a : α} {d d' : Document} {ts : List (Failure × Context)}
    (runs : x.Runs d a d' ts) {w : World} (page : w.page = some d) :
    ∃ w' : World, (runPass undisturbed x).run w = (.ok a, w') ∧ w'.page = some d' ∧
      w'.collector = w.collector.addAll (ts.map Diagnostic.warning) :=
  ⟨_, runs.world page, rfl, rfl⟩

/-- When nothing intervenes, the element is judged first, then its form is gone through, and that is
what is reported. -/
theorem handleBlur_run {w : World} (page : w.page = some d) (free : w.phase ≠ .evaluating)
    (live : s.liveFormOn d e = some form) {judged : Option (Descriptor × Outcome)} {o : FormOutcome}
    {d' d₂ : Document} {ts ts' : List (Failure × Context)}
    (first : (s.judgeLeft e form).Runs d judged d' ts)
    (later : (s.validateForm form judged).Runs d' o d₂ ts') :
    ∃ w' : World, w'.page = some d₂ ∧
      w'.collector = w.collector.addAll ((ts ++ ts').map Diagnostic.warning) ∧
      (s.handleBlur undisturbed e).run w =
        (⟨some (Report.closed { Report.ofBlur e [.evaluating] with
          fieldOutcome := judged.map (·.2), outcome := some o } w.collector.mark w'), false⟩,
          w'.rest) := by
  have read := (runs_liveForm live).world_silent page
  obtain ⟨w₁, judge, page₁, collector₁⟩ := exists_world first (w := w.enter .evaluating) page
  obtain ⟨w₂, pass, page₂, collector₂⟩ := exists_world later page₁
  refine ⟨w₂, page₂, ?_, ?_⟩
  · rw [collector₂, collector₁, List.map_append, Collector.addAll_append]
    rfl
  · rcases handled : (s.handleBlur undisturbed e).run w with ⟨h, w'⟩
    have course := s.handleBlur_course undisturbed e w
    rw [handled] at course
    cases course with
    | ignored evaluating => exact absurd evaluating free
    | unread _ read' =>
      rw [read] at read'
      cases read'
    | declined _ read' =>
      rw [read] at read'
      cases read'
    | unjudged _ read' judge' =>
      rw [read] at read'
      cases read'
      rw [judge] at judge'
      cases judge'
    | broken _ read' judge' pass' =>
      rw [read] at read'
      cases read'
      rw [judge] at judge'
      cases judge'
      rw [pass] at pass'
      cases pass'
    | finished _ read' judge' pass' =>
      rw [read] at read'
      cases read'
      rw [judge] at judge'
      cases judge'
      rw [pass] at pass'
      cases pass'
      rfl

/-- The handling of an element that loses the focus leaves the page that a pass over its form leaves,
comes to the same outcome, and reports the same but for the order. The outcome of the element is part
of its report exactly if the element carries rules. -/
theorem blur_agrees (distinct : s.Distinct) (normal : s.Normalises)
    (named : '\x7b' ∉ s.config.presentation.feedbackTag.toList) {w : World} {d : Document}
    (page : w.page = some d) (free : w.phase ≠ .evaluating) (clean : s.Clean d) {e form : Element}
    (held : d.holds e = true) (live : s.liveFormOn d e = some form) :
    ∃ (o : FormOutcome) (d₁ d₂ : Document) (ts₁ ts₂ : List (Failure × Context)) (r : Report)
      (w' : World),
      (runPass undisturbed (s.validateForm form)).run w = (.ok o, { w with
        page := some d₁
        collector := w.collector.addAll (ts₁.map Diagnostic.warning) }) ∧
      (s.handle undisturbed (.blur e)).run w = (⟨some r, false⟩, w') ∧
      (w'.page = some d₂ ∧ Same d.fresh d₁ d₂ ∧ d₂.text = d₁.text) ∧
      (r.aborted = false ∧ r.outcome = some o ∧ r.fieldOutcome = o.outcomeOf? e ∧
        r.fieldOutcome.isSome = (d.attribute? e s.config.attributes.rules).isSome) ∧
      w'.collector = w.collector.addAll (ts₂.map Diagnostic.warning) ∧ ts₂.Perm ts₁ ∧
      (w.collector.Bounded → ts₁.length ≤ w.collector.limit →
        r.diagnostics.Perm
          ((w.collector.addAll (ts₁.map Diagnostic.warning)).since w.collector.mark)) := by
  obtain ⟨around, -⟩ := Option.filter_eq_some_iff.1 live
  obtain ⟨judged, o, d', d₁, d₂, ts, ts', ts₁, first, later, plain, same, perm, own, carries⟩ :=
    judgeLeft_agrees distinct normal named clean held around
  obtain ⟨w', page', collector', handled⟩ := handleBlur_run page free live first later
  refine ⟨o, d₁, d₂, ts₁, ts ++ ts', _, _, plain.world page, handled, ⟨?_, same, same.text⟩,
    ⟨?_, ?_, ?_, ?_⟩, ?_, perm, ?_⟩
  · rw [rest_page, page']
  · rw [Report.closed_aborted]
    rfl
  · rw [Report.closed_outcome]
  · rw [Report.closed_fieldOutcome]
    exact own
  · rw [Report.closed_fieldOutcome, Option.isSome_map]
    exact carries
  · rw [rest_collector, collector']
  · intro bounded within
    have all (ds : List Diagnostic) (few : ds.length ≤ w.collector.limit) :
        (w.collector.addAll ds).since w.collector.mark = ds := by
      rw [bounded.since_addAll, Nat.sub_eq_zero_of_le few, List.drop_zero]
    show (w'.collector.since w.collector.mark).Perm _
    rw [collector', all _ (by rwa [List.length_map, perm.length_eq]), all _ (by rwa [List.length_map])]
    exact perm.map Diagnostic.warning

/-- The second field loses the focus, which is to match a first one that is still to be trimmed. -/
theorem blur_before_trim :
    let rules := "data-validate-validation"
    let page : Document :=
      { tree := .cons ⟨0, .element "form", [("data-validate-on-blur", "true")]⟩ ""
          (.cons ⟨1, .element "input", [("name", "a"), ("value", "x "), (rules, "trim|min_length[2]")]⟩
            "" .nil ""
            (.cons ⟨2, .element "input", [("name", "b"), ("value", "x"), (rules, "matches[a]")]⟩
              "" .nil "" .nil)) "" .nil
        fresh := 3 }
    let w : World := { page := some page, collector := { command := "check", limit := 500 } }
    ∃ (o : FormOutcome) (d₁ d₂ : Document) (r : Report) (w' : World),
      o.valid = false ∧ ((runPass undisturbed (validateForm {} 0)).run w).1.toOption = some o ∧
      ((runPass undisturbed (validateForm {} 0)).run w).2.page = some d₁ ∧
      (handle {} undisturbed (.blur 2)).run w = (⟨some r, false⟩, w') ∧ w'.page = some d₂ ∧
      d₂.text = d₁.text ∧ r.outcome = some o ∧ r.fieldOutcome = o.outcomeOf? 2 ∧
      r.fieldOutcome.isSome = true := by
  intro rules page w
  have bare : ∀ n ∈ page.tree.nodes, isFeedback {} n.label = false ∧
      n.label.tag.localName ≠ "textarea" ∧ n.label.tag.localName ≠ "select" ∧
      n.label.tag.space.isOk = true := by
    decide +kernel
  have clean : Clean {} page := clean_of_bare (by decide) rfl bare
  have held : page.holds 2 = true := rfl
  have live : liveFormOn {} page 2 = some 0 := by decide +kernel
  have fails : ((runPass undisturbed (validateForm {} 0)).run w).1.toOption.map (·.valid) =
      some false := by
    decide +kernel
  obtain ⟨o, d₁, d₂, ts₁, ts₂, r, w', plain, handled, ⟨page', -, text⟩, ⟨-, outcome, own, carries⟩, -⟩ :=
    blur_agrees (s := {}) (by decide +kernel) normalises_default (by decide) (w := w) rfl (by decide)
      clean held live
  rw [plain] at fails
  have invalid : o.valid = false := Option.some.inj fails
  refine ⟨o, d₁, d₂, r, w', invalid, ?_, ?_, handled, page', text, outcome, own, ?_⟩
  · rw [plain]
    rfl
  · rw [plain]
  · rw [carries]
    rfl

/-- A form with two fields that is opted in to the loss of the focus, with room for some diagnostics. -/
def twoWatched (limit : Nat) (rules value rules' value' : String) : World where
  page := some (twoFields [("data-validate-on-blur", "true")] rules value rules' value')
  collector := { command := "check", limit }

/-- The two may differ although every rule that rewrites is registered as such, for the second field is
judged before the first one: where a rule goes on rewriting what it made, where two of them do so in
turn, and where one makes something else of a value when it may look up other fields. Of the
diagnostics the last ones are kept where there is no room for all. -/
theorem blur_disagrees :
    (∀ c ∈ restless.catalog.definitions, c.Rewrites → c.replaces = true) ∧ restless.Distinct ∧
      '\x7b' ∉ restless.config.presentation.feedbackTag.toList ∧
    (∀ w ∈ [twoWatched 500 "shorten" "xy" "matches[a]" "y",
        twoWatched 500 "no_a|no_b" "xaba" "matches[a]" "xa",
        twoWatched 500 "copy[b]" "x" "matches[a]" "y"],
      (∃ d, w.page = some d ∧ restless.Clean d ∧ d.holds 2 = true ∧ restless.liveFormOn d 2 = some 0) ∧
      ((restless.handle undisturbed (.blur 2)).run w).1.report.bind (·.outcome) ≠
        ((runPass undisturbed (restless.validateForm 0)).run w).1.toOption) ∧
    (let w := twoWatched 1 "one" "" "two" ""
     (∃ d, w.page = some d ∧ Clean {} d ∧ d.holds 2 = true ∧ liveFormOn {} d 2 = some 0) ∧
      ∃ r, ((handle {} undisturbed (.blur 2)).run w).1.report = some r ∧ ¬ r.diagnostics.Perm
        (((runPass undisturbed (validateForm {} 0)).run w).2.collector.since w.collector.mark)) := by
  refine ⟨flagged_restless, by decide +kernel, by decide, ?_, ?_, ?_⟩
  · simp only [List.forall_mem_cons]
    refine ⟨⟨⟨_, rfl, clean_of_bare (by decide) rfl (by decide +kernel), rfl, by decide +kernel⟩, ?_⟩,
      ⟨⟨_, rfl, clean_of_bare (by decide) rfl (by decide +kernel), rfl, by decide +kernel⟩, ?_⟩,
      ⟨⟨_, rfl, clean_of_bare (by decide) rfl (by decide +kernel), rfl, by decide +kernel⟩, ?_⟩,
      fun _ none => absurd none List.not_mem_nil⟩
    all_goals decide +kernel
  · exact ⟨_, rfl, clean_of_bare (by decide) rfl (by decide +kernel), rfl, by decide +kernel⟩
  · exact ⟨_, rfl, fun same => absurd (same.map (·.message)) (by decide +kernel)⟩

end Setup

end FormGate
