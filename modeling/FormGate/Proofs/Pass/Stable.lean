import FormGate.Proofs.Pass.PassRevision
import FormGate.Proofs.Pass.Sorted

/-!
# Passes over the same form

After a pass each field has the value in which its rules end, so no further pass writes anything back.
From the second pass on nothing changes any more: every pass comes to the same and leaves the same page
(`Setup.passes_stabilise`). The first pass may differ from the second one only where a rule judges a
value before another rule has rewritten it.
-/

namespace FormGate

open Markup Document Pass

namespace Revision

variable {m : Manner} {R R' : Revision m}

theorem Keeps.after {a : String} (h' : R'.Keeps a) (h : R.Keeps a) : (R'.after R).Keeps a :=
  fun l => (h' _).trans (h l)

/-- A revision that writes values still does after one that leaves texts and values alone. -/
theorem Writes.after {T : Element → Option String} (writes : R.Writes T)
    (text : ∀ l t, R'.text l t = t) (value : R'.Keeps "value") (selected : R'.Keeps "selected") :
    (R'.after R).Writes T where
  kept l unwritten := by
    obtain ⟨same, own⟩ := writes.kept l unwritten
    exact ⟨fun t => (text _ _).trans (same t), (value _).trans own⟩
  text l v written textarea t := (text _ _).trans (writes.text l v written textarea t)
  value l v written other := (value _).trans (writes.value l v written other)
  selected := selected.after writes.selected

end Revision

namespace Setup

variable {s : Setup}

/-! ## Showing the same outcome again -/

section Again

variable {distinct : s.Distinct} {N : Nat} {on : Bool} {out out' : Element → Outcome}
  {es cs : List Element}

theorem classesOf_gating (l : Label) :
    classesOf ((s.gating distinct N on cs).label l) = classesOf l := by
  rw [label_gating]
  split_ifs
  · exact (unseen_flagged distinct on).classes l
  · rfl

theorem gating_gating (l : Label) : (s.gating distinct N on cs).label
    ((s.gating distinct N on cs).label l) = (s.gating distinct N on cs).label l := by
  rw [label_gating, Revision.id, label_gating]
  split_ifs
  · exact flagged_flagged on l
  · rfl

/-- Showing the outcomes of fields again changes nothing, if nothing is written back any more. -/
theorem shown_after (unwritten : ∀ e ∈ es, (out' e).replaced = none)
    (errors : ∀ e ∈ es, (out' e).errors = (out e).errors) :
    ((s.gating distinct N on cs).after (s.turns distinct N out' es)).after
        ((s.gating distinct N on cs).after (s.turns distinct N out es)) =
      (s.gating distinct N on cs).after (s.turns distinct N out es) := by
  refine Revision.ext (funext fun l => ?_) (funext₂ fun l t => ?_) (funext fun x => ?_)
  · have shown : (s.turns distinct N out' es).label
        ((s.gating distinct N on cs).label ((s.turns distinct N out es).label l)) =
          (s.gating distinct N on cs).label ((s.turns distinct N out es).label l) := by
      rw [label_turns, Revision.id, Revision.id]
      split_ifs with he
      · have valid : (out' l.id).valid = (out l.id).valid := by
          rw [Outcome.valid, errors _ he, Outcome.valid]
        rw [unwritten _ he]
        refine mark_eq_self ?_
        show (classesOf ((s.gating distinct N on cs).label _)).contains _ = _
        rw [classesOf_gating, label_turns, if_pos he, contains_classesOf_mark distinct, valid]
      · rfl
    show (s.gating distinct N on cs).label ((s.turns distinct N out' es).label
      ((s.gating distinct N on cs).label ((s.turns distinct N out es).label l))) = _
    rw [shown, gating_gating]
    rfl
  · show (s.turns distinct N out' es).text
      ((s.gating distinct N on cs).label ((s.turns distinct N out es).label l))
        ((s.turns distinct N out es).text l t) = (s.turns distinct N out es).text l t
    rw [text_turns, Revision.id, Revision.id]
    split_ifs with he
    · rw [unwritten _ he]
      rfl
    · rfl
  · show Option.or (Option.or none ((s.turns distinct N out' es).lines x))
      (Option.or none ((s.turns distinct N out es).lines x)) =
        Option.or none ((s.turns distinct N out es).lines x)
    rw [Option.none_or, Option.none_or, lines_turns, lines_turns]
    split_ifs with he
    · rw [errors _ he]
      rfl
    · rfl

/-- Both have the same lines in store for a field. -/
theorem agree_shown (errors : ∀ e ∈ es, (out' e).errors = (out e).errors) (x : Element) :
    Revision.Agree (((s.gating distinct N on cs).after (s.turns distinct N out es)).lines x)
      (((s.gating distinct N on cs).after (s.turns distinct N out' es)).lines x) := by
  intro ls ls' due due'
  have due : Option.or none ((s.turns distinct N out es).lines x) = some ls := due
  have due' : Option.or none ((s.turns distinct N out' es).lines x) = some ls' := due'
  rw [Option.none_or, lines_turns] at due due'
  split_ifs at due due' with he
  rw [← Option.some.inj due, ← Option.some.inj due', errors x he]

end Again

/-- Passes over a form, one after the other. -/
def passes (s : Setup) (scope : Element) (k : Nat) : Pass (List FormOutcome) :=
  (List.replicate k scope).mapM fun e => s.validateForm e

theorem runs_passes_succ {scope : Element} {k : Nat} {o : FormOutcome} {os : List FormOutcome}
    {d d' d'' : Document} {ts ts' : List (Failure × Context)}
    (first : (s.validateForm scope).Runs d o d' ts) (later : (s.passes scope k).Runs d' os d'' ts') :
    (s.passes scope (k + 1)).Runs d (o :: os) d'' (ts ++ ts') :=
  Runs.mapM_cons (f := fun e => s.validateForm e) first later

/-! ## The page after a pass -/

section Completed

variable {distinct : s.Distinct} {N : Nat} {d d' d'' : Document} {scope : Element}
  (normal : s.Normalises) {n : Node} (stands : s.Stands distinct N d scope n)
include normal stands

theorem belongs_passing :
    s.Belongs (s.passing distinct N d scope) d (d.carriers scope s.config.attributes.rules) := by
  have turns : s.Belongs (s.turns distinct N (s.outcomesOn d scope) (d.carriers scope _)) d _ :=
    belongs_turns normal stands fun _ he => he
  constructor
  · exact turns.writes.after (fun _ _ => rfl) (keeps_gating (by decide)) (keeps_gating (by decide))
  · intro e later
    exact (Option.none_or).trans (turns.lines e later)
  · exact turns.field
  · exact turns.old
  · exact (keeps_gating (by decide)).after turns.name
  · exact (keeps_gating (by decide)).after turns.type
  · exact (keeps_gating (by decide)).after turns.checked
  · exact (keeps_gating (by decide)).after turns.identifier
  · exact (keeps_gating fun same => distinct.rules (by simp [same, written])).after turns.rules

namespace Completed

variable (completed : s.Completed distinct N d scope d')
include completed

theorem sees : s.Sees scope d d' :=
  sees_of_found normal stands.clean.wellFormed (belongs_passing normal stands)
    (stands.asScope completed.tree)

theorem carriers : d'.carriers scope s.config.attributes.rules =
    d.carriers scope s.config.attributes.rules :=
  stands.carriers completed.tree (belongs_passing normal stands).rules

theorem submitControls : d'.submitControls scope = d.submitControls scope :=
  stands.submitControls completed.tree (belongs_passing normal stands).type

section Field

variable {e : Element} (field : e ∈ d.carriers scope s.config.attributes.rules)
include field

/-- A field has its attributes as before, and the value in which its rules end. -/
theorem settled : s.SameField e d d' ∧ d'.value e = s.settledOn d e ∧
    s.settledOn d' e = s.settledOn d e := by
  obtain ⟨n', -, -, own⟩ := stands.field field
  have belongs := belongs_passing normal stands
  have revised := own.revisedFound completed.tree
  have wf := stands.clean.wellFormed
  refine ⟨sameField_of_found belongs revised, ?_,
    settledOn_of_found normal wf belongs own.node own.writable own.old revised⟩
  rw [value_of_found wf belongs own.node own.writable own.old revised, if_pos field, rewrittenOn]
  split_ifs with same
  · exact (beq_iff_eq.1 same).symm
  · rfl

/-- Nothing is written back to a field any more. -/
theorem rewrittenOn_eq_none : s.rewrittenOn d' e = none := by
  obtain ⟨-, value, settled⟩ := completed.settled normal stands field
  rw [rewrittenOn, settled, value, if_pos (beq_self_eq_true _)]

/-- A field to which nothing was written comes to the same again. -/
theorem judgedOn_eq (unwritten : s.rewrittenOn d e = none) :
    s.judgedOn d' scope e = s.judgedOn d scope e := by
  obtain ⟨same, value, -⟩ := completed.settled normal stands field
  have value : d'.value e = d.value e := by
    rw [value]
    by_contra other
    rw [rewrittenOn, if_neg (by simpa using other)] at unwritten
    cases unwritten
  have alike := alike_examine (completed.sees normal stands) same value
  rw [judgedOn, judgedOn, same.descriptor, alike.result]

end Field

section Errors

variable (errors : ∀ e ∈ d.carriers scope s.config.attributes.rules,
  (s.outcomesOn d' scope e).errors = (s.outcomesOn d scope e).errors)
include errors

theorem errors_eq : (s.formOn d' scope).fields.map (fun r => (r.1.element, r.2.errors)) =
    (s.formOn d scope).fields.map fun r => (r.1.element, r.2.errors) := by
  unfold formOn
  rw [completed.carriers normal stands, List.map_map, List.map_map]
  exact List.map_congr_left fun e he => congrArg (Prod.mk e) (errors e he)

theorem valid_eq : (s.formOn d' scope).valid = (s.formOn d scope).valid := by
  unfold formOn FormOutcome.valid
  rw [completed.carriers normal stands, List.all_map, List.all_map, Bool.eq_iff_iff, List.all_eq_true,
    List.all_eq_true]
  refine forall₂_congr fun e he => ?_
  have same : (s.judgedOn d' scope e).2.errors = (s.judgedOn d scope e).2.errors := errors e he
  rw [Function.comp_apply, Function.comp_apply, Outcome.valid, same, Outcome.valid]

/-- A second pass that comes to the same errors leaves the page as the first one did. -/
theorem same_tree (completed' : s.Completed distinct N d' scope d'') :
    d''.tree.capped N = d'.tree.capped N := by
  obtain ⟨n', stands', -⟩ := stands.revised completed.tree completed.clean
  have carriers := completed.carriers normal stands
  have valid := completed.valid_eq normal stands errors
  have unwritten : ∀ e ∈ d.carriers scope s.config.attributes.rules,
      (s.outcomesOn d' scope e).replaced = none := by
    intro e he
    obtain ⟨n'', -, is, own⟩ := stands'.field (carriers ▸ he)
    have replaced := replaced_of_isField normal own.node is scope
    exact replaced.trans (completed.rewrittenOn_eq_none normal stands he)
  have again : s.passing distinct N d' scope =
      (s.gating distinct N (!(s.formOn d scope).valid) (d.submitControls scope)).after
        (s.turns distinct N (s.outcomesOn d' scope)
          (d.carriers scope s.config.attributes.rules)) := by
    rw [passing, valid, completed.submitControls normal stands, carriers]
  calc d''.tree.capped N
      = (s.passing distinct N d' scope).forest
          ((s.passing distinct N d scope).forest (d.tree.capped N)) := by
        rw [completed'.tree, completed.tree]
    _ = ((s.passing distinct N d' scope).after (s.passing distinct N d scope)).forest
          (d.tree.capped N) := by
        rw [Revision.forest_after]
        rw [again]
        exact agree_shown errors
    _ = (s.passing distinct N d scope).forest (d.tree.capped N) := by
        rw [again]
        exact congrArg (Revision.forest · (d.tree.capped N)) (shown_after unwritten errors)
    _ = d'.tree.capped N := completed.tree.symm

end Errors

section Again

variable (named : '\x7b' ∉ s.config.presentation.feedbackTag.toList)
  (unwritten : ∀ e ∈ d.carriers scope s.config.attributes.rules, s.rewrittenOn d e = none)
include named unwritten

/-- Once nothing is written back any more, a further pass comes to the same, and leaves the same page. -/
theorem again : ∃ d'' ts, (s.validateForm scope).Runs d' (s.formOn d scope) d'' ts ∧
    s.Completed distinct N d scope d'' := by
  obtain ⟨n', stands', -⟩ := stands.revised completed.tree completed.clean
  obtain ⟨d'', runs, completed'⟩ := runs_validateForm normal stands' named
  have judged (e : Element) (he : e ∈ d.carriers scope s.config.attributes.rules) :
      s.judgedOn d' scope e = s.judgedOn d scope e :=
    completed.judgedOn_eq normal stands he (unwritten e he)
  have form : s.formOn d' scope = s.formOn d scope := by
    unfold formOn
    rw [completed.carriers normal stands, List.map_congr_left judged]
  have same := completed.same_tree normal stands
    (fun e he => congrArg (fun r => r.2.errors) (judged e he)) completed'
  exact ⟨d'', _, form ▸ runs, completed'.clean, same.trans completed.tree⟩

/-- All further passes come to the same, and leave the same page. -/
theorem runs_passes (k : Nat) : ∃ d'' ts,
    (s.passes scope k).Runs d' (List.replicate k (s.formOn d scope)) d'' ts ∧
      s.Completed distinct N d scope d'' := by
  induction k generalizing d' with
  | zero => exact ⟨d', [], .pure [] d', completed⟩
  | succ k ih =>
    obtain ⟨d₁, ts, runs, completed₁⟩ := completed.again normal stands named unwritten
    obtain ⟨d'', ts', later, completed'⟩ := ih completed₁
    exact ⟨d'', ts ++ ts', runs_passes_succ runs later, completed'⟩

end Again

end Completed

end Completed

/-! ## All passes -/

/-- However often, a pass over a scope without fields and buttons does nothing. -/
theorem runs_passes_of_plain (distinct : s.Distinct) {d : Document} {scope : Element} {n : Node}
    (node : d.node? scope = some n) (plain : ∀ l ∈ n.labels, l.Plain) (k : Nat) :
    (s.passes scope k).Runs d (List.replicate k ⟨[]⟩) d [] := by
  induction k with
  | zero => exact .pure [] d
  | succ k ih => exact runs_passes_succ (runs_validateForm_of_plain node plain distinct) ih

/-- From the second pass over a form on, every pass comes to the same and leaves the same page. If the
rules that rewrite the value of a field come before its other rules, the first pass does so as well. -/
theorem passes_stabilise (distinct : s.Distinct) (normal : s.Normalises)
    (named : '\x7b' ∉ s.config.presentation.feedbackTag.toList) {w : World} {d : Document}
    (page : w.page = some d) (clean : s.Clean d) {scope : Element} (held : d.holds scope = true) :
    ∃ (first later : FormOutcome) (d₁ d₂ : Document),
      (∃ ts : List (Failure × Context), (World.runPass World.undisturbed (s.validateForm scope)).run w =
        (.ok first, { w with
          page := some d₁
          collector := w.collector.addAll (ts.map Diagnostic.warning) })) ∧
      (∀ k, ∃ (d' : Document) (ts : List (Failure × Context)), (World.runPass World.undisturbed (s.passes scope (k + 2))).run w =
          (.ok (first :: List.replicate (k + 1) later), { w with
            page := some d'
            collector := w.collector.addAll (ts.map Diagnostic.warning) }) ∧
        Same d.fresh d₂ d' ∧ d'.text = d₂.text) ∧
      (s.Uncritical →
        (∀ e ∈ d.carriers scope s.config.attributes.rules, s.Sorted (s.rulesOn d e)) →
          later.fields.map (fun r => (r.1.element, r.2.errors)) =
              first.fields.map (fun r => (r.1.element, r.2.errors)) ∧
            later.valid = first.valid ∧ Same d.fresh d₁ d₂ ∧ d₂.text = d₁.text) := by
  obtain ⟨n, found⟩ := Option.isSome_iff_exists.1 held
  rcases stands_or_plain distinct clean found with stands | plain
  · obtain ⟨d₁, runs₁, completed₁⟩ := runs_validateForm normal stands named
    obtain ⟨n₁, stands₁, -⟩ := stands.revised completed₁.tree completed₁.clean
    obtain ⟨d₂, runs₂, completed₂⟩ := runs_validateForm normal stands₁ named
    have carriers := completed₁.carriers normal stands
    have unwritten : ∀ e ∈ d₁.carriers scope s.config.attributes.rules, s.rewrittenOn d₁ e = none :=
      fun e he => completed₁.rewrittenOn_eq_none normal stands (carriers ▸ he)
    refine ⟨s.formOn d scope, s.formOn d₁ scope, d₁, d₂, ⟨_, runs₁.world page⟩, fun k => ?_,
      fun uncritical sorted => ?_⟩
    · obtain ⟨d', ts, runs, completed⟩ := completed₂.runs_passes normal stands₁ named unwritten k
      have same : Same d.fresh d₂ d' := ⟨completed.tree.trans completed₂.tree.symm, runs.yields.sameLog⟩
      have all := runs_passes_succ runs₁ (runs_passes_succ runs₂ runs)
      exact ⟨d', _, all.world page, same, same.text⟩
    · have errors : ∀ e ∈ d.carriers scope s.config.attributes.rules,
          (s.outcomesOn d₁ scope e).errors = (s.outcomesOn d scope e).errors := by
        intro e he
        obtain ⟨same, value, -⟩ := completed₁.settled normal stands he
        obtain ⟨n', -, is, own⟩ := stands.field he
        exact (sorted e he).errors_judgedOn normal uncritical (completed₁.sees normal stands) same value
          (isSome_of_isField own.node is)
      have same : Same d.fresh d₁ d₂ :=
        ⟨completed₁.same_tree normal stands errors completed₂, runs₂.yields.sameLog⟩
      exact ⟨completed₁.errors_eq normal stands errors, completed₁.valid_eq normal stands errors, same,
        same.text⟩
  · have node : d.node? scope = some n := by rw [Document.node?, found, Option.some_or]
    have once := runs_validateForm_of_plain node plain distinct
    refine ⟨⟨[]⟩, ⟨[]⟩, d, d, ⟨_, once.world page⟩, fun k => ?_, fun _ _ => ?_⟩
    · exact ⟨d, _, (runs_passes_of_plain distinct node plain (k + 2)).world page, .refl _ _, rfl⟩
    · exact ⟨rfl, rfl, .refl _ _, rfl⟩

/-- A field that is trimmed first and then too short. -/
theorem passes_after_trim :
    let page : Document :=
      { tree := .cons ⟨0, .element "form", []⟩ ""
          (.cons ⟨1, .element "input", [("value", "x "), ("data-validate-validation", "trim|min_length[2]")]⟩
            "" .nil ""
            (.cons ⟨2, .element "button", [("type", "submit")]⟩ "Send" .nil "" .nil)) "" .nil
        fresh := 3 }
    let w : World := { page := some page, collector := { command := "check", limit := 500 } }
    ∃ (o : FormOutcome) (d₁ d₂ : Document), o.valid = false ∧ d₂.text = d₁.text ∧
      ∀ k, ∃ os d', os.length = k + 1 ∧ (∀ o' ∈ os, o'.valid = false) ∧ d'.text = d₂.text ∧
        ((World.runPass World.undisturbed (passes {} 0 (k + 2))).run w).1.toOption = some (o :: os) ∧
        ((World.runPass World.undisturbed (passes {} 0 (k + 2))).run w).2.page = some d' := by
  intro page w
  have bare : ∀ n ∈ page.tree.nodes, isFeedback {} n.label = false ∧
      n.label.tag.localName ≠ "textarea" ∧ n.label.tag.localName ≠ "select" ∧
      n.label.tag.space.isOk = true := by
    decide +kernel
  have clean : Clean {} page := clean_of_bare (by decide) rfl bare
  have sorted : ∀ e ∈ page.carriers 0 "data-validate-validation", Sorted {} (rulesOn {} page e) := by
    have rules : rulesOn {} page 1 = [⟨"trim", none⟩, ⟨"min_length", some "2"⟩] := by
      decide +kernel
    have trims : Rewriting {} ⟨"trim", none⟩ := ⟨_, rfl, ⟨"", .text, none, false⟩, "", .verdict rfl⟩
    intro e he
    obtain rfl : e = 1 := List.mem_singleton.1 he
    rw [rules]
    exact List.pairwise_pair.2 fun _ => trims
  have fails : ((World.runPass World.undisturbed (validateForm {} 0)).run w).1.toOption.map
      (·.valid) = some false := by
    decide +kernel
  have held : page.holds 0 = true := rfl
  obtain ⟨first, later, d₁, d₂, ⟨ts, run⟩, steady, agree⟩ := passes_stabilise (s := {})
    (by decide +kernel) normalises_default (by decide) (w := w) rfl clean held
  obtain ⟨-, valid, -, text⟩ := agree uncritical_default sorted
  rw [run] at fails
  have invalid : first.valid = false := Option.some.inj fails
  refine ⟨first, d₁, d₂, invalid, text, fun k => ?_⟩
  obtain ⟨d', ts', runs, -, same⟩ := steady k
  refine ⟨List.replicate (k + 1) later, d', List.length_replicate, ?_, same, ?_, ?_⟩
  · intro o' ho'
    rw [List.eq_of_mem_replicate ho', valid, invalid]
  · rw [runs]
    rfl
  · rw [runs]

/-- A form whose fields take over the value of the one after them. -/
def handedOn : Document where
  tree := .cons ⟨0, .element "form", []⟩ ""
    (.cons ⟨1, .element "input", [("name", "a"), ("data-validate-validation", "copy[b]")]⟩ "" .nil ""
      (.cons ⟨2, .element "input", [("name", "b"), ("data-validate-validation", "copy[c]")]⟩ "" .nil ""
        (.cons ⟨3, .element "input", [("name", "c"), ("data-validate-validation", "copy[d]")]⟩ "" .nil ""
          (.cons ⟨4, .element "input", [("name", "d"), ("value", "x")]⟩ "" .nil "" .nil)))) "" .nil
  fresh := 5

/-- A rule that trims a value and finds fault with it if there was something to trim. -/
def scolding : Setup where
  catalog := ⟨[
    { name := "tidy", parameter := .none, replaces := true, judge := fun q => .verdict {
        valid := q.value == Text.trim q.value
        message := some (Verdict.placeholder ++ " has outer blanks.")
        replacement := some (Text.trim q.value)
        explained := fun _ => rfl } }]⟩

/-- A rule that is registered as rewriting, but does not rewrite. -/
def feigning : Setup where
  catalog := ⟨[
    Catalog.builtin .trim .none "" true,
    { name := "len", parameter := .integer, judge := Builtin.minLength.judge, replaces := true }]⟩

/-- Passes may go on changing the page although every rule that rewrites is registered as such: where a
rule goes on rewriting what it made, where two of them do so in turn, and where one takes over what
other fields have come to. The second pass may find a form valid that the first one did not, or the
other way around, although all its rules are registered as rewriting: where a rule finds fault with a
value that it rewrites, and where one that does not rewrite comes before one that does. -/
theorem passes_unsettled :
    (∀ c ∈ restless.catalog.definitions, c.Rewrites → c.replaces = true) ∧ restless.Distinct ∧
      '\x7b' ∉ restless.config.presentation.feedbackTag.toList ∧
    (∀ d ∈ [twoFields [] "shorten" "abcd" "matches[a]" "", twoFields [] "no_a|no_b" "xababa" "matches[a]" "",
        handedOn],
      restless.Clean d ∧ d.holds 0 = true ∧
      ((restless.passes 0 3).on d).2.text ≠ ((restless.passes 0 2).on d).2.text) ∧
    (∀ p ∈ [(scolding, twoFields [] "tidy" "x " "tidy" "", [false, true]),
        (feigning, twoFields [] "len[2]|trim" "x " "trim" "", [true, false])],
      (∀ c ∈ p.1.catalog.definitions, c.replaces = true) ∧ p.1.Distinct ∧
      p.1.Clean p.2.1 ∧ p.2.1.holds 0 = true ∧
      ((p.1.passes 0 2).on p.2.1).1.toOption.map (·.map FormOutcome.valid) = some p.2.2) ∧
    (let d := twoFields [] "tidy" "x " "tidy" ""
     ∀ e ∈ d.carriers 0 scolding.config.attributes.rules, scolding.Sorted (scolding.rulesOn d e)) := by
  refine ⟨flagged_restless, by decide +kernel, by decide, ?_, ?_, ?_⟩
  · simp only [List.forall_mem_cons]
    refine ⟨⟨clean_of_bare (by decide) rfl (by decide +kernel), rfl, by decide +kernel⟩,
      ⟨clean_of_bare (by decide) rfl (by decide +kernel), rfl, by decide +kernel⟩,
      ⟨clean_of_bare (by decide) rfl (by decide +kernel), rfl, by decide +kernel⟩,
      fun _ none => absurd none List.not_mem_nil⟩
  · simp only [List.forall_mem_cons]
    refine ⟨⟨by decide, by decide +kernel, clean_of_bare (by decide) rfl (by decide +kernel), rfl,
        by decide +kernel⟩,
      ⟨by decide, by decide +kernel, clean_of_bare (by decide) rfl (by decide +kernel), rfl,
        by decide +kernel⟩,
      fun _ none => absurd none List.not_mem_nil⟩
  · intro d e he
    have rules : ∀ e ∈ d.carriers 0 scolding.config.attributes.rules,
        scolding.rulesOn d e = [⟨"tidy", none⟩] := by
      decide +kernel
    rw [rules e he]
    exact List.pairwise_singleton _ _

end Setup

end FormGate
