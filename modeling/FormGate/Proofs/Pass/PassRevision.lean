import FormGate.Proofs.Pass.KeptElements
import FormGate.Proofs.Pass.TurnRevision

/-!
# A pass as a revision

On a clean page the fields of a form have their turns one after the other, and what a field comes to
does not hang on which ones had theirs before. So a pass always ends, and what it makes of the page is
one revision that the page before it tells (`Setup.runs_validateForm`).
-/

namespace FormGate

open Markup Document Pass

namespace Setup

variable {s : Setup}

/-! ## The turns of several fields -/

/-- What the fields of a scope come to. -/
def outcomesOn (s : Setup) (d : Document) (scope e : Element) : Outcome :=
  (s.judgedOn d scope e).2

/-- The turn of a field of a scope, unless it is the one that was judged before. -/
def turnOf (s : Setup) (d : Document) (scope : Element) (before : Option Element) (e : Element) :
    Pass (Descriptor × Outcome) :=
  if before = some e then pure (s.judgedOn d scope e) else s.validateField e (some scope)

/-- A page on which some of the fields of a scope had their turns. -/
structure Turned (s : Setup) (distinct : s.Distinct) (N : Nat) (d : Document) (scope : Element)
    (done : List Element) (d' : Document) : Prop where
  clean : s.CleanSince N d'
  tree : d'.tree.capped N =
    (s.turns distinct N (s.outcomesOn d scope) done).forest (d.tree.capped N)
  fields : ∀ e ∈ done, e ∈ d.carriers scope s.config.attributes.rules

section Turned

variable {distinct : s.Distinct} {N : Nat} {d d' : Document} {scope : Element}
  {done : List Element}

theorem Turned.start (clean : s.CleanSince N d) : s.Turned distinct N d scope [] d where
  clean := clean
  tree := (Revision.forest_of_spared fun _ _ => spares_turns List.not_mem_nil).symm
  fields := nofun

theorem Turned.congr {done' : List Element} (same : ∀ e, e ∈ done' ↔ e ∈ done)
    (turned : s.Turned distinct N d scope done d') : s.Turned distinct N d scope done' d' where
  clean := turned.clean
  tree := by rw [turns_congr same, turned.tree]
  fields e he := turned.fields e ((same e).1 he)

section Scope

variable (normal : s.Normalises) {n : Node} (stands : s.Stands distinct N d scope n)
include normal stands

theorem belongs_turns (fields : ∀ e ∈ done, e ∈ d.carriers scope s.config.attributes.rules) :
    s.Belongs (s.turns distinct N (s.outcomesOn d scope) done) d done where
  writes := by
    have replaced : replacedIn (s.outcomesOn d scope) done =
        fun e => if e ∈ done then s.rewrittenOn d e else none := by
      funext e
      unfold replacedIn
      split_ifs with he
      · obtain ⟨n', -, field, own⟩ := stands.field (fields e he)
        exact replaced_of_isField normal own.node field scope
      · rfl
    exact replaced ▸ writes_turns
  lines e later := by rw [lines_turns, if_neg later]
  field e he := by
    obtain ⟨n', -, field, own⟩ := stands.field (fields e he)
    exact ⟨n'.label, List.mem_append_left _ (own.labels List.mem_cons_self),
      Forest.find?_id own.found, field⟩
  old e he := by
    obtain ⟨n', -, -, own⟩ := stands.field (fields e he)
    exact own.old
  name := keeps_turns (by decide) (by decide)
  type := keeps_turns (by decide) (by decide)
  checked := keeps_turns (by decide) (by decide)
  identifier := keeps_turns (by decide) (by decide)
  rules := keeps_turns (fun same => distinct.rules (by simp [same, written]))
    fun same => distinct.rules (by simp [same, written])

variable (named : '\x7b' ∉ s.config.presentation.feedbackTag.toList)
include named

/-- One more field has its turn, and what it comes to does not hang on which ones had theirs before. -/
theorem runs_validateField (turned : s.Turned distinct N d scope done d') {e : Element}
    (field : e ∈ d.carriers scope s.config.attributes.rules) (later : e ∉ done) :
    ∃ d'', (s.validateField e (some scope)).Runs d' (s.judgedOn d scope e) d''
        ((s.examine e scope).told d) ∧ s.Turned distinct N d scope (e :: done) d'' := by
  obtain ⟨n', -, is, own⟩ := stands.field field
  have belongs := belongs_turns normal stands turned.fields
  have examined := runs_examine_of_found normal stands.clean.wellFormed belongs
    (stands.asScope turned.tree) own.node is own.writable own.old (own.revisedFound turned.tree) later
  obtain ⟨n'', own', alone⟩ := own.revised turned.tree turned.clean
  have label : n''.label.capped N =
      (s.turns distinct N (s.outcomesOn d scope) done).label (n'.label.capped N) :=
    congrArg Node.label alone
  have is' : s.isField n''.label = true := by
    rw [← is]
    exact (congrArg s.isField label).trans (isField_label belongs.rules _)
  have fixed : n''.label.tag.localName = "select" → (s.judgedOn d scope e).2.replaced = none := by
    intro select
    have tag : n''.label.tag = n'.label.tag := (congrArg Label.tag label).trans (Revision.tag _ _)
    rw [tag] at select
    rw [replaced_of_isField normal own.node is, own.writable.rewrittenOn_eq_none own.node select]
  obtain ⟨d'', shown, clean'', tree⟩ := runs_turn distinct named turned.clean own'.found is'
    rfl fixed (show s.outcomesOn d scope e = (s.judgedOn d scope e).2 from rfl)
  refine ⟨d'', ?_, clean'', ?_, List.forall_mem_cons.2 ⟨field, turned.fields⟩⟩
  · unfold validateField
    rw [s.validate_eq, bind_assoc, ← List.append_nil (Pass.told _ _)]
    exact examined.bind shown
  · have apart : ∀ x ∈ [e], x ∉ done := fun x hx => List.mem_singleton.1 hx ▸ later
    rw [tree, turned.tree, show e :: done = [e] ++ done from rfl, ← turns_after apart]
    refine (Revision.forest_after _ _ (fun x => ?_) _).symm
    intro ls ls' given given'
    rw [lines_turns] at given given'
    split_ifs at given given'
    rw [← Option.some.inj given, ← Option.some.inj given']

/-- The fields of a scope have their turns one after the other, but for one that had it before. -/
theorem runs_turns {before : Option Element} (early : ∀ e, before = some e → e ∈ done)
    {es : List Element} (once : es.Nodup)
    (fields : ∀ e ∈ es, e ∈ d.carriers scope s.config.attributes.rules)
    (later : ∀ e ∈ es, before ≠ some e → e ∉ done) (turned : s.Turned distinct N d scope done d') :
    ∃ d'', (es.mapM (s.turnOf d scope before)).Runs d' (es.map (s.judgedOn d scope)) d''
        ((es.filter fun e => before ≠ some e).flatMap fun e => (s.examine e scope).told d) ∧
      s.Turned distinct N d scope (es ++ done) d'' := by
  induction es generalizing done d' with
  | nil => exact ⟨d', .pure [] d', turned⟩
  | cons e es ih =>
    rw [List.nodup_cons] at once
    rw [List.forall_mem_cons] at fields later
    by_cases judged : before = some e
    · have first : (s.turnOf d scope before e).Runs d' (s.judgedOn d scope e) d' [] := by
        unfold turnOf
        rw [if_pos judged]
        exact .pure _ d'
      obtain ⟨d'', rest, turned'⟩ := ih early once.2 fields.2 later.2 turned
      have told : (e :: es).filter (fun e => before ≠ some e) =
          es.filter fun e => before ≠ some e := List.filter_cons_of_neg (by simp [judged])
      refine ⟨d'', told ▸ Runs.mapM_cons first rest, turned'.congr fun x => ?_⟩
      have member := early e judged
      rw [List.cons_append, List.mem_cons, or_iff_right_of_imp]
      rintro rfl
      exact List.mem_append_right _ member
    · obtain ⟨d₁, first, turned₁⟩ := runs_validateField normal stands named turned fields.1
        (later.1 judged)
      have first : (s.turnOf d scope before e).Runs d' (s.judgedOn d scope e) d₁
          ((s.examine e scope).told d) := by
        unfold turnOf
        rwa [if_neg judged]
      have later' : ∀ x ∈ es, before ≠ some x → x ∉ e :: done := by
        intro x hx other
        rw [List.mem_cons, not_or]
        exact ⟨fun same => once.1 (same ▸ hx), later.2 x hx other⟩
      obtain ⟨d'', rest, turned'⟩ := ih (fun x hx => List.mem_cons_of_mem _ (early x hx)) once.2
        fields.2 later' turned₁
      have told : (e :: es).filter (fun e => before ≠ some e) =
          e :: es.filter fun e => before ≠ some e := List.filter_cons_of_pos (by simp [judged])
      refine ⟨d'', ?_, turned'.congr fun x => by simp [or_left_comm]⟩
      rw [told, List.flatMap_cons]
      exact Runs.mapM_cons first rest

end Scope

end Turned

/-! ## The submit buttons -/

/-- Disables or enables elements. -/
def gating (s : Setup) (distinct : s.Distinct) (N : Nat) (on : Bool) (cs : List Element) :
    Revision (s.manner distinct N) where
  label l := if l.id ∈ cs then flagged on l else l
  text _ t := t
  lines _ := none
  id l := by
    split_ifs
    · exact (kin_flagged on l).id
    · rfl
  tag l := by
    split_ifs
    · exact tag_flagged on l
    · rfl
  feedback l := by
    split_ifs
    · exact congrArg (List.contains · _) ((unseen_flagged distinct on).classes l)
    · rfl

theorem capped_flagged {N : Nat} (on : Bool) (l : Label) :
    (flagged on l).capped N = flagged on (l.capped N) := by
  cases on <;> rfl

section Gating

variable {distinct : s.Distinct} {N : Nat} {on : Bool} {cs : List Element}

theorem label_gating (l : Label) :
    (s.gating distinct N on cs).label l = if l.id ∈ cs then flagged on l else l := rfl

theorem keeps_gating {a : String} (other : a ≠ "disabled") :
    (s.gating distinct N on cs).Keeps a := by
  intro l
  rw [label_gating]
  split_ifs
  · exact get?_flagged on l other
  · rfl

theorem spares_gating {l : Label} (other : l.id ∉ cs) : (s.gating distinct N on cs).Spares l :=
  ⟨if_neg other, fun _ => rfl, rfl⟩

theorem gating_after (c : Element) :
    (s.gating distinct N on cs).after (s.gating distinct N on [c]) =
      s.gating distinct N on (c :: cs) := by
  refine Revision.ext (funext fun l => ?_) rfl rfl
  show (s.gating distinct N on cs).label ((s.gating distinct N on [c]).label l) = _
  rw [label_gating, Revision.id, label_gating, label_gating]
  by_cases first : l.id = c
  · rw [if_pos (List.mem_singleton.2 first), if_pos (List.mem_cons.2 (.inl first)), flagged_flagged,
      ite_self]
  · rw [if_neg fun same => first (List.mem_singleton.1 same)]
    simp [first]

variable (distinct on) in
theorem runs_setDisabled (named : '\x7b' ∉ s.config.presentation.feedbackTag.toList) {d : Document}
    (clean : s.CleanSince N d)
    (typed : ∀ c ∈ cs, ∃ l ∈ d.tree.labels, l.id = c ∧ (l.get? "type").isSome = true) :
    ∃ d', (cs.forM fun c => ask (.setDisabled c on)).Runs d () d' [] ∧ s.CleanSince N d' ∧
      d'.tree.capped N = (s.gating distinct N on cs).forest (d.tree.capped N) := by
  induction cs generalizing d with
  | nil =>
    have same : (s.gating distinct N on []).forest (d.tree.capped N) = d.tree.capped N :=
      Revision.forest_of_spared fun _ _ => spares_gating List.not_mem_nil
    exact ⟨d, .pure () d, clean, same.symm⟩
  | cons c cs ih =>
    rw [List.forall_mem_cons] at typed
    obtain ⟨⟨l, hl, rfl, type⟩, typed⟩ := typed
    have not_plain : ¬ l.Plain := by
      intro plain
      rw [get?_of_plain plain (by decide)] at type
      cases type
    have old := old_of_not_plain clean hl not_plain
    obtain ⟨n, hn, rfl⟩ : ∃ n ∈ d.tree.nodes, n.label = l := by
      rwa [← Forest.map_label_nodes, List.mem_map] at hl
    have clear := clear_of_not_plain distinct clean
      (Forest.find?_of_mem_nodes clean.wellFormed.nodup_tree hn) old List.mem_cons_self not_plain
    have set : (ask (.setDisabled n.label.id on)).Runs d () (d.modifyLabel n.label.id (flagged on)) [] :=
      .ask (congrArg (Prod.mk _) (setFlag_disabled d n.label.id on))
    have tree : (d.modifyLabel n.label.id (flagged on)).tree.capped N =
        (s.gating distinct N on [n.label.id]).forest (d.tree.capped N) := by
      have modified := Revision.apply_eq_modify (R := s.gating distinct N on [n.label.id])
        (k := flagged on) (fun l => by simp [label_gating]) (fun _ _ => rfl) (fun _ => rfl) clear
        (.element "")
      rw [Revision.forest, modified]
      exact Forest.capped_modify (capped_flagged on) old d.tree
    obtain ⟨wf, fresh, -⟩ := set.yields.descends clean.wellFormed
    have clean₁ : s.CleanSince N (d.modifyLabel n.label.id (flagged on)) := by
      refine clean.revised ?_ named ?_ ?_ wf (Nat.le_trans clean.fresh fresh) tree
      · exact keeps_gating fun same => distinct.rules (by simp [same, written])
      · intro l late
        refine spares_gating fun member => ?_
        rw [List.mem_singleton.1 member] at late
        omega
      · exact fun _ due => absurd rfl due
    obtain ⟨d', rest, clean', tree'⟩ := ih clean₁ fun c hc => by
      obtain ⟨l, hl, rfl, type⟩ := typed c hc
      refine ⟨if l.id = n.label.id then flagged on l else l, ?_, ?_, ?_⟩
      · show _ ∈ (d.tree.modify n.label.id (flagged on)).labels
        rw [Forest.labels_modify]
        exact List.mem_map_of_mem hl
      · split_ifs
        · exact (kin_flagged on l).id
        · rfl
      · split_ifs
        · rwa [get?_flagged on l (by decide)]
        · exact type
    have both := Revision.forest_after (s.gating distinct N on [n.label.id])
      (s.gating distinct N on cs) (fun _ => Revision.agree_none none) (d.tree.capped N)
    rw [gating_after] at both
    exact ⟨d', set.bind_silent rest, clean', by rw [tree', tree, both]⟩

end Gating

/-! ## A whole pass -/

/-- What the fields of a form are found to be and to come to on a page. -/
def formOn (s : Setup) (d : Document) (scope : Element) : FormOutcome :=
  ⟨(d.carriers scope s.config.attributes.rules).map (s.judgedOn d scope)⟩

theorem outcomeOf?_formOn (d : Document) (scope e : Element) : (s.formOn d scope).outcomeOf? e =
    if e ∈ d.carriers scope s.config.attributes.rules then some (s.outcomesOn d scope e) else none := by
  have own : (fun r : Descriptor × Outcome => r.1.element == e) ∘ s.judgedOn d scope =
      fun x => x == e := rfl
  unfold formOn FormOutcome.outcomeOf?
  rw [List.find?_map, own, Option.map_map]
  cases found : (d.carriers scope s.config.attributes.rules).find? fun x => x == e with
  | none =>
    rw [if_neg fun field => List.find?_eq_none.1 found e field (beq_self_eq_true e)]
    rfl
  | some x =>
    have same := List.find?_some found
    obtain rfl := beq_iff_eq.1 same
    rw [if_pos (List.mem_of_find?_eq_some found)]
    rfl

/-- What a pass over a form makes of a page. -/
def passing (s : Setup) (distinct : s.Distinct) (N : Nat) (d : Document) (scope : Element) :
    Revision (s.manner distinct N) :=
  (s.gating distinct N (!(s.formOn d scope).valid) (d.submitControls scope)).after
    (s.turns distinct N (s.outcomesOn d scope) (d.carriers scope s.config.attributes.rules))

/-- A page as a pass over a form leaves it. -/
structure Completed (s : Setup) (distinct : s.Distinct) (N : Nat) (d : Document) (scope : Element)
    (d' : Document) : Prop where
  clean : s.CleanSince N d'
  tree : d'.tree.capped N = (s.passing distinct N d scope).forest (d.tree.capped N)

section Whole

variable {distinct : s.Distinct} {N : Nat} {d d' : Document} {scope : Element}

/-- A pass gives each field of a form its turn, but for one that had it before, and then goes to the
submit buttons. -/
theorem validateForm_eq (before : Option Element) :
    s.validateForm scope (before.map (s.judgedOn d scope)) = (do
      let es ← ask (.carriers scope s.config.attributes.rules)
      let rs ← es.mapM (s.turnOf d scope before)
      gateControls scope (FormOutcome.valid ⟨rs⟩)
      return ⟨rs⟩) := by
  have assembled {turn : Element → Pass (Descriptor × Outcome)} (h : turn = s.turnOf d scope before) :
      (do
        let es ← ask (.carriers scope s.config.attributes.rules)
        let rs ← es.mapM turn
        gateControls scope (FormOutcome.valid ⟨rs⟩)
        return ⟨rs⟩ : Pass FormOutcome) = do
          let es ← ask (.carriers scope s.config.attributes.rules)
          let rs ← es.mapM (s.turnOf d scope before)
          gateControls scope (FormOutcome.valid ⟨rs⟩)
          return ⟨rs⟩ := by
    rw [h]
  refine assembled (funext fun e => ?_)
  unfold turnOf
  cases before with
  | none => rfl
  | some x =>
    by_cases same : x = e
    · rw [if_pos (congrArg some same), ← same]
      exact if_pos rfl
    · rw [if_neg fun h => same (Option.some.inj h)]
      exact if_neg same

section Scope

variable (normal : s.Normalises) {n : Node} (stands : s.Stands distinct N d scope n)
  (named : '\x7b' ∉ s.config.presentation.feedbackTag.toList)
include normal stands named

/-- A pass over a form ends with what its fields come to on the page before any of them had its
turn. -/
theorem runs_validateForm_of_turned (before : Option Element) {done : List Element}
    (early : ∀ e, before = some e → e ∈ done)
    (later : ∀ e ∈ d.carriers scope s.config.attributes.rules, before ≠ some e → e ∉ done)
    (turned : s.Turned distinct N d scope done d') :
    ∃ d'', (s.validateForm scope (before.map (s.judgedOn d scope))).Runs d' (s.formOn d scope) d''
        (((d.carriers scope s.config.attributes.rules).filter fun e => before ≠ some e).flatMap
          fun e => (s.examine e scope).told d) ∧
      s.Completed distinct N d scope d'' := by
  have carriers := stands.carriers turned.tree (belongs_turns normal stands turned.fields).rules
  obtain ⟨d₁, turns, turned₁⟩ := runs_turns normal stands named early
    (nodup_carriers stands.clean.wellFormed scope _) (fun _ he => he) later turned
  have all (e : Element) : e ∈ d.carriers scope s.config.attributes.rules ↔
      e ∈ d.carriers scope s.config.attributes.rules ++ done := by
    rw [List.mem_append]
    exact ⟨.inl, fun member => member.elim id (turned.fields e)⟩
  have turned₁ := turned₁.congr all
  have controls := stands.submitControls turned₁.tree
    (belongs_turns normal stands turned₁.fields).type
  obtain ⟨n₁, stands₁, -⟩ := stands.revised turned₁.tree turned₁.clean
  have typed : ∀ c ∈ d.submitControls scope,
      ∃ l ∈ d₁.tree.labels, l.id = c ∧ (l.get? "type").isSome = true := by
    intro c hc
    rw [← controls] at hc
    obtain ⟨n₀, node, l, hl, kind, id⟩ := mem_select hc
    rw [stands₁.node, Option.some.injEq] at node
    subst node
    refine ⟨l, stands₁.labels hl, id, ?_⟩
    rw [← Option.ne_none_iff_isSome]
    intro untyped
    rw [submits_of_untyped untyped] at kind
    cases kind
  obtain ⟨d₂, gate, clean₂, tree⟩ := runs_setDisabled distinct (!(s.formOn d scope).valid)
    named turned₁.clean typed
  have gated : (gateControls scope (s.formOn d scope).valid).Runs d₁ () d₂ [] := by
    refine .bind_silent (.ask rfl) ?_
    rwa [controls]
  refine ⟨d₂, ?_, clean₂, ?_⟩
  · rw [validateForm_eq]
    refine .bind_silent (.ask rfl) ?_
    rw [carriers, ← List.append_nil (List.flatMap _ _)]
    exact turns.bind (.bind_silent gated (.pure _ d₂))
  · rw [tree, turned₁.tree]
    exact (Revision.forest_after _ _ (fun _ => Revision.agree_none' _) _).symm

/-- A pass over a form ends, and what it makes of the page is told by the page. -/
theorem runs_validateForm : ∃ d', (s.validateForm scope).Runs d (s.formOn d scope) d'
    ((d.carriers scope s.config.attributes.rules).flatMap fun e => (s.examine e scope).told d) ∧
      s.Completed distinct N d scope d' := by
  obtain ⟨d', runs, completed⟩ := runs_validateForm_of_turned normal stands named none nofun
    (fun _ _ _ => List.not_mem_nil) (Turned.start stands.clean)
  have all : (d.carriers scope s.config.attributes.rules).filter
      (fun e => (none : Option Element) ≠ some e) = d.carriers scope s.config.attributes.rules :=
    List.filter_eq_self.2 fun e _ => rfl
  rw [all] at runs
  exact ⟨d', runs, completed⟩

end Scope

section Plain

variable {n : Node} (node : d.node? scope = some n) (plain : ∀ l ∈ n.labels, l.Plain)
include node plain

theorem select_of_plain {p : Label → Bool} (hp : ∀ l : Label, l.Plain → p l = false) :
    d.select (some scope) p = [] := by
  rw [List.eq_nil_iff_forall_not_mem]
  intro e he
  obtain ⟨n', node', l, hl, kind, -⟩ := mem_select he
  rw [node, Option.some.injEq] at node'
  subst node'
  rw [hp l (plain l hl)] at kind
  cases kind

theorem carriers_of_plain (distinct : s.Distinct) :
    d.carriers scope s.config.attributes.rules = [] :=
  select_of_plain node plain fun _ => isField_of_plain distinct

/-- A scope in which all labels are plain has neither fields nor buttons. -/
theorem runs_validateForm_of_plain (distinct : s.Distinct) :
    (s.validateForm scope).Runs d ⟨[]⟩ d [] := by
  have carriers := carriers_of_plain node plain distinct
  have controls : d.submitControls scope = [] :=
    select_of_plain node plain fun l plain => submits_of_untyped (get?_of_plain plain (by decide))
  have gated : (gateControls scope true).Runs d () d [] := by
    refine .bind_silent (.ask (congrArg (fun es => (Except.ok es, d)) controls)) ?_
    exact .pure () d
  refine .bind_silent (.ask (congrArg (fun es => (Except.ok es, d)) carriers)) ?_
  exact .bind_silent (.pure [] d) (.bind_silent gated (.pure _ d))

end Plain

end Whole

end Setup

end FormGate
