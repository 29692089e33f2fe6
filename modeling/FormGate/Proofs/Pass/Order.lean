import FormGate.Proofs.Pass.Consistency
import FormGate.Proofs.Pass.Reread

/-!
# Judging fields in any order

Judging a field changes the page by at most the value in which its rules end. Other fields are only
ever compared with the value in which its rules end, and this is the same before and after. So the
fields of a scope may be judged in any order: each comes to the same, the same is reported, and the
page is the same in the end (`Setup.validate_any_order`).
-/

namespace FormGate

open Markup Document Pass

namespace Manner

/-- The manner of a page on which nothing counts as feedback, for all numbers on it are below `N`. -/
def bare (N : Nat) : Manner where
  isFeedback l := decide (N ≤ l.id)
  name := ""
  attributes := []
  number := N
  retag _ _ := rfl
  valued _ _ := rfl
  new _ := decide_eq_true (Nat.le_refl N)
  plain := by simp

theorem clear_bare {N : Nat} {f : Forest} (old : ∀ l ∈ f.labels, l.id < N) (x : Nat) :
    (bare N).Clear x f := by
  intro n hn shown
  have late : N ≤ n.label.id := of_decide_eq_true shown
  have := old n.label (Forest.labels_subset_of_mem_nodes hn List.mem_cons_self)
  omega

end Manner

namespace Revision

variable {N : Nat}

/-- Writing a value to one element of a forest is done where the element stands. -/
theorem forest_filling {f : Forest} (nodup : f.ids.Nodup) (old : ∀ l ∈ f.labels, l.id < N)
    {x : Element} {n : Node} (found : f.find? x = some n) (v : String) :
    ∃ K l t c tail next, f = Frame.plug K (.cons l t c tail next) ∧ n = ⟨l, t, c, tail⟩ ∧ l.id = x ∧
      x ∉ K.ids ∧ (filling (.bare N) fun y => if y = x then some v else none).forest f =
        K.plug (.cons (l.filled (some v)) (l.textFilled (some v) t) c tail next) := by
  have inside : x ∈ f.ids := Forest.find?_isSome.1 (Option.isSome_of_eq_some found)
  obtain ⟨K, l, t, c, tail, next, rfl, rfl, absent⟩ := Frame.exists_plug nodup inside
  rw [Frame.find?_plug absent, Forest.find?_here rfl, Option.some.injEq] at found
  refine ⟨K, l, t, c, tail, next, rfl, found.symm, rfl, absent, ?_⟩
  have spared (l' : Label) (other : l'.id ≠ l.id) :
      (filling (.bare N) fun y => if y = l.id then some v else none).Spares l' :=
    spares_filling (if_neg other)
  have own := (K.perm_ids_plug (.cons l t c tail next)).nodup_iff.1 nodup
  obtain ⟨below, behind, -⟩ := Forest.nodup_cons (List.nodup_append.1 own).2.1
  have untouched (owner : Tag) :
      (filling (.bare N) fun y => if y = l.id then some v else none).apply owner none next =
        ("", next) := by
    refine apply_of_spared (fun l' hl' => spared l' ?_) owner
    intro same
    exact behind (same ▸ Forest.id_mem_ids hl')
  unfold forest
  rw [apply_plug_cons spared absent below (Manner.clear_bare old l.id),
    show (filling (.bare N) _).lines l.id = none from rfl, untouched, String.append_empty]
  show K.plug (.cons (l.filled (if l.id = l.id then some v else none))
    (l.textFilled (if l.id = l.id then some v else none) t) c tail next) = _
  rw [if_pos rfl]

theorem forest_filling_of_absent {f : Forest} {x : Element} (absent : x ∉ f.ids)
    (v : Option String) : (filling (.bare N) fun y => if y = x then v else none).forest f = f := by
  refine forest_of_spared fun l hl => spares_filling (if_neg ?_)
  rintro rfl
  exact absent (Forest.id_mem_ids hl)

end Revision

namespace Document

variable {d : Document}

theorem mapForests_filling_none : d.mapForests (Revision.filling (.bare d.fresh) fun _ => none).forest = d := by
  have same (f : Forest) : (Revision.filling (.bare d.fresh) fun _ => none).forest f = f :=
    Revision.forest_of_spared fun _ _ => Revision.spares_filling rfl
  rw [mapForests, same, same]

/-- Writing a value to an element that is no selection is a revision of the page. -/
theorem setValue_eq_filling (wf : d.WellFormed) {e : Element} {n : Node} (node : d.node? e = some n)
    (bare : n.label.tag.localName = "textarea" → n.children = .nil)
    (other : n.label.tag.localName ≠ "select") (v : String) :
    d.setValue e v =
      d.mapForests (Revision.filling (.bare d.fresh) fun y => if y = e then some v else none).forest := by
  -- the element stands in the page or among what was taken out, and nothing is done to the other
  have each {f : Forest} (nodup : f.ids.Nodup) (old : ∀ l ∈ f.labels, l.id < d.fresh)
      (only : ∀ n', f.find? e = some n' → n' = n) :
      (Revision.filling (.bare d.fresh) fun y => if y = e then some v else none).forest f =
        if n.label.tag.localName = "textarea" then Forest.fill e v .nil f
        else f.modify e (·.set "value" v) := by
    cases found : f.find? e with
    | none =>
      have absent := Forest.not_mem_of_find?_eq_none found
      rw [Revision.forest_filling_of_absent absent, Forest.fill_of_not_mem absent,
        Forest.modify_of_not_mem absent, ite_self]
    | some n' =>
      obtain rfl := only n' found
      obtain ⟨K, l, t, c, tail, next, rfl, rfl, rfl, absent, filled⟩ :=
        Revision.forest_filling nodup old found v
      have own := (K.perm_ids_plug (.cons l t c tail next)).nodup_iff.1 nodup
      obtain ⟨below, behind, -⟩ := Forest.nodup_cons (List.nodup_append.1 own).2.1
      rw [filled, Frame.fill_plug absent, Frame.modify_plug absent, Forest.fill, Forest.modify,
        if_pos rfl, if_pos rfl, Forest.modify_of_not_mem below, Forest.modify_of_not_mem behind]
      unfold Label.filled Label.textFilled
      dsimp only at bare ⊢
      split_ifs with textarea
      · rw [bare textarea]
      · rfl
  have inTree {n'} (found : d.tree.find? e = some n') : n' = n := by
    rw [node?, found] at node
    exact Option.some.inj node
  have inLoose {n'} (found : d.loose.find? e = some n') : n' = n := by
    have absent : e ∉ d.tree.ids := fun tree =>
      wf.apart tree (Forest.find?_isSome.1 (Option.isSome_of_eq_some found))
    rw [node?, Forest.find?_of_not_mem absent, found] at node
    exact Option.some.inj node
  rw [mapForests, each wf.nodup_tree (fun l hl => wf.fresh l (List.mem_append_left _ hl))
    fun _ => inTree, each wf.nodup_loose (fun l hl => wf.fresh l (List.mem_append_right _ hl))
    fun _ => inLoose]
  unfold setValue
  rw [node]
  dsimp only
  split
  · rename_i textarea
    rw [if_pos textarea, if_pos textarea, setText, node, Option.map_some, Option.getD_some,
      bare textarea]
    dsimp only [mapForests]
    rw [Forest.append_nil]
  · rename_i select
    exact absurd select other
  · rename_i textarea _
    rw [if_neg textarea, if_neg textarea]
    rfl

theorem capped_of_node? (wf : d.WellFormed) {x : Element} {n : Node} (node : d.node? x = some n) :
    n.capped d.fresh = n := by
  have old := fun l hl => Nat.le_of_lt (wf.fresh l ((labels_of_node? node).subset hl))
  rw [Node.labels, List.forall_mem_cons] at old
  rw [Node.capped, Label.capped_of_le old.1, Forest.capped_of_le old.2]

section Revised

variable {R : Revision (.bare d.fresh)} (wf : d.WellFormed) {x : Element} (old : x < d.fresh)
include wf old

/-- Every element is found as a revision leaves it, where no feedback stands in its way. -/
theorem map_node?_mapForests : ((d.mapForests R.forest).node? x).map Node.alone =
    (d.node? x).map fun n => (R.node n).alone := by
  have each {f : Forest} (hf : ∀ l ∈ f.labels, l.id < d.fresh) :
      ((R.forest f).find? x).map Node.alone = (f.find? x).map fun n => (R.node n).alone :=
    R.find?_apply (Nat.ne_of_lt old) (Manner.clear_bare hf x) (.element "") none
  show (((R.forest d.tree).find? x).or ((R.forest d.loose).find? x)).map Node.alone = _
  rw [node?, Option.map_or, Option.map_or, each fun l hl => wf.fresh l (List.mem_append_left _ hl),
    each fun l hl => wf.fresh l (List.mem_append_right _ hl)]

theorem found_mapForests (wf' : (d.mapForests R.forest).WellFormed) :
    R.Found d (d.mapForests R.forest) x :=
  calc ((d.mapForests R.forest).node? x).map (fun n => (n.capped d.fresh).alone)
      = ((d.mapForests R.forest).node? x).map Node.alone :=
        Option.map_congr fun _ node => congrArg Node.alone (capped_of_node? wf' node)
    _ = (d.node? x).map fun n => (R.node n).alone := map_node?_mapForests wf old
    _ = (d.node? x).map fun n => (R.node (n.capped d.fresh)).alone :=
        Option.map_congr fun _ node =>
          congrArg (fun n => (R.node n).alone) (capped_of_node? wf node).symm

end Revised

end Document

namespace Setup

variable {s : Setup} {d : Document}

/-- A page on which the values of some fields were written back. -/
def writtenBack (s : Setup) (d : Document) (done : List Element) : Document :=
  d.mapForests (Revision.filling (.bare d.fresh) fun e => if e ∈ done then s.rewrittenOn d e else none).forest

theorem writtenBack_nil : s.writtenBack d [] = d := by
  have none : (fun e => if e ∈ ([] : List Element) then s.rewrittenOn d e else none) =
      fun _ => none := by
    funext e
    exact if_neg List.not_mem_nil
  rw [writtenBack, none, mapForests_filling_none]

theorem writtenBack_congr {done done' : List Element} (same : ∀ e, e ∈ done' ↔ e ∈ done) :
    s.writtenBack d done' = s.writtenBack d done := by
  simp only [writtenBack, same]

theorem setValue_writtenBack (wf : d.WellFormed) {done : List Element}
    (wf' : (s.writtenBack d done).WellFormed) {e : Element} {n : Node} (node : d.node? e = some n)
    (writable : s.Writable n) (later : e ∉ done) {v : String} (rewritten : s.rewrittenOn d e = some v) :
    (s.writtenBack d done).setValue e v = s.writtenBack d (e :: done) := by
  have old : e < d.fresh := node?_id node ▸ wf.fresh _ (mem_labels node)
  have found := map_node?_mapForests (R := .filling (.bare d.fresh) fun e =>
    if e ∈ done then s.rewrittenOn d e else none) wf old
  rw [node] at found
  obtain ⟨n', node', alone⟩ := Option.map_eq_some_iff.1 found
  have tag : n'.label.tag = n.label.tag :=
    (congrArg (fun n : Node => n.label.tag) alone).trans (Label.tag_filled _ _)
  have bare : n'.label.tag.localName = "textarea" → n'.children = .nil := by
    intro textarea
    rw [tag] at textarea
    have children := congrArg Node.children alone
    dsimp only [Node.alone, Revision.node] at children
    rw [children, writable.textarea textarea]
    rfl
  have other : n'.label.tag.localName ≠ "select" := by
    intro select
    rw [tag] at select
    rw [writable.rewrittenOn_eq_none node select] at rewritten
    cases rewritten
  have values : (fun x => (if x = e then some v else none).or
      (if x ∈ done then s.rewrittenOn d x else none)) =
        fun x => if x ∈ e :: done then s.rewrittenOn d x else none := by
    funext x
    by_cases here : x = e
    · rw [if_pos here, here, if_pos List.mem_cons_self, rewritten]
      rfl
    · simp [here]
  have apart (x : Element) : (if x = e then some v else none) = none ∨
      (if x ∈ done then s.rewrittenOn d x else none) = none := by
    by_cases here : x = e
    · exact .inr (if_neg (here ▸ later))
    · exact .inl (if_neg here)
  have composed := Revision.filling_after (m := .bare d.fresh) apart
  rw [values] at composed
  have each (f : Forest) := Revision.forest_after (.filling (.bare d.fresh) fun x => if x ∈ done then
    s.rewrittenOn d x else none) (.filling (.bare d.fresh) fun x => if x = e then some v else none)
    (fun _ => Revision.agree_none _) f
  rw [composed] at each
  rw [setValue_eq_filling wf' node' bare other]
  exact congrArg d.mapForests (funext fun f => (each f).symm)

section Scope

variable (normal : s.Normalises) (wf : d.WellFormed) (apart : s.config.attributes.rules ≠ "value")
  {scope : Element} (writable : ∀ n, d.node? scope = some n → ∀ n' ∈ n.nodes, s.Writable n')

include wf apart in
theorem belongs_filling {done : List Element}
    (fields : ∀ e ∈ done, e ∈ d.carriers scope s.config.attributes.rules) :
    s.Belongs (.filling (.bare d.fresh) fun e => if e ∈ done then s.rewrittenOn d e else none) d done where
  writes := Revision.writes_filling
  lines _ _ := rfl
  field e he := by
    obtain ⟨n, node, l, hl, field, id⟩ := mem_select (fields e he)
    exact ⟨l, (labels_of_node? node).subset hl, id, field⟩
  old e he := by
    obtain ⟨n, node, l, hl, -, rfl⟩ := mem_select (fields e he)
    exact wf.fresh l ((labels_of_node? node).subset hl)
  name := Revision.keeps_filling (by decide)
  type := Revision.keeps_filling (by decide)
  checked := Revision.keeps_filling (by decide)
  identifier := Revision.keeps_filling (by decide)
  rules := Revision.keeps_filling apart

include wf writable in
theorem scoped_filling {T : Element → Option String} {n : Node} (node : d.node? scope = some n)
    (wf' : (d.mapForests (Revision.filling (.bare d.fresh) T).forest).WellFormed) :
    s.Scoped (.filling (.bare d.fresh) T) d (d.mapForests (Revision.filling (.bare d.fresh) T).forest) scope n where
  node := node
  ignores _ _ _ := ⟨fun _ => rfl, fun _ => rfl⟩
  writable n' hn' _ := writable n node n' hn'
  feedback n' hn' shown := by
    have old := wf.fresh n'.label
    have late : d.fresh ≤ n'.label.id := of_decide_eq_true shown
    have capped := capped_of_node? wf node
    have children : n.children.capped d.fresh = n.children := congrArg Node.children capped
    have inside : n'.label ∈ n.labels := by
      refine List.mem_cons_of_mem _ (Forest.labels_subset_of_mem_nodes ?_ List.mem_cons_self)
      rwa [← children]
    have := old ((labels_of_node? node).subset inside)
    omega
  old l hl _ := by
    have lt := wf.fresh l ((labels_of_node? node).subset hl)
    refine ⟨lt, decide_eq_false ?_, found_mapForests wf lt wf'⟩
    show ¬ d.fresh ≤ min l.id d.fresh
    omega
  scope := by
    have lt := wf.fresh _ (mem_labels node)
    rw [node?_id node] at lt
    exact found_mapForests wf lt wf'

include normal wf apart writable

/-- One more field is judged, and what it comes to does not hang on which ones were judged before. -/
theorem runs_validate {done : List Element}
    (fields : ∀ e ∈ done, e ∈ d.carriers scope s.config.attributes.rules)
    (wf' : (s.writtenBack d done).WellFormed) {e : Element}
    (field : e ∈ d.carriers scope s.config.attributes.rules) (later : e ∉ done) :
    (s.validate e (some scope)).Runs (s.writtenBack d done) (s.judgedOn d scope e)
      (s.writtenBack d (e :: done)) ((s.examine e scope).told d) := by
  obtain ⟨n, node, l, hl, is, rfl⟩ := mem_select field
  obtain ⟨n', member, rfl⟩ := Node.exists_of_mem_labels hl
  have belongs := belongs_filling wf apart fields
  have node' := wf.node?_of_mem_nodes node member
  have old := wf.fresh _ (mem_labels node')
  have found : Revision.Found _ d (s.writtenBack d done) n'.label.id := found_mapForests wf old wf'
  have own := writable n node n' member
  have examined := runs_examine_of_found normal wf belongs (scoped_filling wf writable node wf') node'
    is own old found later
  rw [s.validate_eq, ← List.append_nil (Pass.told _ _)]
  refine examined.bind ?_
  have replaced := replaced_of_isField normal node' is scope
  unfold writeBack
  rw [replaced]
  cases rewritten : s.rewrittenOn d n'.label.id with
  | none =>
    have same : s.writtenBack d (n'.label.id :: done) = s.writtenBack d done := by
      have values : (fun e => if e ∈ n'.label.id :: done then s.rewrittenOn d e else none) =
          fun e => if e ∈ done then s.rewrittenOn d e else none := by
        funext e
        by_cases here : e = n'.label.id
        · rw [here, if_pos List.mem_cons_self, if_neg later, rewritten]
        · simp [here]
      rw [writtenBack, values, writtenBack]
    rw [same]
    exact .pure _ _
  | some v =>
    have written := setValue_writtenBack wf wf' node' own later rewritten
    exact .bind_silent (.ask (congrArg (Prod.mk _) written)) (.pure _ _)

/-- The fields of a scope that are still to be judged are judged one after the other. -/
theorem runs_mapM_validate {es : List Element} (once : es.Nodup)
    (fields : ∀ e ∈ es, e ∈ d.carriers scope s.config.attributes.rules) {done : List Element}
    (before : ∀ e ∈ done, e ∈ d.carriers scope s.config.attributes.rules)
    (later : ∀ e ∈ es, e ∉ done) (wf' : (s.writtenBack d done).WellFormed) :
    (es.mapM fun e => s.validate e (some scope)).Runs (s.writtenBack d done)
      (es.map (s.judgedOn d scope)) (s.writtenBack d (es ++ done))
      (es.flatMap fun e => (s.examine e scope).told d) := by
  induction es generalizing done with
  | nil => exact .pure [] _
  | cons e es ih =>
    rw [List.nodup_cons] at once
    rw [List.forall_mem_cons] at fields later
    have first := runs_validate normal wf apart writable before wf' fields.1 later.1
    have rest := ih once.2 fields.2 (List.forall_mem_cons.2 ⟨fields.1, before⟩)
      (fun x hx => by
        rw [List.mem_cons, not_or]
        exact ⟨fun same => once.1 (same ▸ hx), later.2 x hx⟩)
      (first.yields.descends wf').1
    have all : s.writtenBack d (es ++ e :: done) = s.writtenBack d (e :: es ++ done) :=
      writtenBack_congr fun x => by simp [or_left_comm]
    rw [all] at rest
    exact Runs.mapM_cons (f := fun e => s.validate e (some scope)) first rest

end Scope

/-- The fields of a scope come to the same in whatever order they are judged. The page is the same in
the end, and the same is reported. -/
theorem validate_any_order (normal : s.Normalises) (apart : s.config.attributes.rules ≠ "value")
    {w : World} {d : Document} (page : w.page = some d) (wf : d.WellFormed) {scope : Element}
    (writable : ∀ n, d.node? scope = some n → ∀ n' ∈ n.nodes, s.Writable n') :
    ∃ (judged : Element → Descriptor × Outcome) (told : Element → List (Failure × Context))
      (d' : Document), ∀ es : List Element, es.Perm (d.carriers scope s.config.attributes.rules) →
        ∃ ts : List (Failure × Context), ts.Perm ((d.carriers scope s.config.attributes.rules).flatMap told) ∧
          (World.runPass World.undisturbed (es.mapM fun e => s.validate e (some scope))).run w =
            (.ok (es.map judged), { w with
              page := some d'
              collector := w.collector.addAll (ts.map Diagnostic.warning) }) := by
  refine ⟨s.judgedOn d scope, fun e => (s.examine e scope).told d,
    s.writtenBack d (d.carriers scope s.config.attributes.rules), fun es perm => ?_⟩
  have once : es.Nodup := perm.nodup_iff.2 (nodup_carriers wf scope s.config.attributes.rules)
  have start : (s.writtenBack d []).WellFormed := writtenBack_nil (s := s) ▸ wf
  have none {P : Element → Prop} : ∀ e ∈ ([] : List Element), P e := nofun
  have runs := runs_mapM_validate normal wf apart writable once (fun e he => perm.mem_iff.1 he)
    none (fun e _ => List.not_mem_nil) start
  rw [List.append_nil, writtenBack_nil, writtenBack_congr fun e => perm.mem_iff] at runs
  exact ⟨_, perm.flatMap_right _, runs.world page⟩

/-- Every value can be written to the elements of a page that has neither text areas nor selections. -/
theorem writable_of_bare {d : Document} (bare : ∀ n ∈ d.tree.nodes,
    n.label.tag.localName ≠ "textarea" ∧ n.label.tag.localName ≠ "select") (alone : d.loose = .nil)
    {scope : Element} (n : Node) (node : d.node? scope = some n) (n' : Node) (hn' : n' ∈ n.nodes) :
    s.Writable n' := by
  have found : d.tree.find? scope = some n := by
    rwa [node?, alone, show Forest.nil.find? scope = none from rfl, Option.or_none] at node
  have tags := bare n' (Forest.nodes_of_find? found hn')
  exact ⟨fun h => absurd h tags.1, fun h => absurd h tags.2, fun h => absurd h tags.2⟩

/-- Two fields that are each compared with the other, of which the first has blanks to be trimmed. -/
theorem validate_mutual :
    let rules := "data-validate-validation"
    let page : Document :=
      { tree := .cons ⟨0, .element "form", []⟩ ""
          (.cons ⟨1, .element "input", [("name", "a"), ("value", "x "), (rules, "trim|matches[b]")]⟩
            "" .nil ""
            (.cons ⟨2, .element "input", [("name", "b"), ("value", "x"), (rules, "matches[a]")]⟩
              "" .nil "" .nil)) "" .nil
        fresh := 3 }
    let w : World := { page := some page, collector := { command := "check", limit := 500 } }
    ∃ (judged : Element → Descriptor × Outcome) (d' : Document), ∀ es ∈ [[1, 2], [2, 1]],
      ∃ ts : List (Failure × Context),
        (World.runPass World.undisturbed (es.mapM fun e => validate {} e (some 0))).run w =
          (.ok (es.map judged), { w with
            page := some d'
            collector := w.collector.addAll (ts.map Diagnostic.warning) }) := by
  intro rules page w
  obtain ⟨judged, told, d', any⟩ := validate_any_order normalises_default (by decide) (w := w) rfl
    (by decide) (writable_of_bare (by decide) rfl)
  refine ⟨judged, d', fun es hes => ?_⟩
  have perm : es.Perm (page.carriers 0 rules) := by
    rw [List.mem_cons, List.mem_singleton] at hes
    rcases hes with rfl | rfl
    · exact .refl _
    · exact .swap 1 2 []
  obtain ⟨ts, -, run⟩ := any es perm
  exact ⟨ts, run⟩

/-- Judges the fields of a form in an order. -/
def inOrder (s : Setup) (d : Document) (limit : Nat) (es : List Element) :
    Except Failure (List (Descriptor × Outcome)) × World :=
  (World.runPass World.undisturbed (es.mapM fun e => s.validate e (some 0))).run
    { page := some d, collector := { command := "check", limit } }

/-- The order may matter although every rule that rewrites is registered as such: where a rule goes on
rewriting what it made, where two of them do so in turn, and where one makes something else of a value
when it may look up other fields. Of the diagnostics the last ones are kept where there is no room for
all. -/
theorem validate_order_matters :
    (∀ c ∈ restless.catalog.definitions, c.Rewrites → c.replaces = true) ∧
    (∀ d ∈ [twoFields [] "shorten" "xy" "matches[a]" "y", twoFields [] "no_a|no_b" "xaba" "matches[a]" "xa",
        twoFields [] "copy[b]" "x" "matches[a]" "y"],
      d.WellFormed ∧ (∀ n, d.node? 0 = some n → ∀ n' ∈ n.nodes, restless.Writable n') ∧
      d.carriers 0 restless.config.attributes.rules = [1, 2] ∧
      ¬ ((restless.inOrder d 500 [1, 2]).1.toOption.getD []).Perm
        ((restless.inOrder d 500 [2, 1]).1.toOption.getD [])) ∧
    (let d := twoFields [] "one" "" "two" ""
     d.WellFormed ∧ (∀ n, d.node? 0 = some n → ∀ n' ∈ n.nodes, Writable {} n') ∧
      d.carriers 0 "data-validate-validation" = [1, 2] ∧
      ¬ (inOrder {} d 1 [1, 2]).2.collector.retained.Perm
        (inOrder {} d 1 [2, 1]).2.collector.retained) := by
  refine ⟨flagged_restless, ?_, by decide, writable_of_bare (by decide) rfl, by decide, fun same => ?_⟩
  · simp only [List.forall_mem_cons]
    refine ⟨⟨by decide, writable_of_bare (by decide) rfl, by decide, by decide +kernel⟩,
      ⟨by decide, writable_of_bare (by decide) rfl, by decide, by decide +kernel⟩,
      ⟨by decide, writable_of_bare (by decide) rfl, by decide, by decide +kernel⟩,
      fun _ none => absurd none List.not_mem_nil⟩
  · exact absurd (same.map (·.message)) (by decide +kernel)

end Setup

end FormGate
