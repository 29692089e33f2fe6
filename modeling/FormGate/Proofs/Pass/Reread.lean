import FormGate.Proofs.Pass.Judging
import FormGate.Proofs.Pass.Revised

/-!
# What judging a field finds on a revised page

A revision that writes nothing but the values in which the rules of fields end, and changes no
attribute that is asked for, is not seen by the fields that are still to be judged: references lead to
the same fields, and the rules of these end in the same values (`Setup.sees_of_found`).
-/

namespace FormGate

open Markup Document

namespace Markup

theorem Node.exists_of_mem_labels {n : Node} {l : Label} (h : l ∈ n.labels) :
    ∃ n' ∈ n.nodes, n'.label = l := by
  have labels : n.labels = n.nodes.map Node.label := by
    rw [Node.labels, Node.nodes, List.map_cons]
    exact congrArg _ (Forest.map_label_nodes n.children).symm
  rw [labels] at h
  exact List.mem_map.1 h

theorem Forest.nodes_of_find? {f : Forest} {x : Nat} {n : Node} (h : f.find? x = some n) :
    n.nodes ⊆ f.nodes := by
  induction f with
  | nil => cases h
  | cons l t c tail next ihc ih =>
    rw [find?] at h
    rw [nodes]
    split at h
    · cases h
      exact List.cons_subset_cons _ (List.subset_append_left _ _)
    · refine List.subset_cons_of_subset _ ?_
      rcases Option.or_eq_some_iff.1 h with h | ⟨-, h⟩
      · exact List.subset_append_of_subset_left _ (ihc h)
      · exact List.subset_append_of_subset_right _ (ih h)

/-- The elements of a kind in an element whose numbers are cut at a bound. -/
theorem Node.filter_labels_capped {p : Label → Bool} {N : Nat}
    (capped : ∀ l : Label, p (l.capped N) = p l) (n : Node) :
    ((n.capped N).alone.labels.filter p).map (·.id) =
      ((n.labels.filter p).map (·.id)).map (min · N) := by
  have labels : (n.capped N).alone.labels = n.labels.map (Label.capped N) := by
    rw [Node.labels, Node.labels, List.map_cons, ← Forest.labels_capped]
    rfl
  have kind : (p ∘ Label.capped N) = p := funext capped
  rw [labels, List.filter_map, kind, List.map_map, List.map_map]
  rfl

end Markup

/-- Numbers that are cut at a bound are the same if those of one side are below it. -/
theorem eq_of_map_min {N : Nat} {xs ys : List Nat} (below : ∀ y ∈ ys, y < N)
    (same : ys.map (min · N) = xs.map (min · N)) : xs = ys := by
  induction ys generalizing xs with
  | nil => simpa using same.symm
  | cons y ys ih =>
    cases xs with
    | nil => cases same
    | cons x xs =>
      rw [List.map_cons, List.map_cons, List.cons.injEq] at same
      rw [List.forall_mem_cons] at below
      rw [ih below.2 same.2]
      have := same.1
      have := below.1
      congr 1
      omega

namespace Document

theorem WellFormed.node?_of_mem_nodes {d : Document} (wf : d.WellFormed) {e : Element} {n n' : Node}
    (node : d.node? e = some n) (h : n' ∈ n.nodes) : d.node? n'.label.id = some n' := by
  unfold node?
  rcases Option.or_eq_some_iff.1 node with found | ⟨-, found⟩
  · rw [Forest.find?_of_mem_nodes wf.nodup_tree (Forest.nodes_of_find? found h)]
    rfl
  · have inside := Forest.nodes_of_find? found h
    have loose : n'.label.id ∈ d.loose.ids := by
      rw [Forest.ids, ← Forest.map_label_nodes, List.map_map]
      exact List.mem_map_of_mem inside
    have absent : n'.label.id ∉ d.tree.ids := fun tree => wf.apart tree loose
    rw [Forest.find?_of_not_mem absent, Forest.find?_of_mem_nodes wf.nodup_loose inside]
    rfl

theorem nodeValue_alone (n : Node) : nodeValue n.alone = nodeValue n := by
  have options : (n.alone.nodes.filter isOption).map Revision.weight =
      (n.nodes.filter isOption).map Revision.weight := by
    have option : isOption n.alone = isOption n := rfl
    rw [Node.nodes, Node.nodes, List.filter_cons, List.filter_cons, option]
    split_ifs <;> rfl
  have tag : n.alone.label.tag = n.label.tag := rfl
  unfold nodeValue
  rw [tag]
  split
  · rfl
  · rw [Revision.selectionValue_eq, Revision.selectionValue_eq, options]
  · rfl

end Document

namespace Revision

variable {m : Manner} (R : Revision m)

/-- An element is found on a page as a revision leaves it, but for the text that follows it and for
new numbers. -/
def Found (d d' : Document) (x : Element) : Prop :=
  (d'.node? x).map (fun n => (n.capped m.number).alone) =
    (d.node? x).map fun n => (R.node (n.capped m.number)).alone

/-- An element of the page that is not in feedback stays in the page. -/
theorem exists_found {R : Revision m} {d d' : Document}
    (tree : d'.tree.capped m.number = R.forest (d.tree.capped m.number)) {x : Element}
    (old : x < m.number) (clear : m.Clear x (d.tree.capped m.number)) {n : Node}
    (found : d.tree.find? x = some n) :
    ∃ n', d'.tree.find? x = some n' ∧
      (n'.capped m.number).alone = (R.node (n.capped m.number)).alone := by
  have revised : (d'.tree.find? x).map (fun n => (n.capped m.number).alone) =
      (d.tree.find? x).map fun n => (R.node (n.capped m.number)).alone :=
    calc (d'.tree.find? x).map (fun n => (n.capped m.number).alone)
        = ((d'.tree.capped m.number).find? x).map Node.alone := by
          rw [Forest.find?_capped old, Option.map_map]
          rfl
      _ = ((d.tree.capped m.number).find? x).map fun n => (R.node n).alone := by
          rw [tree]
          exact R.find?_apply (Nat.ne_of_lt old) clear (.element "") none
      _ = (d.tree.find? x).map fun n => (R.node (n.capped m.number)).alone := by
          rw [Forest.find?_capped old, Option.map_map]
          rfl
  rw [found] at revised
  exact Option.map_eq_some_iff.1 revised

/-- An element of the page that is not in feedback is found as a revision leaves it. -/
theorem found_of_tree {R : Revision m} {d d' : Document}
    (tree : d'.tree.capped m.number = R.forest (d.tree.capped m.number)) {x : Element}
    (old : x < m.number) (clear : m.Clear x (d.tree.capped m.number)) {n : Node}
    (found : d.tree.find? x = some n) : R.Found d d' x := by
  obtain ⟨n', found', same⟩ := exists_found tree old clear found
  unfold Found Document.node?
  rw [found, found']
  exact congrArg some same

/-- A revision leaves an attribute as it is. -/
def Keeps (a : String) : Prop :=
  ∀ l, (R.label l).get? a = l.get? a

/-- A revision keeps the elements of a kind in an element, if no feedback in it holds any. -/
theorem filter_labels_node {p : Label → Bool} (hp : m.Ignores p) (same : ∀ l, p (R.label l) = p l)
    {n : Node} (feedback : ∀ n' ∈ (n.children.capped m.number).nodes,
      m.isFeedback n'.label = true → ∀ l ∈ n'.labels, ∀ tag, p { l with tag } = false) :
    ((R.node (n.capped m.number)).alone.labels.filter p).map (·.id) =
      ((n.capped m.number).alone.labels.filter p).map (·.id) := by
  have below := R.filter_labels_apply hp same feedback (n.label.capped m.number).tag none
  show ((R.label (n.label.capped m.number) :: (R.apply _ none _).2.labels).filter p).map _ =
    ((n.label.capped m.number :: (n.children.capped m.number).labels).filter p).map _
  rw [List.filter_cons, List.filter_cons, same]
  split_ifs
  · rw [List.map_cons, List.map_cons, R.id]
    exact congrArg _ below
  · exact below

variable {R} {d d' : Document} {x : Element}

section Found

variable (found : R.Found d d' x)
include found

theorem Found.label? : (d'.label? x).map (Label.capped m.number) =
    (d.label? x).map fun l => R.label (l.capped m.number) := by
  have labels := congrArg (Option.map Node.label) found
  rw [Option.map_map, Option.map_map] at labels
  rw [Document.label?, Document.label?, Option.map_map, Option.map_map]
  exact labels

theorem Found.read {β : Type} (look : Label → β) (keeps : ∀ l, look (R.label l) = look l)
    (capped : ∀ l : Label, look (l.capped m.number) = look l) :
    (d'.label? x).map look = (d.label? x).map look := by
  have labels := congrArg (Option.map look) found.label?
  rw [Option.map_map, Option.map_map] at labels
  have left : look ∘ Label.capped m.number = look := funext capped
  have right : (look ∘ fun l => R.label (l.capped m.number)) = look := by
    funext l
    rw [Function.comp_apply, keeps, capped]
  rwa [left, right] at labels

theorem Found.attribute? {a : String} (keeps : R.Keeps a) : d'.attribute? x a = d.attribute? x a := by
  have read := found.read (fun l => l.get? a) keeps fun _ => rfl
  have bind (o : Option Label) : o.bind (·.get? a) = (o.map (·.get? a)).getD none := by
    cases o <;> rfl
  unfold Document.attribute?
  rw [bind, bind, read]

theorem Found.tagName : d'.tagName x = d.tagName x := by
  have read := found.read (fun l => l.tag.localName)
    (fun l => congrArg Tag.localName (R.tag l)) fun _ => rfl
  exact congrArg (Option.getD · "") read

theorem Found.isChecked (keeps : R.Keeps "checked") : d'.isChecked x = d.isChecked x := by
  have read := found.read (fun l => l.has "checked")
    (fun l => by rw [Label.has_eq_isSome, Label.has_eq_isSome, keeps]) fun _ => rfl
  have any (o : Option Label) : o.any (·.has "checked") = (o.map (·.has "checked")).getD false := by
    cases o <;> rfl
  unfold Document.isChecked
  rw [any, any, read]

/-- The elements of a kind in a scope are the same ones, if none of them is new, is feedback, or
stands in such. -/
theorem Found.select {p : Label → Bool} (hp : m.Ignores p) (same : ∀ l, p (R.label l) = p l)
    (capped : ∀ l : Label, p (l.capped m.number) = p l)
    (feedback : ∀ n, d.node? x = some n → ∀ n' ∈ (n.children.capped m.number).nodes,
      m.isFeedback n'.label = true → ∀ l ∈ n'.labels, ∀ tag, p { l with tag } = false)
    (old : ∀ e ∈ d.select (some x) p, e < m.number) :
    d'.select (some x) p = d.select (some x) p := by
  unfold Document.select labelsIn at old ⊢
  dsimp only at old ⊢
  unfold Found at found
  cases node : d.node? x with
  | none =>
    rw [node] at found
    rw [Option.map_eq_none_iff.1 found]
  | some n =>
    rw [node] at found old
    obtain ⟨n', node', alone⟩ := Option.map_eq_some_iff.1 found
    rw [node']
    have both := n'.filter_labels_capped capped
    rw [alone, R.filter_labels_node hp same (feedback n node), n.filter_labels_capped capped] at both
    -- numbers below the new ones are not affected by what happens to these
    exact eq_of_map_min old both

end Found

/-! ## Values -/

end Revision

namespace Markup.Label

/-- The label of an element to which a value is written, if any. -/
def filled (v : Option String) (l : Label) : Label :=
  match v with
  | some v => if l.tag.localName = "textarea" then l else l.set "value" v
  | none => l

/-- The text of an element to which a value is written, if any. -/
def textFilled (v : Option String) (l : Label) (t : String) : String :=
  match v with
  | some v => if l.tag.localName = "textarea" then v else t
  | none => t

@[simp] theorem id_filled (v : Option String) (l : Label) : (l.filled v).id = l.id := by
  unfold filled
  split
  · split_ifs <;> rfl
  · rfl

@[simp] theorem tag_filled (v : Option String) (l : Label) : (l.filled v).tag = l.tag := by
  unfold filled
  split
  · split_ifs <;> rfl
  · rfl

theorem get?_filled (v : Option String) (l : Label) {a : String} (other : a ≠ "value") :
    (l.filled v).get? a = l.get? a := by
  unfold filled
  split
  · split_ifs
    · rfl
    · exact get?_set_of_ne _ other
  · rfl

end Markup.Label

namespace Revision

variable {m : Manner} {R : Revision m}

/-- A revision writes values to elements that are not new, and nothing else that counts for the value
of any element. -/
structure Writes (R : Revision m) (T : Element → Option String) : Prop where
  kept : ∀ l, T l.id = none → (∀ t, R.text l t = t) ∧ (R.label l).get? "value" = l.get? "value"
  text : ∀ l v, T l.id = some v → l.tag.localName = "textarea" → ∀ t, R.text l t = v
  value : ∀ l v, T l.id = some v → l.tag.localName ≠ "textarea" →
    (R.label l).get? "value" = some v
  selected : R.Keeps "selected"

theorem Writes.quiet {T : Element → Option String} (writes : R.Writes T) {l : Label}
    (unwritten : T l.id = none) (lines : R.lines l.id = none) : R.Quiet l where
  text := (writes.kept l unwritten).1
  lines := lines
  value := (writes.kept l unwritten).2
  selected := by rw [Label.has_eq_isSome, Label.has_eq_isSome, writes.selected]

/-! ## Writing values -/

/-- Writes values to elements. -/
def filling (m : Manner) (T : Element → Option String) : Revision m where
  label l := l.filled (T l.id)
  text l t := l.textFilled (T l.id) t
  lines _ := none
  id l := l.id_filled _
  tag l := l.tag_filled _
  feedback l := by
    unfold Label.filled
    split
    · split_ifs
      · rfl
      · exact m.valued l _
    · rfl

variable {T : Element → Option String}

theorem spares_filling {l : Label} (unwritten : T l.id = none) : (filling m T).Spares l := by
  have label : (filling m T).label l = l.filled (T l.id) := rfl
  have text (t : String) : (filling m T).text l t = l.textFilled (T l.id) t := rfl
  refine ⟨?_, fun t => ?_, rfl⟩
  · rw [label, unwritten]
    rfl
  · rw [text, unwritten]
    rfl

theorem keeps_filling {a : String} (other : a ≠ "value") : (filling m T).Keeps a := fun l =>
  l.get?_filled _ other

theorem writes_filling : (filling m T).Writes T where
  kept l unwritten := by
    obtain ⟨label, text, -⟩ := spares_filling (m := m) unwritten
    exact ⟨text, congrArg (Label.get? · "value") label⟩
  text l v written textarea t := by
    show l.textFilled (T l.id) t = v
    rw [written]
    exact if_pos textarea
  value l v written other := by
    show (l.filled (T l.id)).get? "value" = some v
    rw [written, Label.filled, if_neg other, Label.get?_set_self]
  selected := keeps_filling (by decide)

/-- Values that are written one after the other to different elements are written at once. -/
theorem filling_after {S : Element → Option String} (apart : ∀ x, S x = none ∨ T x = none) :
    (filling m S).after (filling m T) = filling m fun x => (S x).or (T x) := by
  refine Revision.ext (funext fun l => ?_) (funext₂ fun l t => ?_) rfl
  · show (l.filled (T l.id)).filled (S (l.filled (T l.id)).id) = l.filled ((S l.id).or (T l.id))
    rw [Label.id_filled]
    rcases apart l.id with unwritten | unwritten
    · rw [unwritten, Option.none_or]
      rfl
    · rw [unwritten, Option.or_none]
      rfl
  · show (l.filled (T l.id)).textFilled (S (l.filled (T l.id)).id) (l.textFilled (T l.id) t) =
      l.textFilled ((S l.id).or (T l.id)) t
    rw [Label.id_filled]
    rcases apart l.id with unwritten | unwritten
    · rw [unwritten, Option.none_or]
      rfl
    · rw [unwritten, Option.or_none]
      rfl

end Revision

namespace Setup

variable {s : Setup}

/-- An element to which a value can be written without any change of others: a text area holds no
elements, a selection holds no fields, and no rule of a selection rewrites its value. -/
structure Writable (s : Setup) (n : Node) : Prop where
  textarea : n.label.tag.localName = "textarea" → n.children = .nil
  select : n.label.tag.localName = "select" → ∀ l ∈ n.children.labels, s.isField l = false
  fixed : n.label.tag.localName = "select" → ∀ raw, n.label.get? s.config.attributes.rules = some raw →
    ∀ r ∈ s.catalog.rules raw, ¬ s.Rewriting r

/-- The value in which the rules of an element end, where it is another than that of the element. -/
def rewrittenOn (s : Setup) (d : Document) (e : Element) : Option String :=
  if s.settledOn d e == d.value e then none else some (s.settledOn d e)

theorem isSome_of_isField {d : Document} {e : Element} {n : Node} (node : d.node? e = some n)
    (field : s.isField n.label = true) :
    (d.attribute? e s.config.attributes.rules).isSome = true := by
  unfold Document.attribute? Document.label?
  rw [node]
  exact (Label.has_eq_isSome ..).symm.trans field

theorem replaced_of_isField (normal : s.Normalises) {d : Document} {e : Element} {n : Node}
    (node : d.node? e = some n) (field : s.isField n.label = true) (scope : Element) :
    (s.judgedOn d scope e).2.replaced = s.rewrittenOn d e :=
  replaced_judgedOn normal (isSome_of_isField node field) scope

theorem rewrittenOn_eq_some {d : Document} {e : Element} {v : String}
    (h : s.rewrittenOn d e = some v) : v = s.settledOn d e ∧ s.settledOn d e ≠ d.value e := by
  unfold rewrittenOn at h
  split_ifs at h with same
  cases h
  exact ⟨rfl, by simpa using same⟩

/-- A selection whose rules do not rewrite keeps its value. -/
theorem Writable.rewrittenOn_eq_none {d : Document} {e : Element} {n : Node}
    (node : d.node? e = some n) (writable : s.Writable n)
    (select : n.label.tag.localName = "select") : s.rewrittenOn d e = none := by
  have rules : ∀ r ∈ s.rulesOn d e, ¬ s.Rewriting r := by
    unfold rulesOn Document.attribute? Document.label?
    rw [node]
    show ∀ r ∈ ((n.label.get? s.config.attributes.rules).map s.catalog.rules).getD [], _
    cases raw : n.label.get? s.config.attributes.rules with
    | none => exact fun r hr => (List.not_mem_nil hr).elim
    | some raw' => exact writable.fixed select raw' raw
  unfold rewrittenOn settledOn
  rw [settled_of_none rules, if_pos (beq_self_eq_true _)]

section Found

variable {m : Manner} {R : Revision m} {d d' : Document} {done : List Element}

/-- A revision that belongs to some fields of a page: it writes the values in which their rules end,
and brings no feedback in line but theirs. -/
structure Belongs (s : Setup) (R : Revision m) (d : Document) (done : List Element) : Prop where
  writes : R.Writes fun e => if e ∈ done then s.rewrittenOn d e else none
  lines : ∀ e, e ∉ done → R.lines e = none
  field : ∀ e ∈ done, ∃ l ∈ d.labels, l.id = e ∧ s.isField l = true
  old : ∀ e ∈ done, e < m.number
  name : R.Keeps "name"
  type : R.Keeps "type"
  checked : R.Keeps "checked"
  identifier : R.Keeps "id"
  rules : R.Keeps s.config.attributes.rules

theorem sameField_of_found (belongs : s.Belongs R d done) {e : Element} (found : R.Found d d' e) :
    s.SameField e d d' where
  name := found.attribute? belongs.name
  type := found.attribute? belongs.type
  rules := found.attribute? belongs.rules
  tagName := found.tagName
  isChecked := found.isChecked belongs.checked

/-- No field stands in a selection, so nothing in one is written or brought in line. -/
theorem Belongs.not_mem_of_select (belongs : s.Belongs R d done) (wf : d.WellFormed) {e : Element}
    {n : Node} (node : d.node? e = some n) (writable : s.Writable n)
    (select : n.label.tag.localName = "select") {l : Label}
    (hl : l ∈ (n.children.capped m.number).labels) : l.id ∉ done := by
  intro member
  obtain ⟨l', hl', id, field⟩ := belongs.field _ member
  have lt := belongs.old _ member
  rw [Forest.labels_capped] at hl
  obtain ⟨l₀, hl₀, rfl⟩ := List.mem_map.1 hl
  have same : l₀.id = l'.id := (Label.id_capped_eq_iff (id ▸ lt)).1 id.symm
  have inside := (labels_of_node? node).subset (List.mem_cons_of_mem _ hl₀)
  obtain rfl := wf.unique inside hl' same
  rw [writable.select select l₀ hl₀] at field
  cases field

/-- An element of which no field is written has the value that it had, and another one the value that
was written. -/
theorem value_of_found (wf : d.WellFormed) (belongs : s.Belongs R d done) {e : Element} {n : Node}
    (node : d.node? e = some n) (writable : s.Writable n) (old : e < m.number)
    (found : R.Found d d' e) :
    d'.value e = ((if e ∈ done then s.rewrittenOn d e else none).getD (d.value e)) := by
  unfold Revision.Found at found
  rw [node] at found
  obtain ⟨n', node', alone⟩ := Option.map_eq_some_iff.1 found
  have id : (n.label.capped m.number).id = e := by
    rw [Label.id_capped_eq_iff old]
    exact node?_id node
  have value : d'.value e = nodeValue (R.node (n.capped m.number)) := by
    unfold Document.value
    rw [node', Option.map_some, Option.getD_some, ← nodeValue_capped (N := m.number),
      ← nodeValue_alone, alone, nodeValue_alone]
  have before : d.value e = nodeValue (n.capped m.number) := by
    rw [nodeValue_capped, Document.value, node]
    rfl
  have bare : n.label.tag.localName = "textarea" → n.children.capped m.number = .nil := by
    intro textarea
    rw [writable.textarea textarea]
    rfl
  rw [value, before]
  cases written : (if e ∈ done then s.rewrittenOn d e else none) with
  | none =>
    rw [← id] at written
    obtain ⟨text, own⟩ := belongs.writes.kept _ written
    refine Revision.nodeValue_node (text _) own bare fun select l hl => ?_
    have other := belongs.not_mem_of_select wf node writable select hl
    exact belongs.writes.quiet (if_neg other) (belongs.lines _ other)
  | some v =>
    have rewritten : s.rewrittenOn d e = some v := by
      split_ifs at written
      exact written
    rw [← id] at written
    have select : n.label.tag.localName ≠ "select" := by
      intro select
      rw [writable.rewrittenOn_eq_none node select] at rewritten
      cases rewritten
    unfold nodeValue
    rw [show (R.node (n.capped m.number)).label.tag = n.label.tag from R.tag _]
    split
    · rename_i textarea
      show R.text (n.label.capped m.number) n.text ++
        (R.apply n.label.tag none (n.children.capped m.number)).2.innerText = v
      rw [belongs.writes.text _ v written textarea, bare textarea]
      exact String.append_empty
    · rename_i name
      exact absurd name select
    · rename_i textarea _
      show ((R.label (n.label.capped m.number)).get? "value").getD "" = v
      rw [belongs.writes.value _ v written textarea]
      rfl

/-- The rules of an element end in the same value. -/
theorem settledOn_of_found (normal : s.Normalises) (wf : d.WellFormed)
    (belongs : s.Belongs R d done) {e : Element} {n : Node} (node : d.node? e = some n)
    (writable : s.Writable n) (old : e < m.number) (found : R.Found d d' e) :
    s.settledOn d' e = s.settledOn d e := by
  refine (sameField_of_found belongs found).settledOn normal ?_
  rw [value_of_found wf belongs node writable old found]
  cases written : (if e ∈ done then s.rewrittenOn d e else none) with
  | none => exact .inl rfl
  | some v =>
    split_ifs at written
    exact .inr (rewrittenOn_eq_some written).1

/-- The elements in a scope are found as a revision leaves them, so far as fields may refer to them. -/
structure Scoped (s : Setup) (R : Revision m) (d d' : Document) (scope : Element) (n : Node) :
    Prop where
  node : d.node? scope = some n
  ignores : ∀ a, a = "id" ∨ a = "name" → ∀ v, m.Ignores fun l => l.get? a == some v
  writable : ∀ n' ∈ n.nodes, m.isFeedback (n'.label.capped m.number) = false → s.Writable n'
  feedback : ∀ n' ∈ (n.children.capped m.number).nodes, m.isFeedback n'.label = true →
    ∀ l ∈ n'.labels, ∀ a, a = "id" ∨ a = "name" → l.get? a = none
  old : ∀ l ∈ n.labels, (l.get? "id").isSome = true ∨ (l.get? "name").isSome = true →
    l.id < m.number ∧ m.isFeedback (l.capped m.number) = false ∧ R.Found d d' l.id
  scope : R.Found d d' scope

/-- References in a scope lead to the same fields, and the rules of these end in the same values. -/
theorem sees_of_found (normal : s.Normalises) (wf : d.WellFormed) (belongs : s.Belongs R d done)
    {scope : Element} {n : Node} (inScope : s.Scoped R d d' scope n) : s.Sees scope d d' := by
  have given {a v : String} {l : Label} (kind : (l.get? a == some v) = true) :
      (l.get? a).isSome = true := by
    rw [beq_iff_eq] at kind
    rw [kind]
    rfl
  have select (a v : String) (ref : a = "id" ∨ a = "name") (keeps : R.Keeps a) :
      d'.select (some scope) (fun l => l.get? a == some v) =
        d.select (some scope) fun l => l.get? a == some v := by
    refine inScope.scope.select (inScope.ignores a ref v) (fun l => ?_) (fun _ => rfl) ?_ ?_
    · rw [keeps]
    · intro n' node n'' hn'' shown l hl tag
      rw [inScope.node] at node
      cases node
      have absent := inScope.feedback n'' hn'' shown l hl a ref
      show (l.get? a == some v) = false
      rw [absent]
      rfl
    · intro e he
      obtain ⟨n', node, l, hl, kind, rfl⟩ := mem_select he
      rw [inScope.node] at node
      cases node
      refine (inScope.old l hl ?_).1
      rcases ref with rfl | rfl
      · exact .inl (given kind)
      · exact .inr (given kind)
  have resolve (r : String) : d'.resolve r (some scope) = d.resolve r (some scope) := by
    unfold Document.resolve Document.named
    split
    · exact select "id" _ (.inl rfl) belongs.identifier
    · exact select "name" _ (.inr rfl) belongs.name
  have member (r : String) (e : Element) (he : e ∈ d.resolve r (some scope)) :
      ∃ l ∈ n.labels, l.id = e ∧ ((l.get? "id").isSome = true ∨ (l.get? "name").isSome = true) := by
    unfold Document.resolve Document.named at he
    split at he
    · obtain ⟨n', node, l, hl, kind, id⟩ := mem_select he
      rw [inScope.node] at node
      cases node
      exact ⟨l, hl, id, .inl (given kind)⟩
    · obtain ⟨n', node, l, hl, kind, id⟩ := mem_select he
      rw [inScope.node] at node
      cases node
      exact ⟨l, hl, id, .inr (given kind)⟩
  constructor
  · exact resolve
  · intro r e he
    obtain ⟨l, hl, rfl, ref⟩ := member r e he
    exact (inScope.old l hl ref).2.2.attribute? belongs.name
  · intro r e he
    obtain ⟨l, hl, rfl, ref⟩ := member r e he
    obtain ⟨old, plain, found⟩ := inScope.old l hl ref
    obtain ⟨n', member, rfl⟩ := Node.exists_of_mem_labels hl
    have node := wf.node?_of_mem_nodes inScope.node member
    exact settledOn_of_found normal wf belongs node (inScope.writable n' member plain) old found

/-- A field that is still to be judged comes to on a revised page what it comes to on the page before. -/
theorem runs_examine_of_found (normal : s.Normalises) (wf : d.WellFormed)
    (belongs : s.Belongs R d done) {scope : Element} {n : Node} (inScope : s.Scoped R d d' scope n)
    {e : Element} {n' : Node} (node : d.node? e = some n') (field : s.isField n'.label = true)
    (writable : s.Writable n') (old : e < m.number) (found : R.Found d d' e) (later : e ∉ done) :
    (s.examine e scope).Runs d' (s.judgedOn d scope e) d' ((s.examine e scope).told d) := by
  have same := sameField_of_found belongs found
  have value : d'.value e = d.value e := by
    rw [value_of_found wf belongs node writable old found, if_neg later]
    rfl
  have alike := alike_examine (sees_of_found normal wf belongs inScope) same value
  exact alike.runs (s.reads_examine e scope)
    (runs_examine normal (isSome_of_isField node field) scope)

end Found

end Setup

end FormGate
