import FormGate.Proofs.Pass.CleanPage

/-!
# Elements that outlive a pass

An element of a clean page that is neither new nor in feedback outlives every revision of the page
(`Setup.Stands.revised`), and so do the fields and the submit buttons in it.
-/

namespace FormGate

open Markup Document

namespace Setup

variable {s : Setup}

/-- An element of a clean page that is neither new nor in feedback. -/
structure Stands (s : Setup) (distinct : s.Distinct) (N : Nat) (d : Document) (x : Element)
    (n : Node) : Prop where
  clean : s.CleanSince N d
  found : d.tree.find? x = some n
  old : x < N
  clear : (s.manner distinct N).Clear x (d.tree.capped N)

theorem submits_of_untyped {l : Label} (untyped : l.get? "type" = none) :
    ((l.tag.localName == "button" || l.tag.localName == "input") &&
      Text.lower ((l.get? "type").getD "") == "submit") = false := by
  rw [untyped]
  exact Bool.and_false _

section Stands

variable {distinct : s.Distinct} {N : Nat} {d d' : Document} {x : Element} {n : Node}

/-- An element of a clean page stands unless it holds nothing but what feedback does. -/
theorem stands_or_plain (distinct : s.Distinct) (clean : s.Clean d) (found : d.tree.find? x = some n) :
    s.Stands distinct d.fresh d x n ∨ ∀ l ∈ n.labels, l.Plain := by
  rw [or_iff_not_imp_right]
  intro marked
  push Not at marked
  obtain ⟨l, hl, not_plain⟩ := marked
  have inside := (Forest.labels_of_find? found).subset List.mem_cons_self
  have old : x < d.fresh :=
    Forest.find?_id found ▸ clean.wellFormed.fresh _ (List.mem_append_left _ inside)
  exact ⟨clean.since, found, old, clear_of_not_plain distinct clean.since found old hl not_plain⟩

namespace Stands

variable (stands : s.Stands distinct N d x n)
include stands

theorem node : d.node? x = some n := by
  rw [Document.node?, stands.found, Option.some_or]

theorem labels : n.labels ⊆ d.tree.labels :=
  (Forest.labels_of_find? stands.found).subset

theorem nodes : n.nodes ⊆ d.tree.nodes :=
  Forest.nodes_of_find? stands.found

theorem writable : s.Writable n := by
  have inside : n ∈ d.tree.nodes := stands.nodes List.mem_cons_self
  refine (stands.clean.tidy n inside).writable ?_
  rw [Bool.eq_false_iff]
  intro shown
  have capped : n.capped N ∈ (d.tree.capped N).nodes := by
    rw [Forest.nodes_capped]
    exact List.mem_map_of_mem inside
  have id : (n.capped N).label.id = x :=
    (Label.id_capped_eq_iff stands.old).2 (Forest.find?_id stands.found)
  exact stands.clear (n.capped N) capped shown (List.mem_map.2 ⟨_, List.mem_cons_self, id⟩)

theorem inner {n' : Node} (member : n' ∈ n.nodes) (not_plain : ¬ n'.label.Plain) :
    s.Stands distinct N d n'.label.id n' := by
  have inside := stands.nodes member
  have found := Forest.find?_of_mem_nodes stands.clean.wellFormed.nodup_tree inside
  have old := old_of_not_plain stands.clean
    (Forest.labels_subset_of_mem_nodes inside List.mem_cons_self) not_plain
  exact ⟨stands.clean, found, old,
    clear_of_not_plain distinct stands.clean found old List.mem_cons_self not_plain⟩

theorem field {e : Element} (field : e ∈ d.carriers x s.config.attributes.rules) :
    ∃ n' ∈ n.nodes, s.isField n'.label = true ∧ s.Stands distinct N d e n' := by
  obtain ⟨n₀, node, l, hl, is, rfl⟩ := mem_select field
  rw [stands.node, Option.some.injEq] at node
  subst node
  obtain ⟨n', member, rfl⟩ := Node.exists_of_mem_labels hl
  exact ⟨n', member, is, stands.inner member (not_plain_of_isField distinct is)⟩

section Revised

variable {R : Revision (s.manner distinct N)}
  (tree : d'.tree.capped N = R.forest (d.tree.capped N))
include tree

theorem revisedFound : R.Found d d' x :=
  Revision.found_of_tree tree stands.old stands.clear stands.found

theorem revised (clean : s.CleanSince N d') : ∃ n', s.Stands distinct N d' x n' ∧
    (n'.capped N).alone = (R.node (n.capped N)).alone := by
  obtain ⟨n', found', alone⟩ := Revision.exists_found tree stands.old stands.clear stands.found
  refine ⟨n', ⟨clean, found', stands.old, ?_⟩, alone⟩
  rw [tree]
  exact R.clear_apply (Nat.ne_of_lt stands.old) stands.clear (.element "") none

/-- What fields in it may refer to is found as a revision leaves it. -/
theorem asScope : s.Scoped R d d' x n where
  node := stands.node
  ignores a ref v := by
    have other : a ≠ "class" := by
      rcases ref with rfl | rfl
      · decide
      · decide
    constructor
    · intro tag
      have plain : Label.Plain ⟨N, tag, (s.manner distinct N).attributes⟩ :=
        (s.manner distinct N).plain
      show (Label.get? ⟨N, tag, (s.manner distinct N).attributes⟩ a == some v) = false
      rw [get?_of_plain plain other]
      rfl
    · intro tag
      rfl
  writable n' hn' plain := (stands.clean.tidy n' (stands.nodes hn')).writable plain
  feedback n' hn' shown l hl a ref := by
    rw [Forest.nodes_capped] at hn'
    obtain ⟨n₀, hn₀, rfl⟩ := List.mem_map.1 hn'
    have tidy := stands.clean.tidy n₀ (stands.nodes (List.mem_cons_of_mem _ hn₀))
    refine get?_of_plain ((tidy_capped.2 tidy).feedback shown l hl) ?_
    rcases ref with rfl | rfl
    · decide
    · decide
  old l hl ref := by
    obtain ⟨n', member, rfl⟩ := Node.exists_of_mem_labels hl
    have not_plain : ¬ n'.label.Plain := by
      intro plain
      rw [get?_of_plain plain (by decide), get?_of_plain plain (by decide)] at ref
      simp at ref
    have inner := stands.inner member not_plain
    exact ⟨inner.old, isFeedback_of_not_plain stands.clean (stands.nodes member) not_plain,
      inner.revisedFound tree⟩
  scope := stands.revisedFound tree

/-- The elements of a kind in it are those of the page before, if no element of the kind is plain. -/
theorem select {p : Label → Bool} (plain : ∀ l : Label, l.Plain → p l = false)
    (same : ∀ l, p (R.label l) = p l) (capped : ∀ l : Label, p (l.capped N) = p l) :
    d'.select (some x) p = d.select (some x) p := by
  refine (stands.revisedFound tree).select ⟨?_, ?_⟩ same capped ?_ ?_
  · exact fun tag => plain _ (s.manner distinct N).plain
  · exact fun tag => plain _ nofun
  · intro n₀ node n' hn' shown l hl tag
    rw [stands.node, Option.some.injEq] at node
    subst node
    rw [Forest.nodes_capped] at hn'
    obtain ⟨n₀, hn₀, rfl⟩ := List.mem_map.1 hn'
    have tidy := stands.clean.tidy n₀ (stands.nodes (List.mem_cons_of_mem _ hn₀))
    exact plain _ ((tidy_capped.2 tidy).feedback shown l hl)
  · intro e he
    obtain ⟨n₀, node, l, hl, kind, rfl⟩ := mem_select he
    rw [stands.node, Option.some.injEq] at node
    subst node
    refine old_of_not_plain stands.clean (stands.labels hl) fun h => ?_
    rw [plain l h] at kind
    cases kind

/-- The same elements in it carry rules, if a revision keeps the rules. -/
theorem carriers (keeps : R.Keeps s.config.attributes.rules) :
    d'.carriers x s.config.attributes.rules = d.carriers x s.config.attributes.rules :=
  stands.select tree (fun _ => isField_of_plain distinct) (isField_label keeps) fun _ => rfl

/-- The same elements in it are submit buttons, if a revision keeps their types. -/
theorem submitControls (keeps : R.Keeps "type") : d'.submitControls x = d.submitControls x := by
  refine stands.select tree ?_ ?_ fun _ => rfl
  · exact fun l plain => submits_of_untyped (get?_of_plain plain (by decide))
  · intro l
    rw [R.tag, keeps]

end Revised

end Stands

end Stands

end Setup

end FormGate
