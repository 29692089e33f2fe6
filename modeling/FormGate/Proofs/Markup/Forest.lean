import FormGate.Markup.Forest
import Mathlib.Data.List.Forall2
import Mathlib.Data.List.Perm.Basic
import Mathlib.Tactic.SplitIfs

/-!
# Forests and the numbers in them

What an edit of the element of a number does to the labels of a forest, and that it does nothing to
a forest without the number.
-/

namespace FormGate.Markup

namespace Forest

variable {f g : Forest} {x : Nat}

/-! ## One forest after another -/

@[simp] theorem labels_append (f g : Forest) : (f.append g).labels = f.labels ++ g.labels := by
  induction f with
  | nil => rfl
  | cons l t c tail next _ ih => simp [append, labels, ih]

@[simp] theorem ids_append (f g : Forest) : (f.append g).ids = f.ids ++ g.ids := by
  simp [ids]

@[simp] theorem tops_append (f g : Forest) : (f.append g).tops = f.tops ++ g.tops := by
  induction f with
  | nil => rfl
  | cons l t c tail next _ ih => simp [append, tops, ih]

@[simp] theorem nodes_append (f g : Forest) : (f.append g).nodes = f.nodes ++ g.nodes := by
  induction f with
  | nil => rfl
  | cons l t c tail next _ ih => simp [append, nodes, ih]

@[simp] theorem append_nil (f : Forest) : f.append nil = f := by
  induction f with
  | nil => rfl
  | cons l t c tail next _ ih => rw [append, ih]

theorem append_assoc (f g h : Forest) : (f.append g).append h = f.append (g.append h) := by
  induction f with
  | nil => rfl
  | cons l t c tail next _ ih => simp only [append, ih]

/-- A forest is cut behind the outermost elements of a kind with which it starts. -/
theorem exists_run (p : Node → Bool) (f : Forest) :
    ∃ run rest : Forest, f = run.append rest ∧ run.tops = f.tops.takeWhile p ∧
      (∀ n ∈ run.tops, p n = true) ∧ rest.tops.takeWhile p = [] := by
  induction f with
  | nil => exact ⟨nil, nil, rfl, rfl, fun n hn => (List.not_mem_nil hn).elim, rfl⟩
  | cons l t c tail next _ ih =>
    cases first : p ⟨l, t, c, tail⟩ with
    | false =>
      have none : (cons l t c tail next).tops.takeWhile p = [] := by
        rw [tops, List.takeWhile_cons_of_neg (by simp [first])]
      exact ⟨nil, cons l t c tail next, rfl, none.symm, fun n hn => (List.not_mem_nil hn).elim, none⟩
    | true =>
      obtain ⟨run, rest, rfl, run_tops, all, rest_tops⟩ := ih
      refine ⟨cons l t c tail run, rest, rfl, ?_, List.forall_mem_cons.2 ⟨first, all⟩, rest_tops⟩
      rw [tops, tops, List.takeWhile_cons_of_pos first, run_tops]

@[simp] theorem ids_nil : ids nil = [] := rfl

@[simp] theorem ids_cons (l : Label) (t : String) (c : Forest) (tail : String) (next : Forest) :
    (cons l t c tail next).ids = l.id :: (c.ids ++ next.ids) := by
  simp [ids, labels]

@[simp] theorem ids_forest (n : Node) : n.forest.ids = n.label.id :: n.children.ids := by
  simp [Node.forest]

theorem labels_forest (n : Node) : n.forest.labels = n.labels := by
  simp [Node.forest, labels, Node.labels]

theorem map_label_nodes (f : Forest) : f.nodes.map (·.label) = f.labels := by
  induction f with
  | nil => rfl
  | cons l t c tail next ihc ih => rw [nodes, List.map_cons, List.map_append, ihc, ih, labels]

theorem mem_nodes_of_mem_tops {n : Node} (h : n ∈ f.tops) : n ∈ f.nodes := by
  induction f with
  | nil => cases h
  | cons l t c tail next _ ih =>
    rcases List.mem_cons.1 h with rfl | h
    · exact List.mem_cons_self
    · exact List.mem_cons_of_mem _ (List.mem_append_right _ (ih h))

theorem exists_top {l : Label} (h : l ∈ f.labels) : ∃ n ∈ f.tops, l ∈ n.labels := by
  induction f with
  | nil => cases h
  | cons l' t c tail next _ ih =>
    rw [labels, ← List.cons_append] at h
    rcases List.mem_append.1 h with h | h
    · exact ⟨⟨l', t, c, tail⟩, List.mem_cons_self, h⟩
    · obtain ⟨n, hn, inside⟩ := ih h
      exact ⟨n, List.mem_cons_of_mem _ hn, inside⟩

theorem labels_subset_of_mem_nodes {n : Node} (h : n ∈ f.nodes) : n.labels ⊆ f.labels := by
  induction f with
  | nil => cases h
  | cons l t c tail next ihc ih =>
    rw [labels]
    rcases List.mem_cons.1 h with rfl | h
    · exact List.cons_subset_cons _ (List.subset_append_left _ _)
    · rcases List.mem_append.1 h with h | h
      · exact fun a ha => List.mem_cons_of_mem _ (List.mem_append_left _ (ihc h ha))
      · exact fun a ha => List.mem_cons_of_mem _ (List.mem_append_right _ (ih h ha))

theorem id_mem_ids {l : Label} (h : l ∈ f.labels) : l.id ∈ f.ids :=
  List.mem_map_of_mem h

/-! ## A number that is not in the forest -/

theorem not_mem_cons {l : Label} {t : String} {c : Forest} {tail : String} {next : Forest}
    (h : x ∉ (cons l t c tail next).ids) : l.id ≠ x ∧ x ∉ c.ids ∧ x ∉ next.ids := by
  rw [ids_cons, List.mem_cons, List.mem_append] at h
  exact ⟨fun e => h (.inl e.symm), fun m => h (.inr (.inl m)), fun m => h (.inr (.inr m))⟩

section NotMem

variable (h : x ∉ f.ids)
include h

theorem find?_of_not_mem : f.find? x = none := by
  induction f with
  | nil => rfl
  | cons l t c tail next ihc ih =>
    obtain ⟨here, below, after⟩ := not_mem_cons h
    rw [find?, if_neg here, ihc below, ih after]
    rfl

theorem following?_of_not_mem : f.following? x = none := by
  induction f with
  | nil => rfl
  | cons l t c tail next ihc ih =>
    obtain ⟨here, below, after⟩ := not_mem_cons h
    rw [following?, if_neg here, ihc below, ih after]
    rfl

theorem modify_of_not_mem (k : Label → Label) : f.modify x k = f := by
  induction f with
  | nil => rfl
  | cons l t c tail next ihc ih =>
    obtain ⟨here, below, after⟩ := not_mem_cons h
    rw [modify, if_neg here, ihc below, ih after]

theorem fill_of_not_mem (text : String) (children : Forest) : fill x text children f = f := by
  induction f with
  | nil => rfl
  | cons l t c tail next ihc ih =>
    obtain ⟨here, below, after⟩ := not_mem_cons h
    rw [fill, if_neg here, ihc below, ih after]

theorem insertAfter_of_not_mem (n : Node) : f.insertAfter x n = f := by
  induction f with
  | nil => rfl
  | cons l t c tail next ihc ih =>
    obtain ⟨here, below, after⟩ := not_mem_cons h
    rw [insertAfter, if_neg here, ihc below, ih after]

theorem cut_of_not_mem : f.cut x = ("", f) := by
  induction f with
  | nil => rfl
  | cons l t c tail next ihc ih =>
    obtain ⟨here, below, after⟩ := not_mem_cons h
    rw [cut, if_neg here, ihc below, ih after]
    simp

theorem parent?_of_not_mem (owner : Nat) : f.parent? x owner = none := by
  induction f generalizing owner with
  | nil => rfl
  | cons l t c tail next ihc ih =>
    obtain ⟨here, below, after⟩ := not_mem_cons h
    rw [parent?, if_neg here, ihc below, ih after]
    rfl

theorem enclosing?_of_not_mem (p : Label → Bool) (nearest : Option Nat) :
    f.enclosing? p x nearest = none := by
  induction f generalizing nearest with
  | nil => rfl
  | cons l t c tail next ihc ih =>
    obtain ⟨here, below, after⟩ := not_mem_cons h
    rw [enclosing?, if_neg here, ihc below, ih after]
    rfl

end NotMem

/-! ## The element of a number -/

theorem find?_id {n : Node} (h : f.find? x = some n) : n.label.id = x := by
  induction f with
  | nil => cases h
  | cons l t c tail next ihc ih =>
    rw [find?] at h
    split at h
    · cases h
      assumption
    · rcases Option.or_eq_some_iff.1 h with h | ⟨-, h⟩
      · exact ihc h
      · exact ih h

theorem labels_of_find? {n : Node} (h : f.find? x = some n) : n.labels <:+: f.labels := by
  induction f with
  | nil => cases h
  | cons l t c tail next ihc ih =>
    rw [find?] at h
    split at h
    · cases h
      exact ⟨[], next.labels, by simp [Node.labels, labels]⟩
    · rcases Option.or_eq_some_iff.1 h with h | ⟨-, h⟩
      · obtain ⟨a, b, eq⟩ := ihc h
        exact ⟨l :: a, b ++ next.labels, by simp [labels, ← eq]⟩
      · obtain ⟨a, b, eq⟩ := ih h
        exact ⟨l :: (c.labels ++ a), b, by simp [labels, ← eq]⟩

theorem find?_isSome : (f.find? x).isSome ↔ x ∈ f.ids := by
  constructor
  · intro h
    obtain ⟨n, found⟩ := Option.isSome_iff_exists.1 h
    have here : n.label ∈ f.labels := (labels_of_find? found).subset (by simp [Node.labels])
    exact find?_id found ▸ id_mem_ids here
  · intro h
    induction f with
    | nil => cases h
    | cons l t c tail next ihc ih =>
      rw [find?]
      split_ifs with here
      · rfl
      · rw [ids_cons, List.mem_cons, List.mem_append] at h
        rcases h with rfl | h | h
        · exact absurd rfl here
        · simp [ihc h]
        · simp [ih h]

theorem not_mem_of_find?_eq_none (h : f.find? x = none) : x ∉ f.ids := by
  rw [← find?_isSome, h]
  simp

/-- In a forest of distinct numbers every element is the one that is found by its number. -/
theorem find?_of_mem_nodes (nodup : f.ids.Nodup) {n : Node} (h : n ∈ f.nodes) :
    f.find? n.label.id = some n := by
  induction f with
  | nil => cases h
  | cons l t c tail next ihc ih =>
    have id_mem {g : Forest} (hg : n ∈ g.nodes) : n.label.id ∈ g.ids := by
      rw [ids, ← map_label_nodes, List.map_map]
      exact List.mem_map_of_mem hg
    rw [ids_cons, List.nodup_cons, List.nodup_append, List.mem_append] at nodup
    obtain ⟨here, below, after, apart⟩ := nodup
    rcases List.mem_cons.1 h with rfl | h
    · rw [find?, if_pos rfl]
    · rw [find?]
      rcases List.mem_append.1 h with h | h
      · have ne : l.id ≠ n.label.id := fun e => here (.inl (e ▸ id_mem h))
        rw [if_neg ne, ihc below h]
        rfl
      · have ne : l.id ≠ n.label.id := fun e => here (.inr (e ▸ id_mem h))
        have absent : n.label.id ∉ c.ids := fun m => apart _ m _ (id_mem h) rfl
        rw [if_neg ne, find?_of_not_mem absent, ih after h]
        rfl

theorem exists_parent (h : x ∈ f.ids) (owner : Nat) :
    ∃ p, f.parent? x owner = some p := by
  induction f generalizing owner with
  | nil => cases h
  | cons l t c tail next ihc ih =>
    rw [ids_cons, List.mem_cons, List.mem_append] at h
    rw [parent?]
    by_cases here : l.id = x
    · exact ⟨owner, if_pos here⟩
    · rw [if_neg here]
      rcases h with same | below | after
      · exact absurd same.symm here
      · obtain ⟨p, parent⟩ := ihc below l.id
        exact ⟨p, by rw [parent]; rfl⟩
      · cases parent : c.parent? x l.id with
        | some p => exact ⟨p, rfl⟩
        | none => exact ih after owner

/-- The nearest element of a kind around an element is the one given, or one of the forest that has the
element in it. -/
theorem enclosing?_of_mem (p : Label → Bool) (h : x ∈ f.ids) (nearest : Option Nat) :
    f.enclosing? p x nearest = some nearest ∨
      ∃ n ∈ f.nodes, f.enclosing? p x nearest = some (some n.label.id) ∧
        x ∈ n.labels.map (·.id) := by
  induction f generalizing nearest with
  | nil => cases h
  | cons l t c tail next ihc ih =>
    have first : (⟨l, t, c, tail⟩ : Node) ∈ (cons l t c tail next).nodes := List.mem_cons_self
    rw [enclosing?]
    by_cases here : l.id = x
    · rw [if_pos here]
      split_ifs
      · exact .inr ⟨_, first, rfl, List.mem_map.2 ⟨l, List.mem_cons_self, here⟩⟩
      · exact .inl rfl
    · rw [if_neg here]
      by_cases below : x ∈ c.ids
      · rcases ihc below (if p l then some l.id else nearest) with found | ⟨n, hn, found, inside⟩
        · rw [found, Option.some_or]
          split_ifs
          · exact .inr ⟨_, first, rfl, List.mem_cons_of_mem _ below⟩
          · exact .inl rfl
        · rw [found, Option.some_or]
          exact .inr ⟨n, List.mem_cons_of_mem _ (List.mem_append_left _ hn), rfl, inside⟩
      · rw [enclosing?_of_not_mem below, Option.none_or]
        have after : x ∈ next.ids := by
          rw [ids_cons, List.mem_cons, List.mem_append] at h
          exact (h.resolve_left fun same => here same.symm).resolve_left below
        rcases ih after nearest with found | ⟨n, hn, found, inside⟩
        · exact .inl found
        · exact .inr ⟨n, List.mem_cons_of_mem _ (List.mem_append_right _ hn), found, inside⟩

theorem nodes_subset_of_following? (h : f.following? x = some g) : g.nodes ⊆ f.nodes := by
  induction f with
  | nil => cases h
  | cons l t c tail next ihc ih =>
    rw [following?] at h
    rw [nodes]
    split_ifs at h
    · cases h
      exact fun n hn => List.mem_cons_of_mem _ (List.mem_append_right _ hn)
    · rcases Option.or_eq_some_iff.1 h with h | ⟨-, h⟩
      · exact fun n hn => List.mem_cons_of_mem _ (List.mem_append_left _ (ihc h hn))
      · exact fun n hn => List.mem_cons_of_mem _ (List.mem_append_right _ (ih h hn))

/-- A filled element is found with its new text and children. -/
theorem find?_fill {n : Node} (h : f.find? x = some n) (text : String) (children : Forest) :
    (fill x text children f).find? x = some { n with text, children } := by
  induction f with
  | nil => cases h
  | cons l t c tail next ihc ih =>
    rw [find?] at h
    rw [fill]
    split_ifs at h ⊢ with here
    · cases h
      rw [find?, if_pos here]
    · rw [find?, if_neg here]
      rcases Option.or_eq_some_iff.1 h with h | ⟨absent, h⟩
      · rw [ihc h]
        rfl
      · rw [fill_of_not_mem (not_mem_of_find?_eq_none absent), absent, ih h]
        rfl

/-- An element whose label is changed, and all others, are found with what they have then. -/
theorem find?_modify {k : Label → Label} (hk : ∀ l, (k l).id = l.id) (f : Forest) (x y : Nat) :
    (f.modify y k).find? x = (f.find? x).map fun n =>
      { n with
        label := if n.label.id = y then k n.label else n.label
        children := n.children.modify y k } := by
  induction f with
  | nil => rfl
  | cons l t c tail next ihc ih =>
    have id : (if l.id = y then k l else l).id = l.id := by
      split_ifs
      · exact hk l
      · rfl
    rw [modify, find?, find?, id, ihc, ih]
    by_cases here : l.id = x
    · rw [if_pos here, if_pos here]
      rfl
    · rw [if_neg here, if_neg here, Option.map_or]

theorem find?_append (f g : Forest) (x : Nat) :
    (f.append g).find? x = (f.find? x).or (g.find? x) := by
  induction f with
  | nil => simp [append, find?]
  | cons l t c tail next _ ih =>
    rw [append, find?, find?]
    split_ifs
    · rfl
    · rw [ih, Option.or_assoc]

theorem following?_append (h : x ∉ f.ids) : (f.append g).following? x = g.following? x := by
  induction f with
  | nil => rfl
  | cons l t c tail next _ ih =>
    obtain ⟨here, below, after⟩ := not_mem_cons h
    rw [append, following?, if_neg here, following?_of_not_mem below, ih after]
    rfl

theorem parent?_append (h : x ∉ f.ids) (owner : Nat) :
    (f.append g).parent? x owner = g.parent? x owner := by
  induction f with
  | nil => rfl
  | cons l t c tail next _ ih =>
    obtain ⟨here, below, after⟩ := not_mem_cons h
    rw [append, parent?, if_neg here, parent?_of_not_mem below, ih after]
    rfl

/-! ## Forests that agree apart from a run

Two forests start with an element of one number, before which they have different runs behind it. Elsewhere
an element is the same in both if what stands below the first one is. -/

section Run

variable {l l' : Label} {t t' : String} {c c' : Forest} {tail tail' : String} {run run' rest : Forest}
  (id : l'.id = l.id) (here : l.id ≠ x) (absent : x ∉ run.ids) (absent' : x ∉ run'.ids)
include id here absent absent'

theorem find?_run (below : c'.find? x = c.find? x) :
    (cons l' t' c' tail' (run'.append rest)).find? x = (cons l t c tail (run.append rest)).find? x := by
  rw [find?, find?, id, if_neg here, if_neg here, below, find?_append, find?_append,
    find?_of_not_mem absent, find?_of_not_mem absent']

theorem following?_run (below : c'.following? x = c.following? x) :
    (cons l' t' c' tail' (run'.append rest)).following? x =
      (cons l t c tail (run.append rest)).following? x := by
  rw [following?, following?, id, if_neg here, if_neg here, below, following?_append absent,
    following?_append absent']

theorem parent?_run (below : ∀ owner, c'.parent? x owner = c.parent? x owner) (owner : Nat) :
    (cons l' t' c' tail' (run'.append rest)).parent? x owner =
      (cons l t c tail (run.append rest)).parent? x owner := by
  rw [parent?, parent?, id, if_neg here, if_neg here, below, parent?_append absent,
    parent?_append absent']

end Run

/-! ## The labels after an edit -/

/-- A relation between old and new labels holds of all labels one by one. -/
theorem forall₂_mapLabels {R : Label → Label → Prop} {k : Label → String → Forest → Label}
    (hk : ∀ l t c, R l (k l t c)) (f : Forest) : List.Forall₂ R f.labels (f.mapLabels k).labels := by
  induction f with
  | nil => exact .nil
  | cons l t c tail next ihc ih => exact .cons (hk l t c) (List.rel_append ihc ih)

theorem modify_eq_mapLabels (f : Forest) (x : Nat) (k : Label → Label) :
    f.modify x k = f.mapLabels fun l _ _ => if l.id = x then k l else l := by
  induction f with
  | nil => rfl
  | cons l t c tail next ihc ih => rw [modify, mapLabels, ihc, ih]

theorem labels_modify (f : Forest) (x : Nat) (k : Label → Label) :
    (f.modify x k).labels = f.labels.map fun l => if l.id = x then k l else l := by
  induction f with
  | nil => rfl
  | cons l t c tail next ihc ih => simp [modify, labels, ihc, ih]

/-- Two stretches of labels are apart in a forest of distinct numbers. -/
theorem nodup_cons {l : Label} {t : String} {c : Forest} {tail : String} {next : Forest}
    (h : (cons l t c tail next).ids.Nodup) :
    l.id ∉ c.ids ∧ l.id ∉ next.ids ∧ c.ids.Nodup ∧ next.ids.Nodup ∧
      ∀ y, y ∈ c.ids → y ∉ next.ids := by
  rw [ids_cons, List.nodup_cons, List.mem_append, List.nodup_append] at h
  obtain ⟨here, below, after, apart⟩ := h
  exact ⟨fun m => here (.inl m), fun m => here (.inr m), below, after,
    fun y m m' => apart y m y m' rfl⟩

theorem find?_here {l : Label} {t : String} {c : Forest} {tail : String} {next : Forest}
    (here : l.id = x) : (cons l t c tail next).find? x = some ⟨l, t, c, tail⟩ := by
  rw [find?, if_pos here]

/-- An element that is not the first one is either below that or after it. -/
theorem find?_there {l : Label} {t : String} {c : Forest} {tail : String} {next : Forest} {n : Node}
    (nodup : (cons l t c tail next).ids.Nodup) (here : l.id ≠ x)
    (found : (cons l t c tail next).find? x = some n) :
    (c.find? x = some n ∧ x ∉ next.ids) ∨ (next.find? x = some n ∧ x ∉ c.ids) := by
  obtain ⟨-, -, -, -, apart⟩ := nodup_cons nodup
  rw [find?, if_neg here] at found
  rcases Option.or_eq_some_iff.1 found with found | ⟨absent, found⟩
  · exact .inl ⟨found, apart x (find?_isSome.1 (Option.isSome_of_eq_some found))⟩
  · exact .inr ⟨found, not_mem_of_find?_eq_none absent⟩

section Labels

variable {n : Node} (nodup : f.ids.Nodup) (found : f.find? x = some n)
include nodup found

theorem count_fill (text : String) (children : Forest) (a : Label) :
    (fill x text children f).labels.count a + n.children.labels.count a =
      f.labels.count a + children.labels.count a := by
  induction f with
  | nil => cases found
  | cons l t c tail next ihc ih =>
    obtain ⟨-, -, nodupc, nodupn, -⟩ := nodup_cons nodup
    by_cases here : l.id = x
    · rw [find?_here here] at found
      cases found
      rw [fill, if_pos here]
      simp only [labels, List.count_cons, List.count_append]
      omega
    · rw [fill, if_neg here]
      simp only [labels, List.count_cons, List.count_append]
      rcases find?_there nodup here found with ⟨below, absent⟩ | ⟨after, absent⟩
      · rw [fill_of_not_mem absent]
        have := ihc nodupc below
        omega
      · rw [fill_of_not_mem absent]
        have := ih nodupn after
        omega

theorem count_insertAfter (new : Node) (a : Label) :
    (f.insertAfter x new).labels.count a = f.labels.count a + new.labels.count a := by
  induction f with
  | nil => cases found
  | cons l t c tail next ihc ih =>
    obtain ⟨-, -, nodupc, nodupn, -⟩ := nodup_cons nodup
    by_cases here : l.id = x
    · rw [insertAfter, if_pos here]
      simp only [labels, Node.labels, List.count_cons, List.count_append]
      omega
    · rw [insertAfter, if_neg here]
      simp only [labels, List.count_cons, List.count_append]
      rcases find?_there nodup here found with ⟨below, absent⟩ | ⟨after, absent⟩
      · rw [insertAfter_of_not_mem absent]
        have := ihc nodupc below
        omega
      · rw [insertAfter_of_not_mem absent]
        have := ih nodupn after
        omega

theorem count_cut (a : Label) :
    (f.cut x).2.labels.count a + n.labels.count a = f.labels.count a := by
  induction f with
  | nil => cases found
  | cons l t c tail next ihc ih =>
    obtain ⟨-, -, nodupc, nodupn, -⟩ := nodup_cons nodup
    by_cases here : l.id = x
    · rw [find?_here here] at found
      cases found
      rw [cut, if_pos here]
      simp only [labels, Node.labels, List.count_cons, List.count_append]
      omega
    · rw [cut, if_neg here]
      simp only [labels, List.count_cons, List.count_append]
      rcases find?_there nodup here found with ⟨below, absent⟩ | ⟨after, absent⟩
      · rw [cut_of_not_mem absent]
        have := ihc nodupc below
        dsimp only
        omega
      · rw [cut_of_not_mem absent]
        have := ih nodupn after
        dsimp only
        omega

end Labels

end Forest

end FormGate.Markup
