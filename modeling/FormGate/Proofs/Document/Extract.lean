import FormGate.Proofs.Document.Embedding
import Mathlib.Data.List.Nodup

/-!
# Taking a form out of its page

A form in a page, with its elements numbered in document order, is a page of its own of which the page
is an image. Two forms are the same if they are so when numbered in this way, wherever they stand.
-/

namespace FormGate

open Markup

namespace Markup

/-- The numbers of an element and of all that it holds, in document order. -/
def Node.ids (n : Node) : List Nat :=
  n.labels.map (·.id)

/-- The label of an element in a form, numbered by its place there. -/
def Node.placed (n : Node) (l : Label) : Label :=
  { l with id := n.ids.idxOf l.id }

/-- An element with all that it holds, numbered in document order, without what follows it. -/
def Node.numbered (n : Node) : Node :=
  { n.relabel n.placed with tail := "" }

/-- Puts another element in place of that of a number. What follows it stays. -/
def Forest.replace (id : Nat) (new : Node) : Forest → Forest
  | nil => nil
  | cons l t c tail next =>
    if l.id = id then cons new.label new.text new.children tail next
    else cons l t (c.replace id new) tail (next.replace id new)

theorem Forest.eq_nil_of_tops {f : Forest} (h : f.tops = []) : f = nil := by
  cases f with
  | nil => rfl
  | cons l t c tail next => cases h

theorem Forest.replace_of_not_mem {f : Forest} {x : Nat} (h : x ∉ f.ids) (new : Node) :
    f.replace x new = f := by
  induction f with
  | nil => rfl
  | cons l t c tail next ihc ih =>
    obtain ⟨other, below, later⟩ := not_mem_cons h
    rw [replace, if_neg other, ihc below, ih later]

theorem Forest.find?_replace {f : Forest} {x : Nat} {n new : Node} (found : f.find? x = some n)
    (id : new.label.id = x) : (f.replace x new).find? x = some { new with tail := n.tail } := by
  induction f with
  | nil => cases found
  | cons l t c tail next ihc ih =>
    rw [replace]
    rw [find?] at found
    split_ifs at found ⊢ with here
    · obtain rfl := Option.some.inj found
      exact find?_here id
    · rw [find?, if_neg here]
      rcases Option.or_eq_some_iff.1 found with below | ⟨none, later⟩
      · rw [ihc below, Option.some_or]
      · have absent : x ∉ c.ids := fun member => by
          rw [← find?_isSome, none] at member
          cases member
        rw [replace_of_not_mem absent, none, Option.none_or, ih later]

theorem Forest.exists_tops_replace {f : Forest} {root : Node} (single : f.tops = [root]) (x : Nat)
    (new : Node) : ∃ root', (f.replace x new).tops = [root'] := by
  cases f with
  | nil => cases single
  | cons l t c tail next =>
    obtain rfl := eq_nil_of_tops (List.cons.inj single).2
    rw [replace]
    split_ifs
    · exact ⟨_, rfl⟩
    · exact ⟨_, rfl⟩

theorem Frame.replace_plug {K : Frame} {x : Nat} (h : x ∉ K.ids) (new : Node) (f : Forest) :
    (K.plug f).replace x new = K.plug (f.replace x new) := by
  induction K with
  | here => rfl
  | inside l t inner tail next ih =>
    simp only [ids, List.mem_cons, List.mem_append, not_or] at h
    rw [plug, Forest.replace, if_neg (Ne.symm h.1), ih h.2.1, Forest.replace_of_not_mem h.2.2, plug]
  | behind l t c tail inner ih =>
    simp only [ids, List.mem_cons, List.mem_append, not_or] at h
    rw [plug, Forest.replace, if_neg (Ne.symm h.1), ih h.2.2, Forest.replace_of_not_mem h.2.1, plug]

theorem Node.numbered_id (n : Node) : n.numbered.label.id = 0 :=
  List.idxOf_cons_eq _ rfl

theorem Node.labels_numbered (n : Node) : n.numbered.labels = n.labels.map n.placed :=
  n.labels_relabel (g := n.placed)

/-- A form as a page of its own. -/
def Node.asPage (n : Node) : Document where
  tree := n.numbered.forest
  fresh := n.ids.length

theorem Node.asPage_congr {n n' : Node} (same : n'.numbered = n.numbered) : n'.asPage = n.asPage := by
  have length : n'.ids.length = n.ids.length := by
    have labels (m : Node) : m.numbered.labels.length = m.ids.length := by
      rw [m.labels_numbered, List.length_map, ids, List.length_map]
    rw [← labels, ← labels, same]
  rw [asPage, asPage, same, length]

/-- The places of elements in a list do not hang on how these are named. -/
theorem idxOf_map_of_injective {ρ : Nat → Nat} (injective : Function.Injective ρ) (xs : List Nat)
    (x : Nat) : (xs.map ρ).idxOf (ρ x) = xs.idxOf x := by
  induction xs with
  | nil => rfl
  | cons y ys ih =>
    rw [List.map_cons]
    by_cases same : y = x
    · rw [List.idxOf_cons_eq _ same, List.idxOf_cons_eq _ (congrArg ρ same)]
    · rw [List.idxOf_cons_ne _ same, List.idxOf_cons_ne _ fun eq => same (injective eq), ih]

end Markup

namespace Embedding

variable {E : Embedding}

theorem numbered_node (n : Node) : (E.node n).numbered = n.numbered := by
  have ids : (E.node n).ids = n.ids.map E.number := by
    rw [Node.ids, labels_node, List.map_map, Node.ids, List.map_map]
    rfl
  have same (l : Label) : (E.node n).ids.idxOf (E.label l).id = n.ids.idxOf l.id := by
    rw [ids]
    exact idxOf_map_of_injective E.injective n.ids l.id
  have labels : (E.node n).placed ∘ E.label = n.placed := by
    funext l
    exact congrArg (fun i => Label.mk i l.tag l.attributes) (same l)
  have children : (n.children.relabel E.label).relabel (E.node n).placed =
      n.children.relabel n.placed := by
    rw [Forest.relabel_relabel, labels]
  unfold Node.numbered Node.relabel
  exact congrArg₂ (fun l c => Node.mk l n.text c "") (congrFun labels n.label) children

end Embedding

namespace Document

variable {d : Document} {form : Element} {n : Node}

/-- The numbers that the elements of a form have in a page: those of the form, and then free ones. -/
def numberIn (d : Document) (n : Node) (x : Nat) : Nat :=
  (n.ids[x]?).getD (x - n.ids.length + d.fresh)

section Numbers

theorem mem_labels_of_form (found : d.tree.find? form = some n) : ∀ l ∈ n.labels, l ∈ d.labels :=
  fun _ hl => List.mem_append_left _ ((Forest.labels_of_find? found).subset hl)

variable (wf : d.WellFormed) (found : d.tree.find? form = some n)
include wf found

theorem nodup_form : n.ids.Nodup :=
  wf.nodup_tree.sublist ((Forest.labels_of_find? found).sublist.map _)

theorem lt_fresh_of_form {x : Nat} (hx : x ∈ n.ids) : x < d.fresh := by
  obtain ⟨l, hl, rfl⟩ := List.mem_map.1 hx
  exact wf.fresh l (mem_labels_of_form found l hl)

theorem length_form_le : n.ids.length ≤ d.fresh := by
  have subset : n.ids ⊆ List.range d.fresh := fun x hx =>
    List.mem_range.2 (lt_fresh_of_form wf found hx)
  have := (List.subperm_of_subset (nodup_form wf found) subset).length_le
  rwa [List.length_range] at this

theorem numberIn_cases (x : Nat) :
    (x < n.ids.length ∧ d.numberIn n x ∈ n.ids ∧ n.ids.idxOf (d.numberIn n x) = x) ∨
      (n.ids.length ≤ x ∧ d.numberIn n x = x + (d.fresh - n.ids.length)) := by
  have length := length_form_le wf found
  unfold numberIn
  by_cases old : x < n.ids.length
  · rw [List.getElem?_eq_getElem old, Option.getD_some]
    exact .inl ⟨old, List.getElem_mem old, (nodup_form wf found).idxOf_getElem x old⟩
  · rw [List.getElem?_eq_none (Nat.not_lt.1 old), Option.getD_none]
    exact .inr ⟨Nat.not_lt.1 old, by omega⟩

theorem numberIn_injective : Function.Injective (d.numberIn n) := by
  have length := length_form_le wf found
  intro x y same
  rcases numberIn_cases wf found x with ⟨old, mem, idx⟩ | ⟨new, eq⟩ <;>
    rcases numberIn_cases wf found y with ⟨old', mem', idx'⟩ | ⟨new', eq'⟩
  · rw [← idx, ← idx', same]
  · have := lt_fresh_of_form wf found mem
    omega
  · have := lt_fresh_of_form wf found mem'
    omega
  · omega

theorem numberIn_not_mem {ys : List Nat} (apart : ∀ y ∈ ys, y ∉ n.ids) (old : ∀ y ∈ ys, y < d.fresh)
    (x : Nat) : d.numberIn n x ∉ ys := by
  intro member
  have length := length_form_le wf found
  have lt := old _ member
  rcases numberIn_cases wf found x with ⟨-, inside, -⟩ | ⟨new, eq⟩
  · exact apart _ member inside
  · omega

omit wf found in
theorem numberIn_idxOf {x : Nat} (hx : x ∈ n.ids) : d.numberIn n (n.ids.idxOf x) = x := by
  rw [numberIn, List.getElem?_idxOf hx, Option.getD_some]

end Numbers

/-- Where a form stands in a page: what is around it is apart from it. -/
structure Standing (d : Document) (n : Node) where
  frame : Frame
  next : Forest
  tree : d.tree = frame.plug (.cons n.label n.text n.children n.tail next)
  within : ∀ l t c tail inner, frame ≠ .behind l t c tail inner
  frame_apart : ∀ y ∈ frame.ids, y ∉ n.ids
  next_apart : ∀ y ∈ next.ids, y ∉ n.ids
  old : ∀ y, y ∈ frame.ids ∨ y ∈ next.ids ∨ y ∈ d.loose.ids → y < d.fresh

theorem mem_ids_node {y : Nat} : y ∈ n.ids ↔ y = n.label.id ∨ y ∈ n.children.ids := by
  rw [Node.ids, Node.labels, List.map_cons, List.mem_cons]
  rfl

/-- A form in a page of one outermost element stands somewhere in it. -/
theorem exists_standing (wf : d.WellFormed) (rooted : ∃ root, d.tree.tops = [root])
    (found : d.tree.find? form = some n) : Nonempty (d.Standing n) := by
  have inside : form ∈ d.tree.ids := Forest.find?_isSome.1 (Option.isSome_of_eq_some found)
  obtain ⟨K, l, t, c, tail, next, tree, rfl, outside⟩ := Frame.exists_plug wf.nodup_tree inside
  rw [tree, Frame.find?_plug outside, Forest.find?_here rfl, Option.some.injEq] at found
  subst found
  have nodup := wf.nodup_tree
  rw [tree, (K.perm_ids_plug _).nodup_iff, List.nodup_append] at nodup
  obtain ⟨-, nodup, apart⟩ := nodup
  obtain ⟨-, other, -, -, later⟩ := Forest.nodup_cons nodup
  refine ⟨⟨K, next, tree, ?_, fun y hy inside => ?_, fun y hy inside => ?_, fun y hy => ?_⟩⟩
  · rintro l' t' c' tail' inner rfl
    obtain ⟨root, tops⟩ := rooted
    rw [tree, Frame.plug, Forest.tops, List.cons.injEq] at tops
    have inside : l.id ∈ (inner.plug (.cons l t c tail next)).ids :=
      Frame.mem_ids_plug.2 (.inr List.mem_cons_self)
    rw [Forest.eq_nil_of_tops tops.2] at inside
    cases inside
  · refine apart y hy y ?_ rfl
    rw [Forest.ids_cons, List.mem_cons, List.mem_append]
    exact (mem_ids_node.1 inside).imp_right .inl
  · rcases mem_ids_node.1 inside with rfl | below
    · exact other hy
    · exact later y below hy
  · have member : y ∈ d.labels.map (·.id) := by
      show y ∈ (d.tree.labels ++ d.loose.labels).map (·.id)
      rw [List.map_append, List.mem_append]
      rcases hy with around | behind | loose
      · exact .inl (tree ▸ Frame.mem_ids_plug.2 (.inl around))
      · refine .inl (tree ▸ Frame.mem_ids_plug.2 (.inr ?_))
        rw [Forest.ids_cons, List.mem_cons, List.mem_append]
        exact .inr (.inr behind)
      · exact .inr loose
    obtain ⟨l', hl', rfl⟩ := List.mem_map.1 member
    exact wf.fresh l' hl'

section Embedded

variable (wf : d.WellFormed) (found : d.tree.find? form = some n) (S : d.Standing n)
include wf found

/-- The page around a form, with the numbers that the elements of the form have in it. -/
def Standing.embedding : Embedding where
  frame := S.frame
  tail := n.tail
  next := S.next
  page := d
  number := d.numberIn n
  start := n.ids.length
  shift := d.fresh - n.ids.length
  within := S.within
  injective := numberIn_injective wf found
  later x new := by
    rcases numberIn_cases wf found x with ⟨old, -⟩ | ⟨-, eq⟩
    · omega
    · exact eq
  frame_apart := numberIn_not_mem wf found S.frame_apart fun y hy => S.old y (.inl hy)
  next_apart := numberIn_not_mem wf found S.next_apart fun y hy => S.old y (.inr (.inl hy))
  loose_apart := by
    refine numberIn_not_mem wf found (fun y hy inside => ?_) fun y hy => S.old y (.inr (.inr hy))
    refine wf.apart (S.tree ▸ Frame.mem_ids_plug.2 (.inr ?_)) hy
    rw [Forest.ids_cons, List.mem_cons, List.mem_append]
    exact (mem_ids_node.1 inside).imp_right .inl

theorem Standing.image_asPage : (S.embedding wf found).image n.asPage = d := by
  have back (l : Label) (hl : l ∈ n.labels) :
      (S.embedding wf found).label (n.placed l) = l := by
    have number : d.numberIn n (n.ids.idxOf l.id) = l.id := numberIn_idxOf (List.mem_map_of_mem hl)
    exact congrArg (fun i => Label.mk i l.tag l.attributes) number
  have below : (n.children.relabel n.placed).relabel (S.embedding wf found).label =
      n.children := by
    rw [Forest.relabel_relabel]
    exact Forest.relabel_self fun l hl => back l (List.mem_cons_of_mem _ hl)
  have stand : (S.embedding wf found).stand n.asPage.tree =
      .cons n.label n.text n.children n.tail S.next :=
    congrArg₂ (fun l c => Forest.cons l n.text c n.tail S.next) (back n.label List.mem_cons_self) below
  have fresh : d.numberIn n n.ids.length = d.fresh := by
    rw [numberIn, List.getElem?_eq_none (Nat.le_refl _), Option.getD_none, Nat.sub_self, Nat.zero_add]
  show { d with
    tree := S.frame.plug ((S.embedding wf found).stand n.asPage.tree)
    loose := d.loose.append .nil
    fresh := d.numberIn n n.ids.length } = d
  rw [stand, ← S.tree, Forest.append_nil, fresh]

theorem Standing.tree_image {d' : Document} {l : Label} {t : String} {c : Forest}
    (single : d'.tree = .cons l t c "" .nil) :
    ((S.embedding wf found).image d').tree =
      d.tree.replace form ((S.embedding wf found).node ⟨l, t, c, ""⟩) := by
  have here : n.label.id = form := Forest.find?_id found
  have outside : form ∉ S.frame.ids := by
    intro around
    exact S.frame_apart form around (mem_ids_node.2 (.inl here.symm))
  show S.frame.plug ((S.embedding wf found).stand d'.tree) = _
  rw [single, S.tree, Frame.replace_plug outside, Forest.replace, if_pos here]
  rfl

omit S in
theorem alone_of_form : n.asPage.Alone n.ids.length := by
  have labels : n.asPage.labels = n.labels.map n.placed := by
    rw [← n.labels_numbered]
    show (n.numbered.label :: (n.numbered.children.labels ++ [])) ++ [] = _
    rw [List.append_nil, List.append_nil]
    rfl
  have ids : n.asPage.labels.map (·.id) = n.ids.map (n.ids.idxOf ·) := by
    rw [labels, List.map_map, Node.ids, List.map_map]
    rfl
  refine ⟨⟨?_, fun l hl => ?_⟩, ⟨_, _, _, rfl, n.numbered_id⟩, Nat.le_refl _⟩
  · rw [ids]
    exact (nodup_form wf found).map_on fun x hx y _ same => (List.idxOf_inj hx).1 same
  · rw [labels] at hl
    obtain ⟨l', hl', rfl⟩ := List.mem_map.1 hl
    exact List.idxOf_lt_length_of_mem (List.mem_map_of_mem hl')

end Embedded

end Document

end FormGate
