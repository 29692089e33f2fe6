import FormGate.Proofs.Markup.Forest
import Mathlib.Tactic.Tauto

/-!
# Forests with a place left open

A frame is a forest in which a place is left open, from which on all elements below one parent are
missing. An edit of an element in what is plugged in there leaves the frame alone, and what can be
seen elsewhere of a change in there is little: two forests plugged into one frame look the same as
far as the two look the same by themselves.
-/

namespace FormGate.Markup

/-- A forest with a place left open: the place itself, below its first element, or after it. -/
inductive Frame
  | here
  | inside (label : Label) (text : String) (inner : Frame) (tail : String) (next : Forest)
  | behind (label : Label) (text : String) (children : Forest) (tail : String) (inner : Frame)
  deriving DecidableEq, Repr

namespace Frame

/-- The forest with all that was missing from the open place on. -/
def plug : Frame → Forest → Forest
  | here, f => f
  | inside l t inner tail next, f => .cons l t (inner.plug f) tail next
  | behind l t c tail inner, f => .cons l t c tail (inner.plug f)

def ids : Frame → List Nat
  | here => []
  | inside l _ inner _ next => l.id :: (inner.ids ++ next.ids)
  | behind l _ c _ inner => l.id :: (c.ids ++ inner.ids)

/-- The parent of the open place, in a frame below `owner`. -/
def owner : Frame → Nat → Nat
  | here, o => o
  | inside l _ inner _ _, _ => inner.owner l.id
  | behind _ _ _ _ inner, o => inner.owner o

/-- One frame in the open place of another. -/
def comp : Frame → Frame → Frame
  | here, k => k
  | inside l t inner tail next, k => inside l t (inner.comp k) tail next
  | behind l t c tail inner, k => behind l t c tail (inner.comp k)

attribute [local simp] plug ids owner comp

theorem plug_comp (K k : Frame) (f : Forest) : (K.comp k).plug f = K.plug (k.plug f) := by
  induction K with
  | here => rfl
  | inside l t inner tail next ih => rw [comp, plug, plug, ih]
  | behind l t c tail inner ih => rw [comp, plug, plug, ih]

theorem mem_ids_plug {K : Frame} {f : Forest} {x : Nat} :
    x ∈ (K.plug f).ids ↔ x ∈ K.ids ∨ x ∈ f.ids := by
  induction K with
  | here => simp [plug, ids]
  | inside l t inner tail next ih =>
    simp only [plug, ids, Forest.ids_cons, List.mem_cons, List.mem_append, ih]
    tauto
  | behind l t c tail inner ih =>
    simp only [plug, ids, Forest.ids_cons, List.mem_cons, List.mem_append, ih]
    tauto

theorem perm_ids_plug (K : Frame) (f : Forest) : (K.plug f).ids.Perm (K.ids ++ f.ids) := by
  refine List.perm_iff_count.2 fun x => ?_
  rw [List.count_append]
  induction K with
  | here => simp [plug, ids]
  | inside l t inner tail next ih =>
    simp only [plug, ids, Forest.ids_cons, List.count_cons, List.count_append]
    omega
  | behind l t c tail inner ih =>
    simp only [plug, ids, Forest.ids_cons, List.count_cons, List.count_append]
    omega

theorem nodes_subset_plug (K : Frame) (f : Forest) : f.nodes ⊆ (K.plug f).nodes := by
  induction K with
  | here => exact List.Subset.refl _
  | inside l t inner tail next ih =>
    exact fun a ha => List.mem_cons_of_mem _ (List.mem_append_left _ (ih ha))
  | behind l t c tail inner ih =>
    exact fun a ha => List.mem_cons_of_mem _ (List.mem_append_right _ (ih ha))

theorem labels_subset_plug (K : Frame) (f : Forest) : f.labels ⊆ (K.plug f).labels := by
  rw [← Forest.map_label_nodes, ← Forest.map_label_nodes]
  exact List.map_subset _ (K.nodes_subset_plug f)

/-- An element of a forest of distinct numbers stands in some frame, which does not have its
number. -/
theorem exists_plug {f : Forest} {x : Nat} (nodup : f.ids.Nodup) (h : x ∈ f.ids) :
    ∃ K l t c tail next, f = plug K (.cons l t c tail next) ∧ l.id = x ∧ x ∉ K.ids := by
  induction f with
  | nil => cases h
  | cons l t c tail next ihc ih =>
    obtain ⟨herec, heren, nodupc, nodupn, apart⟩ := Forest.nodup_cons nodup
    rw [Forest.ids_cons, List.mem_cons, List.mem_append] at h
    rcases h with rfl | h | h
    · exact ⟨here, l, t, c, tail, next, rfl, rfl, by simp [ids]⟩
    · obtain ⟨K, l', t', c', tail', next', rfl, id, absent⟩ := ihc nodupc h
      refine ⟨inside l t K tail next, l', t', c', tail', next', rfl, id, ?_⟩
      have ne : x ≠ l.id := by
        rintro rfl
        exact herec h
      simp [ids, absent, apart x h, ne]
    · obtain ⟨K, l', t', c', tail', next', rfl, id, absent⟩ := ih nodupn h
      refine ⟨behind l t c tail K, l', t', c', tail', next', rfl, id, ?_⟩
      have ne : x ≠ l.id := by
        rintro rfl
        exact heren h
      have below : x ∉ c.ids := fun m => apart x m h
      simp [ids, absent, below, ne]

/-! ## Elements in the open place -/

section Inside

variable {x : Nat} {K : Frame} (h : x ∉ K.ids) (f : Forest)
include h

theorem find?_plug : (K.plug f).find? x = f.find? x := by
  induction K with
  | here => rfl
  | inside l t inner tail next ih =>
    simp only [ids, List.mem_cons, List.mem_append, not_or] at h
    rw [plug, Forest.find?, if_neg (Ne.symm h.1), ih h.2.1, Forest.find?_of_not_mem h.2.2,
      Option.or_none]
  | behind l t c tail inner ih =>
    simp only [ids, List.mem_cons, List.mem_append, not_or] at h
    rw [plug, Forest.find?, if_neg (Ne.symm h.1), ih h.2.2, Forest.find?_of_not_mem h.2.1,
      Option.none_or]

theorem following?_plug : (K.plug f).following? x = f.following? x := by
  induction K with
  | here => rfl
  | inside l t inner tail next ih =>
    simp only [ids, List.mem_cons, List.mem_append, not_or] at h
    rw [plug, Forest.following?, if_neg (Ne.symm h.1), ih h.2.1,
      Forest.following?_of_not_mem h.2.2, Option.or_none]
  | behind l t c tail inner ih =>
    simp only [ids, List.mem_cons, List.mem_append, not_or] at h
    rw [plug, Forest.following?, if_neg (Ne.symm h.1), ih h.2.2,
      Forest.following?_of_not_mem h.2.1, Option.none_or]

theorem parent?_plug (o : Nat) : (K.plug f).parent? x o = f.parent? x (K.owner o) := by
  induction K generalizing o with
  | here => rfl
  | inside l t inner tail next ih =>
    simp only [ids, List.mem_cons, List.mem_append, not_or] at h
    rw [plug, Forest.parent?, if_neg (Ne.symm h.1), ih h.2.1, Forest.parent?_of_not_mem h.2.2,
      Option.or_none]
    rfl
  | behind l t c tail inner ih =>
    simp only [ids, List.mem_cons, List.mem_append, not_or] at h
    rw [plug, Forest.parent?, if_neg (Ne.symm h.1), ih h.2.2, Forest.parent?_of_not_mem h.2.1,
      Option.none_or]
    rfl

theorem modify_plug (k : Label → Label) : (K.plug f).modify x k = K.plug (f.modify x k) := by
  induction K with
  | here => rfl
  | inside l t inner tail next ih =>
    simp only [ids, List.mem_cons, List.mem_append, not_or] at h
    rw [plug, Forest.modify, if_neg (Ne.symm h.1), ih h.2.1, Forest.modify_of_not_mem h.2.2, plug]
  | behind l t c tail inner ih =>
    simp only [ids, List.mem_cons, List.mem_append, not_or] at h
    rw [plug, Forest.modify, if_neg (Ne.symm h.1), ih h.2.2, Forest.modify_of_not_mem h.2.1, plug]

theorem fill_plug (text : String) (children : Forest) :
    Forest.fill x text children (K.plug f) = K.plug (Forest.fill x text children f) := by
  induction K with
  | here => rfl
  | inside l t inner tail next ih =>
    simp only [ids, List.mem_cons, List.mem_append, not_or] at h
    rw [plug, Forest.fill, if_neg (Ne.symm h.1), ih h.2.1, Forest.fill_of_not_mem h.2.2, plug]
  | behind l t c tail inner ih =>
    simp only [ids, List.mem_cons, List.mem_append, not_or] at h
    rw [plug, Forest.fill, if_neg (Ne.symm h.1), ih h.2.2, Forest.fill_of_not_mem h.2.1, plug]

theorem insertAfter_plug (n : Node) :
    (K.plug f).insertAfter x n = K.plug (f.insertAfter x n) := by
  induction K with
  | here => rfl
  | inside l t inner tail next ih =>
    simp only [ids, List.mem_cons, List.mem_append, not_or] at h
    rw [plug, Forest.insertAfter, if_neg (Ne.symm h.1), ih h.2.1,
      Forest.insertAfter_of_not_mem h.2.2, plug]
  | behind l t c tail inner ih =>
    simp only [ids, List.mem_cons, List.mem_append, not_or] at h
    rw [plug, Forest.insertAfter, if_neg (Ne.symm h.1), ih h.2.2,
      Forest.insertAfter_of_not_mem h.2.1, plug]

/-- An element that does not come first in the open place is cut out without a trace before it. -/
theorem cut_plug (within : (f.cut x).1 = "") :
    (K.plug f).cut x = ("", K.plug (f.cut x).2) := by
  induction K with
  | here => exact Prod.ext within rfl
  | inside l t inner tail next ih =>
    simp only [ids, List.mem_cons, List.mem_append, not_or] at h
    rw [plug, Forest.cut, if_neg (Ne.symm h.1), ih h.2.1, Forest.cut_of_not_mem h.2.2]
    simp [plug]
  | behind l t c tail inner ih =>
    simp only [ids, List.mem_cons, List.mem_append, not_or] at h
    rw [plug, Forest.cut, if_neg (Ne.symm h.1), ih h.2.2, Forest.cut_of_not_mem h.2.1]
    simp [plug]

end Inside

/-! ## Elements in the frame -/

section Outside

variable {β : Type} {f f' : Forest}

/-- What can be seen of an element in two forests with the same frame. -/
theorem map_find?_plug {look : Node → β}
    (below : ∀ l t (k : Frame) tail, look ⟨l, t, k.plug f', tail⟩ = look ⟨l, t, k.plug f, tail⟩)
    {x : Nat} (h : (f'.find? x).map look = (f.find? x).map look) (K : Frame) :
    ((K.plug f').find? x).map look = ((K.plug f).find? x).map look := by
  induction K with
  | here => exact h
  | inside l t inner tail next ih =>
    rw [plug, plug, Forest.find?, Forest.find?]
    by_cases this : l.id = x
    · rw [if_pos this, if_pos this, Option.map_some, Option.map_some, below]
    · rw [if_neg this, if_neg this, Option.map_or, Option.map_or, ih]
  | behind l t c tail inner ih =>
    rw [plug, plug, Forest.find?, Forest.find?]
    by_cases this : l.id = x
    · rw [if_pos this, if_pos this]
    · rw [if_neg this, if_neg this, Option.map_or, Option.map_or, ih]

/-- What can be seen behind an element in two forests with the same frame. -/
theorem map_following?_plug {look : Forest → β}
    (same : ∀ k : Frame, look (k.plug f') = look (k.plug f)) {x : Nat}
    (h : (f'.following? x).map look = (f.following? x).map look) (K : Frame) :
    ((K.plug f').following? x).map look = ((K.plug f).following? x).map look := by
  induction K with
  | here => exact h
  | inside l t inner tail next ih =>
    rw [plug, plug, Forest.following?, Forest.following?]
    by_cases this : l.id = x
    · rw [if_pos this, if_pos this]
    · rw [if_neg this, if_neg this, Option.map_or, Option.map_or, ih]
  | behind l t c tail inner ih =>
    rw [plug, plug, Forest.following?, Forest.following?]
    by_cases this : l.id = x
    · rw [if_pos this, if_pos this, Option.map_some, Option.map_some, same]
    · rw [if_neg this, if_neg this, Option.map_or, Option.map_or, ih]

theorem parent?_plug_congr {x : Nat} (same : ∀ o, f'.parent? x o = f.parent? x o) (K : Frame)
    (o : Nat) : (K.plug f').parent? x o = (K.plug f).parent? x o := by
  induction K generalizing o with
  | here => exact same o
  | inside l t inner tail next ih => rw [plug, plug, Forest.parent?, Forest.parent?, ih]
  | behind l t c tail inner ih => rw [plug, plug, Forest.parent?, Forest.parent?, ih]

/-- What the labels of a kind say, in order, in two forests with the same frame. -/
theorem map_filter_labels_plug {p : Label → Bool} {look : Label → β}
    (same : (f'.labels.filter p).map look = (f.labels.filter p).map look) (K : Frame) :
    ((K.plug f').labels.filter p).map look = ((K.plug f).labels.filter p).map look := by
  induction K with
  | here => exact same
  | inside l t inner tail next ih =>
    simp only [plug, Forest.labels, List.filter_cons, List.filter_append]
    split_ifs <;> simp [ih]
  | behind l t c tail inner ih =>
    simp only [plug, Forest.labels, List.filter_cons, List.filter_append]
    split_ifs <;> simp [ih]

/-- What holds of all elements of a forest holds of those of another with the same frame, if it holds
of the elements around the open place and in it. -/
theorem forall_nodes_plug {P : Node → Prop}
    (around : ∀ l t (k : Frame) tail, P ⟨l, t, k.plug f, tail⟩ → P ⟨l, t, k.plug f', tail⟩)
    {K : Frame} (h : ∀ n ∈ (K.plug f).nodes, P n)
    (within : (∀ n ∈ f.nodes, P n) → ∀ n ∈ f'.nodes, P n) : ∀ n ∈ (K.plug f').nodes, P n := by
  induction K with
  | here => exact within h
  | inside l t inner tail next ih =>
    simp only [plug, Forest.nodes, List.forall_mem_cons, List.forall_mem_append] at h ⊢
    exact ⟨around l t inner tail h.1, ih h.2.1, h.2.2⟩
  | behind l t c tail inner ih =>
    simp only [plug, Forest.nodes, List.forall_mem_cons, List.forall_mem_append] at h ⊢
    exact ⟨h.1, h.2.1, ih h.2.2⟩

end Outside

end Frame

end FormGate.Markup
