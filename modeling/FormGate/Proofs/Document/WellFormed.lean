import FormGate.Proofs.Document.Edit
import FormGate.Proofs.Markup.Forest
import FormGate.Proofs.Markup.Label
import Mathlib.Data.List.Forall2
import Mathlib.Data.List.Nodup
import Mathlib.Data.List.Perm.Subperm

/-!
# Well-formed pages

In a well-formed page no two elements have the same number, in the page or taken out, and the
numbers from `fresh` on are free. Every call to the host keeps a page well-formed. It also keeps
every element somewhere, and of its attributes it changes at most those that tell a value, a class or
a state (`Document.written`).
-/

namespace FormGate

open Markup

/-- The attributes that calls to the host change. -/
def Document.written : List String :=
  ["class", "value", "selected", "disabled"]

/-- Two labels of one element that differ at most by what calls to the host change. -/
structure Markup.Label.Kin (l l' : Label) : Prop where
  id : l'.id = l.id
  get? : ∀ a, a ∉ Document.written → l'.get? a = l.get? a

namespace Markup.Label.Kin

theorem refl (l : Label) : Kin l l := ⟨rfl, fun _ _ => rfl⟩

theorem trans {a b c : Label} (h : Kin a b) (h' : Kin b c) : Kin a c :=
  ⟨h'.id.trans h.id, fun name hn => (h'.get? name hn).trans (h.get? name hn)⟩

theorem set (l : Label) {a : String} (value : String) (h : a ∈ Document.written) :
    Kin l (l.set a value) :=
  ⟨rfl, fun _ hb => Label.get?_set_of_ne value fun e => hb (e ▸ h)⟩

theorem erase (l : Label) {a : String} (h : a ∈ Document.written) : Kin l (l.erase a) :=
  ⟨rfl, fun _ hb => Label.get?_erase_of_ne fun e => hb (e ▸ h)⟩

theorem ids {ls ls' : List Label} (h : List.Forall₂ Kin ls ls') :
    ls'.map (·.id) = ls.map (·.id) := by
  induction h with
  | nil => rfl
  | cons kin _ ih => rw [List.map_cons, List.map_cons, kin.id, ih]

theorem exists_of_mem {ls ls' : List Label} {l : Label} (h : List.Forall₂ Kin ls ls')
    (hl : l ∈ ls) : ∃ l' ∈ ls', Kin l l' := by
  induction h with
  | nil => cases hl
  | cons kin _ ih =>
    rcases List.mem_cons.1 hl with rfl | hl
    · exact ⟨_, List.mem_cons_self, kin⟩
    · obtain ⟨l', hl', kin⟩ := ih hl
      exact ⟨l', List.mem_cons_of_mem _ hl', kin⟩

theorem exists_old_of_mem {ls ls' : List Label} {l' : Label} (h : List.Forall₂ Kin ls ls')
    (hl : l' ∈ ls') : ∃ l ∈ ls, Kin l l' := by
  induction h with
  | nil => cases hl
  | cons kin _ ih =>
    rcases List.mem_cons.1 hl with rfl | hl
    · exact ⟨_, List.mem_cons_self, kin⟩
    · obtain ⟨l, hl, kin⟩ := ih hl
      exact ⟨l, List.mem_cons_of_mem _ hl, kin⟩

theorem map {k : Label → Label} (hk : ∀ l, Kin l (k l)) (ls : List Label) :
    List.Forall₂ Kin ls (ls.map k) := by
  induction ls with
  | nil => exact .nil
  | cons l ls ih => exact .cons (hk l) ih

theorem self (ls : List Label) : List.Forall₂ Kin ls ls := by
  simpa using map refl ls

end Markup.Label.Kin

namespace Document

open Markup.Label (Kin)

/-- The labels of all elements, in the page and taken out. -/
def labels (d : Document) : List Label :=
  d.tree.labels ++ d.loose.labels

theorem node?_id {d : Document} {e : Element} {n : Node} (h : d.node? e = some n) :
    n.label.id = e := by
  rcases Option.or_eq_some_iff.1 h with h | ⟨-, h⟩ <;> exact Forest.find?_id h

theorem mem_labels {d : Document} {e : Element} {n : Node} (h : d.node? e = some n) :
    n.label ∈ d.labels := by
  have first : n.label ∈ n.labels := by simp [Node.labels]
  rcases Option.or_eq_some_iff.1 h with h | ⟨-, h⟩
  · exact List.mem_append_left _ ((Forest.labels_of_find? h).subset first)
  · exact List.mem_append_right _ ((Forest.labels_of_find? h).subset first)

theorem exists_node {d : Document} {l : Label} (h : l ∈ d.labels) : ∃ n, d.node? l.id = some n := by
  rw [← Option.isSome_iff_exists, node?, Option.isSome_or, Bool.or_eq_true, Forest.find?_isSome,
    Forest.find?_isSome]
  exact (List.mem_append.1 h).imp Forest.id_mem_ids Forest.id_mem_ids

/-- Distinct elements have distinct numbers, all below the free ones. -/
structure WellFormed (d : Document) : Prop where
  nodup : (d.labels.map (·.id)).Nodup
  fresh : ∀ l ∈ d.labels, l.id < d.fresh

instance (d : Document) : Decidable d.WellFormed :=
  decidable_of_iff ((d.labels.map (·.id)).Nodup ∧ ∀ l ∈ d.labels, l.id < d.fresh)
    ⟨fun h => ⟨h.1, h.2⟩, fun h => ⟨h.nodup, h.fresh⟩⟩

namespace WellFormed

variable {d : Document} (h : d.WellFormed)
include h

theorem nodup_tree : d.tree.ids.Nodup := by
  have := h.nodup
  rw [labels, List.map_append] at this
  exact (List.nodup_append.1 this).1

theorem nodup_loose : d.loose.ids.Nodup := by
  have := h.nodup
  rw [labels, List.map_append] at this
  exact (List.nodup_append.1 this).2.1

theorem apart {e : Element} (tree : e ∈ d.tree.ids) : e ∉ d.loose.ids := by
  have := h.nodup
  rw [labels, List.map_append] at this
  exact fun loose => (List.nodup_append.1 this).2.2 e tree e loose rfl

theorem unique {l l' : Label} (hl : l ∈ d.labels) (hl' : l' ∈ d.labels) (id : l.id = l'.id) :
    l = l' :=
  List.inj_on_of_nodup_map h.nodup hl hl' id

theorem label?_eq_some {e : Element} {l : Label} :
    d.label? e = some l ↔ l ∈ d.labels ∧ l.id = e := by
  constructor
  · intro label
    obtain ⟨n, found, rfl⟩ := Option.map_eq_some_iff.1 label
    exact ⟨mem_labels found, node?_id found⟩
  · rintro ⟨hl, rfl⟩
    obtain ⟨n, found⟩ := exists_node hl
    have same := h.unique (mem_labels found) hl (node?_id found)
    rw [label?, found, Option.map_some, same]

end WellFormed

/-- A page that came about from another one: it is well-formed if that was, and still has every
element of it, with a label that is kin to the old one. -/
def Descends (d d' : Document) : Prop :=
  d.WellFormed → d'.WellFormed ∧ d.fresh ≤ d'.fresh ∧ ∀ l ∈ d.labels, ∃ l' ∈ d'.labels, Kin l l'

namespace Descends

theorem refl (d : Document) : Descends d d := fun h =>
  ⟨h, Nat.le_refl _, fun l hl => ⟨l, hl, Kin.refl l⟩⟩

theorem trans {a b c : Document} (h : Descends a b) (h' : Descends b c) : Descends a c := by
  intro wellFormed
  obtain ⟨wellFormed, fresh, kin⟩ := h wellFormed
  obtain ⟨wellFormed', fresh', kin'⟩ := h' wellFormed
  refine ⟨wellFormed', Nat.le_trans fresh fresh', fun l hl => ?_⟩
  obtain ⟨l', hl', first⟩ := kin l hl
  obtain ⟨l'', hl'', second⟩ := kin' l' hl'
  exact ⟨l'', hl'', first.trans second⟩

/-- The labels are the old ones or kin to them, except for some of free numbers. -/
theorem of_perm {d d' : Document} (news : List Label) {old kept : List Label} (before : d.labels.Perm old)
    (kin : List.Forall₂ Kin old kept) (after : d'.labels.Perm (kept ++ news))
    (nodup : (news.map (·.id)).Nodup) (free : ∀ l ∈ news, d.fresh ≤ l.id ∧ l.id < d'.fresh)
    (fresh : d.fresh ≤ d'.fresh) : Descends d d' := by
  intro h
  have kept_lt : ∀ i ∈ kept.map (·.id), i < d.fresh := by
    intro i hi
    rw [Kin.ids kin] at hi
    obtain ⟨l, hl, rfl⟩ := List.mem_map.1 hi
    exact h.fresh l (before.mem_iff.2 hl)
  refine ⟨⟨?_, ?_⟩, fresh, ?_⟩
  · rw [(after.map _).nodup_iff, List.map_append, List.nodup_append, Kin.ids kin]
    refine ⟨(before.map _).nodup_iff.1 h.nodup, nodup, ?_⟩
    rintro i hi j hj rfl
    obtain ⟨l, hl, rfl⟩ := List.mem_map.1 hj
    have := kept_lt l.id (Kin.ids kin ▸ hi)
    have := (free l hl).1
    omega
  · intro l hl
    rcases List.mem_append.1 (after.mem_iff.1 hl) with hl | hl
    · exact Nat.lt_of_lt_of_le (kept_lt l.id (List.mem_map_of_mem hl)) fresh
    · exact (free l hl).2
  · intro l hl
    obtain ⟨l', hl', k⟩ := Kin.exists_of_mem kin (before.mem_iff.1 hl)
    exact ⟨l', after.mem_iff.2 (List.mem_append_left _ hl'), k⟩

theorem of_same {d d' : Document} (labels : d'.labels.Perm d.labels)
    (fresh : d'.fresh = d.fresh) : Descends d d' :=
  of_perm [] (.refl _) (Kin.self d.labels) (by simpa using labels) List.nodup_nil
    (by simp) (Nat.le_of_eq fresh.symm)

end Descends

/-! ## Single edits -/

section Edits

variable {d : Document} {e : Element}

theorem labels_modifyLabel (d : Document) (e : Element) (k : Label → Label) :
    (d.modifyLabel e k).labels = d.labels.map fun l => if l.id = e then k l else l := by
  simp [labels, modifyLabel, mapForests, Forest.labels_modify]

theorem descends_modifyLabel (d : Document) (e : Element) {k : Label → Label}
    (hk : ∀ l, Kin l (k l)) : Descends d (d.modifyLabel e k) := by
  refine .of_perm [] (.refl _) (Kin.map (k := fun l => if l.id = e then k l else l) ?_ _)
    ?_ List.nodup_nil (by simp) (Nat.le_refl _)
  · intro l
    split_ifs
    · exact hk l
    · exact Kin.refl l
  · rw [List.append_nil, labels_modifyLabel]

/-- Filling an element puts the labels of its new children in for those of the old ones. -/
theorem labels_fill (h : d.WellFormed) {n : Node} (found : d.node? e = some n) (text : String)
    (children : Forest) :
    ((d.mapForests (Forest.fill e text children)).labels ++ n.children.labels).Perm
      (d.labels ++ children.labels) := by
  refine List.perm_iff_count.2 fun a => ?_
  simp only [labels, mapForests, List.count_append]
  rcases Option.or_eq_some_iff.1 found with found | ⟨absent, found⟩
  · have tree : e ∈ d.tree.ids := Forest.find?_isSome.1 (Option.isSome_of_eq_some found)
    have := Forest.count_fill h.nodup_tree found text children a
    rw [Forest.fill_of_not_mem (h.apart tree)]
    omega
  · have := Forest.count_fill h.nodup_loose found text children a
    rw [Forest.fill_of_not_mem (Forest.not_mem_of_find?_eq_none absent)]
    omega

theorem fill_of_absent (absent : d.node? e = none) (text : String) (children : Forest) :
    d.mapForests (Forest.fill e text children) = d := by
  obtain ⟨tree, loose⟩ := Option.or_eq_none_iff.1 absent
  rw [mapForests, Forest.fill_of_not_mem (Forest.not_mem_of_find?_eq_none tree),
    Forest.fill_of_not_mem (Forest.not_mem_of_find?_eq_none loose)]

/-- What an element held is taken out when text is put in its place. -/
theorem labels_setText (h : d.WellFormed) (e : Element) (text : String) :
    (d.setText e text).labels.Perm d.labels := by
  cases found : d.node? e with
  | none =>
    rw [setText, found, fill_of_absent found]
    simp [labels]
  | some n =>
    have := labels_fill h found text .nil
    simp only [labels, Forest.labels, List.append_nil] at this
    simpa [setText, found, labels] using this

theorem descends_setText (d : Document) (e : Element) (text : String) :
    Descends d (d.setText e text) := by
  intro h
  exact Descends.of_same (labels_setText h e text) rfl h

theorem kin_chooseOption (value : String) (l : Label) (text : String) (children : Forest) :
    Kin l (chooseOption value l text children) := by
  unfold chooseOption
  split_ifs
  · exact Kin.set l _ (by simp [written])
  · exact Kin.erase l (by simp [written])
  · exact Kin.refl l

theorem descends_setValue (d : Document) (e : Element) (value : String) :
    Descends d (d.setValue e value) := by
  unfold setValue
  cases found : d.node? e with
  | none => exact Descends.refl d
  | some n =>
    dsimp only
    split
    · exact descends_setText d e value
    · intro h
      have filled := labels_fill h found n.text (n.children.mapLabels (chooseOption value))
      have held : n.children.labels.Sublist d.labels := by
        have inside : n.children.labels.Sublist n.labels := List.sublist_cons_self _ _
        rcases Option.or_eq_some_iff.1 found with found | ⟨-, found⟩
        · have := inside.trans (Forest.labels_of_find? found).sublist
          exact this.trans (List.sublist_append_left _ _)
        · have := inside.trans (Forest.labels_of_find? found).sublist
          exact this.trans (List.sublist_append_right _ _)
      obtain ⟨others, split⟩ := held.exists_perm_append
      have chosen := Forest.forall₂_mapLabels (kin_chooseOption value) n.children
      refine Descends.of_perm [] split (List.rel_append chosen (Kin.self others)) ?_
        List.nodup_nil (by simp) (Nat.le_refl _) h
      refine List.perm_iff_count.2 fun a => ?_
      have counted := List.perm_iff_count.1 filled a
      have counted' := List.perm_iff_count.1 split a
      simp only [List.count_append, List.count_nil] at counted counted' ⊢
      omega
    · exact descends_modifyLabel d e fun l => Kin.set l value (by simp [written])

/-! ## Lines and feedback -/

theorem ids_breaks (tag : Tag) (fresh : Nat) (lines : List String) :
    (breaks tag fresh lines).ids = List.range' fresh lines.length := by
  induction lines generalizing fresh with
  | nil => rfl
  | cons line lines ih => simp [breaks, ih, List.range'_succ]

/-- There are no line breaks for a single line, and else one for every line but the first. -/
theorem breaksIn_eq_ok {tag : Tag} {fresh : Nat} {lines : List String} {f : Forest}
    (h : breaksIn tag fresh lines = .ok f) :
    (lines.length ≤ 1 ∧ f = .nil) ∨
      ∃ space, tag.space = .ok space ∧ f = breaks (.element (space ++ "br")) fresh (lines.drop 1) := by
  unfold breaksIn at h
  split_ifs at h with short
  · cases h
    exact .inl ⟨short, rfl⟩
  · cases spaced : tag.space with
    | error e => rw [spaced] at h; cases h
    | ok space =>
      rw [spaced] at h
      cases h
      exact .inr ⟨space, rfl, rfl⟩

theorem ids_breaksIn {tag : Tag} {fresh : Nat} {lines : List String} {f : Forest}
    (h : breaksIn tag fresh lines = .ok f) : f.ids = List.range' fresh f.labels.length := by
  rcases breaksIn_eq_ok h with ⟨-, rfl⟩ | ⟨space, -, rfl⟩
  · rfl
  · have ids := ids_breaks (.element (space ++ "br")) fresh (lines.drop 1)
    have length := congrArg List.length ids
    rw [Forest.ids, List.length_map, List.length_range'] at length
    rw [length]
    exact ids

theorem free_of_ids {f : Forest} {fresh n : Nat} (ids : f.ids = List.range' fresh n) :
    (f.labels.map (·.id)).Nodup ∧ ∀ l ∈ f.labels, fresh ≤ l.id ∧ l.id < fresh + n := by
  constructor
  · show f.ids.Nodup
    rw [ids]
    exact List.nodup_range'
  · intro l hl
    have := Forest.id_mem_ids hl
    rw [ids, List.mem_range'_1] at this
    exact this

theorem node?_setText {n : Node} (found : d.node? e = some n) (text : String) :
    (d.setText e text).node? e = some { n with text, children := .nil } := by
  unfold setText
  rw [found]
  unfold node?
  dsimp only [mapForests]
  rw [Forest.find?_append]
  rcases Option.or_eq_some_iff.1 found with found | ⟨absent, found⟩
  · rw [Forest.find?_fill found]
    rfl
  · rw [Forest.fill_of_not_mem (Forest.not_mem_of_find?_eq_none absent), absent,
      Forest.find?_fill found]
    rfl

theorem descends_withFirstLine (d : Document) (e : Element) (lines : List String) :
    Descends d (d.withFirstLine e lines) :=
  (descends_setText d e _).trans (descends_modifyLabel _ e fun _ => ⟨rfl, fun _ _ => rfl⟩)

theorem node?_modifyLabel {k : Label → Label} (hk : ∀ l, (k l).id = l.id) (d : Document)
    (e x : Element) : (d.modifyLabel e k).node? x = (d.node? x).map fun n =>
      { n with
        label := if n.label.id = e then k n.label else n.label
        children := n.children.modify e k } := by
  unfold node?
  rw [modifyLabel, mapForests, Forest.find?_modify hk, Forest.find?_modify hk, Option.map_or]

theorem label?_modifyLabel {k : Label → Label} (hk : ∀ l, (k l).id = l.id) (d : Document)
    (e x : Element) :
    (d.modifyLabel e k).label? x = (d.label? x).map fun l => if l.id = e then k l else l := by
  rw [Document.label?, Document.label?, node?_modifyLabel hk]
  cases d.node? x <;> rfl

theorem label?_id {d : Document} {e : Element} {l : Label} (h : d.label? e = some l) : l.id = e := by
  obtain ⟨n, found, rfl⟩ := Option.map_eq_some_iff.1 h
  exact node?_id found

/-- An element that was given its first line holds nothing else. -/
theorem node?_withFirstLine {lines : List String} {n : Node}
    (h : (d.withFirstLine e lines).node? e = some n) :
    n.text = lines.headD "" ∧ n.children = .nil := by
  rw [withFirstLine, node?_modifyLabel (k := fun l => { l with tag := l.tag.holding lines })
    fun _ => rfl] at h
  obtain ⟨m, found, rfl⟩ := Option.map_eq_some_iff.1 h
  cases before : d.node? e with
  | none =>
    rw [setText, before, fill_of_absent before] at found
    simp only [node?, Forest.append_nil, Option.map_none, Option.getD_none] at found before
    rw [before] at found
    cases found
  | some n =>
    rw [node?_setText before] at found
    obtain rfl := Option.some.inj found
    exact ⟨rfl, rfl⟩

/-- Line breaks are put into an element that holds no others. -/
theorem descends_withBreaks {breaks : Forest} (line : String)
    (empty : ∀ n, d.node? e = some n → n.children = .nil)
    (ids : breaks.ids = List.range' d.fresh breaks.labels.length) :
    Descends d (d.withBreaks e line breaks) := by
  intro h
  obtain ⟨nodup, free⟩ := free_of_ids ids
  cases found : d.node? e with
  | none =>
    have same : (d.withBreaks e line breaks).labels = d.labels := by
      show (d.mapForests (Forest.fill e line breaks)).labels = d.labels
      rw [fill_of_absent found]
    exact Descends.of_perm [] (.refl _) (Kin.self d.labels) (by simp [same])
      List.nodup_nil (by simp) (Nat.le_add_right _ _) h
  | some n =>
    have filled := labels_fill h found line breaks
    rw [empty n found, Forest.labels, List.append_nil] at filled
    exact Descends.of_perm breaks.labels (.refl _) (Kin.self d.labels) filled nodup free
      (Nat.le_add_right _ _) h

theorem descends_setLines (d : Document) (e : Element) (lines : List String) :
    Descends d ((setLines e lines).run.run d).2 := by
  rw [setLines_run]
  have first := descends_withFirstLine d e lines
  split
  · exact first
  · rename_i breaks made
    refine first.trans (descends_withBreaks _ ?_ (ids_breaksIn made))
    exact fun n found => (node?_withFirstLine found).2

theorem mem_tree_of_siblingsAfter {f : Forest} (h : d.siblingsAfter e = .ok f) :
    ∃ p, d.parent? e = some p ∧ d.tree.following? e = some f ∧ e ∈ d.tree.ids := by
  unfold siblingsAfter at h
  split at h
  · rename_i after
    cases h
    obtain ⟨p, parent, following⟩ := Option.bind_eq_some_iff.1 after
    refine ⟨p, parent, following, Decidable.byContradiction fun absent => ?_⟩
    rw [Forest.following?_of_not_mem absent] at following
    cases following
  · cases h

/-- A node that is put in behind an element of the page is numbered by free numbers. -/
theorem descends_withBehind {n : Node} (tree : e ∈ d.tree.ids)
    (ids : n.forest.ids = List.range' d.fresh (1 + n.children.labels.length)) :
    Descends d (d.withBehind e n) := by
  intro h
  obtain ⟨m, found⟩ := Option.isSome_iff_exists.1 (Forest.find?_isSome.2 tree)
  obtain ⟨nodup, free⟩ := free_of_ids ids
  refine Descends.of_perm n.forest.labels (.refl _) (Kin.self d.labels) ?_ nodup
    (fun l hl => ?_) ?_ h
  · refine List.perm_iff_count.2 fun a => ?_
    have counted := Forest.count_insertAfter h.nodup_tree found n a
    rw [← Forest.labels_forest] at counted
    simp only [labels, withBehind, List.count_append]
    omega
  · have := free l hl
    refine ⟨this.1, ?_⟩
    show l.id < d.fresh + 1 + n.children.labels.length
    omega
  · show d.fresh ≤ d.fresh + 1 + n.children.labels.length
    omega

theorem descends_insertFeedback (d : Document) (e : Element) (tag : String)
    (classes lines : List String) :
    Descends d ((insertFeedback e tag classes lines).run.run d).2 := by
  rw [insertFeedback_run]
  cases d.space (d.container e) with
  | error f => exact Descends.refl d
  | ok space =>
    dsimp only
    split
    · exact Descends.refl d
    · rename_i breaks made
      split
      · exact Descends.refl d
      · rename_i siblings after
        obtain ⟨-, -, -, tree⟩ := mem_tree_of_siblingsAfter after
        refine descends_withBehind tree ?_
        rw [Forest.ids_forest, Nat.add_comm, List.range'_succ]
        exact congrArg (d.fresh :: ·) (ids_breaksIn made)

theorem descends_remove (d : Document) (e : Element) : Descends d (d.remove e) := by
  unfold remove
  split
  · rename_i n _ found
    intro h
    refine Descends.of_same (List.perm_iff_count.2 fun a => ?_) rfl h
    have counted := Forest.count_cut h.nodup_tree found a
    simp only [labels, Forest.labels_append, Forest.labels_forest, List.count_append]
    omega
  · exact Descends.refl d

theorem descends_setFlag (d : Document) (e : Element) {name : String} (on : Bool)
    (h : name ∈ written) : Descends d (d.setFlag e name on) := by
  unfold setFlag
  split_ifs
  · exact descends_modifyLabel d e fun l => Kin.set l name h
  · exact descends_modifyLabel d e fun l => Kin.erase l h

theorem kin_withClasses (l : Label) (classes : List String) : Kin l (withClasses l classes) := by
  unfold withClasses
  split_ifs
  · exact Kin.erase l (by simp [written])
  · exact Kin.set l _ (by simp [written])

theorem kin_labelWithClass (name : String) (l : Label) : Kin l (labelWithClass name l) := by
  unfold labelWithClass
  split_ifs
  · exact Kin.refl l
  · exact kin_withClasses l _

theorem kin_labelWithoutClass (name : String) (l : Label) : Kin l (labelWithoutClass name l) := by
  unfold labelWithoutClass
  split_ifs
  · exact kin_withClasses l _
  · exact Kin.refl l

end Edits

end Document

/-- Whatever a call does to a page, the page that comes out descends from it. -/
theorem Call.descends_perform (c : Call) (d : Document) : d.Descends (c.perform d).2 := by
  cases c with
  | setValue e v => exact d.descends_setValue e v
  | addClass e name => exact d.descends_modifyLabel e (Document.kin_labelWithClass name)
  | removeClass e name => exact d.descends_modifyLabel e (Document.kin_labelWithoutClass name)
  | insertFeedback e tag classes lines => exact d.descends_insertFeedback e tag classes lines
  | setLines e lines => exact d.descends_setLines e lines
  | remove e => exact d.descends_remove e
  | setDisabled e disabled => exact d.descends_setFlag e disabled (by simp [Document.written])
  | _ => exact Document.Descends.refl d

end FormGate
