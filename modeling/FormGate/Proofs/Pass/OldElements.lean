import FormGate.Proofs.Document.Classes
import FormGate.Proofs.Document.Value
import FormGate.Proofs.Pass.Ready
import FormGate.Proofs.Rule.Normal
import Mathlib.Data.List.TakeWhile
import Mathlib.Logic.Relation

/-!
# The elements that a page had in the beginning

The elements that a page had in the beginning are its elders; all that is put in later has a higher
number. A page keeps its elders as long as only later elements are taken out or given lines: each
stands below the same parent with the text that it had, in the order of the beginning.
-/

namespace FormGate

open Markup Document

/-! ## Later elements -/

namespace Markup.Forest

/-- Whether all elements are later ones, numbered from `N` on. -/
def Young (N : Nat) (f : Forest) : Prop :=
  ∀ x ∈ f.ids, N ≤ x

namespace Young

variable {N x : Nat} {f : Forest}

theorem nil : Young N nil := by
  simp [Young]

theorem cons_iff {l : Label} {t : String} {c : Forest} {tail : String} {next : Forest} :
    (cons l t c tail next).Young N ↔ N ≤ l.id ∧ c.Young N ∧ next.Young N := by
  simp only [Young, ids_cons, List.forall_mem_cons, List.forall_mem_append]

theorem not_mem (h : f.Young N) (old : x < N) : x ∉ f.ids :=
  fun member => absurd (h x member) (Nat.not_le.2 old)

theorem mapLabels {k : Label → String → Forest → Label} (hk : ∀ l t c, (k l t c).id = l.id)
    (h : f.Young N) : (f.mapLabels k).Young N := by
  induction f with
  | nil => exact h
  | cons l t c tail next ihc ih =>
    obtain ⟨here, below, later⟩ := cons_iff.1 h
    exact cons_iff.2 ⟨(hk l t c).symm ▸ here, ihc below, ih later⟩

theorem fill {children : Forest} (new : children.Young N) (text : String) (h : f.Young N) :
    (Forest.fill x text children f).Young N := by
  induction f with
  | nil => exact h
  | cons l t c tail next ihc ih =>
    obtain ⟨here, below, later⟩ := cons_iff.1 h
    rw [Forest.fill]
    split_ifs
    · exact cons_iff.2 ⟨here, new, later⟩
    · exact cons_iff.2 ⟨here, ihc below, ih later⟩

theorem insertAfter {n : Node} (new : N ≤ n.label.id) (inside : n.children.Young N)
    (h : f.Young N) : (f.insertAfter x n).Young N := by
  induction f with
  | nil => exact h
  | cons l t c tail next ihc ih =>
    obtain ⟨here, below, later⟩ := cons_iff.1 h
    rw [Forest.insertAfter]
    split_ifs
    · exact cons_iff.2 ⟨here, below, cons_iff.2 ⟨new, inside, later⟩⟩
    · exact cons_iff.2 ⟨here, ihc below, ih later⟩

theorem cut (h : f.Young N) : (f.cut x).2.Young N := by
  induction f with
  | nil => exact h
  | cons l t c tail next ihc ih =>
    obtain ⟨here, below, later⟩ := cons_iff.1 h
    rw [Forest.cut]
    split_ifs
    · exact later
    · exact cons_iff.2 ⟨here, ihc below, ih later⟩

end Young
end Markup.Forest

theorem Document.young_breaksIn {N : Nat} {tag : Tag} {fresh : Nat} {lines : List String}
    {f : Forest} (made : breaksIn tag fresh lines = .ok f) (new : N ≤ fresh) : f.Young N := by
  intro x hx
  rw [ids_breaksIn made, List.mem_range'_1] at hx
  exact Nat.le_trans new hx.1

/-! ## What rules make of a value -/

/-- Whether a rule may put a value in place of another. -/
def Catalog.Replaces (c : Catalog) (v w : String) : Prop :=
  ∃ name d q, c.get? name = some d ∧ q.value = v ∧ (d.judge q).Puts w

/-- Whether rules one after another may make a value of another. -/
def Catalog.Rewrites (c : Catalog) : String → String → Prop :=
  Relation.ReflTransGen c.Replaces

/-! ## Elders -/

namespace Setup

/-- An element that a page had in the beginning, and what it is now: it carries no feedback class and
has the text that it had, but where it is a text area, which has no children, rules may have made
another text of it. -/
structure Elder (s : Setup) (N : Nat) (n₀ n : Node) : Prop where
  old : n₀.label.id < N
  id : n.label.id = n₀.label.id
  tag : n.label.tag = n₀.label.tag
  tail : n.tail = n₀.tail
  unshown : s.isFeedback n.label = false
  text : n₀.label.tag.localName ≠ "textarea" → n.text = n₀.text
  area : n₀.label.tag.localName = "textarea" →
    n₀.children = .nil ∧ n.children = .nil ∧ s.catalog.Rewrites n₀.text n.text

/-- A forest of the beginning, and what it is now: later elements may stand between the elders. They
hold no elders, and no text follows them. -/
inductive Elders (s : Setup) (N : Nat) : Forest → Forest → Prop
  | nil : Elders s N .nil .nil
  | young {f₀ : Forest} {l : Label} {t : String} {c next : Forest} (new : N ≤ l.id)
      (below : c.Young N) (later : Elders s N f₀ next) : Elders s N f₀ (.cons l t c "" next)
  | elder {l₀ l : Label} {t₀ t : String} {c₀ c : Forest} {tail : String} {next₀ next : Forest}
      (own : s.Elder N ⟨l₀, t₀, c₀, tail⟩ ⟨l, t, c, tail⟩) (below : Elders s N c₀ c)
      (later : Elders s N next₀ next) :
      Elders s N (.cons l₀ t₀ c₀ tail next₀) (.cons l t c tail next)

variable {s : Setup} {N x : Nat} {f₀ f : Forest}

theorem Elder.holding {n₀ n : Node} (own : s.Elder N n₀ n) {c : Forest}
    (none : n.children = .nil → c = .nil) : s.Elder N n₀ { n with children := c } where
  old := own.old
  id := own.id
  tag := own.tag
  tail := own.tail
  unshown := own.unshown
  text := own.text
  area area := ⟨(own.area area).1, none (own.area area).2.1, (own.area area).2.2⟩

namespace Elders

theorem refl (old : ∀ x ∈ f.ids, x < N) (unshown : ∀ l ∈ f.labels, s.isFeedback l = false)
    (areas : ∀ n ∈ f.nodes, n.label.tag.localName = "textarea" → n.children = .nil) :
    s.Elders N f f := by
  induction f with
  | nil => exact .nil
  | cons l t c tail next ihc ih =>
    rw [Forest.ids_cons, List.forall_mem_cons, List.forall_mem_append] at old
    rw [Forest.labels, List.forall_mem_cons, List.forall_mem_append] at unshown
    rw [Forest.nodes, List.forall_mem_cons, List.forall_mem_append] at areas
    refine .elder ?_ (ihc old.2.1 unshown.2.1 areas.2.1) (ih old.2.2 unshown.2.2 areas.2.2)
    exact ⟨old.1, rfl, rfl, rfl, unshown.1, fun _ => rfl,
      fun area => ⟨areas.1 area, areas.1 area, .refl⟩⟩

/-! ### What is found among elders and later elements -/

section Found

variable (h : s.Elders N f₀ f)
include h

theorem filter_ids : f.ids.filter (· < N) = f₀.ids := by
  induction h with
  | nil => rfl
  | @young f₀ l t c next new below later ih =>
    have none : (c.ids.filter (· < N)) = [] :=
      List.filter_eq_nil_iff.2 fun y hy => by simpa using below y hy
    rw [Forest.ids_cons, List.filter_cons_of_neg (by simpa using new), List.filter_append, none, ih]
    rfl
  | @elder l₀ l t₀ t c₀ c tail next₀ next own below later ihc ih =>
    have id : l.id = l₀.id := own.id
    have old : l₀.id < N := own.old
    rw [Forest.ids_cons, Forest.ids_cons, id, List.filter_cons_of_pos (by simpa using old),
      List.filter_append, ihc, ih]

theorem parent?_eq (old : x < N) (owner : Nat) : f.parent? x owner = f₀.parent? x owner := by
  induction h generalizing owner with
  | nil => rfl
  | @young f₀ l t c next new below later ih =>
    rw [Forest.parent?, if_neg (by omega), Forest.parent?_of_not_mem (below.not_mem old),
      Option.none_or, ih]
  | @elder l₀ l t₀ t c₀ c tail next₀ next own below later ihc ih =>
    have id : l.id = l₀.id := own.id
    rw [Forest.parent?, Forest.parent?, id, ihc, ih]

theorem exists_elder {n₀ : Node} (found : f₀.find? x = some n₀) :
    ∃ n, f.find? x = some n ∧ s.Elder N n₀ n := by
  induction h with
  | nil => cases found
  | @young f₀ l t c next new below later ih =>
    obtain ⟨n, found, elder⟩ := ih found
    have old : x < N := by
      rw [← Forest.find?_id found, elder.id]
      exact elder.old
    refine ⟨n, ?_, elder⟩
    rw [Forest.find?, if_neg (by omega), Forest.find?_of_not_mem (below.not_mem old),
      Option.none_or, found]
  | @elder l₀ l t₀ t c₀ c tail next₀ next own below later ihc ih =>
    have id : l.id = l₀.id := own.id
    rw [Forest.find?] at found ⊢
    rw [id]
    split_ifs at found ⊢ with here
    · cases found
      exact ⟨_, rfl, own⟩
    · rcases Option.or_eq_some_iff.1 found with found | ⟨absent, found⟩
      · obtain ⟨n, found, elder⟩ := ihc found
        exact ⟨n, Option.or_eq_some_iff.2 (.inl found), elder⟩
      · obtain ⟨n, found, elder⟩ := ih found
        refine ⟨n, Option.or_eq_some_iff.2 (.inr ⟨?_, found⟩), elder⟩
        have outside := Forest.not_mem_of_find?_eq_none absent
        rw [← below.filter_ids, List.mem_filter] at outside
        refine Forest.find?_of_not_mem fun member => outside ⟨member, ?_⟩
        rw [decide_eq_true_eq, ← Forest.find?_id found, elder.id]
        exact elder.old

theorem young_children {n : Node} (found : f.find? x = some n) (new : N ≤ x) :
    n.children.Young N := by
  induction h with
  | nil => cases found
  | @young f₀ l t c next _ below later ih =>
    rw [Forest.find?] at found
    split_ifs at found with here
    · cases found
      exact below
    · rcases Option.or_eq_some_iff.1 found with found | ⟨-, found⟩
      · have held := Forest.labels_of_find? found
        refine fun y hy => below y ?_
        obtain ⟨l', hl', rfl⟩ := List.mem_map.1 hy
        exact Forest.id_mem_ids (held.subset (List.mem_cons_of_mem _ hl'))
      · exact ih found
  | @elder l₀ l t₀ t c₀ c tail next₀ next own below later ihc ih =>
    have id : l.id = l₀.id := own.id
    have old : l₀.id < N := own.old
    rw [Forest.find?, if_neg (by omega)] at found
    rcases Option.or_eq_some_iff.1 found with found | ⟨-, found⟩
    · exact ihc found
    · exact ih found

theorem new_of_isFeedback {l : Label} (member : l ∈ f.labels) (shown : s.isFeedback l = true) :
    N ≤ l.id := by
  induction h with
  | nil => cases member
  | @young f₀ l' t c next new below later ih =>
    rw [Forest.labels, List.mem_cons, List.mem_append] at member
    rcases member with rfl | inside | behind
    · exact new
    · exact below _ (Forest.id_mem_ids inside)
    · exact ih behind
  | @elder l₀ l' t₀ t c₀ c tail next₀ next own below later ihc ih =>
    rw [Forest.labels, List.mem_cons, List.mem_append] at member
    rcases member with rfl | inside | behind
    · exact absurd shown (by simpa using own.unshown)
    · exact ihc inside
    · exact ih behind

end Found

/-! ### Edits -/

/-- Labels may change as long as an elder keeps its tag and gets no feedback class. -/
theorem mapLabels {k : Label → String → Forest → Label} (id : ∀ l t c, (k l t c).id = l.id)
    (kept : ∀ l t c, l.id < N → (k l t c).tag = l.tag ∧
      (s.isFeedback l = false → s.isFeedback (k l t c) = false))
    (h : s.Elders N f₀ f) : s.Elders N f₀ (f.mapLabels k) := by
  induction h with
  | nil => exact .nil
  | @young f₀ l t c next new below later ih =>
    exact .young ((id l t c).symm ▸ new) (below.mapLabels id) ih
  | @elder l₀ l t₀ t c₀ c tail next₀ next own below later ihc ih =>
    obtain ⟨tag, unshown⟩ := kept l t c (own.id.symm ▸ own.old)
    have own' : s.Elder N ⟨l₀, t₀, c₀, tail⟩ ⟨k l t c, t, c, tail⟩ :=
      { own with
        id := (id l t c).trans own.id
        tag := tag.trans own.tag
        unshown := unshown own.unshown }
    refine .elder (own'.holding ?_) ihc ih
    rintro rfl
    rfl

/-- Later elements may be put into an element, and whatever keeps the elder that it is. -/
theorem fill {text : String} {children : Forest} (young : N ≤ x → children.Young N)
    (kept : ∀ n ∈ f.nodes, n.label.id = x → ∀ n₀ ∈ f₀.nodes, s.Elder N n₀ n →
      s.Elders N n₀.children n.children →
        s.Elder N n₀ { n with text, children } ∧ s.Elders N n₀.children children)
    (h : s.Elders N f₀ f) : s.Elders N f₀ (Forest.fill x text children f) := by
  induction h with
  | nil => exact .nil
  | @young f₀ l t c next new below later ih =>
    rw [Forest.nodes, List.forall_mem_cons, List.forall_mem_append] at kept
    rw [Forest.fill]
    split_ifs with here
    · exact .young new (young (here ▸ new)) later
    · refine .young new ?_ (ih kept.2.2)
      by_cases old : x < N
      · rw [Forest.fill_of_not_mem (below.not_mem old)]
        exact below
      · exact Forest.Young.fill (young (Nat.not_lt.1 old)) text below
  | @elder l₀ l t₀ t c₀ c tail next₀ next own below later ihc ih =>
    rw [Forest.nodes, List.forall_mem_cons, List.forall_mem_append] at kept
    rw [Forest.fill]
    split_ifs with here
    · obtain ⟨own', below'⟩ := kept.1 here _ (by rw [Forest.nodes]; exact List.mem_cons_self) own below
      exact .elder own' below' later
    · have below' := ihc fun n hn id n₀ hn₀ => kept.2.1 n hn id n₀
        (by rw [Forest.nodes]; exact List.mem_cons_of_mem _ (List.mem_append_left _ hn₀))
      have later' := ih fun n hn id n₀ hn₀ => kept.2.2 n hn id n₀
        (by rw [Forest.nodes]; exact List.mem_cons_of_mem _ (List.mem_append_right _ hn₀))
      refine .elder (own.holding ?_) below' later'
      rintro rfl
      rfl

theorem fill_young {text : String} {children : Forest} (new : N ≤ x) (young : children.Young N)
    (h : s.Elders N f₀ f) : s.Elders N f₀ (Forest.fill x text children f) := by
  refine h.fill (fun _ => young) fun n _ id n₀ _ own => ?_
  have old := own.old
  rw [← own.id, id] at old
  omega

theorem insertAfter {n : Node} (new : N ≤ n.label.id) (inside : n.children.Young N)
    (bare : n.tail = "") (h : s.Elders N f₀ f) : s.Elders N f₀ (f.insertAfter x n) := by
  induction h with
  | nil => exact .nil
  | @young f₀ l t c next new' below later ih =>
    rw [Forest.insertAfter]
    split_ifs
    · rw [bare]
      exact .young new' below (.young new inside later)
    · exact .young new' (Forest.Young.insertAfter new inside below) ih
  | @elder l₀ l t₀ t c₀ c tail next₀ next own below later ihc ih =>
    rw [Forest.insertAfter]
    split_ifs
    · rw [bare]
      exact .elder own below (.young new inside later)
    · refine .elder (own.holding ?_) ihc ih
      rintro rfl
      rfl

/-- No text follows a later element, so none moves when it is taken out. -/
theorem cut (new : N ≤ x) (h : s.Elders N f₀ f) :
    (f.cut x).1 = "" ∧ s.Elders N f₀ (f.cut x).2 := by
  induction h with
  | nil => exact ⟨rfl, .nil⟩
  | @young f₀ l t c next new' below later ih =>
    rw [Forest.cut]
    split_ifs
    · exact ⟨rfl, later⟩
    · refine ⟨rfl, ?_⟩
      dsimp only
      rw [ih.1, String.append_empty]
      exact .young new' below.cut ih.2
  | @elder l₀ l t₀ t c₀ c tail next₀ next own below later ihc ih =>
    have other : l.id ≠ x := by
      have id : l.id = l₀.id := own.id
      have old : l₀.id < N := own.old
      omega
    rw [Forest.cut, if_neg other]
    refine ⟨rfl, ?_⟩
    dsimp only
    rw [ihc.1, ih.1, String.append_empty, String.append_empty]
    refine .elder (own.holding ?_) ihc.2 ih.2
    rintro rfl
    rfl

end Elders

/-! ## Calls -/

/-- What may be written into an element: where the page had it as a text area in the beginning, only
what rules make of the text that it had. -/
def Suits (s : Setup) (d₀ : Document) (e : Element) (v : String) : Prop :=
  ∀ n₀ ∈ d₀.tree.nodes, n₀.label.id = e → n₀.label.tag.localName = "textarea" →
    s.catalog.Rewrites n₀.text v

/-- A page that came about from another one and still has all its elders. -/
structure Inherits (s : Setup) (d₀ d : Document) : Prop where
  wellFormed : d.WellFormed
  fresh : d₀.fresh ≤ d.fresh
  root : d.root = d₀.root
  elders : s.Elders d₀.fresh d₀.tree d.tree

/-- The calls that leave the elders of a page alone: only later elements are taken out and given
lines, no class but that of invalid fields is added, and what is written suits. -/
def Safe (s : Setup) (d₀ : Document) : Call → Prop
  | .remove e | .setLines e _ => d₀.fresh ≤ e
  | .addClass _ name => name = s.config.presentation.invalidClass
  | .setValue e v => s.Suits d₀ e v
  | _ => True

/-- What the answers of a page that has its elders tell of them. -/
def Truthful (s : Setup) (d₀ : Document) : (c : Call) → c.Answer → Prop
  | .feedback _ name, es => name = s.config.presentation.feedbackClass → ∀ e ∈ es, d₀.fresh ≤ e
  | .value e, v => s.Suits d₀ e v
  | _, _ => True

/-- Every element of the beginning is still in the page below the same parent, in the same order, with
the text that it had or, in a text area, with what rules made of it. -/
structure Keeps (s : Setup) (d₀ d : Document) : Prop where
  order : d.tree.ids.filter (· < d₀.fresh) = d₀.tree.ids
  parent : ∀ x ∈ d₀.tree.ids, d.parent? x = d₀.parent? x
  elder : ∀ x n₀, d₀.tree.find? x = some n₀ →
    ∃ n, d.tree.find? x = some n ∧ s.Elder d₀.fresh n₀ n

section Inherits

variable {d₀ d : Document} {e : Element}

theorem Inherits.keeps (h : s.Inherits d₀ d) (wf : d₀.WellFormed) : s.Keeps d₀ d where
  order := h.elders.filter_ids
  parent x hx := by
    obtain ⟨l, hl, rfl⟩ := List.mem_map.1 hx
    have old : l.id < d₀.fresh := wf.fresh l (List.mem_append_left _ hl)
    have root := h.root
    have elders := h.elders
    unfold Document.root at root
    unfold parent?
    cases hd₀ : d₀.tree with
    | nil =>
      rw [hd₀] at hl
      cases hl
    | cons l₀ t₀ c₀ tail₀ next₀ =>
      have rooted : l₀.id < d₀.fresh := wf.fresh l₀ (by simp [Document.labels, hd₀, Forest.labels])
      rw [hd₀] at root elders
      cases hd : d.tree with
      | nil =>
        rw [hd] at elders
        cases elders
      | cons l' t c tail next =>
        rw [hd] at root elders
        dsimp only at root ⊢
        cases elders with
        | young new below later => exact absurd rooted (Nat.not_lt.2 (root ▸ new))
        | elder own below later => rw [root, below.parent?_eq old]
  elder x n₀ found := h.elders.exists_elder found

theorem Inherits.refl (wf : d.WellFormed) (unshown : ∀ l ∈ d.tree.labels, s.isFeedback l = false)
    (areas : ∀ n ∈ d.tree.nodes, n.label.tag.localName = "textarea" → n.children = .nil) :
    s.Inherits d d where
  wellFormed := wf
  fresh := Nat.le_refl _
  root := rfl
  elders := by
    refine Elders.refl (fun x hx => ?_) unshown areas
    obtain ⟨l, hl, rfl⟩ := List.mem_map.1 hx
    exact wf.fresh l (List.mem_append_left _ hl)

/-- A page that descends from one with its elders has them too where its tree does. -/
theorem Inherits.step (h : s.Inherits d₀ d) {d' : Document} (descends : d.Descends d')
    (root : d'.root = d.root) (elders : s.Elders d₀.fresh d₀.tree d'.tree) : s.Inherits d₀ d' where
  wellFormed := (descends h.wellFormed).1
  fresh := Nat.le_trans h.fresh (descends h.wellFormed).2.1
  root := root.trans h.root
  elders := elders

theorem isFeedback_set (l : Label) {name : String} (value : String) (other : name ≠ "class") :
    s.isFeedback (l.set name value) = s.isFeedback l := by
  rw [isFeedback, classesOf, Label.get?_set_of_ne value other.symm, isFeedback, classesOf]

theorem isFeedback_erase (l : Label) {name : String} (other : name ≠ "class") :
    s.isFeedback (l.erase name) = s.isFeedback l := by
  rw [isFeedback, classesOf, Label.get?_erase_of_ne other.symm, isFeedback, classesOf]

theorem tag_chooseOption (v : String) (l : Label) (t : String) (c : Forest) :
    (chooseOption v l t c).tag = l.tag := by
  unfold chooseOption
  split_ifs <;> rfl

theorem isFeedback_chooseOption (v : String) (l : Label) (t : String) (c : Forest) :
    s.isFeedback (chooseOption v l t c) = s.isFeedback l := by
  unfold chooseOption
  split_ifs
  · exact isFeedback_set l _ (by decide)
  · exact isFeedback_erase l (by decide)
  · rfl

theorem Inherits.modifyLabel (h : s.Inherits d₀ d) {k : Label → Label}
    (descends : d.Descends (d.modifyLabel e k)) (id : ∀ l, (k l).id = l.id)
    (kept : ∀ l, l.id < d₀.fresh → l.id = e → (k l).tag = l.tag ∧
      (s.isFeedback l = false → s.isFeedback (k l) = false)) :
    s.Inherits d₀ (d.modifyLabel e k) := by
  refine h.step descends (root_modifyLabel id d e) ?_
  show s.Elders d₀.fresh d₀.tree (d.tree.modify e k)
  rw [Forest.modify_eq_mapLabels]
  refine h.elders.mapLabels (fun l _ _ => ?_) fun l _ _ old => ?_
  · split_ifs
    · exact id l
    · rfl
  · split_ifs with here
    · exact kept l old here
    · exact ⟨rfl, fun unshown => unshown⟩

theorem Inherits.set (h : s.Inherits d₀ d) {name : String} (value : String) (listed : name ∈ written)
    (other : name ≠ "class") : s.Inherits d₀ (d.setAttribute e name value) := by
  refine h.modifyLabel (descends_modifyLabel d e fun l => .set l value listed) (fun _ => rfl)
    fun l _ _ => ⟨rfl, fun unshown => ?_⟩
  rw [isFeedback_set l value other, unshown]

theorem Inherits.erase (h : s.Inherits d₀ d) {name : String} (listed : name ∈ written)
    (other : name ≠ "class") : s.Inherits d₀ (d.eraseAttribute e name) := by
  refine h.modifyLabel (descends_modifyLabel d e fun l => .erase l listed) (fun _ => rfl)
    fun l _ _ => ⟨rfl, fun unshown => ?_⟩
  rw [isFeedback_erase l other, unshown]

theorem Inherits.setText_young (h : s.Inherits d₀ d) (new : d₀.fresh ≤ e) (text : String) :
    s.Inherits d₀ (d.setText e text) :=
  h.step (descends_setText d e text) (root_fill d e text .nil)
    (h.elders.fill_young new Forest.Young.nil)

theorem Inherits.node_unique (h : s.Inherits d₀ d) {n m : Node} (found : d.node? e = some n)
    (member : m ∈ d.tree.nodes) (id : m.label.id = e) : m = n := by
  have unique := Forest.find?_of_mem_nodes h.wellFormed.nodup_tree member
  rw [id] at unique
  rw [node?, unique, Option.some_or] at found
  exact Option.some.inj found

theorem Inherits.setValue (h : s.Inherits d₀ d) {v : String} (fits : s.Suits d₀ e v) :
    s.Inherits d₀ (d.setValue e v) := by
  refine h.step (descends_setValue d e v) (root_setValue d e v) ?_
  unfold Document.setValue
  cases found : d.node? e with
  | none => exact h.elders
  | some n =>
    dsimp only
    split
    · rename_i area
      show s.Elders d₀.fresh d₀.tree (Forest.fill e v .nil d.tree)
      refine h.elders.fill (fun _ => Forest.Young.nil) fun m hm id n₀ hn₀ own below => ?_
      obtain rfl := h.node_unique found hm id
      have area₀ : n₀.label.tag.localName = "textarea" := own.tag ▸ area
      obtain ⟨none₀, -, -⟩ := own.area area₀
      have fit := fits n₀ hn₀ (own.id ▸ id) area₀
      refine ⟨⟨own.old, own.id, own.tag, own.tail, own.unshown, fun other => absurd area₀ other,
        fun _ => ⟨none₀, rfl, fit⟩⟩, ?_⟩
      rw [none₀]
      exact .nil
    · show s.Elders d₀.fresh d₀.tree
        (Forest.fill e n.text (n.children.mapLabels (chooseOption v)) d.tree)
      have id : ∀ (l : Label) t c, (chooseOption v l t c).id = l.id := fun l t c =>
        (kin_chooseOption v l t c).id
      by_cases inside : e ∈ d.tree.ids
      · refine h.elders.fill (fun new => ?_) fun m hm here n₀ hn₀ own below => ?_
        · obtain ⟨m, tree⟩ := Option.isSome_iff_exists.1 (Forest.find?_isSome.2 inside)
          rw [node?, tree, Option.some_or] at found
          obtain rfl := Option.some.inj found
          exact (h.elders.young_children tree new).mapLabels id
        · obtain rfl := h.node_unique found hm here
          refine ⟨own.holding fun none => ?_, below.mapLabels id fun l t c _ => ⟨?_, fun unshown => ?_⟩⟩
          · rw [none]
            rfl
          · exact tag_chooseOption v l t c
          · rw [isFeedback_chooseOption, unshown]
      · rw [Forest.fill_of_not_mem inside]
        exact h.elders
    · exact (h.set v (by simp [written]) (by decide)).elders

/-- Only the outermost element has no parent, so taking another one out leaves it in its place. -/
theorem root_remove (wf : d.WellFormed) (e : Element) : (d.remove e).root = d.root := by
  unfold Document.remove
  split
  · rename_i p n parent found
    have other := root_ne_of_parent? wf parent
    unfold Document.root at other ⊢
    dsimp only
    cases hd : d.tree with
    | nil => rfl
    | cons l t c tail next =>
      rw [hd] at other
      rw [Forest.cut, if_neg other]
  · rfl

theorem Inherits.remove (h : s.Inherits d₀ d) (new : d₀.fresh ≤ e) :
    s.Inherits d₀ (d.remove e) := by
  refine h.step (descends_remove d e) (root_remove h.wellFormed e) ?_
  unfold Document.remove
  split
  · exact (h.elders.cut new).2
  · exact h.elders

theorem Inherits.setLines (h : s.Inherits d₀ d) (new : d₀.fresh ≤ e) (lines : List String) :
    s.Inherits d₀ ((setLines e lines).run.run d).2 := by
  have descends := descends_setLines d e lines
  rw [setLines_run] at descends ⊢
  have first : s.Inherits d₀ (d.withFirstLine e lines) := by
    refine (h.setText_young new _).modifyLabel
      (descends_modifyLabel _ e fun _ => ⟨rfl, fun _ _ => rfl⟩) (fun _ => rfl) fun l old here => ?_
    exact absurd new (Nat.not_le.2 (here ▸ old))
  split
  · exact first
  · rename_i breaks made
    have made' := made
    rw [made] at descends
    refine h.step descends ?_ (first.elders.fill_young new (young_breaksIn made' first.fresh))
    exact (root_fill (d.withFirstLine e lines) e (lines.headD "") breaks).trans
      (first.root.trans h.root.symm)

theorem Inherits.insertFeedback (h : s.Inherits d₀ d) (e : Element) (tag : String)
    (classes lines : List String) :
    s.Inherits d₀ ((insertFeedback e tag classes lines).run.run d).2 := by
  have descends := descends_insertFeedback d e tag classes lines
  rw [insertFeedback_run] at descends ⊢
  cases hs : d.space (d.container e) with
  | error f => exact h
  | ok space =>
    rw [hs] at descends
    dsimp only at descends ⊢
    cases made : breaksIn (.element (space ++ tag)) (d.fresh + 1) lines with
    | error f => exact h
    | ok breaks =>
      rw [made] at descends
      dsimp only at descends ⊢
      cases after : d.siblingsAfter e with
      | error f => exact h
      | ok rest =>
        rw [after] at descends
        have young := young_breaksIn made (Nat.le_succ_of_le h.fresh)
        refine h.step descends ?_ (h.elders.insertAfter h.fresh young rfl)
        unfold Document.root withBehind
        dsimp only
        cases d.tree with
        | nil => rfl
        | cons l t c tail next =>
          rw [Forest.insertAfter]
          split_ifs <;> rfl

/-! ### What is answered -/

theorem Inherits.feedback (h : s.Inherits d₀ d) {es : List Element}
    (answer : d.feedback e s.config.presentation.feedbackClass = .ok es) :
    ∀ x ∈ es, d₀.fresh ≤ x := by
  unfold Document.feedback at answer
  cases after : d.siblingsAfter e with
  | error f =>
    rw [after] at answer
    cases answer
  | ok rest =>
    rw [after] at answer
    cases answer
    intro x hx
    obtain ⟨n, run, rfl⟩ := List.mem_map.1 hx
    have member := (node?_of_siblingsAfter h.wellFormed after ((List.takeWhile_subset _) run)).1
    have shown : s.isFeedback n.label = true :=
      List.mem_takeWhile_imp (p := fun n : Node => s.isFeedback n.label) run
    refine h.elders.new_of_isFeedback ?_ shown
    rw [← Forest.map_label_nodes]
    exact List.mem_map_of_mem member

/-- The value of a text area is what rules made of the text that it had. -/
theorem Inherits.value (h : s.Inherits d₀ d) (wf : d₀.WellFormed) (e : Element) :
    s.Suits d₀ e (d.value e) := by
  intro n₀ member id area
  have found₀ := Forest.find?_of_mem_nodes wf.nodup_tree member
  rw [id] at found₀
  obtain ⟨n, found, own⟩ := h.elders.exists_elder found₀
  obtain ⟨-, none, rewritten⟩ := own.area area
  have held : d.node? e = some n := by rw [node?, found, Option.some_or]
  have value : d.value e = n.text := by
    have text : n.innerText = n.text := by
      rw [Node.innerText, none, Forest.innerText, String.append_empty]
    rw [Document.value, held, Option.map_some, Option.getD_some, nodeValue, own.tag, area]
    exact text
  rw [value]
  exact rewritten

theorem isFeedback_labelWithClass (word : Text.isWord s.config.presentation.invalidClass = true)
    (apart : s.config.presentation.invalidClass ≠ s.config.presentation.feedbackClass) (l : Label) :
    s.isFeedback (labelWithClass s.config.presentation.invalidClass l) = s.isFeedback l := by
  rw [isFeedback, classesOf_labelWithClass word, isFeedback]
  split_ifs
  · rfl
  · simp [apart.symm]

theorem isFeedback_labelWithoutClass (name : String) {l : Label} (unshown : s.isFeedback l = false) :
    s.isFeedback (labelWithoutClass name l) = false := by
  rw [isFeedback, List.contains_eq_mem, decide_eq_false_iff_not] at unshown ⊢
  rw [classesOf_labelWithoutClass]
  exact fun member => unshown (List.mem_of_mem_filter member)

/-- Safe calls leave a page its elders, and their answers are truthful. -/
theorem Inherits.perform (h : s.Inherits d₀ d) (wf : d₀.WellFormed)
    (word : Text.isWord s.config.presentation.invalidClass = true)
    (apart : s.config.presentation.invalidClass ≠ s.config.presentation.feedbackClass) {c : Call}
    (safe : s.Safe d₀ c) :
    s.Inherits d₀ (c.perform d).2 ∧ ∀ a, (c.perform d).1 = .ok a → s.Truthful d₀ c a := by
  cases c with
  | value e =>
    refine ⟨h, ?_⟩
    rintro a ⟨⟩
    exact h.value wf e
  | feedback e name =>
    refine ⟨h, ?_⟩
    rintro es answer rfl
    exact h.feedback answer
  | setValue e v => exact ⟨h.setValue safe, fun _ _ => trivial⟩
  | addClass e name =>
    obtain rfl : name = s.config.presentation.invalidClass := safe
    refine ⟨h.modifyLabel (descends_modifyLabel d e (kin_labelWithClass _))
      (fun l => (kin_labelWithClass _ l).id) fun l _ _ => ⟨?_, fun unshown => ?_⟩, fun _ _ => trivial⟩
    · exact tag_labelWithClass _ l
    · rw [isFeedback_labelWithClass word apart, unshown]
  | removeClass e name =>
    refine ⟨h.modifyLabel (descends_modifyLabel d e (kin_labelWithoutClass _))
      (fun l => (kin_labelWithoutClass _ l).id) fun l _ _ => ⟨?_, fun unshown => ?_⟩,
      fun _ _ => trivial⟩
    · exact tag_labelWithoutClass _ l
    · exact isFeedback_labelWithoutClass name unshown
  | insertFeedback e tag classes lines =>
    exact ⟨h.insertFeedback e tag classes lines, fun _ _ => trivial⟩
  | setLines e lines => exact ⟨h.setLines safe lines, fun _ _ => trivial⟩
  | remove e => exact ⟨h.remove safe, fun _ _ => trivial⟩
  | setDisabled e disabled =>
    refine ⟨?_, fun _ _ => trivial⟩
    show s.Inherits d₀ (d.setFlag e "disabled" disabled)
    unfold setFlag
    split_ifs
    · exact h.set _ (by simp [written]) (by decide)
    · exact h.erase (by simp [written]) (by decide)
  | _ => exact ⟨h, fun _ _ => trivial⟩

end Inherits

end Setup

end FormGate
