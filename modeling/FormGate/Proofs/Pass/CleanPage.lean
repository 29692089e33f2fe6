import FormGate.Proofs.Document.Root
import FormGate.Proofs.Pass.Feedback
import FormGate.Proofs.Pass.Reread
import FormGate.Proofs.Pass.Turn

/-!
# Clean pages

A clean page has no feedback but such as a pass may have put in, and whatever can be written to one of
its elements changes no other. On such a page a pass always finds what it looks for, and what it makes
of the page is a revision that leaves the page clean (`Setup.CleanSince.revised`).
-/

namespace FormGate

open Markup Document

namespace Setup

variable {s : Setup}

/-- The manner of feedback in a set-up, with one number for all new elements. -/
def manner (s : Setup) (distinct : s.Distinct) (N : Nat) : Manner where
  isFeedback := s.isFeedback
  name := s.config.presentation.feedbackTag
  attributes := [("class", " ".intercalate s.config.presentation.feedbackClasses)]
  number := N
  retag _ _ := rfl
  valued l v := by
    unfold isFeedback classesOf
    rw [Label.get?_set_of_ne v (by decide)]
  new := isFeedback_feedbackLabel distinct.feedback N
  plain := by simp

/-- An element as passes expect it: nothing in feedback has an attribute but its class, tags are well
formed where a pass asks for their namespace, and values can be written. -/
structure Tidy (s : Setup) (n : Node) : Prop where
  feedback : s.isFeedback n.label = true → ∀ l ∈ n.labels, l.Plain
  spaced : s.isFeedback n.label = true ∨ n.children ≠ .nil → ∃ space, n.label.tag.space = .ok space
  writable : s.isFeedback n.label = false → s.Writable n

/-- A forest of a single outermost element that is no field. -/
def Rooted (s : Setup) : Forest → Prop
  | .cons l _ _ _ .nil => s.isField l = false
  | _ => False

/-- A page of tidy elements, of which the outermost one is no field. -/
structure Clean (s : Setup) (d : Document) : Prop where
  wellFormed : d.WellFormed
  tidy : ∀ n ∈ d.tree.nodes, s.Tidy n
  rooted : s.Rooted d.tree

/-- A clean page on which elements that came after `N` others are nothing but feedback. -/
structure CleanSince (s : Setup) (N : Nat) (d : Document) : Prop extends s.Clean d where
  fresh : N ≤ d.fresh
  late : ∀ l ∈ d.tree.labels, N ≤ l.id → l.Plain

theorem Clean.since {d : Document} (h : s.Clean d) : s.CleanSince d.fresh d where
  toClean := h
  fresh := Nat.le_refl _
  late l hl late := by
    have := h.wellFormed.fresh l (List.mem_append_left _ hl)
    omega

/-- A page is clean if it has neither feedback nor text areas nor selections, and its tags are well
formed. -/
theorem clean_of_bare {d : Document} (wf : d.WellFormed) (rooted : s.Rooted d.tree)
    (bare : ∀ n ∈ d.tree.nodes, s.isFeedback n.label = false ∧
      n.label.tag.localName ≠ "textarea" ∧ n.label.tag.localName ≠ "select" ∧
      n.label.tag.space.isOk = true) : s.Clean d where
  wellFormed := wf
  rooted := rooted
  tidy n hn := by
    obtain ⟨plain, textarea, select, spaced⟩ := bare n hn
    refine ⟨fun shown => ?_, fun _ => ?_, fun _ => ⟨?_, ?_, ?_⟩⟩
    · rw [plain] at shown
      cases shown
    · cases found : n.label.tag.space with
      | ok space => exact ⟨space, rfl⟩
      | error e =>
        rw [found] at spaced
        cases spaced
    · exact fun tag => absurd tag textarea
    · exact fun tag => absurd tag select
    · exact fun tag => absurd tag select

/-- A page that is read is clean if its outermost element is no field, its feedback holds no more than
feedback that a pass put in, and a value can be written to every other element. -/
theorem clean_ofText {text : String} {d : Document} (read : Document.ofText text = .ok d)
    (root : ∀ n ∈ d.tree.tops, s.isField n.label = false)
    (feedback : ∀ n ∈ d.tree.nodes, s.isFeedback n.label = true → ∀ l ∈ n.labels, l.Plain)
    (writable : ∀ n ∈ d.tree.nodes, s.isFeedback n.label = false → s.Writable n) : s.Clean d := by
  obtain ⟨l, t, c, tree, spaced⟩ := Document.root_of_ofText read
  refine ⟨Document.wellFormed_ofText read, fun n hn => ?_, ?_⟩
  · have own := Forest.labels_subset_of_mem_nodes hn List.mem_cons_self
    exact ⟨feedback n hn, fun _ => spaced n.label own, writable n hn⟩
  · rw [tree] at root ⊢
    exact root _ List.mem_cons_self

/-! ## Plain labels -/

theorem get?_of_plain {l : Label} (plain : l.Plain) {a : String} (other : a ≠ "class") :
    l.get? a = none := by
  unfold Label.get?
  rw [List.lookup_eq_none_iff]
  intro b hb
  rw [plain b hb]
  simpa using other

theorem isField_of_plain (distinct : s.Distinct) {l : Label} (plain : l.Plain) :
    s.isField l = false := by
  have other : s.config.attributes.rules ≠ "class" := by
    intro same
    exact distinct.rules (by simp [same, written])
  unfold isField
  rw [Label.has_eq_isSome, get?_of_plain plain other]
  rfl

theorem not_plain_of_isField (distinct : s.Distinct) {l : Label} (field : s.isField l = true) :
    ¬ l.Plain := by
  intro plain
  rw [isField_of_plain distinct plain] at field
  cases field

/-! ## Elements that are not in feedback -/

section Clear

variable (distinct : s.Distinct) {N : Nat} {d : Document} (clean : s.CleanSince N d)
include clean

/-- An element that holds more than feedback does is not in feedback. -/
theorem clear_of_not_plain {x : Element} {n : Node} (found : d.tree.find? x = some n) (old : x < N)
    {l : Label} (hl : l ∈ n.labels) (not_plain : ¬ l.Plain) :
    (s.manner distinct N).Clear x (d.tree.capped N) := by
  intro n₀ hn₀ shown inside
  rw [Forest.nodes_capped] at hn₀
  obtain ⟨n₁, hn₁, rfl⟩ := List.mem_map.1 hn₀
  obtain ⟨l₁, hl₁, id⟩ := List.mem_map.1 inside
  have labels : (n₁.capped N).labels = n₁.labels.map (Label.capped N) := by
    rw [Node.labels, Node.labels, List.map_cons, ← Forest.labels_capped]
    rfl
  rw [labels] at hl₁
  obtain ⟨l₂, hl₂, rfl⟩ := List.mem_map.1 hl₁
  obtain ⟨n₂, hn₂, rfl⟩ := Node.exists_of_mem_labels hl₂
  have nodup := clean.wellFormed.nodup_tree
  have within := Forest.nodes_of_find? (Forest.find?_of_mem_nodes nodup hn₁)
  -- the element is the one found by its number, so all that it holds is in the feedback
  have same := Forest.find?_of_mem_nodes nodup (within hn₂)
  rw [(Label.id_capped_eq_iff old).1 id, found] at same
  obtain rfl := Option.some.inj same
  refine not_plain ((clean.tidy n₁ hn₁).feedback shown l ?_)
  rcases List.mem_cons.1 hn₂ with rfl | below
  · exact hl
  · exact List.mem_cons_of_mem _ (Forest.labels_subset_of_mem_nodes below hl)

theorem old_of_not_plain {l : Label} (hl : l ∈ d.tree.labels) (not_plain : ¬ l.Plain) : l.id < N := by
  by_contra late
  exact not_plain (clean.late l hl (Nat.le_of_not_lt late))

theorem isFeedback_of_not_plain {n : Node} (hn : n ∈ d.tree.nodes) (not_plain : ¬ n.label.Plain) :
    s.isFeedback n.label = false := by
  cases shown : s.isFeedback n.label with
  | false => rfl
  | true => exact absurd ((clean.tidy n hn).feedback shown n.label List.mem_cons_self) not_plain

end Clear

/-! ## Tidy elements after a revision -/

theorem writable_capped {N : Nat} {n : Node} (h : s.Writable n) : s.Writable (n.capped N) where
  textarea tag := by
    show n.children.capped N = .nil
    rw [h.textarea tag]
    rfl
  select tag := by
    show ∀ l ∈ (n.children.capped N).labels, s.isField l = false
    rw [Forest.labels_capped]
    intro l hl
    obtain ⟨l', hl', rfl⟩ := List.mem_map.1 hl
    exact h.select tag l' hl'
  fixed := h.fixed

theorem tidy_capped {N : Nat} {n : Node} : s.Tidy (n.capped N) ↔ s.Tidy n := by
  have labels : (n.capped N).labels = n.labels.map (Label.capped N) := by
    rw [Node.labels, Node.labels, List.map_cons, ← Forest.labels_capped]
    rfl
  have children : (n.capped N).children ≠ .nil ↔ n.children ≠ .nil :=
    not_congr Forest.capped_eq_nil
  constructor
  · intro h
    constructor
    · intro shown l hl
      exact h.feedback shown (l.capped N) (labels ▸ List.mem_map_of_mem hl)
    · exact fun needed => h.spaced (needed.imp id children.2)
    · intro plain
      have writable := h.writable plain
      constructor
      · exact fun tag => Forest.capped_eq_nil.1 (writable.textarea tag)
      · intro tag l hl
        refine writable.select tag (l.capped N) ?_
        show l.capped N ∈ (n.children.capped N).labels
        rw [Forest.labels_capped]
        exact List.mem_map_of_mem hl
      · exact writable.fixed
  · intro h
    constructor
    · intro shown l hl
      rw [labels] at hl
      obtain ⟨l', hl', rfl⟩ := List.mem_map.1 hl
      exact h.feedback shown l' hl'
    · exact fun needed => h.spaced (needed.imp id children.1)
    · exact fun plain => writable_capped (h.writable plain)

theorem rooted_capped {N : Nat} {f : Forest} : s.Rooted (f.capped N) ↔ s.Rooted f := by
  cases f with
  | nil => exact Iff.rfl
  | cons l t c tail next => cases next <;> exact Iff.rfl

theorem tidy_of_bare {n : Node} (children : n.children = .nil) (attributes : n.label.attributes = []) :
    s.Tidy n := by
  have absent (a : String) : n.label.get? a = none := by
    rw [Label.get?, attributes]
    rfl
  have plain : s.isFeedback n.label = false := by
    unfold isFeedback classesOf
    rw [absent, Option.getD_none]
    rfl
  constructor
  · intro shown
    rw [plain] at shown
    cases shown
  · intro needed
    rw [plain] at needed
    rcases needed with shown | filled
    · cases shown
    · exact absurd children filled
  · intro _
    constructor
    · exact fun _ => children
    · intro _ l hl
      rw [children] at hl
      cases hl
    · intro _ raw given
      rw [absent] at given
      cases given

theorem bare_breaks (m : Manner) (tag : Tag) (lines : List String) :
    ∀ n ∈ (m.breaks tag lines).nodes, n.children = .nil ∧ n.label.attributes = [] := by
  intro n hn
  have label : n.label ∈ (m.breaks tag lines).labels :=
    Forest.labels_subset_of_mem_nodes hn List.mem_cons_self
  refine ⟨?_, (m.mem_breaks n.label label).2⟩
  rw [Manner.breaks, Forest.nodes_capped] at hn
  obtain ⟨n', hn', rfl⟩ := List.mem_map.1 hn
  have children : n'.children = .nil := by
    cases made : breaksIn tag m.number lines with
    | error e =>
      rw [made] at hn'
      cases hn'
    | ok f =>
      rw [made] at hn'
      rcases breaksIn_eq_ok made with ⟨-, rfl⟩ | ⟨space, -, rfl⟩
      · cases hn'
      · exact children_breaks _ _ _ n' hn'
  show n'.children.capped m.number = .nil
  rw [children]
  rfl

section Revised

variable {distinct : s.Distinct} {N : Nat} {R : Revision (s.manner distinct N)}
  (keeps : R.Keeps s.config.attributes.rules)
include keeps

theorem isField_label (l : Label) : s.isField (R.label l) = s.isField l := by
  unfold isField
  rw [Label.has_eq_isSome, Label.has_eq_isSome, keeps]

theorem no_field_apply {f : Forest} (none : ∀ l ∈ f.labels, s.isField l = false) (owner : Tag)
    (due : Option (List String)) : ∀ l ∈ (R.apply owner due f).2.labels, s.isField l = false := by
  have old : ∀ n ∈ f.nodes, s.isField n.label = false := fun n hn =>
    none n.label (Forest.labels_subset_of_mem_nodes hn List.mem_cons_self)
  have nodes := R.forall_nodes_apply (P := fun n => s.isField n.label = false)
    (fun _ plain _ => plain) (fun n _ plain => (isField_label keeps n.label).trans plain)
    (fun _ _ plain _ _ => plain)
    (fun _ _ _ => isField_of_plain distinct (s.manner distinct N).plain)
    (fun tag lines n hn => isField_of_plain distinct fun a ha => by
      rw [(bare_breaks _ tag lines n hn).2] at ha
      cases ha) old owner due
  intro l hl
  rw [← Forest.map_label_nodes] at hl
  obtain ⟨n, hn, rfl⟩ := List.mem_map.1 hl
  exact nodes n hn

theorem tidy_node {n : Node} (plain : s.isFeedback n.label = false) (tidy : s.Tidy n) :
    s.Tidy (R.node n) := by
  have other : s.isFeedback (R.label n.label) = false := (R.feedback n.label).trans plain
  have empty : n.children = .nil → (R.node n).children = .nil := by
    intro children
    show (R.apply n.label.tag none n.children).2 = .nil
    rw [children]
    rfl
  have tag : (R.node n).label.tag = n.label.tag := R.tag n.label
  have writable := tidy.writable plain
  constructor
  · intro shown
    rw [show s.isFeedback (R.node n).label = false from other] at shown
    cases shown
  · intro needed
    rw [tag]
    rcases needed with shown | children
    · rw [show s.isFeedback (R.node n).label = false from other] at shown
      cases shown
    · exact tidy.spaced (.inr fun none => children (empty none))
  · intro _
    constructor
    · rw [tag]
      exact fun textarea => empty (writable.textarea textarea)
    · rw [tag]
      exact fun select => no_field_apply keeps (writable.select select) n.label.tag none
    · rw [tag]
      intro select raw given
      exact writable.fixed select raw ((keeps n.label).symm.trans given)

variable (named : '\x7b' ∉ s.config.presentation.feedbackTag.toList)
  (spares : ∀ l, N ≤ l.id → R.Spares l)
include named spares

/-- Tidy elements are revised to tidy ones, and new ones are nothing but feedback. -/
theorem tidy_apply {f : Forest} (tidy : ∀ n ∈ f.nodes, s.Tidy n)
    (late : ∀ l ∈ f.labels, N ≤ l.id → l.Plain) (owner : Tag) (due : Option (List String)) :
    ∀ n ∈ (R.apply owner due f).2.nodes, s.Tidy n ∧ (N ≤ n.label.id → n.label.Plain) := by
  have plain_breaks (tag : Tag) (lines : List String) :
      ∀ l ∈ ((s.manner distinct N).breaks tag lines).labels, l.Plain := by
    intro l hl a ha
    rw [((s.manner distinct N).mem_breaks l hl).2] at ha
    cases ha
  refine R.forall_nodes_apply (P := fun n => s.Tidy n ∧ (N ≤ n.label.id → n.label.Plain))
    ?_ ?_ ?_ ?_ ?_ (fun n hn => ⟨tidy n hn, late n.label ?_⟩) owner due
  · exact fun n h tail => ⟨⟨h.1.feedback, h.1.spaced, fun plain =>
      have writable := h.1.writable plain
      ⟨writable.textarea, writable.select, writable.fixed⟩⟩, h.2⟩
  · rintro n plain ⟨tidy, late⟩
    refine ⟨tidy_node keeps plain tidy, fun new => ?_⟩
    have new : N ≤ n.label.id := (R.id n.label) ▸ new
    show (R.label n.label).Plain
    rw [(spares n.label new).1]
    exact late new
  · rintro n shown ⟨tidy, late⟩ line lines
    have own : n.label.Plain := tidy.feedback shown n.label List.mem_cons_self
    refine ⟨⟨?_, ?_, ?_⟩, fun _ => own⟩
    · intro _
      rw [Node.labels, List.forall_mem_cons]
      exact ⟨own, plain_breaks _ _⟩
    · intro _
      obtain ⟨space, spaced⟩ := tidy.spaced (.inl shown)
      exact ⟨space, Tag.space_holding spaced lines⟩
    · intro plain
      rw [show s.isFeedback (n.label.relined lines) = true from shown] at plain
      cases plain
  · intro owner line lines
    have own := (s.manner distinct N).plain
    refine ⟨⟨?_, ?_, ?_⟩, fun _ => own⟩
    · intro _
      rw [Node.labels, List.forall_mem_cons]
      exact ⟨own, plain_breaks _ _⟩
    · intro _
      show ∃ space, (Tag.element (owner.space.toOption.getD "" ++ _)).space = .ok space
      cases spaced : owner.space with
      | ok space => exact Tag.exists_space spaced named
      | error e => exact Tag.exists_space (show (Tag.element "").space = .ok "" from rfl) named
    · intro plain
      rw [show s.isFeedback ((s.manner distinct N).label owner) = true from
        (s.manner distinct N).new _] at plain
      cases plain
  · intro tag lines n hn
    obtain ⟨children, attributes⟩ := bare_breaks _ tag lines n hn
    exact ⟨tidy_of_bare children attributes, fun _ =>
      plain_breaks tag lines n.label (Forest.labels_subset_of_mem_nodes hn List.mem_cons_self)⟩
  · exact Forest.labels_subset_of_mem_nodes hn List.mem_cons_self

omit named spares in
/-- A forest with a single outermost element that is no field is revised to such. -/
theorem rooted_forest {f : Forest} (rooted : s.Rooted f)
    (undue : ∀ n ∈ f.tops, s.isField n.label = false → R.lines n.label.id = none) :
    s.Rooted (R.forest f) := by
  unfold Revision.forest
  cases f with
  | nil => exact rooted.elim
  | cons l t c tail next =>
    cases next with
    | cons l' t' c' tail' next => exact rooted.elim
    | nil =>
      have undue : R.lines l.id = none := undue ⟨l, t, c, tail⟩ List.mem_cons_self rooted
      cases shown : s.isFeedback l with
      | true =>
        rw [R.apply_kept _ _ _ _ _ shown]
        exact rooted
      | false =>
        rw [R.apply_plain _ _ _ _ _ shown, undue]
        exact (isField_label keeps l).trans rooted

theorem CleanSince.revised {d d' : Document} (clean : s.CleanSince N d)
    (fields : ∀ x, R.lines x ≠ none → ∃ l ∈ d.tree.labels, l.id = x ∧ s.isField l = true)
    (wf : d'.WellFormed) (fresh : N ≤ d'.fresh)
    (tree : d'.tree.capped N = R.forest (d.tree.capped N)) : s.CleanSince N d' := by
  have all : ∀ n ∈ (d'.tree.capped N).nodes, s.Tidy n ∧ (N ≤ n.label.id → n.label.Plain) := by
    rw [tree]
    refine tidy_apply keeps named spares (fun n hn => ?_) (fun l hl => ?_) (.element "") none
    · rw [Forest.nodes_capped] at hn
      obtain ⟨n', hn', rfl⟩ := List.mem_map.1 hn
      exact tidy_capped.2 (clean.tidy n' hn')
    · rw [Forest.labels_capped] at hl
      obtain ⟨l', hl', rfl⟩ := List.mem_map.1 hl
      intro new
      have new : N ≤ min l'.id N := new
      exact clean.late l' hl' (by omega)
  have each {n : Node} (hn : n ∈ d'.tree.nodes) := all (n.capped N) (by
    rw [Forest.nodes_capped]
    exact List.mem_map_of_mem hn)
  have undue : ∀ n ∈ (d.tree.capped N).tops, s.isField n.label = false → R.lines n.label.id = none := by
    intro n hn plain
    have member := Forest.mem_nodes_of_mem_tops hn
    rw [Forest.nodes_capped] at member
    obtain ⟨n', hn', rfl⟩ := List.mem_map.1 member
    by_cases new : N ≤ n'.label.id
    · exact (spares (n'.label.capped N) (by show N ≤ min n'.label.id N; omega)).2.2
    · by_contra due
      obtain ⟨l, hl, id, field⟩ := fields _ due
      have same : l = n'.label := by
        have own := Forest.labels_subset_of_mem_nodes hn' List.mem_cons_self
        refine clean.wellFormed.unique (List.mem_append_left _ hl) (List.mem_append_left _ own) ?_
        exact id.trans ((Label.id_capped_eq_iff (by omega)).2 rfl)
      rw [same, show s.isField n'.label = false from plain] at field
      cases field
  refine ⟨⟨wf, fun n hn => tidy_capped.1 (each hn).1, ?_⟩, fresh, fun l hl new => ?_⟩
  · have rooted := rooted_forest keeps (rooted_capped.2 clean.rooted) undue
    rw [← tree] at rooted
    exact rooted_capped.1 rooted
  · rw [← Forest.map_label_nodes] at hl
    obtain ⟨n, hn, rfl⟩ := List.mem_map.1 hl
    exact (each hn).2 (by show N ≤ min n.label.id N; omega)

end Revised

end Setup

end FormGate
