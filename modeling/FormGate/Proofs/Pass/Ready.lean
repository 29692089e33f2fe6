import FormGate.Pass.Form
import FormGate.Proofs.Document.Reading

/-!
# Pages that are ready for a pass

On a page that is ready, what a pass changes for one field is never part of what it reads of another:
no field stands in feedback or in a selection that is a field itself, and text areas that are fields
hold nothing but text. What a page shows of a field is whether it has the class for invalid fields,
and the lines of the feedback directly behind it.
-/

namespace FormGate

open Markup Document

/-- The lines that a node holds. -/
def Markup.Node.lines (n : Node) : List String :=
  n.text :: (n.children.tops.filter (·.label.tag.localName == "br")).map (·.tail)

theorem Document.lines_of_node {d : Document} {e : Element} {n : Node} (h : d.node? e = some n) :
    d.lines e = n.lines := by
  unfold lines
  rw [h]
  rfl

/-- What stands in a scope is labelled by labels of the scope's element. -/
theorem Document.mem_select {d : Document} {scope e : Element} {p : Label → Bool}
    (h : e ∈ d.select (some scope) p) :
    ∃ n, d.node? scope = some n ∧ ∃ l ∈ n.labels, p l = true ∧ l.id = e := by
  rw [select, labelsIn] at h
  cases found : d.node? scope with
  | none =>
    rw [found] at h
    cases h
  | some n =>
    rw [found] at h
    obtain ⟨l, hl, id⟩ := List.mem_map.1 h
    obtain ⟨hl, kind⟩ := List.mem_filter.1 hl
    exact ⟨n, rfl, l, hl, kind, id⟩

theorem Document.labels_of_node? {d : Document} {e : Element} {n : Node} (h : d.node? e = some n) :
    n.labels.Sublist d.labels := by
  rcases Option.or_eq_some_iff.1 h with h | ⟨-, h⟩
  · exact (Forest.labels_of_find? h).sublist.trans (List.sublist_append_left _ _)
  · exact (Forest.labels_of_find? h).sublist.trans (List.sublist_append_right _ _)

namespace Setup

variable (s : Setup)

def isField (l : Label) : Bool :=
  l.has s.config.attributes.rules

def isFeedback (l : Label) : Bool :=
  (classesOf l).contains s.config.presentation.feedbackClass

/-- The class names are words and tell invalid fields from feedback, and rules stand in an attribute
that no call changes. -/
structure Distinct : Prop where
  invalid : Text.isWord s.config.presentation.invalidClass = true
  feedback : Text.isWord s.config.presentation.feedbackClass = true
  classes : s.config.presentation.invalidClass ≠ s.config.presentation.feedbackClass
  rules : s.config.attributes.rules ∉ written

/-- The numbers of the fields among labels. -/
def fieldsOf (ls : List Label) : List Element :=
  (ls.filter s.isField).map (·.id)

/-- Feedback holds no field, a text area that is a field no elements, and a selection that is a field
no other field. -/
structure Sound (n : Node) : Prop where
  feedback : s.isFeedback n.label = true → ∀ l ∈ n.labels, s.isField l = false
  textarea : s.isField n.label = true → n.label.tag.localName = "textarea" → n.children = .nil
  select : s.isField n.label = true → n.label.tag.localName = "select" →
    ∀ l ∈ n.children.labels, s.isField l = false

/-- A well-formed page of sound elements. -/
structure Ready (d : Document) : Prop where
  wellFormed : d.WellFormed
  sound : ∀ n ∈ d.tree.nodes, s.Sound n

/-- What a page shows of a field is in line with its outcome. -/
structure Shows (d : Document) (e : Element) (o : Outcome) : Prop where
  marked : d.hasClass e s.config.presentation.invalidClass = !o.valid
  feedback : ∃ fs, d.feedback e s.config.presentation.feedbackClass = .ok fs ∧
    fs.map d.lines = if o.valid then [] else [o.errors]

/-- The lines of the feedback with which a forest starts. -/
def notes (f : Forest) : List (List String) :=
  (f.tops.takeWhile fun n => s.isFeedback n.label && !n.labels.any s.isField).map (·.lines)

instance : Decidable s.Distinct :=
  decidable_of_iff
    (Text.isWord s.config.presentation.invalidClass = true ∧
      Text.isWord s.config.presentation.feedbackClass = true ∧
      s.config.presentation.invalidClass ≠ s.config.presentation.feedbackClass ∧
      s.config.attributes.rules ∉ written)
    ⟨fun h => ⟨h.1, h.2.1, h.2.2.1, h.2.2.2⟩, fun h => ⟨h.invalid, h.feedback, h.classes, h.rules⟩⟩

instance (n : Node) : Decidable (s.Sound n) :=
  decidable_of_iff
    ((s.isFeedback n.label = true → ∀ l ∈ n.labels, s.isField l = false) ∧
      (s.isField n.label = true → n.label.tag.localName = "textarea" → n.children = .nil) ∧
      (s.isField n.label = true → n.label.tag.localName = "select" →
        ∀ l ∈ n.children.labels, s.isField l = false))
    ⟨fun h => ⟨h.1, h.2.1, h.2.2⟩, fun h => ⟨h.feedback, h.textarea, h.select⟩⟩

instance (d : Document) : Decidable (s.Ready d) :=
  decidable_of_iff (d.WellFormed ∧ ∀ n ∈ d.tree.nodes, s.Sound n)
    ⟨fun h => ⟨h.1, h.2⟩, fun h => ⟨h.wellFormed, h.sound⟩⟩

variable {s}

/-! ## Fields -/

theorem isField_of_kin (distinct : s.Distinct) {l l' : Label} (h : l.Kin l') :
    s.isField l' = s.isField l := by
  unfold isField
  rw [Label.has_eq_isSome, Label.has_eq_isSome, h.get? _ distinct.rules]

theorem fieldsOf_append (ls ls' : List Label) :
    s.fieldsOf (ls ++ ls') = s.fieldsOf ls ++ s.fieldsOf ls' := by
  simp [fieldsOf]

theorem fieldsOf_plain {ls : List Label} (plain : ∀ l ∈ ls, s.isField l = false) :
    s.fieldsOf ls = [] := by
  rw [fieldsOf, List.filter_eq_nil_iff.2 fun l hl => by simp [plain l hl]]
  rfl

theorem fieldsOf_field {l : Label} (field : s.isField l = true) (ls : List Label) :
    s.fieldsOf (l :: ls) = l.id :: s.fieldsOf ls := by
  rw [fieldsOf, List.filter_cons_of_pos field]
  rfl

theorem fieldsOf_cons (l : Label) {ls ls' : List Label} (h : s.fieldsOf ls' = s.fieldsOf ls) :
    s.fieldsOf (l :: ls') = s.fieldsOf (l :: ls) := by
  unfold fieldsOf at h ⊢
  rw [List.filter_cons, List.filter_cons]
  split_ifs
  · rw [List.map_cons, List.map_cons, h]
  · exact h

/-- The fields of a scope are those among the labels of its element. -/
theorem carriers_of_node {d : Document} {scope : Element} {n : Node}
    (found : d.node? scope = some n) :
    d.carriers scope s.config.attributes.rules = s.fieldsOf n.labels := by
  rw [carriers, select, labelsIn, found]
  rfl

/-! ## Sound elements -/

theorem Sound.of_plain {n : Node} (plain : ∀ l ∈ n.labels, s.isField l = false) : s.Sound n where
  feedback _ := plain
  textarea field := by
    rw [plain n.label List.mem_cons_self] at field
    cases field
  select field := by
    rw [plain n.label List.mem_cons_self] at field
    cases field

/-- A sound element around a field may hold anything. -/
theorem Sound.around {l : Label} {t tail : String} {c : Forest} (h : s.Sound ⟨l, t, c, tail⟩)
    {l' : Label} (inside : l' ∈ c.labels) (field : s.isField l' = true) (c' : Forest) :
    s.Sound ⟨l, t, c', tail⟩ where
  feedback shown := by
    rw [h.feedback shown l' (List.mem_cons_of_mem _ inside)] at field
    cases field
  textarea is tag := by
    obtain rfl : c = .nil := h.textarea is tag
    cases inside
  select is tag := by
    rw [h.select is tag l' inside] at field
    cases field

/-- An element that is not feedback is sound as a text area without elements and as a selection without
fields. -/
theorem Sound.of_unshown {n : Node} (unshown : s.isFeedback n.label = false)
    (textarea : n.label.tag.localName = "textarea" → n.children = .nil)
    (select : n.label.tag.localName = "select" → ∀ l ∈ n.children.labels, s.isField l = false) :
    s.Sound n where
  feedback shown := by
    rw [unshown] at shown
    cases shown
  textarea _ := textarea
  select _ := select

/-- A page as it was read is ready if it shows no feedback yet, text areas hold no elements, and
selections no fields. -/
theorem ready_ofText {text : String} {d : Document} (read : Document.ofText text = .ok d)
    (unshown : ∀ l ∈ d.tree.labels, s.isFeedback l = false)
    (textareas : ∀ n ∈ d.tree.nodes, n.label.tag.localName = "textarea" → n.children = .nil)
    (selects : ∀ n ∈ d.tree.nodes, n.label.tag.localName = "select" →
      ∀ l ∈ n.children.labels, s.isField l = false) : s.Ready d where
  wellFormed := wellFormed_ofText read
  sound n hn := .of_unshown
    (unshown n.label (Forest.labels_subset_of_mem_nodes hn List.mem_cons_self)) (textareas n hn)
    (selects n hn)

/-! ## Notes -/

theorem takeWhile_congr {α : Type} {p q : α → Bool} {xs : List α} (h : ∀ x ∈ xs, p x = q x) :
    xs.takeWhile p = xs.takeWhile q := by
  induction xs with
  | nil => rfl
  | cons x xs ih =>
    rw [List.forall_mem_cons] at h
    rw [List.takeWhile_cons, List.takeWhile_cons, h.1, ih h.2]

/-- What stands behind an element of a well-formed page is found by its numbers. -/
theorem node?_of_siblingsAfter {d : Document} (h : d.WellFormed) {e : Element} {f : Forest}
    (after : d.siblingsAfter e = .ok f) {n : Node} (hn : n ∈ f.tops) :
    n ∈ d.tree.nodes ∧ d.node? n.label.id = some n := by
  obtain ⟨p, -, following, -⟩ := mem_tree_of_siblingsAfter after
  have member := Forest.nodes_subset_of_following? following (Forest.mem_nodes_of_mem_tops hn)
  refine ⟨member, ?_⟩
  rw [node?, Forest.find?_of_mem_nodes h.nodup_tree member]
  rfl

theorem Ready.feedback_lines {d : Document} (h : s.Ready d) {e : Element} {f : Forest}
    (after : d.siblingsAfter e = .ok f) :
    ∃ fs, d.feedback e s.config.presentation.feedbackClass = .ok fs ∧ fs.map d.lines = s.notes f := by
  have found {n : Node} (hn : n ∈ f.tops) := node?_of_siblingsAfter h.wellFormed after hn
  have plain : ∀ n ∈ f.tops, (s.isFeedback n.label && !n.labels.any s.isField) =
      s.isFeedback n.label := by
    intro n hn
    cases shown : s.isFeedback n.label with
    | false => rfl
    | true =>
      have sound := h.sound n (found hn).1
      have none : n.labels.any s.isField = false := by
        simpa using sound.feedback shown
      rw [none]
      rfl
  refine ⟨(f.tops.takeWhile fun n => s.isFeedback n.label).map (·.label.id),
    by rw [feedback, after]; rfl, ?_⟩
  rw [List.map_map, notes, takeWhile_congr plain]
  refine List.map_congr_left fun n hn => ?_
  exact lines_of_node (found ((List.takeWhile_prefix _).subset hn)).2

end Setup

end FormGate
