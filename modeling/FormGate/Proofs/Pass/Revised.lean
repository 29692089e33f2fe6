import FormGate.Proofs.Pass.Feedback
import FormGate.Proofs.Pass.Revision

/-!
# What is read of a revised forest

An element that does not stand in feedback is found in a revised forest with its revised label, text
and children. The elements of a kind are the same ones, and so is the value of an element that is
itself spared. What holds of all elements of a forest holds of those of the revised one, if every
way to revise an element keeps it.
-/

namespace FormGate

open Markup Document

/-- An element without the text that follows it. -/
def Markup.Node.alone (n : Node) : Node :=
  { n with tail := "" }

namespace Manner

variable (m : Manner) {x : Nat}

theorem mem_breaks {tag : Tag} {lines : List String} :
    ∀ l ∈ (m.breaks tag lines).labels, l.id = m.number ∧ l.attributes = [] := by
  intro l hl
  rw [breaks, Forest.labels_capped] at hl
  obtain ⟨l', hl', rfl⟩ := List.mem_map.1 hl
  cases made : breaksIn tag m.number lines with
  | error e =>
    rw [made] at hl'
    cases hl'
  | ok f =>
    rw [made] at hl'
    have id := Forest.id_mem_ids (f := f) hl'
    rw [ids_breaksIn made, List.mem_range'_1] at id
    refine ⟨?_, attributes_breaksIn made l' hl'⟩
    show min l'.id m.number = m.number
    omega

theorem not_mem_ids_breaks (other : x ≠ m.number) (tag : Tag) (lines : List String) :
    x ∉ (m.breaks tag lines).ids := by
  intro member
  obtain ⟨l, hl, rfl⟩ := List.mem_map.1 member
  exact other (m.mem_breaks l hl).1

theorem find?_noted (other : x ≠ m.number) (owner : Tag) (due : Option (List String)) (f : Forest) :
    (m.noted owner due f).find? x = f.find? x := by
  rcases due with _ | _ | ⟨line, lines⟩
  · rfl
  · rfl
  · show (Forest.cons (m.label owner) line _ "" f).find? x = f.find? x
    rw [Forest.find?, if_neg (Ne.symm other : (m.label owner).id ≠ x),
      Forest.find?_of_not_mem (m.not_mem_ids_breaks other _ _)]
    rfl

/-- Labels of a kind are never those of new feedback, nor of line breaks in it. -/
structure Ignores (p : Label → Bool) : Prop where
  new : ∀ tag, p ⟨m.number, tag, m.attributes⟩ = false
  bare : ∀ tag, p ⟨m.number, tag, []⟩ = false

section Filter

variable {m} {p : Label → Bool} (hp : m.Ignores p)
include hp

theorem filter_breaks (tag : Tag) (lines : List String) : (m.breaks tag lines).labels.filter p = [] := by
  rw [List.filter_eq_nil_iff]
  intro l hl
  obtain ⟨id, attributes⟩ := m.mem_breaks l hl
  have bare : l = ⟨m.number, l.tag, []⟩ := by
    rw [← id, ← attributes]
  rw [bare, hp.bare]
  decide

theorem filter_noted (owner : Tag) (due : Option (List String)) (f : Forest) :
    (m.noted owner due f).labels.filter p = f.labels.filter p := by
  rcases due with _ | _ | ⟨line, lines⟩
  · rfl
  · rfl
  · have new : p (m.label owner) = false := hp.new _
    show (Forest.cons (m.label owner) line _ "" f).labels.filter p = _
    rw [Forest.labels, List.filter_cons_of_neg (by simp [new]), List.filter_append,
      filter_breaks hp, List.nil_append]

end Filter

theorem forall_nodes_noted {P : Node → Prop} {owner : Tag} {f : Forest}
    (new : ∀ line lines, P ⟨m.label owner, line, m.breaks (m.tag owner) lines, ""⟩)
    (breaks : ∀ tag lines, ∀ n ∈ (m.breaks tag lines).nodes, P n) (h : ∀ n ∈ f.nodes, P n)
    (due : Option (List String)) : ∀ n ∈ (m.noted owner due f).nodes, P n := by
  rcases due with _ | _ | ⟨line, lines⟩
  · exact h
  · exact h
  · show ∀ n ∈ (Forest.cons (m.label owner) line _ "" f).nodes, P n
    rw [Forest.nodes, List.forall_mem_cons, List.forall_mem_append]
    exact ⟨new line (line :: lines), breaks _ _, h⟩

end Manner

namespace Manner.Clear

variable {m : Manner} {x : Nat} {l : Label} {t : String} {c : Forest} {tail : String} {next : Forest}

theorem below (h : m.Clear x (.cons l t c tail next)) : m.Clear x c := fun n hn =>
  h n (by simp [Forest.nodes, hn])

theorem behind (h : m.Clear x (.cons l t c tail next)) : m.Clear x next := fun n hn =>
  h n (by simp [Forest.nodes, hn])

/-- An element that is clear of feedback is not a first element that is feedback, nor in it. -/
theorem not_mem (h : m.Clear x (.cons l t c tail next)) (shown : m.isFeedback l = true) :
    l.id ≠ x ∧ x ∉ c.ids := by
  have outside := h _ List.mem_cons_self shown
  rw [Node.labels, List.map_cons, List.mem_cons, not_or] at outside
  exact ⟨Ne.symm outside.1, outside.2⟩

end Manner.Clear

namespace Revision

variable {m : Manner} (R : Revision m)

/-- What becomes of an element that is not feedback. -/
def node (n : Node) : Node :=
  ⟨R.label n.label, R.text n.label n.text, (R.apply n.label.tag none n.children).2, n.tail⟩

/-- An element that is clear of feedback is found with what becomes of it. -/
theorem find?_apply {x : Nat} (other : x ≠ m.number) {f : Forest} (clear : m.Clear x f)
    (owner : Tag) (due : Option (List String)) :
    ((R.apply owner due f).2.find? x).map Node.alone =
      (f.find? x).map fun n => (R.node n).alone := by
  induction f generalizing owner due with
  | nil =>
    rw [apply_nil, m.find?_noted other]
    rfl
  | cons l t c tail next ihc ih =>
    have below := ihc clear.below
    have behind := ih clear.behind
    cases shown : m.isFeedback l with
    | true =>
      obtain ⟨here, inside⟩ := clear.not_mem shown
      have relined (lines : List String) : (l.relined lines).id ≠ x := here
      rcases due with _ | _ | ⟨line, lines⟩
      · rw [R.apply_kept _ _ _ _ _ shown, Forest.find?, Forest.find?, if_neg here, if_neg here,
          Forest.find?_of_not_mem inside, Option.none_or, Option.none_or, behind]
      · rw [R.apply_removed _ _ _ _ _ shown, Forest.find?, if_neg here,
          Forest.find?_of_not_mem inside, Option.none_or, behind]
      · rw [R.apply_relined _ _ _ _ _ shown, Forest.find?, Forest.find?, if_neg here,
          if_neg (relined _), Forest.find?_of_not_mem inside,
          Forest.find?_of_not_mem (m.not_mem_ids_breaks other _ _), Option.none_or, Option.none_or,
          behind]
    | false =>
      rw [R.apply_plain _ _ _ _ _ shown, m.find?_noted other, Forest.find?, Forest.find?, R.id]
      by_cases here : l.id = x
      · rw [if_pos here, if_pos here]
        rfl
      · rw [if_neg here, if_neg here, Option.map_or, Option.map_or, below, behind]

/-- The elements of a kind are the same ones, if none of them is feedback or stands in such. -/
theorem filter_labels_apply {p : Label → Bool} (hp : m.Ignores p)
    (same : ∀ l, p (R.label l) = p l) {f : Forest}
    (feedback : ∀ n ∈ f.nodes, m.isFeedback n.label = true → ∀ l ∈ n.labels, ∀ tag,
      p { l with tag } = false)
    (owner : Tag) (due : Option (List String)) :
    (((R.apply owner due f).2.labels.filter p)).map (·.id) = (f.labels.filter p).map (·.id) := by
  induction f generalizing owner due with
  | nil =>
    rw [apply_nil, Manner.filter_noted hp]
  | cons l t c tail next ihc ih =>
    have below := ihc fun n hn => feedback n (by simp [Forest.nodes, hn])
    have behind := ih fun n hn => feedback n (by simp [Forest.nodes, hn])
    cases shown : m.isFeedback l with
    | true =>
      have plain := feedback _ List.mem_cons_self shown
      rw [Node.labels, List.forall_mem_cons] at plain
      have here : p l = false := plain.1 l.tag
      have relined (lines : List String) : p (l.relined lines) = false := plain.1 _
      have inside : c.labels.filter p = [] := by
        rw [List.filter_eq_nil_iff]
        intro l' hl'
        have absent : p l' = false := plain.2 l' hl' l'.tag
        simp [absent]
      rcases due with _ | _ | ⟨line, lines⟩
      · rw [R.apply_kept _ _ _ _ _ shown, Forest.labels, Forest.labels,
          List.filter_cons_of_neg (by simp [here]), List.filter_cons_of_neg (by simp [here]),
          List.filter_append, List.filter_append, inside, List.nil_append, List.nil_append, behind]
      · rw [R.apply_removed _ _ _ _ _ shown, Forest.labels,
          List.filter_cons_of_neg (by simp [here]), List.filter_append, inside, List.nil_append,
          behind]
      · rw [R.apply_relined _ _ _ _ _ shown, Forest.labels, Forest.labels,
          List.filter_cons_of_neg (by simp [relined]), List.filter_cons_of_neg (by simp [here]),
          List.filter_append, List.filter_append, inside, Manner.filter_breaks hp, List.nil_append,
          List.nil_append, behind]
    | false =>
      rw [R.apply_plain _ _ _ _ _ shown, Manner.filter_noted hp, Forest.labels, Forest.labels,
        List.filter_cons, List.filter_cons, same]
      split_ifs
      · rw [List.map_cons, List.map_cons, List.filter_append, List.filter_append, List.map_append,
          List.map_append, below, behind, R.id]
      · rw [List.filter_append, List.filter_append, List.map_append, List.map_append, below, behind]

/-- What holds of all elements holds of all revised ones, if it is kept in feedback and elsewhere. -/
theorem forall_nodes_apply {P : Node → Prop}
    (tail : ∀ n : Node, P n → ∀ tail, P { n with tail })
    (kept : ∀ n, m.isFeedback n.label = false → P n → P (R.node n))
    (relined : ∀ n, m.isFeedback n.label = true → P n → ∀ line lines, P ⟨n.label.relined lines, line,
      m.breaks (n.label.relined lines).tag lines, n.tail⟩)
    (new : ∀ owner line lines, P ⟨m.label owner, line, m.breaks (m.tag owner) lines, ""⟩)
    (breaks : ∀ tag lines, ∀ n ∈ (m.breaks tag lines).nodes, P n) {f : Forest}
    (h : ∀ n ∈ f.nodes, P n) (owner : Tag) (due : Option (List String)) :
    ∀ n ∈ (R.apply owner due f).2.nodes, P n := by
  induction f generalizing owner due with
  | nil => exact m.forall_nodes_noted (new owner) breaks h due
  | cons l t c t' next ihc ih =>
    rw [Forest.nodes, List.forall_mem_cons, List.forall_mem_append] at h
    obtain ⟨here, below, behind⟩ := h
    cases shown : m.isFeedback l with
    | true =>
      rcases due with _ | _ | ⟨line, lines⟩
      · rw [R.apply_kept _ _ _ _ _ shown, Forest.nodes, List.forall_mem_cons,
          List.forall_mem_append]
        exact ⟨here, below, ih behind owner none⟩
      · rw [R.apply_removed _ _ _ _ _ shown]
        exact ih behind owner (some [])
      · rw [R.apply_relined _ _ _ _ _ shown, Forest.nodes, List.forall_mem_cons,
          List.forall_mem_append]
        exact ⟨tail _ (relined _ shown here line (line :: lines)) _, breaks _ _,
          ih behind owner (some [])⟩
    | false =>
      rw [R.apply_plain _ _ _ _ _ shown]
      refine m.forall_nodes_noted (new owner) breaks ?_ due
      rw [Forest.nodes, List.forall_mem_cons, List.forall_mem_append]
      exact ⟨tail _ (kept _ shown here) _, ihc below l.tag none, ih behind owner (R.lines l.id)⟩

theorem clear_apply {x : Nat} (other : x ≠ m.number) {f : Forest} (clear : m.Clear x f)
    (owner : Tag) (due : Option (List String)) : m.Clear x (R.apply owner due f).2 := by
  have fresh (tag : Tag) (lines : List String) : x ∉ (m.breaks tag lines).labels.map (·.id) :=
    m.not_mem_ids_breaks other tag lines
  refine R.forall_nodes_apply
    (P := fun n => m.isFeedback n.label = true → x ∉ n.labels.map Label.id)
    (fun n h tail => h) ?_ ?_ ?_ ?_ clear owner due
  · intro n plain _ shown
    rw [show m.isFeedback (R.node n).label = false from (R.feedback n.label).trans plain] at shown
    cases shown
  · intro n shown h line lines _
    have outside := h shown
    rw [Node.labels, List.map_cons, List.mem_cons, not_or] at outside
    rw [Node.labels, List.map_cons, List.mem_cons, not_or]
    exact ⟨outside.1, fresh _ _⟩
  · intro owner line lines _
    rw [Node.labels, List.map_cons, List.mem_cons, not_or]
    exact ⟨other, fresh _ _⟩
  · intro tag lines n hn _ inside
    exact fresh tag lines (List.map_subset _ (Forest.labels_subset_of_mem_nodes hn) inside)

/-! ## Values -/

/-- A revision does not change what a label counts for as that of an option, nor any text near it. -/
structure Quiet (l : Label) : Prop where
  text : ∀ t, R.text l t = t
  lines : R.lines l.id = none
  value : (R.label l).get? "value" = l.get? "value"
  selected : (R.label l).has "selected" = l.has "selected"

variable {R}

theorem innerText_apply {f : Forest} (quiet : ∀ l ∈ f.labels, R.Quiet l) (owner : Tag) :
    (R.apply owner none f).2.innerText = f.innerText := by
  induction f generalizing owner with
  | nil => rfl
  | cons l t c tail next ihc ih =>
    rw [Forest.labels, List.forall_mem_cons, List.forall_mem_append] at quiet
    obtain ⟨here, below, behind⟩ := quiet
    cases shown : m.isFeedback l with
    | true => rw [R.apply_kept _ _ _ _ _ shown, Forest.innerText, Forest.innerText, ih behind]
    | false =>
      rw [R.apply_plain _ _ _ _ _ shown, here.lines, here.text, R.apply_none_fst,
        String.append_empty]
      show (Forest.cons _ _ _ _ _).innerText = _
      rw [Forest.innerText, Forest.innerText, ihc below, ih behind]

/-- What an option counts for in a selection. -/
def weight (n : Node) : Bool × String :=
  (n.label.has "selected", optionValue n.label n.text n.children)

theorem weight_apply {f : Forest} (quiet : ∀ l ∈ f.labels, R.Quiet l) (owner : Tag) :
    ((R.apply owner none f).2.nodes.filter isOption).map weight =
      (f.nodes.filter isOption).map weight := by
  induction f generalizing owner with
  | nil => rfl
  | cons l t c tail next ihc ih =>
    rw [Forest.labels, List.forall_mem_cons, List.forall_mem_append] at quiet
    obtain ⟨here, below, behind⟩ := quiet
    cases shown : m.isFeedback l with
    | true =>
      rw [R.apply_kept _ _ _ _ _ shown, Forest.nodes, Forest.nodes, List.filter_cons,
        List.filter_cons]
      have option : isOption ⟨l, t, c, tail⟩ = (l.tag.localName == "option") := rfl
      rw [option]
      split_ifs
      · rw [List.map_cons, List.map_cons, List.filter_append, List.filter_append, List.map_append,
          List.map_append, ih behind]
      · rw [List.filter_append, List.filter_append, List.map_append, List.map_append, ih behind]
    | false =>
      rw [R.apply_plain _ _ _ _ _ shown, here.lines, here.text, R.apply_none_fst,
        String.append_empty]
      show ((Forest.cons _ _ _ _ _).nodes.filter isOption).map weight = _
      have option : isOption ⟨R.label l, t, (R.apply l.tag none c).2, tail⟩ =
          isOption ⟨l, t, c, tail⟩ := by
        unfold isOption
        rw [R.tag]
      have value : weight ⟨R.label l, t, (R.apply l.tag none c).2, tail⟩ = weight ⟨l, t, c, tail⟩ := by
        unfold weight optionValue
        rw [here.selected, here.value, innerText_apply below]
      rw [Forest.nodes, Forest.nodes, List.filter_cons, List.filter_cons, option]
      split_ifs
      · rw [List.map_cons, List.map_cons, List.filter_append, List.filter_append, List.map_append,
          List.map_append, ihc below, ih behind, value]
      · rw [List.filter_append, List.filter_append, List.map_append, List.map_append, ihc below,
          ih behind]

theorem selectionValue_eq (options : List Node) :
    selectionValue options =
      (((((options.map weight).find? (·.1)).or (options.map weight).head?)).map (·.2)).getD "" := by
  unfold selectionValue
  rw [List.find?_map, List.head?_map, ← Option.map_or]
  show _ = ((((options.find? (·.label.has "selected")).or options.head?).map weight).map
    (·.2)).getD ""
  cases (options.find? (·.label.has "selected")).or options.head? <;> rfl

/-- An element keeps its value if its text and its attribute for that stay, a text area holds no
elements, and a selection only quiet ones. -/
theorem nodeValue_node {n : Node} (text : R.text n.label n.text = n.text)
    (value : (R.label n.label).get? "value" = n.label.get? "value")
    (textarea : n.label.tag.localName = "textarea" → n.children = .nil)
    (select : n.label.tag.localName = "select" → ∀ l ∈ n.children.labels, R.Quiet l) :
    nodeValue (R.node n) = nodeValue n := by
  unfold nodeValue
  rw [show (R.node n).label.tag = n.label.tag from R.tag n.label]
  split
  · rename_i name
    show (R.text n.label n.text) ++ (R.apply n.label.tag none n.children).2.innerText =
      n.text ++ n.children.innerText
    rw [text, textarea name]
    rfl
  · rename_i name
    have no_option {n : Node} (name : n.label.tag.localName = "select") : isOption n = false := by
      unfold isOption
      rw [name]
      decide
    have name' : (R.node n).label.tag.localName = "select" := by
      rw [← name]
      exact congrArg Tag.localName (R.tag n.label)
    have none : isOption n = false := no_option name
    have none' : isOption (R.node n) = false := no_option name'
    have options : ((R.node n).nodes.filter isOption).map weight =
        (n.nodes.filter isOption).map weight := by
      rw [Node.nodes, Node.nodes, List.filter_cons_of_neg (by simp [none']),
        List.filter_cons_of_neg (by simp [none])]
      exact weight_apply (select name) n.label.tag
    rw [selectionValue_eq, selectionValue_eq, options]
  · show ((R.label n.label).get? "value").getD "" = _
    rw [value]

/-! ## Changes of one label -/

/-- Changing the label of one element is a revision, if the element is clear of feedback. -/
theorem apply_eq_modify {x : Nat} {k : Label → Label}
    (label : ∀ l, R.label l = if l.id = x then k l else l) (text : ∀ l t, R.text l t = t)
    (lines : ∀ y, R.lines y = none) {f : Forest} (clear : m.Clear x f) (owner : Tag) :
    R.apply owner none f = ("", f.modify x k) := by
  induction f generalizing owner with
  | nil => rfl
  | cons l t c tail next ihc ih =>
    cases shown : m.isFeedback l with
    | true =>
      obtain ⟨here, inside⟩ := clear.not_mem shown
      rw [R.apply_kept _ _ _ _ _ shown, ih clear.behind, Forest.modify, if_neg here,
        Forest.modify_of_not_mem inside]
    | false =>
      rw [R.apply_plain _ _ _ _ _ shown, lines, text, label, ihc clear.below, ih clear.behind,
        String.append_empty]
      rfl

end Revision

end FormGate
