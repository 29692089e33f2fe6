import FormGate.Document.Value
import FormGate.Proofs.Markup.Forest

/-!
# Forests with other labels

Where every label of a forest is changed in the same way and elements keep their tags, what is read
from the forest changes in step. An edit of an element is then an edit of the one that stands in its
place. This holds for other attributes as well as for other numbers.
-/

namespace FormGate

open Markup

namespace Markup

def Forest.relabel (g : Label → Label) (f : Forest) : Forest :=
  f.mapLabels fun l _ _ => g l

/-- An element with its content in which every label is changed. -/
def Node.relabel (g : Label → Label) (n : Node) : Node :=
  ⟨g n.label, n.text, n.children.relabel g, n.tail⟩

namespace Forest

variable {g g' : Label → Label}

@[simp] theorem relabel_nil : relabel g nil = nil := rfl

@[simp] theorem relabel_cons (l : Label) (t : String) (c : Forest) (tail : String) (next : Forest) :
    (cons l t c tail next).relabel g = cons (g l) t (c.relabel g) tail (next.relabel g) := rfl

theorem modify_eq_relabel (f : Forest) (x : Nat) (k : Label → Label) :
    f.modify x k = f.relabel fun l => if l.id = x then k l else l :=
  modify_eq_mapLabels f x k

/-! ## What is read -/

@[simp] theorem labels_relabel (f : Forest) : (f.relabel g).labels = f.labels.map g := by
  induction f with
  | nil => rfl
  | cons l t c tail next ihc ih =>
    rw [relabel_cons, labels, labels, ihc, ih, List.map_cons, List.map_append]

theorem nodes_relabel (f : Forest) : (f.relabel g).nodes = f.nodes.map (Node.relabel g) := by
  induction f with
  | nil => rfl
  | cons l t c tail next ihc ih =>
    rw [relabel_cons, nodes, nodes, ihc, ih, List.map_cons, List.map_append]
    rfl

theorem tops_relabel (f : Forest) : (f.relabel g).tops = f.tops.map (Node.relabel g) := by
  induction f with
  | nil => rfl
  | cons l t c tail next _ ih =>
    rw [relabel_cons, tops, tops, ih, List.map_cons]
    rfl

@[simp] theorem relabel_append (f f' : Forest) :
    (f.append f').relabel g = (f.relabel g).append (f'.relabel g) := by
  induction f with
  | nil => rfl
  | cons l t c tail next _ ih => rw [append, relabel_cons, relabel_cons, append, ih]

@[simp] theorem innerText_relabel (f : Forest) : (f.relabel g).innerText = f.innerText := by
  induction f with
  | nil => rfl
  | cons l t c tail next ihc ih => rw [relabel_cons, innerText, innerText, ihc, ih]

theorem relabel_congr {f : Forest} (h : ∀ l ∈ f.labels, g l = g' l) :
    f.relabel g = f.relabel g' := by
  induction f with
  | nil => rfl
  | cons l t c tail next ihc ih =>
    rw [labels, List.forall_mem_cons, List.forall_mem_append] at h
    rw [relabel_cons, relabel_cons, h.1, ihc h.2.1, ih h.2.2]

theorem relabel_self {f : Forest} (h : ∀ l ∈ f.labels, g l = l) : f.relabel g = f := by
  induction f with
  | nil => rfl
  | cons l t c tail next ihc ih =>
    rw [labels, List.forall_mem_cons, List.forall_mem_append] at h
    rw [relabel_cons, h.1, ihc h.2.1, ih h.2.2]

theorem relabel_relabel (f : Forest) : (f.relabel g').relabel g = f.relabel (g ∘ g') := by
  induction f with
  | nil => rfl
  | cons l t c tail next ihc ih =>
    rw [relabel_cons, relabel_cons, relabel_cons, ihc, ih]
    rfl

theorem relabel_mapLabels {k k' : Label → String → Forest → Label}
    (h : ∀ l t c, k' (g l) t (c.relabel g) = g (k l t c)) (f : Forest) :
    (f.relabel g).mapLabels k' = (f.mapLabels k).relabel g := by
  induction f with
  | nil => rfl
  | cons l t c tail next ihc ih =>
    rw [relabel_cons, mapLabels, mapLabels, relabel_cons, h, ihc, ih]

/-! ## Elements and their new numbers -/

section Numbered

variable {f : Forest} {x y : Nat} (h : ∀ l ∈ f.labels, (g l).id = y ↔ l.id = x)
include h

theorem find?_relabel : (f.relabel g).find? y = (f.find? x).map (Node.relabel g) := by
  induction f with
  | nil => rfl
  | cons l t c tail next ihc ih =>
    rw [labels, List.forall_mem_cons, List.forall_mem_append] at h
    rw [relabel_cons, find?, find?, ihc h.2.1, ih h.2.2]
    by_cases here : l.id = x
    · rw [if_pos here, if_pos (h.1.2 here)]
      rfl
    · rw [if_neg here, if_neg fun same => here (h.1.1 same), Option.map_or]

theorem following?_relabel :
    (f.relabel g).following? y = (f.following? x).map (Forest.relabel g) := by
  induction f with
  | nil => rfl
  | cons l t c tail next ihc ih =>
    rw [labels, List.forall_mem_cons, List.forall_mem_append] at h
    rw [relabel_cons, following?, following?, ihc h.2.1, ih h.2.2]
    by_cases here : l.id = x
    · rw [if_pos here, if_pos (h.1.2 here)]
      rfl
    · rw [if_neg here, if_neg fun same => here (h.1.1 same), Option.map_or]

theorem parent?_relabel {ρ : Nat → Nat} (ids : ∀ l, (g l).id = ρ l.id) (owner : Nat) :
    (f.relabel g).parent? y (ρ owner) = (f.parent? x owner).map ρ := by
  induction f generalizing owner with
  | nil => rfl
  | cons l t c tail next ihc ih =>
    rw [labels, List.forall_mem_cons, List.forall_mem_append] at h
    rw [relabel_cons, parent?, parent?, ids l, ihc h.2.1, ih h.2.2]
    have number := h.1
    rw [ids l] at number
    by_cases here : l.id = x
    · rw [if_pos here, if_pos (number.2 here)]
      rfl
    · rw [if_neg here, if_neg fun same => here (number.1 same), Option.map_or]

theorem enclosing?_relabel {ρ : Nat → Nat} (ids : ∀ l, (g l).id = ρ l.id) {p : Label → Bool}
    (kept : ∀ l ∈ f.labels, p (g l) = p l) (nearest : Option Nat) :
    (f.relabel g).enclosing? p y (nearest.map ρ) = (f.enclosing? p x nearest).map (Option.map ρ) := by
  induction f generalizing nearest with
  | nil => rfl
  | cons l t c tail next ihc ih =>
    rw [labels, List.forall_mem_cons, List.forall_mem_append] at h kept
    have here : (if p (g l) then some (g l).id else nearest.map ρ) =
        (if p l then some l.id else nearest).map ρ := by
      rw [kept.1, ids l]
      split_ifs <;> rfl
    rw [relabel_cons, enclosing?, enclosing?, here, ihc h.2.1 kept.2.1, ih h.2.2 kept.2.2]
    by_cases found : l.id = x
    · rw [if_pos found, if_pos (h.1.2 found)]
      rfl
    · rw [if_neg found, if_neg fun same => found (h.1.1 same), Option.map_or]

theorem modify_relabel {k k' : Label → Label}
    (hk : ∀ l ∈ f.labels, l.id = x → k' (g l) = g (k l)) :
    (f.relabel g).modify y k' = (f.modify x k).relabel g := by
  induction f with
  | nil => rfl
  | cons l t c tail next ihc ih =>
    rw [labels, List.forall_mem_cons, List.forall_mem_append] at h hk
    rw [relabel_cons, modify, modify, relabel_cons, ihc h.2.1 hk.2.1, ih h.2.2 hk.2.2]
    by_cases here : l.id = x
    · rw [if_pos here, if_pos (h.1.2 here), hk.1 here]
    · rw [if_neg here, if_neg fun same => here (h.1.1 same)]

theorem fill_relabel (text : String) (children : Forest) :
    fill y text (children.relabel g) (f.relabel g) = (fill x text children f).relabel g := by
  induction f with
  | nil => rfl
  | cons l t c tail next ihc ih =>
    rw [labels, List.forall_mem_cons, List.forall_mem_append] at h
    rw [relabel_cons, fill, fill, ihc h.2.1, ih h.2.2]
    by_cases here : l.id = x
    · rw [if_pos here, if_pos (h.1.2 here)]
      rfl
    · rw [if_neg here, if_neg fun same => here (h.1.1 same)]
      rfl

theorem insertAfter_relabel (n : Node) :
    (f.relabel g).insertAfter y (n.relabel g) = (f.insertAfter x n).relabel g := by
  induction f with
  | nil => rfl
  | cons l t c tail next ihc ih =>
    rw [labels, List.forall_mem_cons, List.forall_mem_append] at h
    rw [relabel_cons, insertAfter, insertAfter, ihc h.2.1, ih h.2.2]
    by_cases here : l.id = x
    · rw [if_pos here, if_pos (h.1.2 here)]
      rfl
    · rw [if_neg here, if_neg fun same => here (h.1.1 same)]
      rfl

theorem cut_relabel : (f.relabel g).cut y = ((f.cut x).1, (f.cut x).2.relabel g) := by
  induction f with
  | nil => rfl
  | cons l t c tail next ihc ih =>
    rw [labels, List.forall_mem_cons, List.forall_mem_append] at h
    rw [relabel_cons, cut, cut, ihc h.2.1, ih h.2.2]
    by_cases here : l.id = x
    · rw [if_pos here, if_pos (h.1.2 here)]
    · rw [if_neg here, if_neg fun same => here (h.1.1 same)]
      rfl

end Numbered

end Forest

namespace Node

variable {g : Label → Label} (n : Node)

theorem labels_relabel : (n.relabel g).labels = n.labels.map g :=
  congrArg (g n.label :: ·) (Forest.labels_relabel n.children)

theorem nodes_relabel : (n.relabel g).nodes = n.relabel g :: n.children.nodes.map (Node.relabel g) :=
  congrArg (n.relabel g :: ·) (Forest.nodes_relabel n.children)

end Node

end Markup

/-! ## Values -/

/-- A change of labels that keeps all that the value of a field hangs on. -/
structure Markup.Label.Valued (l l' : Label) : Prop where
  tag : l'.tag = l.tag
  value : l'.get? "value" = l.get? "value"
  selected : l'.has "selected" = l.has "selected"

namespace Document

variable {g : Label → Label}

theorem optionValue_relabel {l : Label} (h : l.Valued (g l)) (text : String) (children : Forest) :
    optionValue (g l) text (children.relabel g) = optionValue l text children := by
  unfold optionValue
  rw [h.value, Forest.innerText_relabel]

theorem selectionValue_relabel {options : List Node} (h : ∀ n ∈ options, n.label.Valued (g n.label)) :
    selectionValue (options.map (Node.relabel g)) = selectionValue options := by
  have first : (options.map (Node.relabel g)).find? (·.label.has "selected") =
      (options.find? (·.label.has "selected")).map (Node.relabel g) := by
    induction options with
    | nil => rfl
    | cons n options ih =>
      rw [List.forall_mem_cons] at h
      have selected : (n.relabel g).label.has "selected" = n.label.has "selected" := h.1.selected
      rw [List.map_cons, List.find?_cons, List.find?_cons, selected, ih h.2]
      cases n.label.has "selected" <;> rfl
  unfold selectionValue
  rw [first, List.head?_map, ← Option.map_or]
  cases chosen : (options.find? (·.label.has "selected")).or options.head? with
  | none => rfl
  | some n =>
    have member : n ∈ options := by
      rcases Option.or_eq_some_iff.1 chosen with found | ⟨-, found⟩
      · exact List.mem_of_find?_eq_some found
      · exact List.mem_of_head? found
    exact optionValue_relabel (h n member) n.text n.children

/-- Where the labels in an element keep what values hang on, it keeps its value. -/
theorem nodeValue_relabel {n : Node} (h : ∀ l ∈ n.labels, l.Valued (g l)) :
    nodeValue (n.relabel g) = nodeValue n := by
  have own : n.label.Valued (g n.label) := h n.label List.mem_cons_self
  have nodes : (n.relabel g).nodes = n.nodes.map (Node.relabel g) := by
    rw [Node.nodes_relabel, Node.nodes, List.map_cons]
  have kept : ∀ m ∈ n.nodes, m.label.Valued (g m.label) := by
    intro m hm
    refine h m.label ?_
    have member := List.mem_map_of_mem (f := Node.label) hm
    rwa [Node.nodes, List.map_cons, Forest.map_label_nodes] at member
  have options : (n.relabel g).nodes.filter isOption =
      (n.nodes.filter isOption).map (Node.relabel g) := by
    have same : ∀ m ∈ n.nodes, (isOption ∘ Node.relabel g) m = isOption m := by
      intro m hm
      have tag : (m.relabel g).label.tag = m.label.tag := (kept m hm).tag
      rw [Function.comp_apply, isOption, tag, isOption]
    rw [nodes, List.filter_map, List.filter_congr same]
  have text : (n.relabel g).innerText = n.innerText :=
    congrArg (n.text ++ ·) (Forest.innerText_relabel n.children)
  have tag : (n.relabel g).label.tag = n.label.tag := own.tag
  have value : (n.relabel g).label.get? "value" = n.label.get? "value" := own.value
  unfold nodeValue
  rw [tag, text, value, options,
    selectionValue_relabel fun m hm => kept m (List.mem_of_mem_filter hm)]

end Document

end FormGate
