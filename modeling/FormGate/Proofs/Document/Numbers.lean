import FormGate.Document.Value
import FormGate.Proofs.Document.WellFormed
import FormGate.Proofs.Markup.Frame

/-!
# Pages up to the numbers of new elements

The numbers of elements that are put into a page depend on the order in which they come. Pages are
compared up to these numbers: every number from a certain one on is taken for that one. Nothing else
of an element is lost, so that pages which are the same in this sense are written as the same text
(`Document.Same.text`).
-/

namespace FormGate

namespace Markup

/-- A label whose number is `N` at most. -/
def Label.capped (N : Nat) (l : Label) : Label :=
  { l with id := min l.id N }

/-- A forest in which `N` stands for every number from `N` on. -/
def Forest.capped (N : Nat) (f : Forest) : Forest :=
  f.mapLabels fun l _ _ => l.capped N

/-- An element in which `N` stands for every number from `N` on. -/
def Node.capped (N : Nat) (n : Node) : Node :=
  ⟨n.label.capped N, n.text, n.children.capped N, n.tail⟩

/-- A frame in which `N` stands for every number from `N` on. -/
def Frame.capped (N : Nat) : Frame → Frame
  | here => here
  | inside l t inner tail next => inside (l.capped N) t (inner.capped N) tail (next.capped N)
  | behind l t c tail inner => behind (l.capped N) t (c.capped N) tail (inner.capped N)

section Capped

variable {N x : Nat}

theorem Label.id_capped_eq_iff {l : Label} (old : x < N) : (l.capped N).id = x ↔ l.id = x := by
  show min l.id N = x ↔ l.id = x
  omega

theorem Label.capped_of_le {l : Label} (h : l.id ≤ N) : l.capped N = l := by
  rw [capped, Nat.min_eq_left h]

namespace Forest

@[simp] theorem capped_nil : capped N nil = nil := rfl

@[simp] theorem capped_cons (l : Label) (t : String) (c : Forest) (tail : String) (next : Forest) :
    (cons l t c tail next).capped N = cons (l.capped N) t (c.capped N) tail (next.capped N) := rfl

theorem labels_capped (f : Forest) : (f.capped N).labels = f.labels.map (Label.capped N) := by
  induction f with
  | nil => rfl
  | cons l t c tail next ihc ih =>
    rw [capped_cons, labels, labels, ihc, ih, List.map_cons, List.map_append]

theorem nodes_capped (f : Forest) : (f.capped N).nodes = f.nodes.map (Node.capped N) := by
  induction f with
  | nil => rfl
  | cons l t c tail next ihc ih =>
    rw [capped_cons, nodes, nodes, ihc, ih, List.map_cons, List.map_append]
    rfl

@[simp] theorem capped_append (f g : Forest) :
    (f.append g).capped N = (f.capped N).append (g.capped N) := by
  induction f with
  | nil => rfl
  | cons l t c tail next _ ih => rw [append, capped_cons, capped_cons, append, ih]

theorem innerText_capped (f : Forest) : (f.capped N).innerText = f.innerText := by
  induction f with
  | nil => rfl
  | cons l t c tail next ihc ih => rw [capped_cons, innerText, innerText, ihc, ih]

theorem find?_capped (old : x < N) (f : Forest) :
    (f.capped N).find? x = (f.find? x).map (Node.capped N) := by
  induction f with
  | nil => rfl
  | cons l t c tail next ihc ih =>
    rw [capped_cons, find?, find?, ihc, ih]
    by_cases here : l.id = x
    · rw [if_pos here, if_pos ((Label.id_capped_eq_iff old).2 here)]
      rfl
    · rw [if_neg here, if_neg fun same => here ((Label.id_capped_eq_iff old).1 same), Option.map_or]

theorem mem_ids_capped (old : x < N) {f : Forest} : x ∈ (f.capped N).ids ↔ x ∈ f.ids := by
  rw [← find?_isSome, ← find?_isSome, find?_capped old, Option.isSome_map]

theorem capped_of_le {f : Forest} (h : ∀ l ∈ f.labels, l.id ≤ N) : f.capped N = f := by
  induction f with
  | nil => rfl
  | cons l t c tail next ihc ih =>
    rw [labels, List.forall_mem_cons, List.forall_mem_append] at h
    rw [capped_cons, Label.capped_of_le h.1, ihc h.2.1, ih h.2.2]

theorem capped_modify {k : Label → Label} (hk : ∀ l, (k l).capped N = k (l.capped N)) (old : x < N)
    (f : Forest) : (f.modify x k).capped N = (f.capped N).modify x k := by
  induction f with
  | nil => rfl
  | cons l t c tail next ihc ih =>
    rw [modify, capped_cons, capped_cons, modify, ihc, ih]
    by_cases here : l.id = x
    · rw [if_pos here, if_pos ((Label.id_capped_eq_iff old).2 here), hk]
    · rw [if_neg here, if_neg fun same => here ((Label.id_capped_eq_iff old).1 same)]

theorem capped_eq_nil {f : Forest} : f.capped N = nil ↔ f = nil := by
  cases f with
  | nil => exact Iff.rfl
  | cons l t c tail next =>
    constructor
    · intro h
      cases h
    · intro h
      cases h

end Forest

namespace Frame

theorem capped_plug (K : Frame) (f : Forest) :
    (K.plug f).capped N = (K.capped N).plug (f.capped N) := by
  induction K with
  | here => rfl
  | inside l t inner tail next ih => rw [plug, Forest.capped_cons, ih, capped, plug]
  | behind l t c tail inner ih => rw [plug, Forest.capped_cons, ih, capped, plug]

theorem mem_ids_capped (old : x < N) {K : Frame} : x ∈ (K.capped N).ids ↔ x ∈ K.ids := by
  have plugged : x ∈ ((K.capped N).plug .nil).ids ↔ x ∈ (K.plug .nil).ids := by
    rw [← Forest.mem_ids_capped old (f := K.plug .nil), capped_plug]
    rfl
  rw [mem_ids_plug, mem_ids_plug] at plugged
  simpa using plugged

end Frame

/-! ## Writing -/

namespace Writer

theorem write_capped (written : String → String) (declarations : List Char) (f : Forest) :
    write written declarations (f.capped N) = write written declarations f := by
  induction f generalizing declarations with
  | nil => rfl
  | cons l t c tail next ihc ih =>
    have empty : (c.capped N == .nil) = (c == .nil) := by
      rw [Bool.eq_iff_iff, beq_iff_eq, beq_iff_eq, Forest.capped_eq_nil]
    rw [Forest.capped_cons, write, write, ihc, ih, empty]
    rfl

theorem page_capped (doctype : Option String) (f : Forest) :
    page doctype (f.capped N) = page doctype f := by
  have names : (f.capped N).labels.flatMap namesOf = f.labels.flatMap namesOf := by
    rw [Forest.labels_capped, List.flatMap_map]
    rfl
  cases f with
  | nil => rfl
  | cons l t c tail next =>
    unfold page
    rw [names]
    simp only [write_capped]
    rfl

end Writer

end Capped

end Markup

namespace Document

open Markup

variable {N : Nat}

/-! ## Values and line breaks -/

theorem optionValue_capped (l : Label) (text : String) (children : Forest) :
    optionValue (l.capped N) text (children.capped N) = optionValue l text children := by
  unfold optionValue
  rw [Forest.innerText_capped]
  rfl

theorem selectionValue_capped (options : List Node) :
    selectionValue (options.map (Node.capped N)) = selectionValue options := by
  have selected : ((fun n : Node => n.label.has "selected") ∘ Node.capped N) =
      fun n => n.label.has "selected" := rfl
  unfold selectionValue
  rw [List.find?_map, List.head?_map, selected, ← Option.map_or]
  cases (options.find? (·.label.has "selected")).or options.head? with
  | none => rfl
  | some n => exact optionValue_capped n.label n.text n.children

theorem nodeValue_capped (n : Node) : nodeValue (n.capped N) = nodeValue n := by
  have nodes : (n.capped N).nodes = n.nodes.map (Node.capped N) := by
    rw [Node.nodes, Node.nodes, List.map_cons, ← Forest.nodes_capped]
    rfl
  have options : (isOption ∘ Node.capped N) = isOption := rfl
  have text : (n.capped N).innerText = n.innerText :=
    congrArg (n.text ++ ·) (Forest.innerText_capped n.children)
  unfold nodeValue
  rw [text, nodes, List.filter_map, options, selectionValue_capped]
  rfl

theorem capped_breaks (tag : Tag) {fresh : Nat} (new : N ≤ fresh) (lines : List String) :
    (breaks tag fresh lines).capped N = (breaks tag N lines).capped N := by
  have (fresh' : Nat) (new' : N ≤ fresh') :
      (breaks tag fresh lines).capped N = (breaks tag fresh' lines).capped N := by
    induction lines generalizing fresh fresh' with
    | nil => rfl
    | cons line lines ih =>
      rw [breaks, breaks, Forest.capped_cons, Forest.capped_cons,
        ih (Nat.le_succ_of_le new) (fresh' + 1) (Nat.le_succ_of_le new')]
      simp [Label.capped, new, new']
  exact this N (Nat.le_refl N)

/-! ## Pages that are the same but for new numbers -/

/-- Pages that differ at most by the numbers of elements that came after `N` others. -/
structure Same (N : Nat) (d d' : Document) : Prop where
  tree : d'.tree.capped N = d.tree.capped N
  log : SameLog d d'

namespace Same

variable {d d' d'' : Document}

theorem refl (N : Nat) (d : Document) : Same N d d := ⟨rfl, .refl d⟩

theorem trans (h : Same N d d') (h' : Same N d' d'') : Same N d d'' :=
  ⟨h'.tree.trans h.tree, h.log.trans h'.log⟩

theorem text (h : Same N d d') : d'.text = d.text := by
  rw [Document.text, Document.text, ← Writer.page_capped (N := N), h.tree, h.log.doctype,
    Writer.page_capped]

end Same

end Document

end FormGate
