import FormGate.Proofs.Document.Edit
import FormGate.Proofs.Document.Relabel
import FormGate.Proofs.Document.Value
import FormGate.Proofs.Markup.Frame

/-!
# A form alone, and in a page

A form can be taken for a page of its own, in which its elements have numbers of their own. A page in
which the form stands is an image of it, with other numbers and with more around it. What is read from
an element of the form, and what an edit makes of it, is in the image what it is in the form alone, and
all that is around the form stays as it is.
-/

namespace FormGate

open Markup

namespace Markup.Forest

variable {f g : Forest} {x : Nat}

theorem modify_append (f g : Forest) (x : Nat) (k : Label → Label) :
    (f.append g).modify x k = (f.modify x k).append (g.modify x k) := by
  induction f with
  | nil => rfl
  | cons l t c tail next _ ih => rw [append, modify, modify, append, ih]

theorem fill_append (h : x ∉ f.ids) (text : String) (children : Forest) :
    fill x text children (f.append g) = f.append (fill x text children g) := by
  induction f with
  | nil => rfl
  | cons l t c tail next _ ih =>
    obtain ⟨other, below, later⟩ := not_mem_cons h
    rw [append, fill, if_neg other, fill_of_not_mem below, ih later, append]

/-- A forest of one outermost element, which has the number zero. -/
def Single (f : Forest) : Prop :=
  ∃ l t c, f = cons l t c "" nil ∧ l.id = 0

namespace Single

variable (h : f.Single)
include h

theorem modify {k : Label → Label} (hk : ∀ l, (k l).id = l.id) : (f.modify x k).Single := by
  obtain ⟨l, t, c, rfl, root⟩ := h
  refine ⟨_, _, _, rfl, ?_⟩
  split_ifs
  · rw [hk, root]
  · exact root

theorem fill (text : String) (children : Forest) : (Forest.fill x text children f).Single := by
  obtain ⟨l, t, c, rfl, root⟩ := h
  rw [Forest.fill]
  split_ifs
  · exact ⟨_, _, _, rfl, root⟩
  · exact ⟨_, _, _, rfl, root⟩

theorem insertAfter (below : x ≠ 0) (n : Node) : (f.insertAfter x n).Single := by
  obtain ⟨l, t, c, rfl, root⟩ := h
  have other : l.id ≠ x := fun here => below (here.symm.trans root)
  rw [Forest.insertAfter, if_neg other]
  exact ⟨_, _, _, rfl, root⟩

theorem cut (below : x ≠ 0) : (f.cut x).1 = "" ∧ (f.cut x).2.Single := by
  obtain ⟨l, t, c, rfl, root⟩ := h
  have other : l.id ≠ x := fun here => below (here.symm.trans root)
  rw [Forest.cut, if_neg other]
  exact ⟨rfl, _, _, _, rfl, root⟩

end Single

end Markup.Forest

/-- The value of an element does not hang on the text that follows it. -/
theorem Document.nodeValue_tail (n : Node) (tail : String) :
    nodeValue { n with tail } = nodeValue n := by
  have options (h : n.label.tag.localName = "select") :
      ({ n with tail } : Node).nodes.filter isOption = n.nodes.filter isOption := by
    have other : isOption n = false := by
      rw [isOption, h]
      decide
    have other' : isOption { n with tail } = false := other
    rw [Node.nodes, List.filter_cons_of_neg (by simp [other']), Node.nodes,
      List.filter_cons_of_neg (by simp [other])]
  unfold nodeValue
  dsimp only
  split
  · rfl
  · rename_i select
    rw [options select]
  · rfl

/-- A page around a form, with the numbers that the elements of the form have in it. New elements of
the form, numbered from `start` on, are new in the page too. -/
structure Embedding where
  frame : Frame
  tail : String
  next : Forest
  page : Document
  number : Nat → Nat
  start : Nat
  shift : Nat
  within : ∀ l t c tail inner, frame ≠ .behind l t c tail inner
  injective : Function.Injective number
  later : ∀ x, start ≤ x → number x = x + shift
  frame_apart : ∀ x, number x ∉ frame.ids
  next_apart : ∀ x, number x ∉ next.ids
  loose_apart : ∀ x, number x ∉ page.loose.ids

/-- A page of a single outermost element, the form, that has the number zero. -/
structure Document.Alone (start : Nat) (d : Document) : Prop where
  wellFormed : d.WellFormed
  single : d.tree.Single
  started : start ≤ d.fresh

namespace Document.Alone

variable {start : Nat} {d : Document} (h : d.Alone start)
include h

theorem root_eq : d.root = 0 := by
  obtain ⟨l, t, c, tree, root⟩ := h.single
  rw [Document.root, tree]
  exact root

/-- What stands below another element is not the form itself. -/
theorem ne_zero_of_parent? {x p : Element} (parent : d.parent? x = some p) : x ≠ 0 := by
  rintro rfl
  exact root_ne_of_parent? h.wellFormed parent h.root_eq

theorem step {d' : Document} (descends : d.Descends d') (single : d'.tree.Single) :
    d'.Alone start where
  wellFormed := (descends h.wellFormed).1
  single := single
  started := Nat.le_trans h.started (descends h.wellFormed).2.1

theorem modifyLabel {x : Element} {k : Label → Label} (hk : ∀ l, (k l).id = l.id)
    (descends : d.Descends (d.modifyLabel x k)) : (d.modifyLabel x k).Alone start :=
  h.step descends (h.single.modify hk)

theorem setFlag {name : String} (listed : name ∈ written) (x : Element) (on : Bool) :
    (d.setFlag x name on).Alone start := by
  have descends := descends_setFlag d x on listed
  unfold Document.setFlag at descends ⊢
  split_ifs at descends ⊢
  · exact h.modifyLabel (fun _ => rfl) descends
  · exact h.modifyLabel (fun _ => rfl) descends

theorem withFirstLine (x : Element) (lines : List String) :
    (d.withFirstLine x lines).Alone start :=
  h.step (descends_withFirstLine d x lines) ((h.single.fill _ .nil).modify fun _ => rfl)

theorem setValue (x : Element) (v : String) : (d.setValue x v).Alone start := by
  refine h.step (descends_setValue d x v) ?_
  unfold Document.setValue
  split
  · exact h.single
  · split
    · exact h.single.fill v .nil
    · exact h.single.fill _ _
    · exact h.single.modify fun _ => rfl

theorem setLines (x : Element) (lines : List String) :
    ((Document.setLines x lines).run.run d).2.Alone start := by
  refine h.step (descends_setLines d x lines) ?_
  rw [setLines_run]
  split
  · exact (h.withFirstLine x lines).single
  · exact (h.withFirstLine x lines).single.fill _ _

theorem insertFeedback (x : Element) (tag : String) (classes lines : List String) :
    ((Document.insertFeedback x tag classes lines).run.run d).2.Alone start := by
  refine h.step (descends_insertFeedback d x tag classes lines) ?_
  rw [insertFeedback_run]
  split
  · exact h.single
  · split
    · exact h.single
    · split
      · exact h.single
      · rename_i after
        obtain ⟨p, parent, -, -⟩ := mem_tree_of_siblingsAfter after
        exact h.single.insertAfter (h.ne_zero_of_parent? parent) _

theorem remove (x : Element) : (d.remove x).Alone start := by
  refine h.step (descends_remove d x) ?_
  unfold Document.remove
  split
  · rename_i parent _
    exact (h.single.cut (h.ne_zero_of_parent? parent)).2
  · exact h.single

/-- Whatever is asked of it, a form alone stays one. -/
theorem perform (c : Call) : (c.perform d).2.Alone start := by
  cases c with
  | setValue e v => exact h.setValue e v
  | addClass e name =>
    exact h.modifyLabel (fun l => (kin_labelWithClass name l).id)
      (descends_modifyLabel d e (kin_labelWithClass name))
  | removeClass e name =>
    exact h.modifyLabel (fun l => (kin_labelWithoutClass name l).id)
      (descends_modifyLabel d e (kin_labelWithoutClass name))
  | insertFeedback e tag classes lines => exact h.insertFeedback e tag classes lines
  | setLines e lines => exact h.setLines e lines
  | remove e => exact h.remove e
  | setDisabled e disabled => exact h.setFlag (by simp [written]) e disabled
  | _ => exact h

end Document.Alone

namespace Embedding

variable (E : Embedding)

/-- A label with its number in the page. -/
def label (l : Label) : Label :=
  { l with id := E.number l.id }

/-- An element with its numbers in the page. Behind the form itself stands what the page has there. -/
def node (n : Node) : Node :=
  { n.relabel E.label with tail := if n.label.id = 0 then E.tail else n.tail }

/-- The form in its place. -/
def stand : Forest → Forest
  | .cons l t c _ _ => .cons (E.label l) t (c.relabel E.label) E.tail E.next
  | .nil => E.next

/-- The page with the form in it. -/
def image (d : Document) : Document :=
  { E.page with
    tree := E.frame.plug (E.stand d.tree)
    loose := E.page.loose.append (d.loose.relabel E.label)
    fresh := E.number d.fresh }

section Labels

variable {E}

theorem id_label_iff {l : Label} {x : Nat} : (E.label l).id = E.number x ↔ l.id = x :=
  E.injective.eq_iff

@[simp] theorem tag_label (l : Label) : (E.label l).tag = l.tag := rfl

@[simp] theorem classesOf_label (l : Label) :
    Document.classesOf (E.label l) = Document.classesOf l := rfl

theorem set_label (l : Label) (a v : String) : (E.label l).set a v = E.label (l.set a v) := rfl

theorem erase_label (l : Label) (a : String) : (E.label l).erase a = E.label (l.erase a) := rfl

theorem withClasses_label (l : Label) (classes : List String) :
    Document.withClasses (E.label l) classes = E.label (Document.withClasses l classes) := by
  unfold Document.withClasses
  split_ifs <;> rfl

theorem labelWithClass_label (name : String) (l : Label) :
    Document.labelWithClass name (E.label l) = E.label (Document.labelWithClass name l) := by
  unfold Document.labelWithClass
  rw [classesOf_label, withClasses_label]
  split_ifs <;> rfl

theorem labelWithoutClass_label (name : String) (l : Label) :
    Document.labelWithoutClass name (E.label l) = E.label (Document.labelWithoutClass name l) := by
  unfold Document.labelWithoutClass
  rw [classesOf_label, withClasses_label]
  split_ifs <;> rfl

theorem valued_label (l : Label) : l.Valued (E.label l) := ⟨rfl, rfl, rfl⟩

theorem chooseOption_label (v : String) (l : Label) (t : String) (c : Forest) :
    Document.chooseOption v (E.label l) t (c.relabel E.label) =
      E.label (Document.chooseOption v l t c) := by
  unfold Document.chooseOption
  rw [Document.optionValue_relabel (valued_label l), tag_label, set_label, erase_label]
  split_ifs <;> rfl

theorem labels_node (n : Node) : (E.node n).labels = n.labels.map E.label :=
  n.labels_relabel (g := E.label)

end Labels

variable {E} {d : Document} (alone : d.Alone E.start)

/-! ## What is read -/

section Reading

include alone

theorem find?_image (x : Element) :
    (E.image d).tree.find? (E.number x) = (d.tree.find? x).map E.node := by
  obtain ⟨l, t, c, tree, root⟩ := alone.single
  show (E.frame.plug (E.stand d.tree)).find? (E.number x) = _
  have next := Forest.find?_of_not_mem (E.next_apart x)
  rw [Frame.find?_plug (E.frame_apart x), tree, stand, Forest.find?, Forest.find?, next,
    Option.or_none, Forest.find?, Option.or_none]
  by_cases here : l.id = x
  · rw [if_pos here, if_pos (id_label_iff.2 here), Option.map_some, node, if_pos root]
    rfl
  · rw [if_neg here, if_neg fun same => here (id_label_iff.1 same),
      Forest.find?_relabel fun _ _ => id_label_iff]
    cases found : c.find? x with
    | none => rfl
    | some n =>
      have other : n.label.id ≠ 0 := by
        rw [Forest.find?_id found, ← root]
        exact Ne.symm here
      rw [Option.map_some, Option.map_some, node, if_neg other]
      rfl

theorem node?_image (x : Element) : (E.image d).node? (E.number x) = (d.node? x).map E.node := by
  obtain ⟨l, t, c, tree, root⟩ := alone.single
  have loose : (E.image d).loose.find? (E.number x) = (d.loose.find? x).map (Node.relabel E.label) := by
    show (E.page.loose.append (d.loose.relabel E.label)).find? (E.number x) = _
    rw [Forest.find?_append, Forest.find?_of_not_mem (E.loose_apart x), Option.none_or,
      Forest.find?_relabel fun _ _ => id_label_iff]
  rw [Document.node?, find?_image alone, loose, Document.node?]
  cases found : d.tree.find? x with
  | some n => rfl
  | none =>
    rw [Option.map_none, Option.none_or, Option.none_or]
    cases taken : d.loose.find? x with
    | none => rfl
    | some n =>
      have other : n.label.id ≠ 0 := by
        rw [Forest.find?_id taken]
        rintro rfl
        rw [tree, Forest.find?_here root] at found
        cases found
      rw [Option.map_some, Option.map_some, node, if_neg other]
      rfl

theorem label?_image (x : Element) : (E.image d).label? (E.number x) = (d.label? x).map E.label := by
  rw [Document.label?, node?_image alone, Option.map_map, Document.label?, Option.map_map]
  rfl

theorem attribute?_image (x : Element) (a : String) :
    (E.image d).attribute? (E.number x) a = d.attribute? x a := by
  rw [Document.attribute?, label?_image alone, Option.bind_map, Document.attribute?]
  rfl

theorem tagName_image (x : Element) : (E.image d).tagName (E.number x) = d.tagName x := by
  rw [Document.tagName, label?_image alone, Option.map_map, Document.tagName]
  rfl

theorem isChecked_image (x : Element) : (E.image d).isChecked (E.number x) = d.isChecked x := by
  rw [Document.isChecked, label?_image alone, Option.any_map, Document.isChecked]
  rfl

theorem select_image (scope : Element) {p : Label → Bool} (hp : ∀ l, p (E.label l) = p l) :
    (E.image d).select (some (E.number scope)) p = (d.select (some scope) p).map E.number := by
  have labels : (E.image d).labelsIn (some (E.number scope)) =
      (d.labelsIn (some scope)).map E.label := by
    rw [Document.labelsIn, node?_image alone, Document.labelsIn]
    cases d.node? scope with
    | none => rfl
    | some n => exact labels_node n
  rw [Document.select, labels, List.filter_map, List.map_map, Document.select, List.map_map]
  have same : p ∘ E.label = p := funext hp
  rw [same]
  rfl

theorem resolve_image (reference : String) (scope : Element) :
    (E.image d).resolve reference (some (E.number scope)) =
      (d.resolve reference (some scope)).map E.number := by
  unfold Document.resolve
  split
  · exact select_image alone scope fun _ => rfl
  · exact select_image alone scope fun _ => rfl

end Reading

theorem nodeValue_node (n : Node) : Document.nodeValue (E.node n) = Document.nodeValue n := by
  rw [node, Document.nodeValue_tail]
  exact Document.nodeValue_relabel fun l _ => valued_label l

include alone in
theorem value_image (x : Element) : (E.image d).value (E.number x) = d.value x := by
  rw [Document.value, node?_image alone, Option.map_map, Document.value]
  have same : Document.nodeValue ∘ E.node = Document.nodeValue := funext nodeValue_node
  rw [same]

/-! ## What stands around an element -/

section Below

variable {x : Element} (below : x ≠ 0)
include alone below

theorem parent?_image : (E.image d).parent? (E.number x) = (d.parent? x).map E.number := by
  obtain ⟨l, t, c, tree, root⟩ := alone.single
  have other : (E.label l).id ≠ E.number x := fun same => below (root ▸ (id_label_iff.1 same).symm)
  have inside : (c.relabel E.label).parent? (E.number x) (E.number l.id) =
      (c.parent? x l.id).map E.number :=
    Forest.parent?_relabel (fun _ _ => id_label_iff) (fun _ => rfl) l.id
  have shown : (E.image d).tree =
      E.frame.plug (.cons (E.label l) t (c.relabel E.label) E.tail E.next) := by
    rw [image, tree]
    rfl
  have alone : d.parent? x = c.parent? x l.id := by
    rw [Document.parent?, tree]
  rw [Document.parent?, shown, alone]
  cases hf : E.frame with
  | here => exact inside
  | inside l' t' inner tail' next' =>
    have apart : E.number x ∉ inner.ids := by
      have apart := E.frame_apart x
      rw [hf, Frame.ids] at apart
      exact fun member => apart (List.mem_cons_of_mem _ (List.mem_append_left _ member))
    rw [Frame.plug]
    dsimp only
    rw [Frame.parent?_plug apart, Forest.parent?, if_neg other,
      Forest.parent?_of_not_mem (E.next_apart x), Option.or_none]
    exact inside
  | behind l' t' c' tail' inner => exact absurd hf (E.within _ _ _ _ _)

theorem following?_image : (E.image d).tree.following? (E.number x) =
    (d.tree.following? x).map (Forest.relabel E.label) := by
  obtain ⟨l, t, c, tree, root⟩ := alone.single
  have other : (E.label l).id ≠ E.number x := fun same => below (root ▸ (id_label_iff.1 same).symm)
  have here : l.id ≠ x := fun same => below (same ▸ root)
  show (E.frame.plug (E.stand d.tree)).following? (E.number x) = _
  rw [Frame.following?_plug (E.frame_apart x), tree, stand, Forest.following?, if_neg other,
    Forest.following?_relabel fun _ _ => id_label_iff,
    Forest.following?_of_not_mem (E.next_apart x), Option.or_none, Forest.following?, if_neg here,
    Forest.following?, Option.or_none]

theorem siblingsAfter_image : (E.image d).siblingsAfter (E.number x) =
    (d.siblingsAfter x).map (Forest.relabel E.label) := by
  have fault : (E.image d).notInContainer (E.number x) = d.notInContainer x := by
    rw [Document.notInContainer, label?_image alone, Option.map_map, Document.notInContainer]
    rfl
  rw [Document.siblingsAfter, parent?_image alone below, following?_image alone below, fault,
    Document.siblingsAfter]
  cases d.parent? x with
  | none => rfl
  | some p =>
    dsimp only [Option.map_some, Option.bind_some]
    cases d.tree.following? x <;> rfl

theorem feedback_image (name : String) : (E.image d).feedback (E.number x) name =
    (d.feedback x name).map (List.map E.number) := by
  rw [Document.feedback, siblingsAfter_image alone below, Document.feedback]
  cases d.siblingsAfter x with
  | error e => rfl
  | ok f =>
    refine congrArg Except.ok ?_
    dsimp only
    rw [Forest.tops_relabel, List.takeWhile_map, List.map_map, List.map_map]
    rfl

end Below

/-! ## Edits -/

section Edits

variable (x : Element)
include alone

theorem modifyLabel_image {k k' : Label → Label} (hk : ∀ l, k' (E.label l) = E.label (k l)) :
    (E.image d).modifyLabel (E.number x) k' = E.image (d.modifyLabel x k) := by
  obtain ⟨l, t, c, tree, root⟩ := alone.single
  have below : (c.relabel E.label).modify (E.number x) k' = (c.modify x k).relabel E.label :=
    Forest.modify_relabel (fun _ _ => id_label_iff) fun l _ _ => hk l
  have loose : (d.loose.relabel E.label).modify (E.number x) k' =
      (d.loose.modify x k).relabel E.label :=
    Forest.modify_relabel (fun _ _ => id_label_iff) fun l _ _ => hk l
  have here : (if (E.label l).id = E.number x then k' (E.label l) else E.label l) =
      E.label (if l.id = x then k l else l) := by
    by_cases here : l.id = x
    · rw [if_pos here, if_pos (id_label_iff.2 here), hk]
    · rw [if_neg here, if_neg fun same => here (id_label_iff.1 same)]
  unfold Document.modifyLabel Document.mapForests image
  dsimp only
  rw [Frame.modify_plug (E.frame_apart x), Forest.modify_append,
    Forest.modify_of_not_mem (E.loose_apart x), loose, tree, stand, Forest.modify, here, below,
    Forest.modify_of_not_mem (E.next_apart x)]
  rfl

theorem setAttribute_image (a v : String) :
    (E.image d).setAttribute (E.number x) a v = E.image (d.setAttribute x a v) :=
  modifyLabel_image alone x fun _ => rfl

theorem eraseAttribute_image (a : String) :
    (E.image d).eraseAttribute (E.number x) a = E.image (d.eraseAttribute x a) :=
  modifyLabel_image alone x fun _ => rfl

theorem setFlag_image (a : String) (on : Bool) :
    (E.image d).setFlag (E.number x) a on = E.image (d.setFlag x a on) := by
  unfold Document.setFlag
  split_ifs
  · exact setAttribute_image alone x a a
  · exact eraseAttribute_image alone x a

theorem fill_image (text : String) (children : Forest) :
    (E.image d).mapForests (Forest.fill (E.number x) text (children.relabel E.label)) =
      E.image (d.mapForests (Forest.fill x text children)) := by
  obtain ⟨l, t, c, tree, root⟩ := alone.single
  have below : Forest.fill (E.number x) text (children.relabel E.label) (c.relabel E.label) =
      (Forest.fill x text children c).relabel E.label :=
    Forest.fill_relabel (fun _ _ => id_label_iff) text children
  have loose : Forest.fill (E.number x) text (children.relabel E.label) (d.loose.relabel E.label) =
      (Forest.fill x text children d.loose).relabel E.label :=
    Forest.fill_relabel (fun _ _ => id_label_iff) text children
  unfold Document.mapForests image
  dsimp only
  rw [Frame.fill_plug (E.frame_apart x), Forest.fill_append (E.loose_apart x), loose, tree, stand,
    Forest.fill, below, Forest.fill_of_not_mem (E.next_apart x), Forest.fill]
  by_cases here : l.id = x
  · rw [if_pos here, if_pos (id_label_iff.2 here)]
    rfl
  · rw [if_neg here, if_neg fun same => here (id_label_iff.1 same)]
    rfl

theorem setText_image (text : String) :
    (E.image d).setText (E.number x) text = E.image (d.setText x text) := by
  have filled := fill_image alone x text .nil
  rw [Forest.relabel_nil] at filled
  unfold Document.setText
  rw [node?_image alone, filled]
  have loose : (E.image (d.mapForests (Forest.fill x text .nil))).loose =
      E.page.loose.append ((Forest.fill x text .nil d.loose).relabel E.label) := rfl
  cases d.node? x with
  | none =>
    dsimp only [Option.map_none, Option.getD_none]
    rw [Forest.append_nil, Forest.append_nil]
  | some n =>
    dsimp only [Option.map_some, Option.getD_some]
    rw [loose, Forest.append_assoc]
    show _ = E.image { d.mapForests (Forest.fill x text .nil) with
      loose := (Forest.fill x text .nil d.loose).append n.children }
    rw [image.eq_1 E { d.mapForests (Forest.fill x text .nil) with
      loose := (Forest.fill x text .nil d.loose).append n.children }, Forest.relabel_append]
    rfl

theorem setValue_image (v : String) :
    (E.image d).setValue (E.number x) v = E.image (d.setValue x v) := by
  unfold Document.setValue
  rw [node?_image alone]
  cases d.node? x with
  | none => rfl
  | some n =>
    dsimp only [Option.map_some]
    have tag : (E.node n).label.tag = n.label.tag := rfl
    rw [tag]
    split
    · exact setText_image alone x v
    · have children : (E.node n).children.mapLabels (Document.chooseOption v) =
          (n.children.mapLabels (Document.chooseOption v)).relabel E.label :=
        Forest.relabel_mapLabels (chooseOption_label v) n.children
      rw [children]
      exact fill_image alone x n.text _
    · exact setAttribute_image alone x "value" v

end Edits

/-! ## Lines and feedback -/

section Lines

theorem number_add {fresh : Nat} (new : E.start ≤ fresh) (n : Nat) :
    E.number (fresh + n) = E.number fresh + n := by
  rw [E.later _ new, E.later _ (Nat.le_trans new (Nat.le_add_right _ _))]
  omega

theorem breaks_image (tag : Tag) {fresh : Nat} (new : E.start ≤ fresh) (lines : List String) :
    Document.breaks tag (E.number fresh) lines =
      (Document.breaks tag fresh lines).relabel E.label := by
  induction lines generalizing fresh with
  | nil => rfl
  | cons line lines ih =>
    rw [Document.breaks, ← number_add new 1, ih (Nat.le_succ_of_le new), Document.breaks,
      Forest.relabel_cons]
    rfl

theorem breaksIn_image (tag : Tag) {fresh : Nat} (new : E.start ≤ fresh) (lines : List String) :
    Document.breaksIn tag (E.number fresh) lines =
      (Document.breaksIn tag fresh lines).map (Forest.relabel E.label) := by
  unfold Document.breaksIn
  split_ifs
  · rfl
  · cases tag.space with
    | error e => rfl
    | ok space => exact congrArg Except.ok (breaks_image _ new _)

include alone

theorem tagOf_image (x : Element) : (E.image d).tagOf (E.number x) = d.tagOf x := by
  rw [Document.tagOf, label?_image alone, Option.map_map, Document.tagOf]
  rfl

theorem withFirstLine_image (x : Element) (lines : List String) :
    (E.image d).withFirstLine (E.number x) lines = E.image (d.withFirstLine x lines) := by
  have filled : (d.setText x (lines.headD "")).Alone E.start :=
    alone.step (Document.descends_setText d x _) (alone.single.fill _ .nil)
  rw [Document.withFirstLine, setText_image alone]
  exact modifyLabel_image filled x fun _ => rfl

theorem setLines_image (x : Element) (lines : List String) :
    (Document.setLines (E.number x) lines).run.run (E.image d) =
      (((Document.setLines x lines).run.run d).1, E.image ((Document.setLines x lines).run.run d).2) := by
  have first := alone.withFirstLine x lines
  have fresh : (E.image (d.withFirstLine x lines)).fresh =
      E.number (d.withFirstLine x lines).fresh := rfl
  rw [Document.setLines_run, Document.setLines_run, withFirstLine_image alone, tagOf_image first, fresh,
    breaksIn_image _ first.started]
  cases Document.breaksIn ((d.withFirstLine x lines).tagOf x) (d.withFirstLine x lines).fresh lines with
  | error e => rfl
  | ok breaks =>
    refine congrArg (Prod.mk (Except.ok ())) ?_
    show Document.withBreaks _ _ _ (breaks.relabel E.label) = _
    unfold Document.withBreaks
    rw [fill_image first, Forest.labels_relabel, List.length_map]
    show { E.image ((d.withFirstLine x lines).mapForests (Forest.fill x (lines.headD "") breaks)) with
      fresh := E.number (d.withFirstLine x lines).fresh + breaks.labels.length } = _
    rw [← number_add first.started]
    rfl

section Below

variable {x : Element} (below : x ≠ 0)
include below

theorem withBehind_image (n : Node) : (E.image d).withBehind (E.number x) (n.relabel E.label) =
    E.image (d.withBehind x n) := by
  obtain ⟨l, t, c, tree, root⟩ := alone.single
  have other : (E.label l).id ≠ E.number x := fun same => below (root ▸ (id_label_iff.1 same).symm)
  have here : l.id ≠ x := fun same => below (same ▸ root)
  have inside : (c.relabel E.label).insertAfter (E.number x) (n.relabel E.label) =
      (c.insertAfter x n).relabel E.label :=
    Forest.insertAfter_relabel (fun _ _ => id_label_iff) n
  have fresh : (E.image d).fresh + 1 + (n.relabel E.label).children.labels.length =
      E.number (d.fresh + 1 + n.children.labels.length) := by
    show E.number d.fresh + 1 + (n.children.relabel E.label).labels.length = _
    rw [Forest.labels_relabel, List.length_map, Nat.add_assoc, Nat.add_assoc, number_add alone.started]
  have shown : (E.image d).tree.insertAfter (E.number x) (n.relabel E.label) =
      E.frame.plug (E.stand (d.tree.insertAfter x n)) := by
    show (E.frame.plug (E.stand d.tree)).insertAfter _ _ = _
    rw [Frame.insertAfter_plug (E.frame_apart x), tree, stand, Forest.insertAfter, if_neg other, inside,
      Forest.insertAfter_of_not_mem (E.next_apart x), Forest.insertAfter, if_neg here]
    rfl
  unfold Document.withBehind
  rw [fresh, shown]
  rfl

/-- Feedback is put in behind an element that stands below another one. -/
theorem insertFeedback_image {p : Element} (parent : d.parent? x = some p) (tag : String)
    (classes lines : List String) :
    ((Document.insertFeedback (E.number x) tag classes lines).run.run (E.image d)).1.map (fun _ => ()) =
        ((Document.insertFeedback x tag classes lines).run.run d).1.map (fun _ => ()) ∧
      ((Document.insertFeedback (E.number x) tag classes lines).run.run (E.image d)).2 =
        E.image ((Document.insertFeedback x tag classes lines).run.run d).2 := by
  have container : (E.image d).container (E.number x) = E.number p := by
    rw [Document.container, parent?_image alone below, parent]
    rfl
  have space : (E.image d).space (E.number p) = d.space p := by
    rw [Document.space, label?_image alone, Document.space]
    cases d.label? p <;> rfl
  have container' : d.container x = p := by
    rw [Document.container, parent]
    rfl
  have fresh : (E.image d).fresh + 1 = E.number (d.fresh + 1) := (number_add alone.started 1).symm
  rw [Document.insertFeedback_run, Document.insertFeedback_run, container, container', space, fresh]
  cases d.space p with
  | error e => exact ⟨rfl, rfl⟩
  | ok space =>
    dsimp only
    rw [breaksIn_image _ (Nat.le_succ_of_le alone.started)]
    cases Document.breaksIn (.element (space ++ tag)) (d.fresh + 1) lines with
    | error e => exact ⟨rfl, rfl⟩
    | ok breaks =>
      dsimp only [Except.map]
      rw [siblingsAfter_image alone below]
      cases d.siblingsAfter x with
      | error e => exact ⟨rfl, rfl⟩
      | ok siblings =>
        exact ⟨rfl, withBehind_image alone below
          (Document.feedbackNode d.fresh (.element (space ++ tag)) classes lines breaks)⟩

theorem remove_image : (E.image d).remove (E.number x) = E.image (d.remove x) := by
  obtain ⟨l, t, c, tree, root⟩ := alone.single
  have other : (E.label l).id ≠ E.number x := fun same => below (root ▸ (id_label_iff.1 same).symm)
  have here : l.id ≠ x := fun same => below (same ▸ root)
  have inside : (c.relabel E.label).cut (E.number x) = ((c.cut x).1, (c.cut x).2.relabel E.label) :=
    Forest.cut_relabel fun _ _ => id_label_iff
  have whole : (E.stand d.tree).cut (E.number x) = ("", E.stand (d.tree.cut x).2) := by
    rw [tree, stand, Forest.cut, if_neg other, inside, Forest.cut_of_not_mem (E.next_apart x),
      Forest.cut, if_neg here]
    dsimp only [stand]
    rw [String.append_empty]
  unfold Document.remove
  rw [parent?_image alone below, find?_image alone]
  cases d.parent? x with
  | none => rfl
  | some p =>
    cases d.tree.find? x with
    | none => rfl
    | some n =>
      have node : (E.node n).forest = n.forest.relabel E.label := rfl
      have cut : ((E.image d).tree.cut (E.number x)).2 = E.frame.plug (E.stand (d.tree.cut x).2) := by
        show ((E.frame.plug (E.stand d.tree)).cut (E.number x)).2 = _
        rw [Frame.cut_plug (E.frame_apart x) _ (congrArg Prod.fst whole), whole]
      dsimp only [Option.map_some]
      rw [cut, node, image.eq_1 E { d with tree := (d.tree.cut x).2, loose := d.loose.append n.forest },
        Forest.relabel_append, ← Forest.append_assoc]
      rfl

end Below

end Lines

end Embedding

end FormGate
