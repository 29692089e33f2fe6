import FormGate.Proofs.Document.Outline
import FormGate.Proofs.Pass.Ready

/-!
# Changes of one label

A change of the label of one element that keeps its number, its tag, its classes and whether it is a
field keeps everything that a page shows of its fields. Enabling and disabling a submit button is such
a change.
-/

namespace FormGate

open Markup Document

namespace Markup

/-- An element in which the label of the element of a number is changed. -/
def Node.modify (x : Nat) (k : Label → Label) (n : Node) : Node :=
  { n with
    label := if n.label.id = x then k n.label else n.label
    children := n.children.modify x k }

namespace Forest

theorem nodes_modify (f : Forest) (x : Nat) (k : Label → Label) :
    (f.modify x k).nodes = f.nodes.map (Node.modify x k) := by
  induction f with
  | nil => rfl
  | cons l t c tail next ihc ih =>
    rw [modify, nodes, nodes, List.map_cons, List.map_append, ihc, ih]
    rfl

theorem tops_modify (f : Forest) (x : Nat) (k : Label → Label) :
    (f.modify x k).tops = f.tops.map (Node.modify x k) := by
  induction f with
  | nil => rfl
  | cons l t c tail next _ ih =>
    rw [modify, tops, tops, List.map_cons, ih]
    rfl

theorem following?_modify {k : Label → Label} (hk : ∀ l, (k l).id = l.id) (f : Forest) (x y : Nat) :
    (f.modify y k).following? x = (f.following? x).map (Forest.modify y k) := by
  induction f with
  | nil => rfl
  | cons l t c tail next ihc ih =>
    have id : (if l.id = y then k l else l).id = l.id := by
      split_ifs
      · exact hk l
      · rfl
    rw [modify, following?, following?, id, ihc, ih]
    split_ifs
    · rfl
    · rw [Option.map_or]

end Forest

theorem Node.labels_modify (n : Node) (x : Nat) (k : Label → Label) :
    (n.modify x k).labels = n.labels.map fun l => if l.id = x then k l else l := by
  rw [Node.labels, Node.labels, List.map_cons]
  exact congrArg _ (Forest.labels_modify n.children x k)

end Markup

namespace Document

theorem labelsIn_modifyLabel {k : Label → Label} (hk : ∀ l, (k l).id = l.id) (d : Document)
    (x : Element) (scope : Option Element) : (d.modifyLabel x k).labelsIn scope =
      (d.labelsIn scope).map fun l => if l.id = x then k l else l := by
  cases scope with
  | none => exact Forest.labels_modify d.tree x k
  | some e =>
    rw [labelsIn, labelsIn, node?_modifyLabel hk]
    cases d.node? e with
    | none => rfl
    | some n => exact n.labels_modify x k

/-- The same elements of a kind are in a scope when a change of a label keeps the kind. -/
theorem select_modifyLabel {k : Label → Label} (hk : ∀ l, (k l).id = l.id) {p : Label → Bool}
    (hp : ∀ l, p (k l) = p l) (d : Document) (x : Element) (scope : Option Element) :
    (d.modifyLabel x k).select scope p = d.select scope p := by
  have kind : (p ∘ fun l => if l.id = x then k l else l) = p := by
    funext l
    rw [Function.comp_apply]
    split_ifs
    · exact hp l
    · rfl
  have id : ((·.id) ∘ fun l => if l.id = x then k l else l) = Label.id := by
    funext l
    rw [Function.comp_apply]
    split_ifs
    · exact hk l
    · rfl
  rw [select, select, labelsIn_modifyLabel hk, List.filter_map, List.map_map, kind, id]

end Document

namespace Setup

variable {s : Setup}

/-- A change of labels that no field and no feedback shows. -/
structure Unseen (s : Setup) (k : Label → Label) : Prop where
  id : ∀ l, (k l).id = l.id
  tag : ∀ l, (k l).tag = l.tag
  classes : ∀ l, classesOf (k l) = classesOf l
  field : ∀ l, s.isField (k l) = s.isField l

namespace Unseen

variable {k : Label → Label} (h : s.Unseen k) (x : Element)
include h

/-- A change of one label is seen no more than the change of all. -/
theorem only : s.Unseen fun l => if l.id = x then k l else l where
  id l := by
    split_ifs
    · exact h.id l
    · rfl
  tag l := by
    split_ifs
    · exact h.tag l
    · rfl
  classes l := by
    split_ifs
    · exact h.classes l
    · rfl
  field l := by
    split_ifs
    · exact h.field l
    · rfl

omit x in
theorem plain_map {ls : List Label} (plain : ∀ l ∈ ls, s.isField l = false) :
    ∀ l ∈ ls.map k, s.isField l = false := by
  intro l' hl'
  obtain ⟨l, hl, rfl⟩ := List.mem_map.1 hl'
  rw [h.field, plain l hl]

theorem isFeedback_modify (n : Node) : s.isFeedback (n.modify x k).label = s.isFeedback n.label := by
  unfold isFeedback
  exact congrArg (List.contains · _) ((h.only x).classes n.label)

theorem sound {n : Node} (sound : s.Sound n) : s.Sound (n.modify x k) where
  feedback shown := by
    rw [h.isFeedback_modify] at shown
    rw [Node.labels_modify]
    exact (h.only x).plain_map (sound.feedback shown)
  textarea field tag := by
    have field := (h.only x).field n.label ▸ field
    have tag := (h.only x).tag n.label ▸ tag
    show n.children.modify x k = .nil
    rw [sound.textarea field tag]
    rfl
  select field tag := by
    have field := (h.only x).field n.label ▸ field
    have tag := (h.only x).tag n.label ▸ tag
    show ∀ l ∈ (n.children.modify x k).labels, _
    rw [Forest.labels_modify]
    exact (h.only x).plain_map (sound.select field tag)

theorem lines (n : Node) : (n.modify x k).lines = n.lines := by
  have kind : ((fun m : Node => m.label.tag.localName == "br") ∘ Node.modify x k) =
      fun m => m.label.tag.localName == "br" := by
    funext m
    exact congrArg (fun tag : Tag => tag.localName == "br") ((h.only x).tag m.label)
  show n.text :: ((n.children.modify x k).tops.filter _).map _ = _
  rw [Forest.tops_modify, List.filter_map, List.map_map, kind]
  rfl

theorem ready {d : Document} (ready : s.Ready d) (wf : (d.modifyLabel x k).WellFormed) :
    s.Ready (d.modifyLabel x k) where
  wellFormed := wf
  sound := by
    show ∀ n ∈ (d.tree.modify x k).nodes, s.Sound n
    rw [Forest.nodes_modify]
    intro n' hn'
    obtain ⟨n, hn, rfl⟩ := List.mem_map.1 hn'
    exact h.sound x (ready.sound n hn)

theorem carriers (d : Document) (scope : Element) :
    (d.modifyLabel x k).carriers scope s.config.attributes.rules =
      d.carriers scope s.config.attributes.rules :=
  select_modifyLabel h.id h.field d x (some scope)

theorem siblingsAfter {d : Document} {e : Element} {f : Forest}
    (after : d.siblingsAfter e = .ok f) :
    (d.modifyLabel x k).siblingsAfter e = .ok (f.modify x k) := by
  obtain ⟨p, parent, following, -⟩ := mem_tree_of_siblingsAfter after
  have following' : (d.modifyLabel x k).tree.following? e = some (f.modify x k) :=
    (Forest.following?_modify h.id d.tree e x).trans (congrArg _ following)
  rw [Document.siblingsAfter, parent?_modifyLabel h.id, parent, following']
  rfl

theorem shows {d : Document} {e : Element} {o : Outcome} (shown : s.Shows d e o) :
    s.Shows (d.modifyLabel x k) e o := by
  obtain ⟨marked, fs, found, lines⟩ := shown
  constructor
  · rw [← marked, hasClass, hasClass, Document.label?, Document.label?, node?_modifyLabel h.id]
    cases d.node? e with
    | none => rfl
    | some n => exact congrArg (List.contains · _) ((h.only x).classes n.label)
  · refine ⟨fs, ?_, ?_⟩
    · cases after : d.siblingsAfter e with
      | error f =>
        rw [feedback, after] at found
        cases found
      | ok f =>
        rw [feedback, after] at found
        have kind : ((fun n : Node => s.isFeedback n.label) ∘ Node.modify x k) =
            fun n => s.isFeedback n.label := funext (h.isFeedback_modify x)
        have id : ((fun n : Node => n.label.id) ∘ Node.modify x k) = fun n => n.label.id :=
          funext fun n => (h.only x).id n.label
        rw [feedback, h.siblingsAfter x after, ← found]
        show Except.ok (((f.modify x k).tops.takeWhile fun n => s.isFeedback n.label).map _) = _
        rw [Forest.tops_modify, List.takeWhile_map, List.map_map, kind, id]
        rfl
    · rw [← lines]
      refine List.map_congr_left fun f _ => ?_
      rw [Document.lines, Document.lines, node?_modifyLabel h.id]
      cases d.node? f with
      | none => rfl
      | some n => exact h.lines x n

end Unseen

end Setup

/-! ## Submit buttons -/

namespace Document

def isDisabled (d : Document) (e : Element) : Bool :=
  (d.attribute? e "disabled").isSome

/-- A label of what is disabled or enabled. -/
def flagged (on : Bool) (l : Label) : Label :=
  if on then l.set "disabled" "disabled" else l.erase "disabled"

theorem setFlag_disabled (d : Document) (e : Element) (on : Bool) :
    d.setFlag e "disabled" on = d.modifyLabel e (flagged on) := by
  cases on <;> rfl

theorem flagged_flagged (on : Bool) (l : Label) : flagged on (flagged on l) = flagged on l := by
  cases on with
  | true => exact Label.set_set _
  | false => exact Label.erase_erase

theorem kin_flagged (on : Bool) (l : Label) : l.Kin (flagged on l) := by
  unfold flagged
  split_ifs
  · exact .set l _ (by simp [written])
  · exact .erase l (by simp [written])

theorem get?_flagged (on : Bool) (l : Label) {name : String} (other : name ≠ "disabled") :
    (flagged on l).get? name = l.get? name := by
  unfold flagged
  split_ifs
  · exact Label.get?_set_of_ne _ other
  · exact Label.get?_erase_of_ne other

theorem isSome_flagged (on : Bool) (l : Label) : ((flagged on l).get? "disabled").isSome = on := by
  cases on <;> simp [flagged]

theorem tag_flagged (on : Bool) (l : Label) : (flagged on l).tag = l.tag := by
  cases on <;> rfl

theorem submitControls_flagged (d : Document) (e : Element) (on : Bool) (scope : Element) :
    (d.modifyLabel e (flagged on)).submitControls scope = d.submitControls scope := by
  refine select_modifyLabel (fun l => (kin_flagged on l).id) (fun l => ?_) d e (some scope)
  rw [tag_flagged, get?_flagged on l (by decide)]

theorem isDisabled_flagged_self {d : Document} {e : Element} {l : Label} (label : d.label? e = some l)
    (on : Bool) : (d.modifyLabel e (flagged on)).isDisabled e = on := by
  rw [isDisabled, attribute?, label?_modifyLabel fun l => (kin_flagged on l).id, label,
    Option.map_some, if_pos (label?_id label)]
  exact isSome_flagged on l

theorem isDisabled_flagged_of_ne {d : Document} {e x : Element} (other : x ≠ e) (on : Bool) :
    (d.modifyLabel e (flagged on)).isDisabled x = d.isDisabled x := by
  rw [isDisabled, attribute?, label?_modifyLabel fun l => (kin_flagged on l).id, isDisabled,
    attribute?]
  cases label : d.label? x with
  | none => rfl
  | some l =>
    rw [Option.map_some, if_neg fun same => other ((label?_id label).symm.trans same)]

end Document

/-- A button that a mask leaves out may be disabled or enabled. -/
theorem Mask.page_flagged {m : Mask} {e : Element} (control : m.controls.contains e = true)
    (on : Bool) (d : Document) : m.page (d.modifyLabel e (flagged on)) = m.page d := by
  have same (options : Bool) (l : Label) (id : l.id = e) : m.Same options l (flagged on l) := by
    have hidden : m.hides options l "disabled" = true := by
      unfold hides
      rw [id, control]
      simp
    unfold flagged
    split_ifs
    · exact same_set hidden (by decide) "disabled"
    · exact same_erase hidden (by decide)
  exact congrArg Prod.snd (outline_modify same false false d.tree)

namespace Setup

variable {s : Setup}

theorem unseen_flagged (distinct : s.Distinct) (on : Bool) : s.Unseen (flagged on) where
  id l := (kin_flagged on l).id
  tag l := tag_flagged on l
  classes l := by
    rw [classesOf, get?_flagged on l (by decide), classesOf]
  field l := isField_of_kin distinct (kin_flagged on l)

/-- A page before and after elements of it were disabled or enabled. -/
structure Gated (s : Setup) (scope : Element) (es : List Element) (on : Bool) (d d' : Document) :
    Prop where
  ready : s.Ready d'
  carriers : d'.carriers scope s.config.attributes.rules = d.carriers scope s.config.attributes.rules
  controls : d'.submitControls scope = d.submitControls scope
  shows : ∀ e o, s.Shows d e o → s.Shows d' e o
  disabled : ∀ e ∈ es, (d.label? e).isSome = true → d'.isDisabled e = on
  others : ∀ e, e ∉ es → d'.isDisabled e = d.isDisabled e
  page : ∀ m : Mask, (∀ e ∈ es, m.controls.contains e = true) → m.page d' = m.page d

theorem gated (distinct : s.Distinct) (scope : Element) (es : List Element) (on : Bool)
    {d : Document} (ready : s.Ready d) :
    s.Gated scope es on d (es.foldl (fun d e => d.setFlag e "disabled" on) d) := by
  induction es generalizing d with
  | nil => exact ⟨ready, rfl, rfl, fun _ _ h => h, by simp, fun _ _ => rfl, fun _ _ => rfl⟩
  | cons e es ih =>
    rw [List.foldl_cons, setFlag_disabled]
    have unseen := unseen_flagged distinct on
    have wf := (descends_modifyLabel d e (kin_flagged on) ready.wellFormed).1
    have later := ih (unseen.ready e ready wf)
    constructor
    · exact later.ready
    · rw [later.carriers, unseen.carriers]
    · rw [later.controls, submitControls_flagged]
    · exact fun x o shown => later.shows x o (unseen.shows e shown)
    · intro x hx known
      by_cases again : x ∈ es
      · refine later.disabled x again ?_
        rwa [label?_modifyLabel unseen.id, Option.isSome_map]
      · obtain rfl : x = e := (List.mem_cons.1 hx).resolve_right again
        obtain ⟨l, label⟩ := Option.isSome_iff_exists.1 known
        rw [later.others x again, isDisabled_flagged_self label]
    · intro x hx
      rw [List.mem_cons, not_or] at hx
      rw [later.others x hx.2, isDisabled_flagged_of_ne hx.1]
    · intro m controls
      rw [List.forall_mem_cons] at controls
      rw [later.page m controls.2, Mask.page_flagged controls.1]

end Setup

end FormGate
