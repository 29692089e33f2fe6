import FormGate.Proofs.Document.Value

/-!
# What a pass leaves alone

The outline of a page is the page without all that a pass may change: the feedback of its fields, the
class of the invalid ones, the values that were written back, and whether the submit buttons are
disabled. Everything else is in the outline, and pages with the same outline differ in nothing else.
-/

namespace FormGate

open Markup Document

/-- What an outline leaves out: whose feedback and invalid class, whose values, and which buttons'
state. -/
structure Mask where
  invalidClass : String
  feedbackClass : String
  fields : List Element
  written : List Element
  controls : List Element

namespace Mask

variable (m : Mask)

def isFeedback (l : Label) : Bool :=
  (classesOf l).contains m.feedbackClass

/-- Whether a text area or a selection was given a value. -/
def isWritten (name : String) (l : Label) : Bool :=
  m.written.contains l.id && l.tag.localName == name

/-- Whether an attribute is left out of a label. An option's is where the selection around it was
given a value. -/
def hides (options : Bool) (l : Label) (name : String) : Bool :=
  (name == "class" && m.fields.contains l.id) ||
    (name == "value" && m.written.contains l.id && l.tag.localName != "textarea" &&
      l.tag.localName != "select") ||
    (name == "disabled" && m.controls.contains l.id) ||
    (name == "selected" && options && l.tag.localName == "option")

/-- The attributes of a label that are not left out. -/
def kept (options : Bool) (l : Label) : List (String × String) :=
  l.attributes.filter fun a => !m.hides options l a.1

/-- A label in the outline. The classes of a field are there without the one for invalid fields. -/
def label (options : Bool) (l : Label) : Label :=
  { l with
    attributes := m.kept options l ++
      if m.fields.contains l.id then
        [("class", " ".intercalate ((classesOf l).filter (· != m.invalidClass)))]
      else [] }

/-- The outline of a forest, and the text that goes to what precedes it: `options` where a selection
around it was given a value, `behind` where a field and feedback of it stand right before it. -/
def outline : (options behind : Bool) → Forest → String × Forest
  | _, _, .nil => ("", .nil)
  | options, behind, .cons l t c tail next =>
    if behind && m.isFeedback l then
      (tail ++ (outline options true next).1, (outline options true next).2)
    else
      ("", .cons (m.label options l) (if m.isWritten "textarea" l then "" else t)
        (outline (options || m.isWritten "select" l) false c).2
        (tail ++ (outline options (m.fields.contains l.id) next).1)
        (outline options (m.fields.contains l.id) next).2)

/-- The outline of a page. -/
def page (d : Document) : Forest :=
  (m.outline false false d.tree).2

variable {m}

/-! ## Outlines of parts -/

theorem outline_plug {f f' : Forest}
    (h : ∀ options behind, m.outline options behind f' = m.outline options behind f) (K : Frame)
    (options behind : Bool) :
    m.outline options behind (K.plug f') = m.outline options behind (K.plug f) := by
  induction K generalizing options behind with
  | here => exact h options behind
  | inside l t inner tail next ih => rw [Frame.plug, Frame.plug, outline, outline, ih]
  | behind l t c tail inner ih => rw [Frame.plug, Frame.plug, outline, outline, ih, ih]

/-- Only the texts of the feedback of a field are in the outline. -/
theorem outline_run {run : Forest} (feedback : ∀ n ∈ run.tops, m.isFeedback n.label = true)
    (rest : Forest) (options : Bool) :
    m.outline options true (run.append rest) =
      (run.tails ++ (m.outline options true rest).1, (m.outline options true rest).2) := by
  induction run with
  | nil => rw [Forest.append, Forest.tails, String.empty_append]
  | cons l t c tail next _ ih =>
    rw [Forest.tops, List.forall_mem_cons] at feedback
    rw [Forest.append, outline, if_pos (by simp [feedback.1]), ih feedback.2, Forest.tails,
      String.append_assoc]

theorem outline_field {l : Label} {run : Forest} (plain : m.isFeedback l = false)
    (field : m.fields.contains l.id = true) (feedback : ∀ n ∈ run.tops, m.isFeedback n.label = true)
    (t : String) (c : Forest) (tail : String) (rest : Forest) (options behind : Bool) :
    m.outline options behind (.cons l t c tail (run.append rest)) =
      ("", .cons (m.label options l) (if m.isWritten "textarea" l then "" else t)
        (m.outline (options || m.isWritten "select" l) false c).2
        (tail ++ run.tails ++ (m.outline options true rest).1) (m.outline options true rest).2) := by
  rw [outline, if_neg (by simp [plain]), field, outline_run feedback, String.append_assoc]

/-! ## Labels in the outline -/

theorem hides_congr {l l' : Label} (id : l'.id = l.id) (tag : l'.tag = l.tag) (options : Bool) :
    m.hides options l' = m.hides options l := by
  funext name
  unfold hides
  rw [id, tag]

/-- Labels with the same number, tag, classes and attributes, as far as these are not left out, have
the same outline. -/
theorem label_congr {l l' : Label} {options : Bool} (id : l'.id = l.id) (tag : l'.tag = l.tag)
    (attributes : l'.attributes.filter (fun a => !m.hides options l a.1) =
      l.attributes.filter fun a => !m.hides options l a.1)
    (classes : (classesOf l').filter (· != m.invalidClass) =
      (classesOf l).filter (· != m.invalidClass)) :
    m.label options l' = m.label options l := by
  unfold label kept
  rw [hides_congr id tag, attributes, classes, id, tag]

/-- A label that looks the same in the outline, and is of feedback or not as it was. -/
structure Same (m : Mask) (options : Bool) (l l' : Label) : Prop where
  id : l'.id = l.id
  tag : l'.tag = l.tag
  classes : classesOf l' = classesOf l
  label : m.label options l' = m.label options l

theorem Same.refl (options : Bool) (l : Label) : m.Same options l l := ⟨rfl, rfl, rfl, rfl⟩

theorem same_set {l : Label} {a : String} {options : Bool} (hidden : m.hides options l a = true)
    (other : a ≠ "class") (value : String) : m.Same options l (l.set a value) := by
  have classes : classesOf (l.set a value) = classesOf l := by
    rw [classesOf, Label.get?_set_of_ne value other.symm, classesOf]
  have attributes := Label.filter_set (l := l) (a := a) (p := fun b => !m.hides options l b)
    (by simp [hidden]) value
  exact ⟨rfl, rfl, classes, label_congr rfl rfl attributes (by rw [classes])⟩

theorem same_erase {l : Label} {a : String} {options : Bool} (hidden : m.hides options l a = true)
    (other : a ≠ "class") : m.Same options l (l.erase a) := by
  have classes : classesOf (l.erase a) = classesOf l := by
    rw [classesOf, Label.get?_erase_of_ne other.symm, classesOf]
  have attributes := Label.filter_erase (l := l) (a := a) (p := fun b => !m.hides options l b)
    (by simp [hidden])
  exact ⟨rfl, rfl, classes, label_congr rfl rfl attributes (by rw [classes])⟩

theorem outline_mapLabels {k : Label → String → Forest → Label} {options : Bool}
    (same : ∀ o, (options = true → o = true) → ∀ l t c, m.Same o l (k l t c)) (behind : Bool)
    (f : Forest) : m.outline options behind (f.mapLabels k) = m.outline options behind f := by
  induction f generalizing options behind with
  | nil => rfl
  | cons l t c tail next ihc ih =>
    have this := same options id l t c
    have feedback : m.isFeedback (k l t c) = m.isFeedback l := by
      unfold isFeedback
      rw [this.classes]
    have written (name : String) : m.isWritten name (k l t c) = m.isWritten name l := by
      unfold isWritten
      rw [this.id, this.tag]
    rw [Forest.mapLabels, outline, outline, feedback, this.label, this.id, written, written,
      ih same, ih same, ihc fun o on => same o fun h => on (by simp [h])]

/-- The outline stays the same if the label of the element of a number does. -/
theorem outline_modify {x : Element} {k : Label → Label}
    (same : ∀ o l, l.id = x → m.Same o l (k l)) (options behind : Bool) (f : Forest) :
    m.outline options behind (f.modify x k) = m.outline options behind f := by
  rw [Forest.modify_eq_mapLabels]
  refine outline_mapLabels (fun o _ l _ _ => ?_) behind f
  split_ifs with this
  · exact same o l this
  · exact .refl o l

theorem outline_chooseOption (value : String) (behind : Bool) (f : Forest) :
    m.outline true behind (f.mapLabels (chooseOption value)) = m.outline true behind f := by
  refine outline_mapLabels (fun o on l t c => ?_) behind f
  obtain rfl := on rfl
  unfold chooseOption
  split_ifs with option chosen
  · exact same_set (by simp [hides, option]) (by decide) "selected"
  · exact same_erase (by simp [hides, option]) (by decide)
  · exact .refl true l

/-! ## Fields in the outline -/

section Refilled

variable {l l' : Label} {t t' : String} {c c' : Forest} {v : Option String}
  (h : Refilled l t c v l' t' c') (written : v ≠ none → m.written.contains l.id = true)
  (options : Bool)
include h written

theorem label_refilled : m.label options l' = m.label options l := by
  cases h with
  | kept | text | options => rfl
  | value v textarea select =>
    have hidden : m.hides options l "value" = true := by
      simp only [hides, written (by simp)]
      simp [textarea, select]
    exact (same_set hidden (by decide) v).label

theorem text_refilled :
    (if m.isWritten "textarea" l then "" else t') = if m.isWritten "textarea" l then "" else t := by
  cases h with
  | kept | options | value => rfl
  | text v textarea =>
    have this : m.isWritten "textarea" l = true := by
      rw [isWritten, written (by simp), textarea]
      rfl
    rw [if_pos this, if_pos this]

theorem outline_refilled :
    m.outline (options || m.isWritten "select" l) false c' =
      m.outline (options || m.isWritten "select" l) false c := by
  cases h with
  | kept | value => rfl
  | text v _ bare => rw [bare]
  | options v select =>
    have this : m.isWritten "select" l = true := by
      rw [isWritten, written (by simp), select]
      rfl
    rw [this, Bool.or_true, outline_chooseOption]

end Refilled

theorem label_withClasses {l : Label} (field : m.fields.contains l.id = true) (options : Bool)
    {cs : List String} (words : ∀ c ∈ cs, Text.isWord c = true)
    (same : cs.filter (· != m.invalidClass) = (classesOf l).filter (· != m.invalidClass)) :
    m.label options (withClasses l cs) = m.label options l := by
  have hidden : (!m.hides options l "class") = false := by
    unfold hides
    rw [field]
    rfl
  refine label_congr ?_ ?_ ?_ (by rw [classesOf_withClasses words, same])
  · unfold withClasses
    split_ifs <;> rfl
  · unfold withClasses
    split_ifs <;> rfl
  · unfold withClasses
    split_ifs
    · exact Label.filter_erase (p := fun a => !m.hides options l a) hidden
    · exact Label.filter_set (p := fun a => !m.hides options l a) hidden _

theorem label_labelWithClass {l : Label} (field : m.fields.contains l.id = true)
    (word : Text.isWord m.invalidClass = true) (options : Bool) :
    m.label options (labelWithClass m.invalidClass l) = m.label options l := by
  unfold labelWithClass
  split_ifs
  · rfl
  · refine label_withClasses field options (fun c hc => ?_) (by simp)
    rcases List.mem_append.1 hc with hc | hc
    · exact isWord_of_mem_classesOf hc
    · rwa [List.mem_singleton.1 hc]

theorem label_labelWithoutClass {l : Label} (field : m.fields.contains l.id = true)
    (options : Bool) :
    m.label options (labelWithoutClass m.invalidClass l) = m.label options l := by
  unfold labelWithoutClass
  split_ifs
  · refine label_withClasses field options (fun c hc => ?_) (by simp)
    exact isWord_of_mem_classesOf (List.mem_of_mem_filter hc)
  · rfl

end Mask

end FormGate
