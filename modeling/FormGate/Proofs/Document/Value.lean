import FormGate.Proofs.Document.Classes
import FormGate.Proofs.Document.Head

/-!
# Writing a value

A value that is written to an element changes its text, which of its options are selected, or its
`value` attribute, by the kind of the element, and leaves the element where it is.
-/

namespace FormGate

open Markup Document

/-! ## The place of the element -/

theorem Markup.Forest.parent?_modify {k : Label → Label} (hk : ∀ l, (k l).id = l.id) (f : Forest)
    (x y owner : Nat) : (f.modify y k).parent? x owner = f.parent? x owner := by
  induction f generalizing owner with
  | nil => rfl
  | cons l t c tail next ihc ih =>
    have id : (if l.id = y then k l else l).id = l.id := by
      split_ifs
      · exact hk l
      · rfl
    rw [modify, parent?, parent?, id, ihc, ih]

theorem Markup.Forest.parent?_fill (f : Forest) (x owner : Nat) (text : String) (children : Forest) :
    (fill x text children f).parent? x owner = f.parent? x owner := by
  induction f generalizing owner with
  | nil => rfl
  | cons l t c tail next ihc ih =>
    rw [fill]
    split_ifs with here
    · rw [parent?, parent?, if_pos here, if_pos here]
    · rw [parent?, parent?, ihc, ih]

namespace Document

variable {d : Document} {e : Element}

theorem root_ne_of_parent? (h : d.WellFormed) {p : Element} (parent : d.parent? e = some p) :
    d.root ≠ e := by
  unfold parent? at parent
  unfold root
  have nodup := h.nodup_tree
  split at parent
  · rename_i l t c tail next tree
    rw [tree] at nodup
    rintro rfl
    rw [Forest.parent?_of_not_mem (Forest.nodup_cons nodup).1] at parent
    cases parent
  · cases parent

theorem root_fill (d : Document) (e : Element) (text : String) (children : Forest) :
    (d.mapForests (Forest.fill e text children)).root = d.root := by
  unfold root mapForests
  dsimp only
  cases d.tree with
  | nil => rfl
  | cons l t c tail next =>
    rw [Forest.fill]
    split_ifs <;> rfl

theorem root_modifyLabel {k : Label → Label} (hk : ∀ l, (k l).id = l.id) (d : Document)
    (e : Element) : (d.modifyLabel e k).root = d.root := by
  unfold root modifyLabel mapForests
  dsimp only
  cases d.tree with
  | nil => rfl
  | cons l t c tail next =>
    rw [Forest.modify]
    split_ifs
    · exact hk l
    · rfl

theorem root_setValue (d : Document) (e : Element) (v : String) : (d.setValue e v).root = d.root := by
  unfold setValue
  cases d.node? e with
  | none => rfl
  | some n =>
    dsimp only
    split
    · exact root_fill d e v .nil
    · exact root_fill d e n.text _
    · exact root_modifyLabel (k := fun l => l.set "value" v) (fun _ => rfl) d e

theorem parent?_modifyLabel {k : Label → Label} (hk : ∀ l, (k l).id = l.id) (d : Document)
    (x e : Element) : (d.modifyLabel x k).parent? e = d.parent? e := by
  unfold parent? modifyLabel mapForests
  dsimp only
  cases d.tree with
  | nil => rfl
  | cons l t c tail next =>
    rw [Forest.modify]
    dsimp only
    rw [Forest.parent?_modify hk]
    split_ifs
    · rw [hk]
    · rfl

section Apart

variable (apart : d.root ≠ e)
include apart

theorem parent?_fill (text : String) (children : Forest) :
    (d.mapForests (Forest.fill e text children)).parent? e = d.parent? e := by
  unfold parent? mapForests
  unfold root at apart
  dsimp only
  cases tree : d.tree with
  | nil => rfl
  | cons l t c tail next =>
    rw [tree] at apart
    rw [Forest.fill, if_neg apart]
    exact Forest.parent?_fill c e l.id text children

theorem parent?_setValue (v : String) : (d.setValue e v).parent? e = d.parent? e := by
  unfold setValue
  cases d.node? e with
  | none => rfl
  | some n =>
    dsimp only
    split
    · exact parent?_fill apart v .nil
    · exact parent?_fill apart n.text _
    · exact parent?_modifyLabel (k := fun l => l.set "value" v) (fun _ => rfl) d e e

end Apart

/-- An element that has a parent after a value was written to it had the same one before. -/
theorem parent?_of_setValue (h : d.WellFormed) {v : String} {p : Element}
    (parent : (d.setValue e v).parent? e = some p) : d.parent? e = some p := by
  have apart := root_ne_of_parent? (descends_setValue d e v h).1 parent
  rw [root_setValue] at apart
  rwa [parent?_setValue apart] at parent

end Document

/-! ## The element in its place -/

/-- What writing a value back to an element, if any, makes of its label, its text and its children. -/
inductive Refilled (l : Label) (t : String) (c : Forest) :
    Option String → Label → String → Forest → Prop
  | kept : Refilled l t c none l t c
  | text (v : String) : l.tag.localName = "textarea" → c = .nil → Refilled l t c (some v) l v .nil
  | options (v : String) : l.tag.localName = "select" →
    Refilled l t c (some v) l t (c.mapLabels (chooseOption v))
  | value (v : String) : l.tag.localName ≠ "textarea" → l.tag.localName ≠ "select" →
    Refilled l t c (some v) (l.set "value" v) t c

namespace Refilled

variable {l l' : Label} {t t' : String} {c c' : Forest} {v : Option String}
  (h : Refilled l t c v l' t' c')
include h

theorem kin : l.Kin l' := by
  cases h with
  | kept | text | options => exact .refl l
  | value v => exact .set l v (by simp [written])

theorem tag : l'.tag = l.tag := by
  cases h <;> rfl

theorem classes : classesOf l' = classesOf l := by
  cases h with
  | kept | text | options => rfl
  | value v => rw [classesOf, Label.get?_set_of_ne v (by decide), classesOf]

theorem below : List.Forall₂ Label.Kin c.labels c'.labels := by
  cases h with
  | kept | value => exact Label.Kin.self c.labels
  | text v _ bare =>
    rw [bare]
    exact .nil
  | options v => exact Forest.forall₂_mapLabels (kin_chooseOption v) c

theorem ids : c'.ids = c.ids :=
  Label.Kin.ids h.below

theorem below_eq_or_select : c' = c ∨ l.tag.localName = "select" := by
  cases h with
  | kept | value => exact .inl rfl
  | text v _ bare => exact .inl bare.symm
  | options v select => exact .inr select

theorem below_nil (bare : c = .nil) : c' = .nil := by
  subst bare
  cases h <;> rfl

end Refilled

theorem Place.setValue_head {P : Place} {l : Label} {t : String} {c : Forest} {tail : String}
    {next : Forest} (h : (P.put (.cons l t c tail next)).WellFormed)
    (bare : l.tag.localName = "textarea" → c = .nil) (v : String) :
    ∃ l' t' c', Refilled l t c (some v) l' t' c' ∧
      (P.put (.cons l t c tail next)).setValue l.id v = P.put (.cons l' t' c' tail next) := by
  unfold setValue
  rw [Place.node?_head h]
  dsimp only
  split
  · rename_i textarea
    obtain rfl := bare textarea
    refine ⟨l, v, .nil, .text v textarea rfl, ?_⟩
    rw [Place.setText_head h, Place.taking_nil]
  · rename_i select
    exact ⟨l, t, _, .options v select, Place.fill_head h t _⟩
  · rename_i textarea select
    exact ⟨l.set "value" v, t, c, .value v textarea select, Place.modifyLabel_head h _⟩

end FormGate
