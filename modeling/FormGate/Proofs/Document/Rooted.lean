import FormGate.Proofs.Document.Labels
import FormGate.Proofs.Document.Value
import FormGate.Proofs.Markup.Names
import Mathlib.Data.List.Nodup

/-!
# What stays of a page that was read

Whatever is called for on a page, it stays one outermost element under the tag that was read, with
nothing behind it. No element comes to carry an attribute twice, or one that binds a namespace, and the
document type stays (`Document.Rooted.perform`).
-/

namespace FormGate

open Markup

namespace Markup.Forest

/-- A forest of one outermost element under a tag, with nothing behind it. -/
def Headed (tag : Tag) (f : Forest) : Prop :=
  ∃ l t c, f = cons l t c "" nil ∧ l.tag = tag

namespace Headed

variable {tag : Tag} {f : Forest} {x : Nat} (h : f.Headed tag)
include h

theorem modify {k : Label → Label} (hk : ∀ l, l.tag = tag → (k l).tag = tag) :
    (f.modify x k).Headed tag := by
  obtain ⟨l, t, c, rfl, same⟩ := h
  refine ⟨_, _, _, rfl, ?_⟩
  split_ifs
  · exact hk l same
  · exact same

theorem fill (text : String) (children : Forest) : (Forest.fill x text children f).Headed tag := by
  obtain ⟨l, t, c, rfl, same⟩ := h
  rw [Forest.fill]
  split_ifs <;> exact ⟨_, _, _, rfl, same⟩

end Headed

end Markup.Forest

/-! ## Labels -/

/-- A label with no attribute twice, and none that binds a namespace. -/
structure Markup.Label.Tidy (l : Label) : Prop where
  nodup : (l.attributes.map (·.1)).Nodup
  unbound : ∀ a ∈ l.attributes, a.1 ≠ "xmlns"

theorem Markup.Label.Tidy.set {l : Label} (h : l.Tidy) {a : String} (other : a ≠ "xmlns") (v : String) :
    (l.set a v).Tidy := by
  unfold Label.set
  by_cases present : l.has a = true
  · rw [if_pos present]
    have names : ((l.attributes.map fun p => if p.1 == a then (a, v) else p).map (·.1)) =
        l.attributes.map (·.1) := by
      rw [List.map_map]
      refine List.map_congr_left fun p _ => ?_
      rw [Function.comp_apply]
      split_ifs with same
      · exact (beq_iff_eq.1 same).symm
      · rfl
    constructor
    · dsimp only
      rw [names]
      exact h.nodup
    · refine List.forall_mem_map.2 fun p hp => ?_
      split_ifs
      · exact other
      · exact h.unbound p hp
  · rw [if_neg present]
    have absent : ∀ p ∈ l.attributes, p.1 ≠ a := fun p hp same =>
      present (List.any_eq_true.2 ⟨p, hp, beq_iff_eq.2 same⟩)
    constructor
    · dsimp only
      rw [List.map_append, List.nodup_append]
      refine ⟨h.nodup, List.nodup_singleton _, fun b hb c hc => ?_⟩
      obtain ⟨p, hp, rfl⟩ := List.mem_map.1 hb
      obtain rfl := List.mem_singleton.1 hc
      exact absent p hp
    · exact List.forall_mem_append.2 ⟨h.unbound, by simpa using other⟩

theorem Markup.Label.stable_tidy : Label.Stable Label.Tidy where
  set {l a} h listed v := by
    refine h.set ?_ v
    rintro rfl
    revert listed
    decide
  erase {l a} h _ :=
    ⟨h.nodup.sublist (List.filter_sublist.map _), fun p hp => h.unbound p (List.mem_filter.1 hp).1⟩
  holding h _ := ⟨h.nodup, h.unbound⟩
  lineBreak _ _ _ := ⟨List.nodup_nil, fun p none => (List.not_mem_nil none).elim⟩

/-! ## Pages -/

namespace Document

/-- A page under an element that was read, with the document type that was read. -/
structure Rooted (name : String) (doctype : Option String) (d : Document) : Prop where
  wellFormed : d.WellFormed
  headed : d.tree.Headed (.element name)
  tidy : d.All Label.Tidy
  doctype : d.doctype = doctype

variable {name : String} {doctype : Option String} {d : Document}

theorem headed_insertAfter (headed : d.tree.Headed (.element name)) {x : Element} (below : d.root ≠ x)
    (n : Node) : (d.tree.insertAfter x n).Headed (.element name) := by
  obtain ⟨l, t, c, tree, same⟩ := headed
  rw [root, tree] at below
  rw [tree, Forest.insertAfter, if_neg below]
  exact ⟨_, _, _, rfl, same⟩

theorem headed_cut (headed : d.tree.Headed (.element name)) {x : Element} (below : d.root ≠ x) :
    (d.tree.cut x).2.Headed (.element name) := by
  obtain ⟨l, t, c, tree, same⟩ := headed
  rw [root, tree] at below
  rw [tree, Forest.cut, if_neg below]
  exact ⟨_, _, _, rfl, same⟩

theorem headed_withFirstLine (headed : d.tree.Headed (.element name)) (x : Element)
    (lines : List String) : (d.withFirstLine x lines).tree.Headed (.element name) :=
  (headed.fill _ .nil).modify fun l same => by rw [same]; rfl

/-- No call takes the outermost element away or puts another tag on it. -/
theorem headed_perform (wf : d.WellFormed) (headed : d.tree.Headed (.element name)) (c : Call) :
    (c.perform d).2.tree.Headed (.element name) := by
  cases c with
  | setValue e v =>
    show (d.setValue e v).tree.Headed _
    unfold setValue
    split
    · exact headed
    · split
      · exact headed.fill v .nil
      · exact headed.fill _ _
      · exact headed.modify fun l same => same
  | addClass e name => exact headed.modify fun l same => (tag_labelWithClass _ l).trans same
  | removeClass e name => exact headed.modify fun l same => (tag_labelWithoutClass _ l).trans same
  | insertFeedback e tag classes lines =>
    show ((insertFeedback e tag classes lines).run.run d).2.tree.Headed _
    rw [insertFeedback_run]
    split
    · exact headed
    · split
      · exact headed
      · split
        · exact headed
        · rename_i after
          obtain ⟨p, parent, -, -⟩ := mem_tree_of_siblingsAfter after
          exact headed_insertAfter headed (root_ne_of_parent? wf parent) _
  | setLines e lines =>
    show ((setLines e lines).run.run d).2.tree.Headed _
    rw [setLines_run]
    split
    · exact headed_withFirstLine headed e lines
    · exact (headed_withFirstLine headed e lines).fill _ _
  | remove e =>
    show (d.remove e).tree.Headed _
    unfold remove
    split
    · rename_i parent _
      exact headed_cut headed (root_ne_of_parent? wf parent)
    · exact headed
  | setDisabled e disabled =>
    show (d.setFlag e "disabled" disabled).tree.Headed _
    unfold setFlag
    split_ifs
    · exact headed.modify fun l same => same
    · exact headed.modify fun l same => same
  | _ => exact headed

namespace Rooted

variable (h : d.Rooted name doctype)
include h

/-- Whatever is called for on a page, it stays under the element that was read. -/
theorem perform (c : Call) : (c.perform d).2.Rooted name doctype where
  wellFormed := (c.descends_perform d h.wellFormed).1
  headed := headed_perform h.wellFormed h.headed c
  tidy := by
    refine h.tidy.perform Label.stable_tidy ?_
    cases c with
    | insertFeedback e tag classes lines =>
      exact fun _ _ _ => ⟨List.nodup_singleton _, by simp⟩
    | _ => trivial
  doctype := (c.sameLog_perform d).doctype.trans h.doctype

theorem setValue (e : Element) (v : String) : (d.setValue e v).Rooted name doctype :=
  h.perform (.setValue e v)

theorem setChecked (e : Element) (on : Bool) : (d.setFlag e "checked" on).Rooted name doctype where
  wellFormed := by
    have same {k : Label → Label} (hk : ∀ l, (k l).id = l.id) : (d.modifyLabel e k).WellFormed := by
      have ids : ((d.modifyLabel e k).labels.map (·.id)) = d.labels.map (·.id) := by
        rw [labels_modifyLabel, List.map_map]
        refine List.map_congr_left fun l _ => ?_
        rw [Function.comp_apply]
        split_ifs
        · exact hk l
        · rfl
      constructor
      · rw [ids]
        exact h.wellFormed.nodup
      · intro l hl
        have number : l.id ∈ (d.modifyLabel e k).labels.map (·.id) := List.mem_map_of_mem hl
        rw [ids] at number
        obtain ⟨l', hl', same⟩ := List.mem_map.1 number
        rw [← same]
        exact h.wellFormed.fresh l' hl'
    cases on
    · exact same fun _ => rfl
    · exact same fun _ => rfl
  headed := by
    cases on
    · exact h.headed.modify fun l same => same
    · exact h.headed.modify fun l same => same
  tidy := h.tidy.setFlag Label.stable_tidy (by decide) e on
  doctype := (d.sameLog_setFlag e "checked" on).doctype.trans h.doctype

theorem fillNamed (field v : String) (scope : Option Element) :
    (d.fillNamed field v scope).2.Rooted name doctype :=
  List.foldlRecOn _ _ h fun _ rooted e _ => rooted.setValue e v

end Rooted

/-- A page that was read is one under the element that was read. -/
theorem rooted_ofText {text : String} (read : Document.ofText text = .ok d) :
    ∃ l t c name, d.tree = .cons l t c "" .nil ∧ l.tag = .element (.ofList name) ∧ Expanded name ∧
      d.Rooted (.ofList name) d.doctype := by
  obtain ⟨l, t, c, tree, -⟩ := root_of_ofText read
  have sourced := sourced_ofText read
  have first : l ∈ d.labels := List.mem_append_left _ (by rw [tree]; exact List.mem_cons_self)
  obtain ⟨name, tag, expanded⟩ := (sourced l first).tag
  refine ⟨l, t, c, name, tree, tag, expanded, wellFormed_ofText read, ⟨l, t, c, tree, tag⟩, ?_, rfl⟩
  exact fun l hl => ⟨(sourced l hl).nodup, fun a ha => ((sourced l hl).attributes a ha).1⟩

end Document

end FormGate
