import FormGate.Proofs.Document.Relabel
import FormGate.Proofs.Document.WellFormed

/-!
# Another value for an attribute

An attribute that an element has already is given another value. The page then reads as before but
for this value, as long as the attribute is none that is asked for by name; and whether a value is
written to the element before or after makes no difference.
-/

namespace FormGate

open Markup

namespace Markup.Label

/-- A label in which an attribute has another value, where it is that of the element. -/
def reset (e : Element) (a v : String) (l : Label) : Label :=
  if l.id = e then l.set a v else l

variable {l : Label} {e : Element} {a b v : String}

/-- The attributes of a label stay the same ones where one of them is set again. -/
theorem has_set_of_has (present : l.has a = true) (b : String) : (l.set a v).has b = l.has b := by
  by_cases same : b = a
  · rw [same, has_eq_isSome, get?_set_self, present]
    rfl
  · rw [has_eq_isSome, has_eq_isSome, get?_set_of_ne v same]

/-- Where an attribute has its place in a label, another one is set before or after it alike. -/
theorem set_comm (present : l.has a = true) (other : b ≠ a) (w : String) :
    (l.set a v).set b w = (l.set b w).set a v := by
  have later : (l.set b w).has a = true := by
    rw [has_eq_isSome, get?_set_of_ne w (Ne.symm other), ← has_eq_isSome, present]
  have known : (l.set a v).has b = l.has b := has_set_of_has present b
  have both (p : String × String) :
      (if (if p.1 == a then (a, v) else p).1 == b then (b, w) else if p.1 == a then (a, v) else p) =
        if (if p.1 == b then (b, w) else p).1 == a then (a, v) else if p.1 == b then (b, w) else p := by
    by_cases first : p.1 = a
    · have ne : p.1 ≠ b := fun same => other (same.symm.trans first)
      simp [first, other.symm]
    · by_cases second : p.1 = b
      · simp [second, other]
      · simp [first, second]
  rw [set, known, set.eq_1 (l.set b w), later]
  unfold set
  rw [if_pos present]
  by_cases has : l.has b = true
  · rw [if_pos has, if_pos has, if_pos rfl]
    dsimp only
    rw [List.map_map, List.map_map]
    exact congrArg (Label.mk l.id l.tag) (List.map_congr_left fun p _ => both p)
  · rw [if_neg has, if_neg has, if_pos rfl]
    dsimp only
    rw [List.map_append, List.map_singleton, if_neg (by simpa using other)]

@[simp] theorem id_reset : (l.reset e a v).id = l.id := by
  unfold reset
  split_ifs <;> rfl

@[simp] theorem tag_reset : (l.reset e a v).tag = l.tag := by
  unfold reset
  split_ifs <;> rfl

theorem get?_reset_of_ne (other : b ≠ a) : (l.reset e a v).get? b = l.get? b := by
  unfold reset
  split_ifs
  · exact get?_set_of_ne v other
  · rfl

end Markup.Label

namespace Document

variable {d : Document} {e : Element} {a : String}

theorem setAttribute_eq_relabel (d : Document) (e : Element) (a v : String) :
    d.setAttribute e a v = d.mapForests (Forest.relabel (Label.reset e a v)) := by
  unfold setAttribute modifyLabel mapForests
  rw [Forest.modify_eq_relabel, Forest.modify_eq_relabel]
  rfl

theorem node?_setAttribute (d : Document) (e : Element) (a v : String) (x : Element) :
    (d.setAttribute e a v).node? x = (d.node? x).map (Node.relabel (Label.reset e a v)) := by
  rw [setAttribute_eq_relabel]
  show Option.or (Forest.find? x (Forest.relabel _ _)) (Forest.find? x (Forest.relabel _ _)) = _
  rw [Forest.find?_relabel (x := x) fun l _ => by rw [Label.id_reset],
    Forest.find?_relabel (x := x) fun l _ => by rw [Label.id_reset], node?, Option.map_or]

theorem label?_setAttribute (d : Document) (e : Element) (a v : String) (x : Element) :
    (d.setAttribute e a v).label? x = (d.label? x).map (Label.reset e a v) := by
  rw [label?, node?_setAttribute, Option.map_map, label?, Option.map_map]
  rfl

theorem tagName_setAttribute (d : Document) (e : Element) (a v : String) (x : Element) :
    (d.setAttribute e a v).tagName x = d.tagName x := by
  have tag : ((fun l : Label => l.tag.localName) ∘ Label.reset e a v) = fun l => l.tag.localName := by
    funext l
    rw [Function.comp_apply, Label.tag_reset]
  rw [tagName, label?_setAttribute, Option.map_map, tag, tagName]

theorem attribute?_setAttribute_of_ne (d : Document) (e : Element) {a b : String} (v : String)
    (other : b ≠ a) (x : Element) : (d.setAttribute e a v).attribute? x b = d.attribute? x b := by
  rw [attribute?, label?_setAttribute, attribute?]
  cases d.label? x with
  | none => rfl
  | some l => exact Label.get?_reset_of_ne other

theorem attribute?_setAttribute_of_ne_element (d : Document) {e x : Element} (a v : String)
    (other : x ≠ e) (b : String) : (d.setAttribute e a v).attribute? x b = d.attribute? x b := by
  rw [attribute?, label?_setAttribute, attribute?]
  cases label : d.label? x with
  | none => rfl
  | some l =>
    obtain ⟨n, found, rfl⟩ := Option.map_eq_some_iff.1 label
    have apart : n.label.id ≠ e := by rwa [node?_id found]
    rw [Option.map_some, Label.reset, if_neg apart]

theorem attribute?_setAttribute_self {old : String} (v : String)
    (present : d.attribute? e a = some old) :
    (d.setAttribute e a v).attribute? e a = some v := by
  obtain ⟨l, label, -⟩ := Option.bind_eq_some_iff.1 present
  obtain ⟨n, found, rfl⟩ := Option.map_eq_some_iff.1 label
  rw [attribute?, label?_setAttribute, label, Option.map_some, Label.reset,
    if_pos (node?_id found), Option.bind_some, Label.get?_set_self]

theorem select_setAttribute {p : Label → Bool} {v : String} (same : ∀ l, p (l.reset e a v) = p l)
    (scope : Option Element) : (d.setAttribute e a v).select scope p = d.select scope p := by
  have labels : (d.setAttribute e a v).labelsIn scope =
      (d.labelsIn scope).map (Label.reset e a v) := by
    cases scope with
    | none =>
      rw [setAttribute_eq_relabel]
      exact Forest.labels_relabel d.tree
    | some x =>
      rw [labelsIn, node?_setAttribute, labelsIn]
      cases d.node? x with
      | none => rfl
      | some n =>
        exact n.labels_relabel
  have kept : (p ∘ Label.reset e a v) = p := funext same
  have ids : ((·.id) ∘ Label.reset e a v) = (·.id : Label → Nat) := by
    funext l
    exact Label.id_reset
  rw [select, labels, List.filter_map, kept, List.map_map, ids, select]

theorem resolve_setAttribute (v : String) (name : a ≠ "name") (identifier : a ≠ "id")
    (reference : String) (scope : Option Element) :
    (d.setAttribute e a v).resolve reference scope = d.resolve reference scope := by
  unfold resolve named
  split
  · exact select_setAttribute (fun l => by rw [Label.get?_reset_of_ne (Ne.symm identifier)]) scope
  · exact select_setAttribute (fun l => by rw [Label.get?_reset_of_ne (Ne.symm name)]) scope

theorem closestForm?_setAttribute (d : Document) (e : Element) (a v : String) (x : Element) :
    (d.setAttribute e a v).closestForm? x = d.closestForm? x := by
  have tree : (d.setAttribute e a v).tree = d.tree.relabel (Label.reset e a v) := by
    rw [setAttribute_eq_relabel]
    rfl
  have around := Forest.enclosing?_relabel (f := d.tree) (g := Label.reset e a v) (x := x) (y := x)
    (ρ := id) (fun l _ => by rw [Label.id_reset]) (fun l => Label.id_reset)
    (p := fun l => l.tag.localName == "form") (fun l _ => by rw [Label.tag_reset]) none
  have own : ((d.label? x).map (Label.reset e a v)).any (·.tag.localName == "form") =
      (d.label? x).any (·.tag.localName == "form") := by
    cases d.label? x with
    | none => rfl
    | some l =>
      show ((l.reset e a v).tag.localName == "form") = _
      rw [Label.tag_reset]
      rfl
  rw [Option.map_none] at around
  unfold closestForm?
  dsimp only
  rw [tree, around, label?_setAttribute, own]
  cases d.tree.enclosing? (fun l => l.tag.localName == "form") x none with
  | none => rfl
  | some nearest => cases nearest <;> rfl

theorem not_mem_children (wf : d.WellFormed) {n : Node} (found : d.node? e = some n) :
    e ∉ n.children.ids := by
  have labels : n.labels.Sublist d.labels := by
    rcases Option.or_eq_some_iff.1 found with found | ⟨-, found⟩
    · exact (Forest.labels_of_find? found).sublist.trans (List.sublist_append_left _ _)
    · exact (Forest.labels_of_find? found).sublist.trans (List.sublist_append_right _ _)
  have nodup := (labels.map (·.id)).nodup wf.nodup
  rw [Node.labels, List.map_cons, List.nodup_cons, node?_id found] at nodup
  exact nodup.1

section Present

variable (wf : d.WellFormed) {old : String} (present : d.attribute? e a = some old)
include wf present

theorem has_of_attribute? {l : Label} (hl : l ∈ d.labels) (id : l.id = e) : l.has a = true := by
  obtain ⟨own, label, given⟩ := Option.bind_eq_some_iff.1 present
  obtain rfl : own = l := Option.some.inj (label.symm.trans (wf.label?_eq_some.2 ⟨hl, id⟩))
  rw [Label.has_eq_isSome, given]
  rfl

theorem has_reset {l : Label} (hl : l ∈ d.labels) (v b : String) :
    (l.reset e a v).has b = l.has b := by
  unfold Label.reset
  split_ifs with here
  · exact Label.has_set_of_has (has_of_attribute? wf present hl here) b
  · rfl

theorem isChecked_setAttribute (v : String) (x : Element) :
    (d.setAttribute e a v).isChecked x = d.isChecked x := by
  rw [isChecked, label?_setAttribute, isChecked]
  cases label : d.label? x with
  | none => rfl
  | some l => exact has_reset wf present (wf.label?_eq_some.1 label).1 v "checked"

theorem value_setAttribute (apart : a ≠ "value") (v : String) (x : Element) :
    (d.setAttribute e a v).value x = d.value x := by
  rw [value, node?_setAttribute, value]
  cases found : d.node? x with
  | none => rfl
  | some n =>
    have inside : ∀ l ∈ n.labels, l ∈ d.labels := by
      intro l hl
      rcases Option.or_eq_some_iff.1 found with found | ⟨-, found⟩
      · exact List.mem_append_left _ ((Forest.labels_of_find? found).subset hl)
      · exact List.mem_append_right _ ((Forest.labels_of_find? found).subset hl)
    refine nodeValue_relabel fun l hl => ⟨Label.tag_reset, ?_, has_reset wf present (inside l hl) v _⟩
    exact Label.get?_reset_of_ne (Ne.symm apart)

/-- A value is written to the element as well before the attribute is set as after. -/
theorem setValue_setAttribute (apart : a ≠ "value") (v w : String) :
    (d.setAttribute e a v).setValue e w = (d.setValue e w).setAttribute e a v := by
  have ids : ∀ f : Forest, ∀ l ∈ f.labels, (l.reset e a v).id = e ↔ l.id = e := by
    intro f l _
    rw [Label.id_reset]
  have outside {f : Forest} (absent : e ∉ f.ids) : f.relabel (Label.reset e a v) = f := by
    refine Forest.relabel_self fun l hl => if_neg ?_
    rintro rfl
    exact absent (Forest.id_mem_ids hl)
  have kind (n : Node) : (n.relabel (Label.reset e a v)).label.tag = n.label.tag := Label.tag_reset
  unfold setValue
  rw [node?_setAttribute]
  cases found : d.node? e with
  | none => rfl
  | some n =>
    rw [Option.map_some]
    dsimp only
    rw [kind]
    split
    · rw [setText, node?_setAttribute, setText, found, setAttribute_eq_relabel,
        setAttribute_eq_relabel]
      unfold mapForests
      dsimp only
      rw [← Forest.relabel_nil (g := Label.reset e a v), Forest.fill_relabel (ids d.tree),
        Forest.fill_relabel (ids d.loose), Forest.relabel_append]
      rfl
    · have absent := not_mem_children wf found
      have chosen : e ∉ (n.children.mapLabels (chooseOption w)).ids := by
        rwa [Forest.ids, Label.Kin.ids (Forest.forall₂_mapLabels (kin_chooseOption w) n.children)]
      have children : (n.relabel (Label.reset e a v)).children = n.children := outside absent
      rw [children, setAttribute_eq_relabel, setAttribute_eq_relabel]
      unfold mapForests
      dsimp only
      rw [← Forest.fill_relabel (ids d.tree), ← Forest.fill_relabel (ids d.loose), outside chosen]
      rfl
    · have both : ∀ l ∈ d.labels, (l.reset e a v).reset e "value" w =
          (l.reset e "value" w).reset e a v := by
        intro l hl
        unfold Label.reset
        by_cases here : l.id = e
        · have has := has_of_attribute? wf present hl here
          rw [if_pos here, if_pos (show (l.set a v).id = e from here), if_pos here,
            if_pos (show (l.set "value" w).id = e from here), Label.set_comm has (Ne.symm apart)]
        · rw [if_neg here, if_neg here, if_neg here]
      have exchange {f : Forest} (inside : f.labels ⊆ d.labels) :
          (f.relabel (Label.reset e a v)).relabel (Label.reset e "value" w) =
            (f.relabel (Label.reset e "value" w)).relabel (Label.reset e a v) := by
        rw [Forest.relabel_relabel, Forest.relabel_relabel]
        exact Forest.relabel_congr fun l hl => both l (inside hl)
      simp only [setAttribute_eq_relabel, mapForests]
      rw [exchange (List.subset_append_left _ _), exchange (List.subset_append_right _ _)]

end Present

end Document

end FormGate
