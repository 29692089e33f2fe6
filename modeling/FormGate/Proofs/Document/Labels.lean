import FormGate.Proofs.Document.WellFormed

/-!
# Conditions on labels

A condition on single labels is stable if the changes that are made to a label on a page keep to it,
and if it holds of a line break that stands in an element of which it holds. What is satisfied by all
labels of a page is then satisfied by all labels after any call to the host that puts in no other
elements (`Document.All.perform`), and after a field was filled in or ticked.
-/

namespace FormGate

open Markup

namespace Markup.Forest

variable {x : Nat}

theorem labels_fill_subset (text : String) (children f : Forest) :
    (fill x text children f).labels ⊆ f.labels ++ children.labels := by
  induction f with
  | nil => exact fun l none => (List.not_mem_nil none).elim
  | cons l t c tail next ihc ih =>
    intro l' h
    rw [fill] at h
    split_ifs at h
    · simp only [labels, List.mem_cons, List.mem_append] at h ⊢
      tauto
    · simp only [labels, List.mem_cons, List.mem_append] at h ⊢
      rcases h with rfl | h | h
      · exact .inl (.inl rfl)
      · have := List.mem_append.1 (ihc h)
        tauto
      · have := List.mem_append.1 (ih h)
        tauto

theorem labels_insertAfter_subset (n : Node) (f : Forest) :
    (f.insertAfter x n).labels ⊆ f.labels ++ n.labels := by
  induction f with
  | nil => exact fun l none => (List.not_mem_nil none).elim
  | cons l t c tail next ihc ih =>
    intro l' h
    rw [insertAfter] at h
    split_ifs at h
    · simp only [labels, Node.labels, List.mem_cons, List.mem_append] at h ⊢
      tauto
    · simp only [labels, List.mem_cons, List.mem_append] at h ⊢
      rcases h with rfl | h | h
      · exact .inl (.inl rfl)
      · have := List.mem_append.1 (ihc h)
        tauto
      · have := List.mem_append.1 (ih h)
        tauto

theorem labels_cut_subset (f : Forest) : (f.cut x).2.labels ⊆ f.labels := by
  induction f with
  | nil => exact fun l none => none
  | cons l t c tail next ihc ih =>
    intro l' h
    rw [cut] at h
    split_ifs at h
    · exact List.mem_cons_of_mem _ (List.mem_append_right _ h)
    · simp only [labels, List.mem_cons, List.mem_append] at h ⊢
      rcases h with rfl | h | h
      · exact .inl rfl
      · exact .inr (.inl (ihc h))
      · exact .inr (.inr (ih h))

theorem mem_ids_of_parent? {owner p : Nat} {f : Forest} (h : f.parent? x owner = some p) :
    p = owner ∨ p ∈ f.ids := by
  induction f generalizing owner with
  | nil => cases h
  | cons l t c tail next ihc ih =>
    rw [ids_cons, List.mem_cons, List.mem_append]
    rw [parent?] at h
    split_ifs at h
    · exact .inl (Option.some.inj h).symm
    · rcases Option.or_eq_some_iff.1 h with h | ⟨-, h⟩
      · exact .inr ((ihc h).imp_right .inl)
      · exact (ih h).imp_right fun later => .inr (.inr later)

end Markup.Forest

/-- The attributes that are changed on a page: those that calls to the host change, and the one by
which a field is ticked. -/
def Document.touched : List String :=
  "checked" :: Document.written

/-- A condition on labels that changes of a label keep to, and line breaks in its element too. -/
structure Markup.Label.Stable (P : Label → Prop) : Prop where
  set : ∀ {l : Label} {a : String}, P l → a ∈ Document.touched → ∀ v, P (l.set a v)
  erase : ∀ {l : Label} {a : String}, P l → a ∈ Document.touched → P (l.erase a)
  holding : ∀ {l : Label}, P l → ∀ lines, P { l with tag := l.tag.holding lines }
  lineBreak : ∀ {l : Label} {space : String}, P l → l.tag.space = .ok space → ∀ id,
    P ⟨id, .element (space ++ "br"), []⟩

/-- The element that a call puts in satisfies a condition where the one around it does. -/
def Call.Fits (P : Label → Prop) : Call → Prop
  | .insertFeedback _ tag classes _ => ∀ {l : Label} {space : String}, P l → l.tag.space = .ok space →
      ∀ id, P ⟨id, .element (space ++ tag), [("class", " ".intercalate classes)]⟩
  | _ => True

namespace Document

/-- Whether all labels satisfy a condition, in the page and taken out. -/
def All (P : Label → Prop) (d : Document) : Prop :=
  ∀ l ∈ d.labels, P l

variable {P : Label → Prop} {d : Document}

theorem all_iff : d.All P ↔ (∀ l ∈ d.tree.labels, P l) ∧ ∀ l ∈ d.loose.labels, P l :=
  List.forall_mem_append

theorem label?_of_parent? {e p : Element} (parent : d.parent? e = some p) :
    ∃ l, d.label? p = some l := by
  have tree : p ∈ d.tree.ids := by
    unfold parent? at parent
    split at parent
    · rename_i l t children tail next same
      rw [same, Forest.ids_cons]
      rcases Forest.mem_ids_of_parent? parent with rfl | below
      · exact List.mem_cons_self
      · exact List.mem_cons_of_mem _ (List.mem_append_left _ below)
    · cases parent
  obtain ⟨n, found⟩ := Option.isSome_iff_exists.1 (Forest.find?_isSome.2 tree)
  exact ⟨n.label, by rw [label?, node?, found]; rfl⟩

theorem All.label? (h : d.All P) {e : Element} {l : Label} (label : d.label? e = some l) : P l := by
  obtain ⟨n, found, rfl⟩ := Option.map_eq_some_iff.1 label
  exact h _ (mem_labels found)

theorem All.children (h : d.All P) {e : Element} {n : Node} (found : d.node? e = some n) :
    ∀ l ∈ n.children.labels, P l := by
  intro l hl
  have inside : l ∈ n.labels := List.mem_cons_of_mem _ hl
  rcases Option.or_eq_some_iff.1 found with found | ⟨-, found⟩
  · exact h l (List.mem_append_left _ ((Forest.labels_of_find? found).subset inside))
  · exact h l (List.mem_append_right _ ((Forest.labels_of_find? found).subset inside))

theorem All.modifyLabel (h : d.All P) (e : Element) {k : Label → Label} (hk : ∀ l, P l → P (k l)) :
    (d.modifyLabel e k).All P := by
  intro l' hl'
  rw [labels_modifyLabel] at hl'
  obtain ⟨l, hl, rfl⟩ := List.mem_map.1 hl'
  split_ifs
  · exact hk l (h l hl)
  · exact h l hl

theorem All.fill (h : d.All P) (e : Element) (text : String) {children : Forest}
    (inside : ∀ l ∈ children.labels, P l) : (d.mapForests (Forest.fill e text children)).All P := by
  obtain ⟨tree, loose⟩ := all_iff.1 h
  refine all_iff.2 ⟨fun l hl => ?_, fun l hl => ?_⟩
  · exact (List.mem_append.1 (Forest.labels_fill_subset _ _ _ hl)).elim (tree l) (inside l)
  · exact (List.mem_append.1 (Forest.labels_fill_subset _ _ _ hl)).elim (loose l) (inside l)

theorem All.setText (h : d.All P) (e : Element) (text : String) : (d.setText e text).All P := by
  have nothing : ∀ l ∈ Forest.nil.labels, P l := fun l none => (List.not_mem_nil none).elim
  obtain ⟨tree, loose⟩ := all_iff.1 (h.fill e text nothing)
  refine all_iff.2 ⟨tree, fun l hl => ?_⟩
  unfold Document.setText at hl
  dsimp only at hl
  rw [Forest.labels_append, List.mem_append] at hl
  refine hl.elim (loose l) fun held => ?_
  cases found : d.node? e with
  | none =>
    rw [found] at held
    exact (List.not_mem_nil held).elim
  | some n =>
    rw [found] at held
    exact h.children found l held

theorem All.remove (h : d.All P) (e : Element) : (d.remove e).All P := by
  obtain ⟨tree, loose⟩ := all_iff.1 h
  unfold Document.remove
  split
  · rename_i n _ found
    refine all_iff.2 ⟨fun l hl => tree l (Forest.labels_cut_subset _ hl), fun l hl => ?_⟩
    rw [Forest.labels_append, Forest.labels_forest, List.mem_append] at hl
    exact hl.elim (loose l) fun inside => tree l ((Forest.labels_of_find? found).subset inside)
  · exact h

theorem All.withBehind (h : d.All P) (e : Element) {n : Node} (new : ∀ l ∈ n.labels, P l) :
    (d.withBehind e n).All P := by
  obtain ⟨tree, loose⟩ := all_iff.1 h
  refine all_iff.2 ⟨fun l hl => ?_, loose⟩
  exact (List.mem_append.1 (Forest.labels_insertAfter_subset _ _ hl)).elim (tree l) (new l)

section Stable

variable (stable : Label.Stable P)
include stable

theorem All.setAttribute (h : d.All P) {a : String} (listed : a ∈ touched) (e : Element) (v : String) :
    (d.setAttribute e a v).All P :=
  h.modifyLabel e fun _ hl => stable.set hl listed v

theorem All.setFlag (h : d.All P) {a : String} (listed : a ∈ touched) (e : Element) (on : Bool) :
    (d.setFlag e a on).All P := by
  unfold Document.setFlag
  split_ifs
  · exact h.setAttribute stable listed e a
  · exact h.modifyLabel e fun _ hl => stable.erase hl listed

theorem All.withClasses {l : Label} (h : P l) (classes : List String) : P (withClasses l classes) := by
  unfold Document.withClasses
  split_ifs
  · exact stable.erase h (by simp [touched, written])
  · exact stable.set h (by simp [touched, written]) _

theorem All.addClass (h : d.All P) (e : Element) (name : String) : (d.addClass e name).All P := by
  refine h.modifyLabel e fun l hl => ?_
  unfold labelWithClass
  split_ifs
  · exact hl
  · exact All.withClasses stable hl _

theorem All.removeClass (h : d.All P) (e : Element) (name : String) :
    (d.removeClass e name).All P := by
  refine h.modifyLabel e fun l hl => ?_
  unfold labelWithoutClass
  split_ifs
  · exact All.withClasses stable hl _
  · exact hl

theorem All.setValue (h : d.All P) (e : Element) (v : String) : (d.setValue e v).All P := by
  unfold Document.setValue
  cases found : d.node? e with
  | none => exact h
  | some n =>
    dsimp only
    split
    · exact h.setText e v
    · refine h.fill e n.text ?_
      have chosen : ∀ l t c, P l → P (chooseOption v l t c) := by
        intro l t c hl
        unfold chooseOption
        split_ifs
        · exact stable.set hl (by simp [touched, written]) _
        · exact stable.erase hl (by simp [touched, written])
        · exact hl
      have step := Forest.forall₂_mapLabels (R := fun l l' => P l → P l') chosen n.children
      intro l' hl'
      obtain ⟨i, hi, rfl⟩ := List.mem_iff_getElem.1 hl'
      have kept := (List.forall₂_iff_get.1 step).2 i (step.length_eq ▸ hi) hi
      exact kept (h.children found _ (List.getElem_mem _))
    · exact h.setAttribute stable (by simp [touched, written]) e v

omit stable in
theorem All.breaksIn {tag : Tag} (h : ∀ space, tag.space = .ok space → ∀ id, P ⟨id, .element (space ++ "br"), []⟩)
    {fresh : Nat} {lines : List String} {f : Forest} (made : breaksIn tag fresh lines = .ok f) :
    ∀ l ∈ f.labels, P l := by
  rcases breaksIn_eq_ok made with ⟨-, rfl⟩ | ⟨space, spaced, rfl⟩
  · exact fun l none => (List.not_mem_nil none).elim
  · have each (lines : List String) (fresh : Nat) :
        ∀ l ∈ (breaks (.element (space ++ "br")) fresh lines).labels, P l := by
      induction lines generalizing fresh with
      | nil => exact fun l none => (List.not_mem_nil none).elim
      | cons line lines ih => exact List.forall_mem_cons.2 ⟨h space spaced fresh, ih (fresh + 1)⟩
    exact each _ _

theorem All.withFirstLine (h : d.All P) (e : Element) (lines : List String) :
    (d.withFirstLine e lines).All P :=
  (h.setText e _).modifyLabel e fun _ hl => stable.holding hl lines

theorem All.setLines (h : d.All P) (e : Element) (lines : List String) :
    ((Document.setLines e lines).run.run d).2.All P := by
  have first := h.withFirstLine stable e lines
  rw [setLines_run]
  split
  · exact first
  · rename_i breaks made
    cases label : (d.withFirstLine e lines).label? e with
    | none =>
      -- an element that is not there is given no line breaks
      have absent : (d.withFirstLine e lines).node? e = none := Option.map_eq_none_iff.1 label
      show ((d.withFirstLine e lines).mapForests (Forest.fill e _ breaks)).All P
      rw [fill_of_absent absent]
      exact first
    | some l =>
      rw [tagOf, label, Option.map_some, Option.getD_some] at made
      exact first.fill e _ (All.breaksIn (fun _ => stable.lineBreak (first.label? label)) made)

theorem All.insertFeedback (h : d.All P) {e : Element} {tag : String} {classes lines : List String}
    (fits : Call.Fits P (.insertFeedback e tag classes lines)) :
    ((Document.insertFeedback e tag classes lines).run.run d).2.All P := by
  rw [insertFeedback_run]
  cases spaced : d.space (d.container e) with
  | error f => exact h
  | ok space =>
    dsimp only
    split
    · exact h
    · rename_i breaks made
      split
      · exact h
      · rename_i siblings after
        obtain ⟨p, parent, -, -⟩ := mem_tree_of_siblingsAfter after
        obtain ⟨l, label⟩ := label?_of_parent? parent
        rw [container, parent, Option.getD_some, Document.space, label] at spaced
        have new := fits (h.label? label) spaced
        refine h.withBehind e (List.forall_mem_cons.2 ⟨new _, ?_⟩)
        exact All.breaksIn (fun _ spaced id => stable.lineBreak (new 0) spaced id) made

theorem All.perform (h : d.All P) {c : Call} (fits : c.Fits P) : (c.perform d).2.All P := by
  cases c with
  | setValue e v => exact h.setValue stable e v
  | addClass e name => exact h.addClass stable e name
  | removeClass e name => exact h.removeClass stable e name
  | insertFeedback e tag classes lines => exact h.insertFeedback stable fits
  | setLines e lines => exact h.setLines stable e lines
  | remove e => exact h.remove e
  | setDisabled e disabled => exact h.setFlag stable (by simp [touched, written]) e disabled
  | _ => exact h

theorem All.fillNamed (h : d.All P) (name v : String) (scope : Option Element) :
    (d.fillNamed name v scope).2.All P :=
  List.foldlRecOn _ _ h fun _ all e _ => all.setValue stable e v

end Stable

end Document

end FormGate
