import FormGate.Proofs.Document.Outline
import FormGate.Proofs.Pass.Turn

/-!
# What a turn shows and what it leaves

After its turn the page shows the outcome of a field. What it shows of any other field, which fields a
scope has, and the outline of the page are as they were before.
-/

namespace FormGate

open Markup Document

namespace Setup

variable {s : Setup}

/-- A mask leaves out what a turn of a field with this outcome may change. -/
structure Fits (s : Setup) (m : Mask) (e : Element) (o : Outcome) : Prop where
  invalid : m.invalidClass = s.config.presentation.invalidClass
  feedback : m.feedbackClass = s.config.presentation.feedbackClass
  field : m.fields.contains e = true
  written : o.replaced ≠ none → m.written.contains e = true

/-! ## Notes -/

/-- The notes in a forest that starts with a run of feedback are those of the run. -/
theorem notes_append {run rest : Forest} (shown : ∀ n ∈ run.tops, s.isFeedback n.label = true)
    (plain : ∀ l ∈ run.labels, s.isField l = false)
    (ends : rest.tops.takeWhile (fun n => s.isFeedback n.label) = []) :
    s.notes (run.append rest) = run.tops.map (·.lines) := by
  have all : ∀ n ∈ run.tops, (s.isFeedback n.label && !n.labels.any s.isField) = true := by
    intro n hn
    have none : n.labels.any s.isField = false := by
      have inside := Forest.labels_subset_of_mem_nodes (Forest.mem_nodes_of_mem_tops hn)
      simpa using fun l hl => plain l (inside hl)
    rw [shown n hn, none]
    rfl
  have last : rest.tops.takeWhile (fun n => s.isFeedback n.label && !n.labels.any s.isField) = [] := by
    cases tops : rest.tops with
    | nil => rfl
    | cons n ns =>
      rw [tops, List.takeWhile_cons] at ends
      split_ifs at ends with shown
      exact List.takeWhile_cons_of_neg (by simp [shown])
  rw [notes, Forest.tops_append, List.takeWhile_append_of_pos all, last, List.append_nil]

/-- A field in a forest keeps what it stands in from being notes. -/
theorem notes_plug {f f' : Forest} (here : s.notes f' = s.notes f)
    (field : ∃ l ∈ f.labels, s.isField l = true) (field' : ∃ l ∈ f'.labels, s.isField l = true)
    (K : Frame) : s.notes (K.plug f') = s.notes (K.plug f) := by
  induction K with
  | here => exact here
  | inside l t inner tail next _ =>
    -- an element around a field ends the run of notes, whatever its classes are
    have blocked {f : Forest} (field : ∃ l ∈ f.labels, s.isField l = true) :
        s.notes (.cons l t (inner.plug f) tail next) = [] := by
      obtain ⟨l', inside, is⟩ := field
      have any : (Node.labels ⟨l, t, inner.plug f, tail⟩).any s.isField = true :=
        List.any_eq_true.2 ⟨l', List.mem_cons_of_mem _ (inner.labels_subset_plug f inside), is⟩
      rw [notes, Forest.tops, List.takeWhile_cons_of_neg (by simp [any])]
      rfl
    rw [Frame.plug, Frame.plug, blocked field, blocked field']
  | behind l t c tail inner ih =>
    unfold notes at ih ⊢
    rw [Frame.plug, Frame.plug, Forest.tops, Forest.tops, List.takeWhile_cons, List.takeWhile_cons]
    split_ifs
    · rw [List.map_cons, List.map_cons, ih]
    · rfl

namespace Turn

variable {o : Outcome} {d d' : Document} (T : s.Turn o d d')

/-! ## The field itself -/

/-- After its turn the page shows the outcome of a field. -/
theorem shows (distinct : s.Distinct) (ready : s.Ready d) (wf : d'.WellFormed) :
    s.Shows d' T.label.id o := by
  have ready' := T.ready' ready distinct wf
  have id : (s.mark o T.filled).id = T.label.id := T.kin.id
  have after := T.after
  have put := wf
  rw [after] at put
  rw [← id]
  constructor
  · have node : d'.node? (s.mark o T.filled).id =
        some ⟨s.mark o T.filled, T.text', T.below', T.tail'⟩ :=
      (congrArg (fun d => d.node? (s.mark o T.filled).id) after).trans (Place.node?_head put)
    rw [hasClass, Document.label?, node]
    exact contains_classesOf_mark distinct o T.filled
  · have siblings : d'.siblingsAfter (s.mark o T.filled).id = .ok (T.run'.append T.rest) :=
      (congrArg (fun d => d.siblingsAfter (s.mark o T.filled).id) after).trans
        (Place.siblingsAfter_head put)
    obtain ⟨fs, found, lines⟩ := ready'.feedback_lines siblings
    refine ⟨fs, found, ?_⟩
    rw [lines, notes_append T.renewed.feedback T.renewed.plain T.ends, T.renewed.lines]

/-! ## Other elements -/

/-- An element of neither the field, nor the feedback behind it, nor its options. -/
structure Apart (x : Element) : Prop where
  label : T.label.id ≠ x
  run : x ∉ T.run.ids
  run' : x ∉ T.run'.ids
  below : T.below' = T.below ∨ x ∉ T.below.ids

theorem apart_of_field (distinct : s.Distinct) (ready : s.Ready d) {l : Label} (hl : l ∈ d.labels)
    (field : s.isField l = true) (other : T.label.id ≠ l.id) : T.Apart l.id := by
  have unmarked {f : Forest} (inside : f.labels ⊆ T.part.labels)
      (plain : ∀ l ∈ f.labels, s.isField l = false) : l.id ∉ f.ids := by
    intro member
    obtain ⟨l', hl', id⟩ := List.mem_map.1 member
    obtain rfl := ready.wellFormed.unique (T.mem_labels_of_part (inside hl')) hl id
    rw [plain l' hl'] at field
    cases field
  have run : l.id ∉ T.run.ids := by
    refine unmarked (fun a ha => ?_) (T.plain_run ready)
    simp [part, Forest.labels, ha]
  constructor
  · exact other
  · exact run
  · intro member
    rcases T.renewed.ids l.id member with old | new
    · exact run old
    · have := ready.wellFormed.fresh l hl
      omega
  · refine (T.below_cases ready distinct).imp id fun plain => ?_
    refine unmarked (fun a ha => ?_) plain.1
    simp [part, Forest.labels, ha]

section Apart

variable {T} {x : Element} (apart : T.Apart x)
include apart

theorem Apart.find?_part : T.part'.find? x = T.part.find? x := by
  refine Forest.find?_run T.kin.id apart.label apart.run apart.run' ?_
  rcases apart.below with same | absent
  · rw [same]
  · rw [Forest.find?_of_not_mem absent, Forest.find?_of_not_mem (T.refilled.ids ▸ absent)]

theorem Apart.following?_part : T.part'.following? x = T.part.following? x := by
  refine Forest.following?_run T.kin.id apart.label apart.run apart.run' ?_
  rcases apart.below with same | absent
  · rw [same]
  · rw [Forest.following?_of_not_mem absent,
      Forest.following?_of_not_mem (T.refilled.ids ▸ absent)]

theorem Apart.parent?_part (owner : Nat) : T.part'.parent? x owner = T.part.parent? x owner := by
  refine Forest.parent?_run T.kin.id apart.label apart.run apart.run' (fun owner => ?_) owner
  rcases apart.below with same | absent
  · rw [same]
  · rw [Forest.parent?_of_not_mem absent, Forest.parent?_of_not_mem (T.refilled.ids ▸ absent)]

theorem Apart.label?_eq (tree : x ∈ d.tree.ids) : d'.label? x = d.label? x := by
  have here : (T.part'.find? x).map Node.label = (T.part.find? x).map Node.label := by
    rw [apart.find?_part]
  have same : (d'.tree.find? x).map Node.label = (d.tree.find? x).map Node.label := by
    rw [T.tree, T.tree']
    refine Frame.map_find?_plug (fun _ _ _ _ => ?_) here _
    rfl
  obtain ⟨n, found⟩ := Option.isSome_iff_exists.1 (Forest.find?_isSome.2 tree)
  rw [found] at same
  obtain ⟨n', found', label⟩ := Option.map_eq_some_iff.1 same
  rw [Document.label?, Document.label?, node?, node?, found, found']
  exact congrArg some label

theorem Apart.parent?_eq : d'.parent? x = d.parent? x := by
  unfold Document.parent?
  rw [T.tree, T.tree']
  exact Frame.parent?_plug_congr apart.parent?_part T.place.frame T.place.root.id

theorem Apart.notes (distinct : s.Distinct) (ready : s.Ready d) {f : Forest}
    (after : d.siblingsAfter x = .ok f) :
    ∃ f', d'.siblingsAfter x = .ok f' ∧ s.notes f' = s.notes f := by
  obtain ⟨p, parent, following, -⟩ := mem_tree_of_siblingsAfter after
  have plain : s.isFeedback T.label = false := T.not_feedback ready
  have plain' : s.isFeedback (s.mark o T.filled) = false := by
    rw [isFeedback_mark distinct, T.isFeedback_filled, plain]
  have none : s.notes T.part' = s.notes T.part := by
    unfold Setup.notes part part'
    rw [Forest.tops, Forest.tops, List.takeWhile_cons_of_neg (by simp [plain']),
      List.takeWhile_cons_of_neg (by simp [plain])]
  have same : (d'.tree.following? x).map s.notes = (d.tree.following? x).map s.notes := by
    rw [T.tree, T.tree']
    refine Frame.map_following?_plug (fun k => ?_) (by rw [apart.following?_part]) _
    exact notes_plug none ⟨_, List.mem_cons_self, T.field⟩
      ⟨_, List.mem_cons_self, T.field' distinct⟩ k
  rw [following] at same
  obtain ⟨f', following', notes⟩ := Option.map_eq_some_iff.1 same
  refine ⟨f', ?_, notes⟩
  rw [siblingsAfter, apart.parent?_eq, parent, following']
  rfl

theorem Apart.shows (distinct : s.Distinct) (ready : s.Ready d) (ready' : s.Ready d')
    {o' : Outcome} (shown : s.Shows d x o') : s.Shows d' x o' := by
  obtain ⟨marked, fs, found, lines⟩ := shown
  cases after : d.siblingsAfter x with
  | error e =>
    rw [feedback, after] at found
    cases found
  | ok f =>
    obtain ⟨p, parent, -, tree⟩ := mem_tree_of_siblingsAfter after
    obtain ⟨fs₁, found₁, lines₁⟩ := ready.feedback_lines after
    obtain rfl := Except.ok.inj (found.symm.trans found₁)
    obtain ⟨f', after', notes⟩ := apart.notes distinct ready after
    obtain ⟨fs', found', lines'⟩ := ready'.feedback_lines after'
    constructor
    · rw [hasClass, apart.label?_eq tree]
      exact marked
    · exact ⟨fs', found', by rw [lines', notes, ← lines₁, lines]⟩

end Apart

/-! ## Fields of a scope -/

section Scope

variable (distinct : s.Distinct) (ready : s.Ready d)
include distinct ready

theorem fieldsOf_below : s.fieldsOf T.below'.labels = s.fieldsOf T.below.labels := by
  rcases T.below_cases ready distinct with same | ⟨plain, plain'⟩
  · rw [same]
  · rw [fieldsOf_plain plain, fieldsOf_plain plain']

theorem fieldsOf_part : s.fieldsOf T.part'.labels = s.fieldsOf T.part.labels := by
  unfold part part'
  rw [Forest.labels, Forest.labels, fieldsOf_field T.field, fieldsOf_field (T.field' distinct),
    T.kin.id]
  simp only [Forest.labels_append, fieldsOf_append]
  rw [T.fieldsOf_below distinct ready, fieldsOf_plain (T.plain_run ready),
    fieldsOf_plain T.renewed.plain]

omit distinct in
theorem exists_scope {scope : Element}
    (inside : T.label.id ∈ d.carriers scope s.config.attributes.rules) :
    ∃ n, d.tree.find? scope = some n ∧ T.label ∈ n.labels := by
  have tree : T.label ∈ d.tree.labels :=
    T.tree ▸ Frame.labels_subset_plug T.place.whole T.part List.mem_cons_self
  obtain ⟨n, found, l, hl, -, id⟩ := mem_select inside
  have same : l = T.label :=
    ready.wellFormed.unique ((labels_of_node? found).subset hl) (List.mem_append_left _ tree) id
  rw [same] at hl
  refine ⟨n, ?_, hl⟩
  rcases Option.or_eq_some_iff.1 found with found | ⟨-, found⟩
  · exact found
  · have loose := Forest.id_mem_ids ((Forest.labels_of_find? found).subset hl)
    exact absurd loose (ready.wellFormed.apart (Forest.id_mem_ids tree))

omit distinct in
/-- A scope around a field is the field itself, or does not stand in anything from the field on. -/
theorem scope_cases {scope : Element} {n : Node} (found : d.tree.find? scope = some n)
    (inside : T.label ∈ n.labels) : T.label.id = scope ∨ scope ∉ T.part.ids := by
  by_contra neither
  rw [not_or, Classical.not_not] at neither
  obtain ⟨other, member⟩ := neither
  have nodup := ready.wellFormed.nodup_tree
  rw [T.tree, (T.place.whole.perm_ids_plug T.part).nodup_iff, List.nodup_append] at nodup
  obtain ⟨-, nodup, apart⟩ := nodup
  have around : scope ∉ T.place.whole.ids := fun frame => apart scope frame scope member rfl
  rw [T.tree, Frame.find?_plug around] at found
  obtain ⟨below, after, -⟩ := Forest.nodup_cons nodup
  rcases Forest.find?_there nodup other found with ⟨found, -⟩ | ⟨found, -⟩
  · exact below (Forest.id_mem_ids ((Forest.labels_of_find? found).subset inside))
  · exact after (Forest.id_mem_ids ((Forest.labels_of_find? found).subset inside))

omit distinct ready in
/-- A number that was in use is from the field on after a turn only if it was before. -/
theorem not_mem_part' {x : Element} (old : x < d.fresh) (absent : x ∉ T.part.ids) :
    x ∉ T.part'.ids := by
  obtain ⟨here, below, after⟩ := Forest.not_mem_cons absent
  rw [Forest.ids_append, List.mem_append, not_or] at after
  rw [part', Forest.ids_cons, T.kin.id, T.refilled.ids, Forest.ids_append]
  simp only [List.mem_cons, List.mem_append]
  rintro (rfl | member | member | member)
  · exact here rfl
  · exact below member
  · rcases T.renewed.ids x member with member | new
    · exact after.1 member
    · exact Nat.not_lt.2 new old
  · exact after.2 member

theorem fieldsOf_scope {scope : Element} {n : Node} (found : d.tree.find? scope = some n)
    (inside : T.label ∈ n.labels) : (T.part'.find? scope).map (fun n => s.fieldsOf n.labels) =
      (T.part.find? scope).map fun n => s.fieldsOf n.labels := by
  rcases T.scope_cases ready found inside with this | absent
  · rw [part, part', Forest.find?_here this, Forest.find?_here (T.kin.id.trans this)]
    show some (s.fieldsOf (_ :: _)) = some (s.fieldsOf (_ :: _))
    rw [fieldsOf_field T.field, fieldsOf_field (T.field' distinct), T.kin.id,
      T.fieldsOf_below distinct ready]
  · have first := (Forest.labels_of_find? found).subset List.mem_cons_self
    have old := ready.wellFormed.fresh n.label (List.mem_append_left _ first)
    rw [Forest.find?_id found] at old
    rw [Forest.find?_of_not_mem absent, Forest.find?_of_not_mem (T.not_mem_part' old absent)]

/-- The fields of a scope around a field are the same ones after its turn. -/
theorem carriers_eq {scope : Element}
    (inside : T.label.id ∈ d.carriers scope s.config.attributes.rules) :
    d'.carriers scope s.config.attributes.rules = d.carriers scope s.config.attributes.rules := by
  obtain ⟨n, found, hl⟩ := T.exists_scope ready inside
  have same : (d'.tree.find? scope).map (fun n => s.fieldsOf n.labels) =
      (d.tree.find? scope).map fun n => s.fieldsOf n.labels := by
    have here := T.fieldsOf_scope distinct ready found hl
    rw [T.tree, T.tree']
    refine Frame.map_find?_plug (fun l t k tail => ?_) here _
    exact fieldsOf_cons l (Frame.map_filter_labels_plug (T.fieldsOf_part distinct ready) k)
  rw [found] at same
  obtain ⟨n', found', fields⟩ := Option.map_eq_some_iff.1 same
  have node : d.node? scope = some n := by
    rw [node?, found]
    rfl
  have node' : d'.node? scope = some n' := by
    rw [node?, found']
    rfl
  rw [carriers_of_node node, carriers_of_node node', fields]

end Scope

/-! ## The outline -/

theorem label_mark (distinct : s.Distinct) {m : Mask} {l : Label} (fits : s.Fits m l.id o)
    (options : Bool) : m.label options (s.mark o l) = m.label options l := by
  unfold mark
  rw [← fits.invalid]
  split_ifs
  · exact Mask.label_labelWithoutClass fits.field options
  · exact Mask.label_labelWithClass fits.field (fits.invalid ▸ distinct.invalid) options

theorem page_eq (T : s.Turn o d d') (distinct : s.Distinct) (ready : s.Ready d) {m : Mask}
    (fits : s.Fits m T.label.id o) : m.page d' = m.page d := by
  have feedback (l : Label) : m.isFeedback l = s.isFeedback l := by
    rw [Mask.isFeedback, fits.feedback]
    rfl
  have plain : m.isFeedback T.label = false := by
    rw [feedback, T.not_feedback ready]
  have plain' : m.isFeedback (s.mark o T.filled) = false := by
    rw [feedback, isFeedback_mark distinct, T.isFeedback_filled, T.not_feedback ready]
  have shown : ∀ n ∈ T.run.tops, m.isFeedback n.label = true := fun n hn => by
    rw [feedback, T.shown n hn]
  have shown' : ∀ n ∈ T.run'.tops, m.isFeedback n.label = true := fun n hn => by
    rw [feedback, T.renewed.feedback n hn]
  have fits' : s.Fits m T.filled.id o := T.refilled.kin.id ▸ fits
  have field' : m.fields.contains (s.mark o T.filled).id = true := T.kin.id ▸ fits.field
  have written (name : String) : m.isWritten name (s.mark o T.filled) = m.isWritten name T.label := by
    rw [Mask.isWritten, T.kin.id, T.tag', Mask.isWritten]
  have part (options behind : Bool) :
      m.outline options behind T.part' = m.outline options behind T.part := by
    rw [Turn.part, Turn.part', Mask.outline_field plain fits.field shown,
      Mask.outline_field plain' field' shown', label_mark distinct fits',
      Mask.label_refilled T.refilled fits.written, written, written,
      Mask.text_refilled T.refilled fits.written, Mask.outline_refilled T.refilled fits.written,
      T.renewed.tails]
  rw [Mask.page, Mask.page, T.tree, T.tree', Mask.outline_plug part]

end Turn

end Setup

end FormGate
