import FormGate.Proofs.Document.Value
import FormGate.Proofs.Pass.Feedback
import FormGate.Proofs.Pass.Field

/-!
# The turn of a field

When a field's turn is over, the page is the one before except for the field itself and the run of
feedback directly behind it, and it is as ready for the turns of other fields as it was before.
-/

namespace FormGate

open Markup Document Pass

namespace Setup

/-- A page before and after the turn of a field: where the field stands, what its element and the
feedback behind it were and are, and what was taken out. In between, `filled` is the field's label
once its value was written back. -/
structure Turn (s : Setup) (o : Outcome) (d d' : Document) where
  place : Place
  label : Label
  filled : Label
  text : String
  text' : String
  below : Forest
  below' : Forest
  tail : String
  tail' : String
  run : Forest
  run' : Forest
  rest : Forest
  gone : Forest
  fresh : Nat
  before : d = place.put (.cons label text below tail (run.append rest))
  after : d' = ((place.taking gone).numbering fresh).put
    (.cons (s.mark o filled) text' below' tail' (run'.append rest))
  refilled : Refilled label text below o.replaced filled text' below'
  renewed : s.Renewed o d.fresh tail run tail' run'
  field : s.isField label = true
  shown : ∀ n ∈ run.tops, s.isFeedback n.label = true
  ends : rest.tops.takeWhile (fun n => s.isFeedback n.label) = []

variable {s : Setup}

/-- A pass finds an element that it asks the feedback of below its container. -/
theorem parent?_of_applyFeedback {e : Element} {o : Outcome} {d d' : Document} {u : Unit}
    (h : (s.applyFeedback e o).Yields d u d') : ∃ p, d.parent? e = some p := by
  obtain ⟨es, d₁, found, -⟩ := yields_applyFeedback h
  cases after : d.siblingsAfter e with
  | error f =>
    rw [feedback, after] at found
    cases found
  | ok f =>
    obtain ⟨p, parent, -⟩ := mem_tree_of_siblingsAfter after
    exact ⟨p, parent⟩

/-- What was written back to the first element in a place. -/
theorem exists_refilled {P : Place} {l : Label} {t : String} {c : Forest} {tail : String}
    {next : Forest} {o : Outcome} {d : Document} (h : (P.put (.cons l t c tail next)).WellFormed)
    (bare : l.tag.localName = "textarea" → c = .nil)
    (wrote : Wrote l.id o (P.put (.cons l t c tail next)) d) :
    ∃ l' t' c', Refilled l t c o.replaced l' t' c' ∧ d = P.put (.cons l' t' c' tail next) := by
  unfold Wrote at wrote
  split at wrote
  · rename_i none
    rw [none]
    exact ⟨l, t, c, .kept, wrote⟩
  · rename_i v some
    rw [some]
    obtain ⟨l', t', c', refilled, written⟩ := Place.setValue_head h bare v
    exact ⟨l', t', c', refilled, wrote.trans written⟩

/-- Whatever a pass makes of a field of a page that is ready, it is a turn of that field. -/
theorem exists_turn (distinct : s.Distinct) {d d' : Document} (ready : s.Ready d) {l : Label}
    (hl : l ∈ d.labels) (field : s.isField l = true) {scope : Option Element}
    {r : Descriptor × Outcome} (h : (s.validateField l.id scope).Yields d r d') :
    r.1.element = l.id ∧ ∃ T : s.Turn r.2 d d', T.label = l := by
  unfold validateField at h
  obtain ⟨r, d₁, validated, h⟩ := yields_bind.1 h
  obtain ⟨u, d₂, applied, done⟩ := yields_bind.1 h
  obtain ⟨rfl, rfl⟩ := yields_pure.1 done
  obtain ⟨element, wrote⟩ := s.validate_wrote validated
  refine ⟨element, ?_⟩
  -- feedback is only found below a parent, and writing the value back did not give the field one
  obtain ⟨p, parent₁⟩ := parent?_of_applyFeedback applied
  have parent : d.parent? l.id = some p := by
    unfold Wrote at wrote
    split at wrote
    · rwa [wrote] at parent₁
    · rw [wrote] at parent₁
      exact parent?_of_setValue ready.wellFormed parent₁
  obtain ⟨P, l₀, t, c, tail, next, rfl, id⟩ := Place.exists_put ready.wellFormed parent
  have sound : ∀ n ∈ (Forest.cons l₀ t c tail next).nodes, s.Sound n :=
    fun n hn => ready.sound n (Frame.nodes_subset_plug P.whole _ hn)
  have member : l₀ ∈ (P.put (.cons l₀ t c tail next)).labels :=
    List.mem_append_left _ (Frame.labels_subset_plug P.whole _ List.mem_cons_self)
  obtain rfl := ready.wellFormed.unique member hl id
  have head := sound ⟨l₀, t, c, tail⟩ List.mem_cons_self
  obtain ⟨l', t', c', refilled, rfl⟩ := exists_refilled ready.wellFormed (head.textarea field) wrote
  have plain : ∀ n ∈ next.tops, s.isFeedback n.label = true → s.isField n.label = false := by
    intro n hn shown
    have inside := List.mem_append_right c.nodes (Forest.mem_nodes_of_mem_tops hn)
    exact (sound n (List.mem_cons_of_mem _ inside)).feedback shown n.label List.mem_cons_self
  rw [← refilled.kin.id] at applied
  obtain ⟨run, rest, rfl, shown, ends, tail', run', gone, fresh, renewed, rfl⟩ :=
    applyFeedback_refreshed distinct (validated.descends ready.wellFormed).1 plain applied
  exact ⟨⟨P, l₀, l', t, t', c, c', tail, tail', run, run', rest, gone, fresh, rfl, rfl, refilled,
    renewed, field, shown, ends⟩, rfl⟩

/-! ## The label of the field -/

theorem kin_mark (o : Outcome) (l : Label) : l.Kin (s.mark o l) := by
  unfold mark
  split_ifs
  · exact kin_labelWithoutClass _ l
  · exact kin_labelWithClass _ l

theorem contains_classesOf_mark (distinct : s.Distinct) (o : Outcome) (l : Label) :
    (classesOf (s.mark o l)).contains s.config.presentation.invalidClass = !o.valid :=
  contains_invalid_mark distinct.invalid o l

theorem isFeedback_mark (distinct : s.Distinct) (o : Outcome) (l : Label) :
    s.isFeedback (s.mark o l) = s.isFeedback l :=
  isFeedback_mark_of_ne distinct.invalid distinct.classes o l

/-! ## The parts of a turn -/

namespace Turn

variable {o : Outcome} {d d' : Document} (T : s.Turn o d d')

/-- The page from the field on, up to the end of its container. -/
def part : Forest :=
  .cons T.label T.text T.below T.tail (T.run.append T.rest)

/-- The page from the field on after its turn. -/
def part' : Forest :=
  .cons (s.mark o T.filled) T.text' T.below' T.tail' (T.run'.append T.rest)

theorem tree : d.tree = T.place.whole.plug T.part :=
  congrArg Document.tree T.before

theorem tree' : d'.tree = T.place.whole.plug T.part' :=
  congrArg Document.tree T.after

theorem kin : T.label.Kin (s.mark o T.filled) :=
  T.refilled.kin.trans (kin_mark o T.filled)

theorem field' (distinct : s.Distinct) : s.isField (s.mark o T.filled) = true := by
  rw [isField_of_kin distinct T.kin, T.field]

theorem tag' : (s.mark o T.filled).tag = T.label.tag := by
  rw [tag_mark, T.refilled.tag]

theorem isFeedback_filled : s.isFeedback T.filled = s.isFeedback T.label := by
  unfold isFeedback
  rw [T.refilled.classes]

theorem mem_labels_of_part {l : Label} (h : l ∈ T.part.labels) : l ∈ d.labels :=
  List.mem_append_left _ (T.tree ▸ Frame.labels_subset_plug T.place.whole T.part h)

section Ready

variable (ready : s.Ready d)
include ready

theorem sound_part : ∀ n ∈ T.part.nodes, s.Sound n := fun n hn =>
  ready.sound n (T.tree ▸ Frame.nodes_subset_plug T.place.whole T.part hn)

theorem sound_field : s.Sound ⟨T.label, T.text, T.below, T.tail⟩ :=
  T.sound_part ready _ List.mem_cons_self

theorem not_feedback : s.isFeedback T.label = false := by
  cases shown : s.isFeedback T.label with
  | false => rfl
  | true =>
    have plain := (T.sound_field ready).feedback shown T.label List.mem_cons_self
    rw [T.field] at plain
    cases plain

theorem plain_run : ∀ l ∈ T.run.labels, s.isField l = false := by
  intro l hl
  obtain ⟨n, hn, inside⟩ := Forest.exists_top hl
  refine (T.sound_part ready n ?_).feedback (T.shown n hn) l inside
  have := Forest.mem_nodes_of_mem_tops hn
  simp [part, Forest.nodes, this]

/-- What a field holds is as it was, unless it is a selection, which holds no field. -/
theorem below_cases (distinct : s.Distinct) : T.below' = T.below ∨
    (∀ l ∈ T.below.labels, s.isField l = false) ∧ ∀ l ∈ T.below'.labels, s.isField l = false := by
  refine T.refilled.below_eq_or_select.imp id fun select => ?_
  have plain := (T.sound_field ready).select T.field select
  refine ⟨plain, fun l' hl' => ?_⟩
  obtain ⟨l, hl, kin⟩ := Label.Kin.exists_old_of_mem T.refilled.below hl'
  rw [isField_of_kin distinct kin, plain l hl]

theorem sound_part' (distinct : s.Distinct) : ∀ n ∈ T.part'.nodes, s.Sound n := by
  intro n hn
  rw [part', Forest.nodes, List.mem_cons, List.mem_append, Forest.nodes_append,
    List.mem_append] at hn
  have old := T.sound_part ready
  have cases_below := T.below_cases ready distinct
  rcases hn with rfl | below | run | rest
  · constructor
    · intro shown
      rw [isFeedback_mark distinct, T.isFeedback_filled, T.not_feedback ready] at shown
      cases shown
    · intro _ textarea
      rw [T.tag'] at textarea
      exact T.refilled.below_nil ((T.sound_field ready).textarea T.field textarea)
    · intro _ select
      rw [T.tag'] at select
      rcases cases_below with same | ⟨-, plain⟩
      · show ∀ l ∈ T.below'.labels, _
        rw [same]
        exact (T.sound_field ready).select T.field select
      · exact plain
  · rcases cases_below with same | ⟨-, plain⟩
    · rw [same] at below
      exact old n (by simp [part, Forest.nodes, below])
    · exact .of_plain fun l hl => plain l (Forest.labels_subset_of_mem_nodes below hl)
  · exact .of_plain fun l hl => T.renewed.plain l (Forest.labels_subset_of_mem_nodes run hl)
  · exact old n (by simp [part, Forest.nodes, rest])

theorem ready' (T : s.Turn o d d') (distinct : s.Distinct) (wf : d'.WellFormed) : s.Ready d' where
  wellFormed := wf
  sound := by
    have old := ready.sound
    rw [T.tree] at old
    rw [T.tree']
    refine Frame.forall_nodes_plug (fun l t k tail h => ?_) old fun _ => T.sound_part' ready distinct
    exact h.around (Frame.labels_subset_plug k T.part List.mem_cons_self) T.field _

end Ready

end Turn

end Setup

end FormGate
