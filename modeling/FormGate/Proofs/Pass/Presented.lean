import FormGate.Proofs.Config.Accepted
import FormGate.Proofs.Document.Root
import FormGate.Proofs.Pass.Returns

/-!
# What showing an outcome does to a page

Bringing what a page shows of an element in line with an outcome is one step of a pass. It changes the
mark of the element and the run of feedback behind it, whatever feedback was there before and wherever
it came from, and nothing else: the text behind feedback that is taken out stays where it is, and every
other element keeps what it has, its own feedback included (`Setup.feedback_applied`).
-/

namespace FormGate

open Markup Document Pass

/-! ## What is seen of a forest from outside -/

namespace Markup

/-- The numbers of the elements directly below an element. -/
def Node.childIds (n : Node) : List Nat :=
  n.children.topIds

/-- What an element has of its own: its label, its text, and the text that follows it. -/
def Node.own (n : Node) : Label × String × String :=
  (n.label, n.text, n.tail)

namespace Frame

/-- Only the owner of an open place has other elements directly below it when another forest is
plugged in there. -/
theorem topIds_plug {K : Frame} {o : Nat} (deeper : K.owner o ≠ o) (f f' : Forest) :
    (K.plug f').topIds = (K.plug f).topIds := by
  induction K with
  | here => exact absurd rfl deeper
  | inside l t inner tail next _ => rfl
  | behind l t c tail inner ih => exact congrArg (l.id :: ·) (ih deeper)

theorem map_childIds_plug {K : Frame} {o x : Nat} {f f' : Forest} (other : x ≠ K.owner o)
    (same : f'.find? x = f.find? x) :
    ((K.plug f').find? x).map Node.childIds = ((K.plug f).find? x).map Node.childIds := by
  induction K generalizing o with
  | here => rw [plug, plug, same]
  | inside l t inner tail next ih =>
    rw [plug, plug, Forest.find?, Forest.find?]
    by_cases this : l.id = x
    · rw [if_pos this, if_pos this]
      have deeper : inner.owner l.id ≠ l.id := fun same => other (this.symm.trans same.symm)
      exact congrArg some (topIds_plug deeper f f')
    · rw [if_neg this, if_neg this, Option.map_or, Option.map_or, ih other]
  | behind l t c tail inner ih =>
    rw [plug, plug, Forest.find?, Forest.find?]
    by_cases this : l.id = x
    · rw [if_pos this, if_pos this]
    · rw [if_neg this, if_neg this, Option.map_or, Option.map_or, ih other]

end Frame

end Markup

namespace Setup

variable {s : Setup}

/-- The run in front of an open place ends there if no feedback stands in it. -/
theorem runIds_plug {f f' : Forest} (same : s.runIds f' = s.runIds f) (K : Frame) :
    s.runIds (K.plug f') = s.runIds (K.plug f) := by
  induction K with
  | here => exact same
  | inside l t inner tail next _ =>
    unfold runIds
    rw [Frame.plug, Frame.plug, Forest.tops, Forest.tops, List.takeWhile_cons, List.takeWhile_cons]
    split_ifs <;> rfl
  | behind l t c tail inner ih =>
    unfold runIds at ih ⊢
    rw [Frame.plug, Frame.plug, Forest.tops, Forest.tops, List.takeWhile_cons, List.takeWhile_cons]
    split_ifs
    · rw [List.map_cons, List.map_cons, ih]
    · rfl

/-! ## The step -/

/-- A page before and after an outcome was shown behind an element: where the element stands, the run
of feedback behind it before and after, and what was taken out. -/
structure Applied (s : Setup) (o : Outcome) (d d' : Document) where
  place : Place
  label : Label
  text : String
  below : Forest
  tail : String
  run : Forest
  run' : Forest
  rest : Forest
  gone : Forest
  fresh : Nat
  before : d = place.put (.cons label text below tail (run.append rest))
  after : d' = ((place.taking gone).numbering fresh).put
    (.cons (s.mark o label) text below (tailAfter o tail run) (run'.append rest))
  rewritten : s.Rewritten o d.fresh run run'
  shown : ∀ n ∈ run.tops, s.isFeedback n.label = true
  ends : rest.tops.takeWhile (fun n => s.isFeedback n.label) = []

/-- Whatever shows an outcome behind an element that has a parent is such a step. -/
theorem exists_applied {d d' : Document} (wf : d.WellFormed) {e p : Element}
    (parent : d.parent? e = some p) {o : Outcome} {u : Unit}
    (h : (s.applyFeedback e o).Yields d u d') : ∃ A : s.Applied o d d', A.label.id = e := by
  obtain ⟨P, l, t, c, tail, next, rfl, rfl⟩ := Place.exists_put wf parent
  obtain ⟨run, rest, rfl, shown, ends, run', gone, fresh, rewritten, after⟩ :=
    applyFeedback_rewritten wf h
  exact ⟨⟨P, l, t, c, tail, run, run', rest, gone, fresh, rfl, after, rewritten, shown, ends⟩, rfl⟩

namespace Applied

variable {o : Outcome} {d d' : Document} (A : s.Applied o d d')

/-- The page from the element on, up to the end of its container. -/
def part : Forest :=
  .cons A.label A.text A.below A.tail (A.run.append A.rest)

/-- The page from the element on once the outcome is shown. -/
def part' : Forest :=
  .cons (s.mark o A.label) A.text A.below (tailAfter o A.tail A.run) (A.run'.append A.rest)

theorem tree : d.tree = A.place.whole.plug A.part :=
  congrArg Document.tree A.before

theorem tree' : d'.tree = A.place.whole.plug A.part' :=
  congrArg Document.tree A.after

section WellFormed

variable (wf : d.WellFormed) (wf' : d'.WellFormed)

include wf in
theorem siblings : d.siblingsAfter A.label.id = .ok (A.run.append A.rest) := by
  have put := wf
  rw [A.before] at put
  exact (congrArg (fun d => d.siblingsAfter A.label.id) A.before).trans (Place.siblingsAfter_head put)

include wf in
theorem node : d.node? A.label.id = some ⟨A.label, A.text, A.below, A.tail⟩ := by
  have put := wf
  rw [A.before] at put
  exact (congrArg (fun d => d.node? A.label.id) A.before).trans (Place.node?_head put)

include wf' in
theorem siblings' : d'.siblingsAfter A.label.id = .ok (A.run'.append A.rest) := by
  have put := wf'
  rw [A.after] at put
  have head := Place.siblingsAfter_head put
  rw [id_mark] at head
  exact (congrArg (fun d => d.siblingsAfter A.label.id) A.after).trans head

include wf' in
theorem node' : d'.node? A.label.id =
    some ⟨s.mark o A.label, A.text, A.below, tailAfter o A.tail A.run⟩ := by
  have put := wf'
  rw [A.after] at put
  have head := Place.node?_head put
  rw [id_mark] at head
  exact (congrArg (fun d => d.node? A.label.id) A.after).trans head

include wf in
theorem container : d.container A.label.id = A.place.frame.owner A.place.root.id := by
  have put := wf
  rw [A.before] at put
  have parent : d.parent? A.label.id = some (A.place.frame.owner A.place.root.id) := by
    have there := Place.parent?_put (Place.misses_head put)
      (.cons A.label A.text A.below A.tail (A.run.append A.rest))
    rw [← A.before, Forest.parent?, if_pos rfl] at there
    exact there
  rw [Document.container, parent, Option.getD_some]

end WellFormed

end Applied

/-! ## The feedback of an element -/

/-- Whether an element stands in the feedback of another one. -/
def InFeedback (s : Setup) (d : Document) (e x : Element) : Prop :=
  ∃ fs, d.feedback e s.config.presentation.feedbackClass = .ok fs ∧
    ∃ f ∈ fs, ∃ n, d.node? f = some n ∧ x ∈ n.labels.map (·.id)

section Siblings

variable {d : Document} (wf : d.WellFormed) {e : Element} {run rest : Forest}
  (after : d.siblingsAfter e = .ok (run.append rest))
  (shown : ∀ n ∈ run.tops, s.isFeedback n.label = true)
  (ends : rest.tops.takeWhile (fun n => s.isFeedback n.label) = [])
include after shown ends

include wf

omit shown ends in
theorem lines_of_run : run.topIds.map d.lines = run.tops.map (·.lines) := by
  rw [Forest.topIds, List.map_map]
  refine List.map_congr_left fun n hn => ?_
  exact lines_of_node (node?_of_siblingsAfter wf after (by simp [hn])).2

theorem inFeedback_iff {x : Element} : s.InFeedback d e x ↔ x ∈ run.ids := by
  have found := feedback_of_run after shown ends
  have node {n : Node} (hn : n ∈ run.tops) : d.node? n.label.id = some n :=
    (node?_of_siblingsAfter wf after (by simp [hn])).2
  constructor
  · rintro ⟨fs, found', f, hf, n, there, inside⟩
    obtain rfl := Except.ok.inj (found.symm.trans found')
    obtain ⟨m, hm, rfl⟩ := List.mem_map.1 hf
    obtain rfl := Option.some.inj ((node hm).symm.trans there)
    obtain ⟨l, hl, rfl⟩ := List.mem_map.1 inside
    exact Forest.id_mem_ids (Forest.labels_subset_of_mem_nodes (Forest.mem_nodes_of_mem_tops hm) hl)
  · intro inside
    obtain ⟨l, hl, rfl⟩ := List.mem_map.1 inside
    obtain ⟨n, hn, below⟩ := Forest.exists_top hl
    exact ⟨_, found, n.label.id, List.mem_map_of_mem hn, n, node hn, List.mem_map_of_mem below⟩

end Siblings

/-- Two pages show the same feedback behind an element that has the same parent in both, if the same run
stands there. -/
theorem feedback_congr {d d' : Document} {x : Element} (label : d'.label? x = d.label? x)
    (parent : d'.parent? x = d.parent? x)
    (following : (d'.tree.following? x).map s.runIds = (d.tree.following? x).map s.runIds) :
    d'.feedback x s.config.presentation.feedbackClass =
      d.feedback x s.config.presentation.feedbackClass := by
  unfold feedback siblingsAfter notInContainer
  rw [parent, label]
  cases d.parent? x with
  | none => rfl
  | some p =>
    rw [Option.bind_some, Option.bind_some]
    cases here : d.tree.following? x with
    | none =>
      rw [here] at following
      rw [Option.map_eq_none_iff.1 following]
    | some f =>
      rw [here] at following
      obtain ⟨f', there, same⟩ := Option.map_eq_some_iff.1 following
      rw [there]
      exact congrArg Except.ok same

/-! ## What the step comes to -/

/-- The page shows an outcome behind an element, and all else is as it was. -/
structure Presented (s : Setup) (o : Outcome) (e : Element) (d d' : Document) : Prop where
  /-- Where the element stands, what is written there, and what becomes of the text. -/
  applied : ∃ A : s.Applied o d d', A.label.id = e
  /-- The element is marked if the outcome is not valid, and then its feedback has the messages as
  lines. A valid element has neither mark nor feedback. -/
  shows : s.Shows d' e o
  /-- The feedback that is left is the first element of what was there, or a new element. -/
  feedback : ∃ fs, d.feedback e s.config.presentation.feedbackClass = .ok fs ∧
    d'.feedback e s.config.presentation.feedbackClass =
      .ok (if o.valid then [] else [fs.headD d.fresh])
  /-- Of the elements in the feedback only the one that was given lines is left. -/
  gone : ∀ x, s.InFeedback d e x → (d'.holds x = true ↔
    d'.feedback e s.config.presentation.feedbackClass = .ok [x])
  /-- Every element is one of the old ones or a new one in the feedback. -/
  new : ∀ x, d'.holds x = true → d.holds x = true ∨ d.fresh ≤ x ∧ s.InFeedback d' e x
  /-- The element keeps all but its mark. -/
  element : ∃ n n', d.node? e = some n ∧ d'.node? e = some n' ∧ n'.label.tag = n.label.tag ∧
    n'.text = n.text ∧ n'.children = n.children ∧
    n'.label.attributes.filter (·.1 != "class") = n.label.attributes.filter (·.1 != "class") ∧
    (classesOf n'.label).filter (· != s.config.presentation.invalidClass) =
      (classesOf n.label).filter (· != s.config.presentation.invalidClass)
  /-- Every other element outside the feedback keeps its place, its label, its texts, its own feedback,
  and, if it is not the container, the elements below it. -/
  others : ∀ x n, d.tree.find? x = some n → x ≠ e → ¬ s.InFeedback d e x →
    ∃ n', d'.tree.find? x = some n' ∧ n'.own = n.own ∧
      (x ≠ d.container e → n'.childIds = n.childIds) ∧ d'.parent? x = d.parent? x ∧
      d'.feedback x s.config.presentation.feedbackClass =
        d.feedback x s.config.presentation.feedbackClass
  /-- Nothing is submitted or scrolled to, and the document type stays. -/
  log : d.SameLog d'

namespace Applied

variable {o : Outcome} {d d' : Document} {A : s.Applied o d d'}

theorem rewritten_topIds (A : s.Applied o d d') :
    A.run'.topIds = if o.valid then [] else [A.run.topIds.headD d.fresh] :=
  A.rewritten.tops

theorem mem_part (A : s.Applied o d d') {x : Element} : x ∈ A.part.ids ↔
    x = A.label.id ∨ x ∈ A.below.ids ∨ x ∈ A.run.ids ∨ x ∈ A.rest.ids := by
  simp [part]

theorem mem_part' (A : s.Applied o d d') {x : Element} : x ∈ A.part'.ids ↔
    x = A.label.id ∨ x ∈ A.below.ids ∨ x ∈ A.run'.ids ∨ x ∈ A.rest.ids := by
  simp [part', id_mark]

theorem holds_iff (A : s.Applied o d d') {x : Element} :
    d.holds x = true ↔ x ∈ A.place.whole.ids ∨ x ∈ A.part.ids := by
  rw [holds, Forest.find?_isSome, A.tree, Frame.mem_ids_plug]

theorem holds_iff' (A : s.Applied o d d') {x : Element} :
    d'.holds x = true ↔ x ∈ A.place.whole.ids ∨ x ∈ A.part'.ids := by
  rw [holds, Forest.find?_isSome, A.tree', Frame.mem_ids_plug]

section WellFormed

variable (wf : d.WellFormed)
include wf

/-- An element of the page has a number that is no longer free. -/
theorem lt_fresh (A : s.Applied o d d') {x : Element} (inside : x ∈ A.part.ids) : x < d.fresh := by
  obtain ⟨l, hl, rfl⟩ := List.mem_map.1 inside
  refine wf.fresh l (List.mem_append_left _ ?_)
  rw [A.tree]
  exact A.place.whole.labels_subset_plug A.part hl

theorem holds_of_run (A : s.Applied o d d') {x : Element} (inside : x ∈ A.run.ids) :
    d'.holds x = true ↔ x ∈ A.run'.topIds := by
  have nodup := wf.nodup_tree
  rw [A.tree, (A.place.whole.perm_ids_plug A.part).nodup_iff, List.nodup_append] at nodup
  obtain ⟨-, part, around⟩ := nodup
  have member : x ∈ A.part.ids := A.mem_part.2 (.inr (.inr (.inl inside)))
  have behind : x ∈ (A.run.append A.rest).ids := by simp [inside]
  obtain ⟨-, above, -, after, apart⟩ := Forest.nodup_cons part
  rw [Forest.ids_append, List.nodup_append] at after
  rw [A.holds_iff', A.mem_part']
  constructor
  · rintro (frame | rfl | below | run | rest)
    · exact absurd rfl (around x frame x member)
    · exact absurd behind above
    · exact absurd behind (apart x below)
    · exact (A.rewritten.ids x run).resolve_right (Nat.not_le.2 (A.lt_fresh wf member))
    · exact absurd rfl (after.2.2 x inside x rest)
  · intro top
    obtain ⟨n, hn, rfl⟩ := List.mem_map.1 top
    exact .inr (.inr (.inr (.inl (Forest.id_mem_ids
      (Forest.labels_subset_of_mem_nodes (Forest.mem_nodes_of_mem_tops hn) List.mem_cons_self)))))

theorem not_mem_run' (A : s.Applied o d d') {x : Element} (held : d.holds x = true)
    (outside : x ∉ A.run.ids) : x ∉ A.run'.ids := by
  intro inside
  refine (A.rewritten.ids_or x inside).elim outside fun free => ?_
  obtain ⟨l, hl, rfl⟩ := List.mem_map.1 (Forest.find?_isSome.1 held)
  exact Nat.not_lt.2 free (wf.fresh l (List.mem_append_left _ hl))

end WellFormed

/-! ## Other elements -/

section Other

variable {x : Element} (other : A.label.id ≠ x) (outside : x ∉ A.run.ids) (outside' : x ∉ A.run'.ids)
include other outside outside'

theorem own_eq : (d'.tree.find? x).map Node.own = (d.tree.find? x).map Node.own := by
  have part : A.part'.find? x = A.part.find? x :=
    Forest.find?_run (id_mark o A.label) other outside outside' rfl
  have same : (A.part'.find? x).map Node.own = (A.part.find? x).map Node.own := by rw [part]
  rw [A.tree, A.tree']
  refine Frame.map_find?_plug (fun _ _ _ _ => ?_) same _
  rfl

theorem childIds_eq (wf : d.WellFormed) (apart : x ≠ d.container A.label.id) :
    (d'.tree.find? x).map Node.childIds = (d.tree.find? x).map Node.childIds := by
  have part : A.part'.find? x = A.part.find? x :=
    Forest.find?_run (id_mark o A.label) other outside outside' rfl
  rw [A.container wf] at apart
  rw [A.tree, A.tree']
  exact Frame.map_childIds_plug (o := A.place.root.id) apart part

theorem parent?_eq : d'.parent? x = d.parent? x := by
  unfold Document.parent?
  rw [A.tree, A.tree']
  exact Frame.parent?_plug_congr
    (Forest.parent?_run (id_mark o A.label) other outside outside' fun _ => rfl) A.place.frame
    A.place.root.id

theorem following?_eq (unshown : s.isFeedback A.label = false)
    (unshown' : s.isFeedback (s.mark o A.label) = false) :
    (d'.tree.following? x).map s.runIds = (d.tree.following? x).map s.runIds := by
  have part : A.part'.following? x = A.part.following? x :=
    Forest.following?_run (id_mark o A.label) other outside outside' rfl
  have none : s.runIds A.part' = s.runIds A.part := by
    unfold runIds Applied.part Applied.part'
    rw [Forest.tops, Forest.tops, List.takeWhile_cons_of_neg (by simp [unshown']),
      List.takeWhile_cons_of_neg (by simp [unshown])]
  rw [A.tree, A.tree']
  exact Frame.map_following?_plug (runIds_plug none) (by rw [part]) _

end Other

/-- The page shows an outcome after such a step, if the element is not feedback itself and the two
classes are two words. -/
theorem presented (A : s.Applied o d d') (wf : d.WellFormed) (wf' : d'.WellFormed)
    (worded : s.config.presentation.Worded)
    (apart : s.config.presentation.invalidClass ≠ s.config.presentation.feedbackClass)
    (unshown : s.isFeedback A.label = false) (log : d.SameLog d') :
    s.Presented o A.label.id d d' where
  applied := ⟨A, rfl⟩
  shows := by
    have shown' := A.rewritten.feedback worded.feedbackClass A.shown
    constructor
    · rw [hasClass, Document.label?, A.node' wf']
      exact contains_invalid_mark worded.invalidClass o A.label
    · refine ⟨_, feedback_of_run (A.siblings' wf') shown' A.ends, ?_⟩
      rw [lines_of_run wf' (A.siblings' wf'), A.rewritten.lines]
  feedback := by
    have shown' := A.rewritten.feedback worded.feedbackClass A.shown
    refine ⟨_, feedback_of_run (A.siblings wf) A.shown A.ends, ?_⟩
    rw [feedback_of_run (A.siblings' wf') shown' A.ends, A.rewritten_topIds]
  gone x inside := by
    have shown' := A.rewritten.feedback worded.feedbackClass A.shown
    rw [inFeedback_iff wf (A.siblings wf) A.shown A.ends] at inside
    rw [A.holds_of_run wf inside, feedback_of_run (A.siblings' wf') shown' A.ends, Except.ok.injEq,
      A.rewritten_topIds]
    split_ifs
    · simp
    · rw [List.mem_singleton, List.cons.injEq, eq_comm, and_iff_left rfl]
  new x held := by
    have shown' := A.rewritten.feedback worded.feedbackClass A.shown
    rw [A.holds_iff, A.mem_part, inFeedback_iff wf' (A.siblings' wf') shown' A.ends]
    rw [A.holds_iff', A.mem_part'] at held
    rcases held with frame | here | below | run | rest
    · exact .inl (.inl frame)
    · exact .inl (.inr (.inl here))
    · exact .inl (.inr (.inr (.inl below)))
    · rcases A.rewritten.ids_or x run with old | free
      · exact .inl (.inr (.inr (.inr (.inl old))))
      · exact .inr ⟨free, run⟩
    · exact .inl (.inr (.inr (.inr (.inr rest))))
  element := ⟨_, _, A.node wf, A.node' wf', tag_mark o A.label, rfl, rfl, filter_attributes_mark o A.label,
    filter_classesOf_mark worded.invalidClass o A.label⟩
  others x n found other outside := by
    rw [inFeedback_iff wf (A.siblings wf) A.shown A.ends] at outside
    have held : d.holds x = true := Option.isSome_of_eq_some found
    have outside' := A.not_mem_run' wf held outside
    have unshown' : s.isFeedback (s.mark o A.label) = false := by
      rw [isFeedback_mark_of_ne worded.invalidClass apart, unshown]
    have own := own_eq other.symm outside outside'
    rw [found] at own
    obtain ⟨n', found', same⟩ := Option.map_eq_some_iff.1 own
    have parent := parent?_eq other.symm outside outside'
    have following := following?_eq other.symm outside outside' unshown unshown'
    refine ⟨n', found', same, fun inner => ?_, parent, ?_⟩
    · have below := childIds_eq other.symm outside outside' wf inner
      rw [found, found'] at below
      exact Option.some.inj below
    · refine feedback_congr ?_ parent following
      rw [Document.label?, Document.label?, node?, node?, found, found']
      exact congrArg (some ·.1) same
  log := log

/-- Namespaces can be read after such a step where they could be before. -/
theorem legible (A : s.Applied o d d')
    (word : Text.isWord s.config.presentation.invalidClass = true)
    (apart : s.config.presentation.invalidClass ≠ s.config.presentation.feedbackClass)
    (named : '\x7b' ∉ s.config.presentation.feedbackTag.toList)
    (old : ∀ n ∈ d.tree.nodes, s.Legible n) : ∀ n ∈ d'.tree.nodes, s.Legible n := by
  have some : A.part ≠ .nil := Forest.cons_ne_nil
  rw [A.tree] at old
  rw [A.tree']
  refine Frame.forall_nodes_plug (fun l t k tail h => h.around some _) old fun old => ?_
  simp only [part, part', Forest.nodes, Forest.nodes_append, List.forall_mem_cons,
    List.forall_mem_append] at old ⊢
  obtain ⟨own, below, run, rest⟩ := old
  refine ⟨?_, below, A.rewritten.legible A.shown named run, rest⟩
  exact own.of_same (tag_mark o A.label) (isFeedback_mark_of_ne word apart o A.label) id

end Applied

/-- Showing an outcome behind an element of the page that has a parent and is not feedback itself. It
does what it should whenever it returns, whatever feedback was there before. It returns where
namespaces can be read, which is so on every page that is read and stays so. -/
theorem feedback_applied {fields : List (String × Json)}
    (accepted : Config.ofFields fields = .ok s.config)
    (apart : s.config.presentation.invalidClass ≠ s.config.presentation.feedbackClass)
    (named : '\x7b' ∉ s.config.presentation.feedbackTag.toList) {d : Document} (wf : d.WellFormed)
    {e p : Element} (parent : d.parent? e = some p)
    (unshown : d.hasClass e s.config.presentation.feedbackClass = false) (o : Outcome) :
    (∀ d', (s.applyFeedback e o).Yields d () d' → s.Presented o e d d') ∧
      ((∀ n ∈ d.tree.nodes, s.Legible n) →
        ∃ d', (s.applyFeedback e o).Yields d () d' ∧ ∀ n ∈ d'.tree.nodes, s.Legible n) ∧
      ∀ text, Document.ofText text = .ok d → ∀ n ∈ d.tree.nodes, s.Legible n := by
  have worded := (Config.accepted_of_ofFields accepted).presentation
  refine ⟨fun d' yields => ?_, fun legible => ?_, fun text read n hn _ => ?_⟩
  · obtain ⟨A, rfl⟩ := exists_applied wf parent yields
    rw [hasClass, Document.label?, A.node wf] at unshown
    exact A.presented wf (yields.descends wf).1 worded apart unshown yields.sameLog
  · obtain ⟨P, l, t, c, tail, next, rfl, rfl⟩ := Place.exists_put wf parent
    obtain ⟨u, d', yields⟩ := returns_applyFeedback wf legible named o
    obtain ⟨A, -⟩ := exists_applied wf parent yields
    exact ⟨d', yields, A.legible worded.invalidClass apart named legible⟩
  · obtain ⟨l, t, c, tree, spaced⟩ := root_of_ofText read
    exact spaced n.label (Forest.labels_subset_of_mem_nodes hn List.mem_cons_self)

/-- An invalid field with a class of its own, and behind it feedback from elsewhere with text between. -/
def foreign : Document where
  tree := .cons ⟨0, .element "form", []⟩ ""
    (.cons ⟨1, .element "input", [("class", "wide is-invalid")]⟩ "" .nil "a"
      (.cons ⟨2, .element "p", [("class", "invalid-feedback small")]⟩ "x"
        (.cons ⟨3, .element "b", []⟩ "y" .nil "z" .nil) "b"
        (.cons ⟨4, .element "div", [("class", "invalid-feedback")]⟩ "w" .nil "c"
          (.cons ⟨5, .element "input", []⟩ "" .nil "d" .nil)))) "" .nil
  fresh := 6

/-- The first feedback element behind a field gets its messages, and the second one is gone. -/
theorem feedback_applied_foreign : ∃ d', (applyFeedback {} 1 ⟨["l", "m"], none⟩).Yields foreign () d' ∧
    d'.feedback 1 "invalid-feedback" = .ok [2] ∧ d'.lines 2 = ["l", "m"] ∧ d'.holds 4 = false := by
  obtain ⟨presented, returns, -⟩ := feedback_applied Config.ofFields_nil (s := {}) (by decide)
    (by decide) (d := foreign) (by decide +kernel) (e := 1) (p := 0) rfl (by decide +kernel)
    ⟨["l", "m"], none⟩
  obtain ⟨d', yields, -⟩ := returns (by decide +kernel)
  have shown := presented d' yields
  have before : foreign.feedback 1 "invalid-feedback" = .ok [2, 4] := by decide +kernel
  obtain ⟨fs, found, left⟩ := shown.feedback
  obtain rfl : [2, 4] = fs := Except.ok.inj (before.symm.trans found)
  have left : d'.feedback 1 "invalid-feedback" = .ok [2] := left
  obtain ⟨fs, found', lines⟩ := shown.shows.feedback
  obtain rfl : [2] = fs := Except.ok.inj (left.symm.trans found')
  have gone := shown.gone 4 ⟨[2, 4], found, 4, by decide, _, rfl, by decide⟩
  refine ⟨d', yields, left, List.singleton_injective lines, ?_⟩
  rw [Bool.eq_false_iff, ne_eq, gone]
  exact fun same => absurd (Except.ok.inj (left.symm.trans same)) (by decide)

end Setup

end FormGate
