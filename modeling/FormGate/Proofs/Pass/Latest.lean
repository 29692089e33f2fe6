import FormGate.Proofs.Config.Accepted
import FormGate.Proofs.Pass.Relined

/-!
# What a page shows depends on the last outcome

Showing an outcome a second time changes nothing, whatever feedback there was before the first time.
Where there was none, a page on which outcomes were shown one after the other is the page on which only
the last one was: the one feedback element that may have been put in is given its lines or taken out,
and the mark of the element is that of the last outcome. What may differ are the numbers of new elements
and the order in which classes are written (`Setup.feedback_latest`).
-/

namespace FormGate

open Markup Document Pass

/-! ## Pages that are the same but for how classes are written -/

/-- Labels with the same tag, the same classes and the same other attributes. -/
structure Markup.Label.SameClasses (l l' : Label) : Prop where
  id : l'.id = l.id
  tag : l'.tag = l.tag
  attributes : l'.attributes.filter (·.1 != "class") = l.attributes.filter (·.1 != "class")
  classes : ∀ c, c ∈ classesOf l' ↔ c ∈ classesOf l

/-- Pages that differ at most by the numbers of elements that came after `N` others, and by the way in
which the classes of one element are written. -/
def Document.SameShown (N : Nat) (e : Element) (d d' : Document) : Prop :=
  ∃ l l', d.label? e = some l ∧ d'.label? e = some l' ∧ l.SameClasses l' ∧
    Same N (d.modifyLabel e fun _ => l') d'

/-- Runs behind the first element in a place that are the same up to numbers make pages that are so too,
whatever was taken out of them before. -/
theorem Place.same_put (P : Place) {N : Nat} {run run' : Forest}
    (same : run'.capped N = run.capped N) (l : Label) (t : String) (c : Forest) (tail : String)
    (rest gone gone' : Forest) (fresh fresh' : Nat) :
    Same N (((P.taking gone).numbering fresh).put (.cons l t c tail (run.append rest)))
      (((P.taking gone').numbering fresh').put (.cons l t c tail (run'.append rest))) where
  tree := by
    show (P.whole.plug (.cons l t c tail (run'.append rest))).capped N =
      (P.whole.plug (.cons l t c tail (run.append rest))).capped N
    simp only [Frame.capped_plug, Forest.capped_cons, Forest.capped_append, same]
  log := ⟨rfl, rfl, rfl⟩

namespace Setup

variable {s : Setup}

/-! ## Marks one after the other -/

/-- Labels that are the same but for the mark of invalid elements. -/
structure Remarked (s : Setup) (l l' : Label) : Prop where
  id : l'.id = l.id
  tag : l'.tag = l.tag
  attributes : l'.attributes.filter (·.1 != "class") = l.attributes.filter (·.1 != "class")
  classes : (classesOf l').filter (· != s.config.presentation.invalidClass) =
    (classesOf l).filter (· != s.config.presentation.invalidClass)

section Remarked

variable {l l' : Label}

theorem Remarked.refl (l : Label) : s.Remarked l l := ⟨rfl, rfl, rfl, rfl⟩

variable (word : Text.isWord s.config.presentation.invalidClass = true) (h : s.Remarked l l')
include word h

theorem Remarked.mark (o : Outcome) : s.Remarked l (s.mark o l') where
  id := (id_mark o l').trans h.id
  tag := (tag_mark o l').trans h.tag
  attributes := (filter_attributes_mark o l').trans h.attributes
  classes := (filter_classesOf_mark word o l').trans h.classes

/-- The mark of an outcome makes labels the same that were the same but for a mark. -/
theorem Remarked.sameClasses (o : Outcome) : (s.mark o l').SameClasses (s.mark o l) where
  id := by rw [id_mark, id_mark, h.id]
  tag := by rw [tag_mark, tag_mark, h.tag]
  attributes := by rw [filter_attributes_mark, filter_attributes_mark, h.attributes]
  classes c := by
    by_cases invalid : c = s.config.presentation.invalidClass
    · subst invalid
      rw [← List.contains_iff_mem, ← List.contains_iff_mem, contains_invalid_mark word,
        contains_invalid_mark word]
    · have among (l : Label) : c ∈ classesOf (s.mark o l) ↔
          c ∈ (classesOf l).filter (· != s.config.presentation.invalidClass) := by
        rw [← filter_classesOf_mark word o l, List.mem_filter, and_iff_left (by simpa using invalid)]
      rw [among, among, h.classes]

end Remarked

/-! ## Feedback that was put in -/

/-- A run of feedback that an outcome makes where there was none before, but for its numbers. -/
def Made (s : Setup) (o : Outcome) (owner : Tag) (N : Element) (run : Forest) : Prop :=
  ∃ run₀, s.Relined o owner N .nil run₀ ∧ run.capped N = run₀.capped N

section Made

variable {o o' : Outcome} {owner : Tag} {N fresh : Element} {run run' : Forest}

theorem made_nil (owner : Tag) (N : Element) : s.Made {} owner N .nil :=
  ⟨.nil, .removed .nil rfl, rfl⟩

theorem Made.tails (h : s.Made o owner N run) : run.tails = "" := by
  obtain ⟨run₀, relined, same⟩ := h
  rw [← Forest.tails_capped N, same, Forest.tails_capped]
  cases relined with
  | removed => rfl
  | inserted => exact String.append_empty

theorem Made.shown (word : Text.isWord s.config.presentation.feedbackClass = true)
    (h : s.Made o owner N run) : ∀ n ∈ run.tops, s.isFeedback n.label = true := by
  obtain ⟨run₀, relined, same⟩ := h
  have first := relined.shown word fun n hn => absurd hn List.not_mem_nil
  intro n hn
  have capped : n.capped N ∈ (run₀.capped N).tops := by
    rw [← same, Forest.tops_capped]
    exact List.mem_map_of_mem hn
  exact shown_capped first (n.capped N) capped

theorem capped_feedbackLabel (new : N ≤ fresh) (tag : Tag) :
    (s.feedbackLabel fresh tag).capped N = (s.feedbackLabel N tag).capped N := by
  simp [feedbackLabel, Label.capped, new]

/-- What an outcome makes of feedback that was put in for another one is what it makes where there is
none. -/
theorem Made.relined (h : s.Made o owner N run) (relined : s.Relined o' owner fresh run run')
    (new : N ≤ fresh) : s.Made o' owner N run' := by
  obtain ⟨run₀, first, same⟩ := h
  cases relined with
  | removed run valid => exact ⟨.nil, .removed .nil valid, rfl⟩
  | inserted invalid spaced made =>
    obtain ⟨breaks', made', same'⟩ :=
      exists_capped_breaksIn made (Nat.le_succ_of_le new) (Nat.le_succ N)
    refine ⟨_, .inserted invalid spaced made', ?_⟩
    rw [Forest.capped_cons, Forest.capped_cons, same', capped_feedbackLabel new]
  | replaced l t c between more invalid made =>
    cases first with
    | removed => cases same
    | @inserted space breaks₀ invalid₀ spaced made₀ =>
      -- the element has the tag that a new one would get, and new lines do not change that
      have label : l.capped N = (s.feedbackLabel N (s.feedbackTagIn space)).capped N :=
        (Forest.cons.inj same).1
      obtain ⟨-, -, -, rfl, none⟩ := Forest.cons.inj same
      obtain rfl := Forest.capped_eq_nil.1 none
      have tag : l.tag = s.feedbackTagIn space := congrArg Label.tag label
      rw [tag] at made ⊢
      obtain ⟨breaks', made', same'⟩ := exists_capped_breaksIn made new (Nat.le_succ N)
      refine ⟨_, .inserted invalid spaced made', ?_⟩
      have relabelled : ({ l with tag := (s.feedbackTagIn space).holding o'.errors } : Label).capped N =
          (s.feedbackLabel N (s.feedbackTagIn space)).capped N := by
        show ({ l.capped N with tag := (s.feedbackTagIn space).holding o'.errors } : Label) = _
        rw [label]
        rfl
      rw [Forest.capped_cons, Forest.capped_cons, same', relabelled]
      rfl

end Made

/-! ## One outcome after another -/

theorem yields_forM_concat {f : Outcome → Pass Unit} {os : List Outcome} {o : Outcome}
    {d d' : Document} (h : ((os ++ [o]).forM f).Yields d () d') :
    ∃ d₁, (os.forM f).Yields d () d₁ ∧ (f o).Yields d₁ () d' := by
  induction os generalizing d with
  | nil =>
    obtain ⟨_, d₁, last, done⟩ := yields_bind.1 h
    obtain ⟨-, rfl⟩ := yields_pure.1 done
    exact ⟨d, rfl, last⟩
  | cons o' os ih =>
    obtain ⟨_, d₁, first, later⟩ := yields_bind.1 h
    obtain ⟨d₂, before, last⟩ := ih later
    exact ⟨d₂, yields_bind.2 ⟨(), d₁, first, before⟩, last⟩

section Place

variable {P : Place} {l : Label} {t : String} {c : Forest} {tail : String} {run rest : Forest}

/-- A page that differs from one without feedback behind the first element in a place only by the mark
of the element, by feedback that was put in for an outcome, and by numbers. -/
def Showing (s : Setup) (o : Outcome) (P : Place) (l : Label) (t : String) (c : Forest) (tail : String)
    (rest : Forest) (d : Document) : Prop :=
  ∃ l' run gone fresh, s.Remarked l l' ∧ s.Made o (P.frame.ownerTag P.root.tag) P.page.fresh run ∧
    P.page.fresh ≤ fresh ∧
    d = ((P.taking gone).numbering fresh).put (.cons l' t c tail (run.append rest))

theorem showing_put : s.Showing {} P l t c tail rest (P.put (.cons l t c tail rest)) := by
  refine ⟨l, .nil, .nil, P.page.fresh, .refl l, made_nil _ _, Nat.le_refl _, ?_⟩
  rw [Place.taking_nil]
  rfl

section Step

variable (worded : s.config.presentation.Worded)
  (ends : rest.tops.takeWhile (fun n => s.isFeedback n.label) = []) {o : Outcome} {d d' : Document}
include worded ends

/-- Whatever outcome is shown next, the page is then one that shows it, and the element has its mark. -/
theorem Showing.step (h : s.Showing o P l t c tail rest d) (wf : d.WellFormed) {o' : Outcome}
    (yields : (s.applyFeedback l.id o').Yields d () d') :
    ∃ l' run gone fresh, s.Remarked l l' ∧ s.Made o' (P.frame.ownerTag P.root.tag) P.page.fresh run ∧
      P.page.fresh ≤ fresh ∧
      d' = ((P.taking gone).numbering fresh).put (.cons (s.mark o' l') t c tail (run.append rest)) := by
  obtain ⟨l', run, gone, fresh, remarked, made, new, rfl⟩ := h
  rw [← remarked.id] at yields
  obtain ⟨run', gone', fresh', relined, later, rfl⟩ :=
    exists_relined_of_yields wf (made.shown worded.feedbackClass) ends yields
  refine ⟨l', run', gone.append gone', fresh', remarked, made.relined relined new, ?_, ?_⟩
  · exact Nat.le_trans new later
  · rw [tailAfter, made.tails, String.append_empty, ite_self, ← Place.taking_taking]
    rfl

/-- Whatever outcomes are shown one after the other, the page shows one of them in the end. -/
theorem Showing.forM {os : List Outcome} (h : s.Showing o P l t c tail rest d) (wf : d.WellFormed)
    (yields : (os.forM (s.applyFeedback l.id)).Yields d () d') :
    ∃ o', s.Showing o' P l t c tail rest d' := by
  induction os generalizing o d with
  | nil =>
    obtain ⟨-, rfl⟩ := yields_pure.1 yields
    exact ⟨o, h⟩
  | cons o' os ih =>
    rw [List.forM] at yields
    obtain ⟨_, d₁, first, later⟩ := yields_bind.1 yields
    obtain ⟨l', run, gone, fresh, remarked, made, new, rfl⟩ := h.step worded ends wf first
    refine ih (o := o') ?_ (first.descends wf).1 later
    exact ⟨_, run, gone, fresh, remarked.mark worded.invalidClass o', made, new, rfl⟩

end Step

/-! ## The same outcome again -/

section Head

variable {o : Outcome} {d' : Document}
  (wf : (P.put (.cons l t c tail (run.append rest))).WellFormed)
  (shown : ∀ n ∈ run.tops, s.isFeedback n.label = true)
  (ends : rest.tops.takeWhile (fun n => s.isFeedback n.label) = [])
include wf shown ends

/-- Showing an outcome a second time leaves the page as it was after the first time, and the feedback
element is the same one. -/
theorem exists_again (worded : s.config.presentation.Worded)
    (h : (s.applyFeedback l.id o).Yields (P.put (.cons l t c tail (run.append rest))) () d') :
    ∃ d'', (s.applyFeedback l.id o).Yields d' () d'' ∧ Same P.page.fresh d' d'' ∧
      d''.feedback l.id s.config.presentation.feedbackClass =
        d'.feedback l.id s.config.presentation.feedbackClass := by
  have wf' := (h.descends wf).1
  obtain ⟨run', gone, fresh, relined, new, rfl⟩ := exists_relined_of_yields wf shown ends h
  have shown' := relined.shown worded.feedbackClass shown
  obtain ⟨run'', relined', same, ids⟩ := relined.again (Nat.le_refl _) new
  have shown'' := relined'.shown worded.feedbackClass shown'
  obtain ⟨gone', fresh', yields⟩ := yields_of_relined wf' shown' ends relined'
  have marked : s.mark o (s.mark o l) = s.mark o l :=
    mark_eq_self (contains_invalid_mark worded.invalidClass o l)
  rw [marked, relined.tailAfter_tailAfter] at yields
  have before := feedback_of_run (Place.siblingsAfter_head wf') shown' ends
  have after := feedback_of_run (Place.siblingsAfter_head (yields.descends wf').1) shown'' ends
  rw [id_mark] at yields before after
  refine ⟨_, yields, ?_, ?_⟩
  · have kept := P.same_put same (s.mark o l) t c (tailAfter o tail run) rest gone
      (gone.append gone') fresh fresh'
    rw [← Place.taking_taking] at kept
    exact kept
  · rw [before, after, ids]

end Head

/-! ## The last outcome -/

section Last

variable {o : Outcome} {os : List Outcome} {d' : Document}

/-- Pages that differ by an earlier mark of the first element in a place are the same but for the
classes of that element once it has the mark of an outcome. -/
theorem Remarked.sameShown {l' : Label} {N fresh fresh' : Nat} {run run' gone gone' : Forest}
    (remarked : s.Remarked l l') (word : Text.isWord s.config.presentation.invalidClass = true)
    (same : run.capped N = run'.capped N)
    (wf : (((P.taking gone).numbering fresh).put
      (.cons (s.mark o l') t c tail (run.append rest))).WellFormed)
    (wf' : (((P.taking gone').numbering fresh').put
      (.cons (s.mark o l) t c tail (run'.append rest))).WellFormed) :
    SameShown N l.id
      (((P.taking gone).numbering fresh).put (.cons (s.mark o l') t c tail (run.append rest)))
      (((P.taking gone').numbering fresh').put
        (.cons (s.mark o l) t c tail (run'.append rest))) := by
  have id : (s.mark o l').id = l.id := (id_mark o l').trans remarked.id
  have id' : (s.mark o l).id = l.id := id_mark o l
  refine ⟨s.mark o l', s.mark o l, ?_, ?_, remarked.sameClasses word o, ?_⟩
  · rw [← id, Document.label?, Place.node?_head wf]
    rfl
  · rw [← id', Document.label?, Place.node?_head wf']
    rfl
  · rw [← id, Place.modifyLabel_head wf]
    exact P.same_put same.symm (s.mark o l) t c tail rest gone gone' fresh fresh'

variable (wf : (P.put (.cons l t c tail (Forest.nil.append rest))).WellFormed)
  (ends : rest.tops.takeWhile (fun n => s.isFeedback n.label) = [])
include wf ends

/-- Where there is no feedback, outcomes shown one after the other leave the page that the last one of
them leaves alone. A valid one leaves the page as it was. -/
theorem exists_last (worded : s.config.presentation.Worded)
    (h : ((os ++ [o]).forM (s.applyFeedback l.id)).Yields (P.put (.cons l t c tail rest)) () d') :
    ∃ d'', (s.applyFeedback l.id o).Yields (P.put (.cons l t c tail rest)) () d'' ∧
      SameShown P.page.fresh l.id d' d'' ∧
      (o.valid = true → (classesOf l).contains s.config.presentation.invalidClass = false →
        Same P.page.fresh (P.put (.cons l t c tail rest)) d'') := by
  obtain ⟨d₁, before, last⟩ := yields_forM_concat h
  have wf₁ := (before.descends wf).1
  obtain ⟨o', showing⟩ := showing_put.forM worded ends wf before
  obtain ⟨l', run, gone, fresh, remarked, ⟨run₀, relined, same⟩, -, rfl⟩ :=
    showing.step worded ends wf₁ last
  obtain ⟨gone', fresh', yields⟩ :=
    yields_of_relined wf (fun n hn => absurd hn List.not_mem_nil) ends relined
  rw [tailAfter_nil] at yields
  refine ⟨_, yields, ?_, fun valid unmarked => ?_⟩
  · exact remarked.sameShown worded.invalidClass same (last.descends wf₁).1 (yields.descends wf).1
  · obtain rfl := relined.eq_nil valid
    have unchanged : s.mark o l = l := mark_eq_self (by rw [unmarked, valid]; rfl)
    have none : Forest.nil.capped P.page.fresh = Forest.nil.capped P.page.fresh := rfl
    have kept := P.same_put none l t c tail rest .nil gone' P.page.fresh fresh'
    rw [Place.taking_nil] at kept
    rw [unchanged]
    exact kept

end Last

/-! ## Outcomes that can be shown -/

/-- Outcomes can be shown one after the other where the container and the feedback that is there are in
namespaces. -/
theorem returns_forM (wf : (P.put (.cons l t c tail (run.append rest))).WellFormed)
    (shown : ∀ n ∈ run.tops, s.isFeedback n.label = true)
    (ends : rest.tops.takeWhile (fun n => s.isFeedback n.label) = [])
    (worded : s.config.presentation.Worded)
    (spaced : ∃ space, (P.frame.ownerTag P.root.tag).space = .ok space)
    (named : '\x7b' ∉ s.config.presentation.feedbackTag.toList)
    (old : ∀ n ∈ run.tops, ∃ space, n.label.tag.space = .ok space) (os : List Outcome) :
    ∃ d', (os.forM (s.applyFeedback l.id)).Yields (P.put (.cons l t c tail (run.append rest))) ()
      d' := by
  induction os generalizing P l tail run with
  | nil => exact ⟨_, rfl⟩
  | cons o os ih =>
    obtain ⟨run', relined, new⟩ := exists_relined spaced named old o P.page.fresh
    obtain ⟨gone, fresh, first⟩ := yields_of_relined wf shown ends relined
    obtain ⟨d', later⟩ := ih (P := (P.taking gone).numbering fresh) (l := s.mark o l)
      (first.descends wf).1 (relined.shown worded.feedbackClass shown) spaced new
    rw [id_mark] at later
    exact ⟨d', yields_bind.2 ⟨(), _, first, later⟩⟩

end Place

/-- What a page shows behind an element that has a parent depends on the last outcome only. Showing an
outcome again changes nothing but the numbers of line breaks. Where there was no feedback, showing
outcomes one after the other leaves the page that showing only the last one leaves, up to the numbers of
new elements and the writing of the element's classes; and nothing is left of them if the last one is
valid. All of them can be shown where namespaces can be read, which is so on every page that is read. -/
theorem feedback_latest {fields : List (String × Json)}
    (accepted : Config.ofFields fields = .ok s.config) {d : Document} (wf : d.WellFormed)
    {e p : Element} (parent : d.parent? e = some p) :
    (∀ o d', (s.applyFeedback e o).Yields d () d' →
      ∃ d'', (s.applyFeedback e o).Yields d' () d'' ∧ Same d.fresh d' d'' ∧ d''.text = d'.text ∧
        d''.feedback e s.config.presentation.feedbackClass =
          d'.feedback e s.config.presentation.feedbackClass) ∧
    (d.feedback e s.config.presentation.feedbackClass = .ok [] →
      ∀ os o d', ((os ++ [o]).forM (s.applyFeedback e)).Yields d () d' →
        ∃ d'', (s.applyFeedback e o).Yields d () d'' ∧ SameShown d.fresh e d' d'' ∧
          (o.valid = true → d.hasClass e s.config.presentation.invalidClass = false →
            Same d.fresh d d'')) ∧
    ('\x7b' ∉ s.config.presentation.feedbackTag.toList → (∀ n ∈ d.tree.nodes, s.Legible n) →
      ∀ os : List Outcome, ∃ d', (os.forM (s.applyFeedback e)).Yields d () d') ∧
    ∀ text, Document.ofText text = .ok d → ∀ n ∈ d.tree.nodes, s.Legible n := by
  have worded := (Config.accepted_of_ofFields accepted).presentation
  obtain ⟨P, l, t, c, tail, next, rfl, rfl⟩ := Place.exists_put wf parent
  obtain ⟨run, rest, rfl, -, shown, ends⟩ := Forest.exists_run (fun n => s.isFeedback n.label) next
  refine ⟨fun o d' yields => ?_, fun none os o d' yields => ?_, fun named legible os => ?_,
    fun text read n hn _ => ?_⟩
  · obtain ⟨d'', again, same, feedback⟩ := exists_again wf shown ends worded yields
    exact ⟨d'', again, same, same.text, feedback⟩
  · have found := feedback_of_run (Place.siblingsAfter_head wf) shown ends
    cases run with
    | cons lf tf cf between more => cases found.symm.trans none
    | nil =>
      obtain ⟨d'', last, same, clean⟩ := exists_last wf ends worded yields
      refine ⟨d'', last, same, fun valid unmarked => clean valid ?_⟩
      rw [hasClass, Document.label?, Place.node?_head wf] at unmarked
      exact unmarked
  · obtain ⟨space, spaced, -⟩ := space_container wf legible
    exact returns_forM wf shown ends worded ⟨space, spaced⟩ named (spaced_of_legible legible shown) os
  · obtain ⟨l, t, c, tree, spaced⟩ := root_of_ofText read
    exact spaced n.label (Forest.labels_subset_of_mem_nodes hn List.mem_cons_self)

/-- A configuration in which invalid elements and feedback have the same class. -/
def sharedClass : List (String × Json) :=
  [("presentation", .object [("invalidClass", .text "x"), ("feedbackClass", .text "x")])]

/-- A form with a field that has two classes, and text and another field behind it. -/
def twoClasses : Document where
  tree := .cons ⟨0, .element "form", []⟩ ""
    (.cons ⟨1, .element "input", [("class", " b  a "), ("name", "f")]⟩ "" .nil "t"
      (.cons ⟨2, .element "input", []⟩ "" .nil "u" .nil)) "" .nil
  fresh := 3

theorem feedback_latest_shared : ∃ s : Setup, Config.ofFields sharedClass = .ok s.config ∧
    (∃ d' d'', ([⟨["l", "m"], none⟩, ⟨[], none⟩, ⟨["n"], none⟩, ⟨[], none⟩].forM
        (s.applyFeedback 1)).Yields twoClasses () d' ∧
      SameShown 3 1 d' d'' ∧ Same 3 twoClasses d'') ∧
    ∃ d' d'', (s.applyFeedback 1 ⟨["l", "m"], none⟩).Yields twoClasses () d' ∧
      (s.applyFeedback 1 ⟨["l", "m"], none⟩).Yields d' () d'' ∧ d''.text = d'.text := by
  let s : Setup :=
    { config := { presentation := { invalidClass := "x", feedbackClass := "x" } } }
  have accepted : Config.ofFields sharedClass = .ok s.config := rfl
  obtain ⟨again, last, returns, -⟩ := feedback_latest (s := s) accepted (d := twoClasses)
    (by decide +kernel) (e := 1) (p := 0) rfl
  have legible : ∀ n ∈ twoClasses.tree.nodes, s.Legible n := by decide +kernel
  refine ⟨s, accepted, ?_, ?_⟩
  · obtain ⟨d', yields⟩ := returns (by decide) legible
      [⟨["l", "m"], none⟩, ⟨[], none⟩, ⟨["n"], none⟩, ⟨[], none⟩]
    obtain ⟨d'', -, same, clean⟩ := last (by decide +kernel)
      [⟨["l", "m"], none⟩, ⟨[], none⟩, ⟨["n"], none⟩] ⟨[], none⟩ d' yields
    exact ⟨d', d'', yields, same, clean rfl (by decide +kernel)⟩
  · obtain ⟨d', yields⟩ := returns (by decide) legible [⟨["l", "m"], none⟩]
    obtain ⟨_, d₁, first, done⟩ := yields_bind.1 yields
    obtain ⟨-, rfl⟩ := yields_pure.1 done
    obtain ⟨d'', second, -, text, -⟩ := again _ _ first
    exact ⟨_, d'', first, second, text⟩

end Setup

end FormGate
