import FormGate.Proofs.Pass.Aligned

/-!
# What exactly becomes of a run of feedback

What showing an outcome makes of the run of feedback behind an element depends on that run, on the
namespace of the container where the run is empty, and on nothing else of the page. `Setup.Relined` says
which run is left, down to the numbers of its elements. The outcome can be shown exactly if there is one
(`Setup.yields_of_relined`, `Setup.exists_relined_of_yields`), and showing it again changes nothing but
the numbers of line breaks (`Setup.Relined.again`).
-/

namespace FormGate

open Markup Document Pass

/-! ## Line breaks -/

theorem Markup.Tag.holding_holding (tag : Tag) (lines : List String) :
    (tag.holding lines).holding lines = tag.holding lines := by
  cases tag <;> rfl

/-- Line breaks that can be put in can be put in with other numbers. -/
theorem Document.exists_capped_breaksIn {tag : Tag} {fresh : Nat} {lines : List String}
    {breaks : Forest} (made : breaksIn tag fresh lines = .ok breaks) {N : Nat} (new : N ≤ fresh)
    {fresh' : Nat} (new' : N ≤ fresh') :
    ∃ breaks', breaksIn tag fresh' lines = .ok breaks' ∧ breaks'.capped N = breaks.capped N := by
  unfold breaksIn at made ⊢
  split_ifs at made ⊢ with short
  · cases made
    exact ⟨.nil, rfl, rfl⟩
  · cases spaced : tag.space with
    | error e =>
      rw [spaced] at made
      cases made
    | ok space =>
      rw [spaced] at made
      cases made
      exact ⟨_, rfl, by rw [capped_breaks _ new', capped_breaks _ new]⟩

namespace Setup

variable {s : Setup}

/-- The tag of feedback in a namespace. -/
def feedbackTagIn (s : Setup) (space : String) : Tag :=
  .element (space ++ s.config.presentation.feedbackTag)

/-- What an outcome makes of a run of feedback in a container of the tag `owner`, on a page on which
numbers from `fresh` on are free: nothing is left, an element is put in where there was none, or the
first one is given new lines and the text that followed the others. -/
inductive Relined (s : Setup) (o : Outcome) (owner : Tag) (fresh : Element) : Forest → Forest → Prop
  | removed (run : Forest) (valid : o.valid = true) : Relined s o owner fresh run .nil
  | inserted {space : String} {breaks : Forest} (invalid : o.valid = false)
      (spaced : owner.space = .ok space)
      (made : breaksIn (s.feedbackTagIn space) (fresh + 1) o.errors = .ok breaks) :
      Relined s o owner fresh .nil
        (.cons (s.feedbackLabel fresh (s.feedbackTagIn space)) (o.errors.headD "") breaks "" .nil)
  | replaced (l : Label) (t : String) (c : Forest) (between : String) (more : Forest)
      {breaks : Forest} (invalid : o.valid = false)
      (made : breaksIn (l.tag.holding o.errors) fresh o.errors = .ok breaks) :
      Relined s o owner fresh (.cons l t c between more)
        (.cons { l with tag := l.tag.holding o.errors } (o.errors.headD "") breaks
          (between ++ more.tails) .nil)

variable {o : Outcome} {owner : Tag} {fresh : Element} {run run' : Forest}

theorem tailAfter_nil (o : Outcome) (tail : String) : tailAfter o tail .nil = tail := by
  rw [tailAfter, Forest.tails, String.append_empty, ite_self]

namespace Relined

section Run

variable (h : s.Relined o owner fresh run run')
include h

theorem shown (word : Text.isWord s.config.presentation.feedbackClass = true)
    (shown : ∀ n ∈ run.tops, s.isFeedback n.label = true) :
    ∀ n ∈ run'.tops, s.isFeedback n.label = true := by
  cases h with
  | removed => exact fun n hn => absurd hn List.not_mem_nil
  | inserted => exact List.forall_mem_singleton.2 (isFeedback_feedbackLabel word _ _)
  | replaced l t c between more =>
    exact List.forall_mem_singleton.2 (shown ⟨l, t, c, between⟩ List.mem_cons_self)

/-- Nothing is left of the run for a valid outcome. -/
theorem eq_nil (valid : o.valid = true) : run' = .nil := by
  cases h with
  | removed => rfl
  | inserted invalid | replaced _ _ _ _ _ invalid =>
    rw [valid] at invalid
    cases invalid

/-- No text is moved in front of the feedback a second time. -/
theorem tailAfter_tailAfter (tail : String) :
    tailAfter o (tailAfter o tail run) run' = tailAfter o tail run := by
  unfold tailAfter
  cases h with
  | removed run valid => rw [if_pos valid, if_pos valid, Forest.tails, String.append_empty]
  | inserted invalid | replaced _ _ _ _ _ invalid => rw [if_neg (by simp [invalid])]

/-- Showing the same outcome again leaves the same run, but for the numbers of its line breaks. -/
theorem again {N : Nat} (new : N ≤ fresh) {fresh' : Element} (new' : N ≤ fresh') :
    ∃ run'', s.Relined o owner fresh' run' run'' ∧ run''.capped N = run'.capped N ∧
      run''.topIds = run'.topIds := by
  cases h with
  | removed run valid => exact ⟨.nil, .removed .nil valid, rfl, rfl⟩
  | inserted invalid spaced made =>
    obtain ⟨breaks', made', same⟩ := exists_capped_breaksIn made (Nat.le_succ_of_le new) new'
    refine ⟨_, .replaced _ _ _ _ _ invalid made', ?_, rfl⟩
    rw [Forest.capped_cons, Forest.capped_cons, same]
    rfl
  | replaced l t c between more invalid made =>
    obtain ⟨breaks', made', same⟩ := exists_capped_breaksIn made new new'
    rw [← Tag.holding_holding] at made'
    refine ⟨_, .replaced _ _ _ _ _ invalid made', ?_, rfl⟩
    rw [Forest.capped_cons, Forest.capped_cons, same, Tag.holding_holding, Forest.tails,
      String.append_empty]

end Run

end Relined

/-- A run of feedback in namespaces can be given the lines of every outcome, and is then in namespaces
again. -/
theorem exists_relined (spaced : ∃ space, owner.space = .ok space)
    (named : '\x7b' ∉ s.config.presentation.feedbackTag.toList)
    (old : ∀ n ∈ run.tops, ∃ space, n.label.tag.space = .ok space) (o : Outcome) (fresh : Element) :
    ∃ run', s.Relined o owner fresh run run' ∧
      ∀ n ∈ run'.tops, ∃ space, n.label.tag.space = .ok space := by
  cases valid : o.valid with
  | true => exact ⟨.nil, .removed run valid, fun n hn => absurd hn List.not_mem_nil⟩
  | false =>
    cases run with
    | nil =>
      obtain ⟨space, spaced⟩ := spaced
      obtain ⟨space', spaced'⟩ := Tag.exists_space spaced named
      obtain ⟨breaks, made⟩ := exists_breaksIn spaced' (fresh + 1) o.errors
      exact ⟨_, .inserted valid spaced made, List.forall_mem_singleton.2 ⟨space', spaced'⟩⟩
    | cons l t c between more =>
      obtain ⟨space, spaced⟩ := old ⟨l, t, c, between⟩ List.mem_cons_self
      have held := Tag.space_holding spaced o.errors
      obtain ⟨breaks, made⟩ := exists_breaksIn held fresh o.errors
      exact ⟨_, .replaced l t c between more valid made, List.forall_mem_singleton.2 ⟨space, held⟩⟩

/-! ## The step -/

section Head

variable {P : Place} {l : Label} {t : String} {c : Forest} {tail : String} {next rest : Forest}

/-- The first element in a place is given the mark of a valid one. -/
theorem yields_removeClass (wf : (P.put (.cons l t c tail next)).WellFormed)
    (valid : o.valid = true) :
    (ask (.removeClass l.id s.config.presentation.invalidClass)).Yields
      (P.put (.cons l t c tail next)) () (P.put (.cons (s.mark o l) t c tail next)) := by
  have marked := (runs_removeClass l.id s.config.presentation.invalidClass
    (P.put (.cons l t c tail next))).yields
  rwa [Place.modifyLabel_head wf, ← s.mark_of_valid valid] at marked

/-- The first element in a place is given the mark of an invalid one. -/
theorem yields_addClass (wf : (P.put (.cons l t c tail next)).WellFormed)
    (invalid : o.valid = false) :
    (ask (.addClass l.id s.config.presentation.invalidClass)).Yields
      (P.put (.cons l t c tail next)) () (P.put (.cons (s.mark o l) t c tail next)) := by
  have marked := (runs_addClass l.id s.config.presentation.invalidClass
    (P.put (.cons l t c tail next))).yields
  rwa [Place.modifyLabel_head wf, ← s.mark_of_invalid invalid] at marked

/-- Feedback is in namespaces on a page on which namespaces can be read. -/
theorem spaced_of_legible
    (legible : ∀ n ∈ (P.put (.cons l t c tail (run.append rest))).tree.nodes, s.Legible n)
    (shown : ∀ n ∈ run.tops, s.isFeedback n.label = true) :
    ∀ n ∈ run.tops, ∃ space, n.label.tag.space = .ok space := by
  intro n hn
  have inside : n ∈ (Forest.cons l t c tail (run.append rest)).nodes := by
    simp [Forest.nodes, Forest.mem_nodes_of_mem_tops hn]
  exact legible n (Frame.nodes_subset_plug P.whole _ inside) (.inl (shown n hn))

variable (wf : (P.put (.cons l t c tail (run.append rest))).WellFormed)
  (shown : ∀ n ∈ run.tops, s.isFeedback n.label = true)
  (ends : rest.tops.takeWhile (fun n => s.isFeedback n.label) = [])
include wf shown ends

/-- An outcome is shown behind the first element in a place if the feedback there can be made a run that
shows it. -/
theorem yields_of_relined
    (h : s.Relined o (P.frame.ownerTag P.root.tag) P.page.fresh run run') :
    ∃ gone fresh, (s.applyFeedback l.id o).Yields (P.put (.cons l t c tail (run.append rest))) ()
      (((P.taking gone).numbering fresh).put
        (.cons (s.mark o l) t c (tailAfter o tail run) (run'.append rest))) := by
  have found := feedback_of_run (Place.siblingsAfter_head wf) shown ends
  unfold tailAfter
  cases h with
  | removed run valid =>
    obtain ⟨gone, -, taken⟩ := Place.remove_run run wf
    have removes := (runs_removes run.topIds (P.put (.cons l t c tail (run.append rest)))).yields
    rw [show run.topIds.foldl _ _ = _ from taken] at removes
    have marks := yields_removeClass (s := s) (removes.descends wf).1 valid
    refine ⟨gone, P.page.fresh, yields_bind.2 ⟨_, _, yields_feedback.2 ⟨found, rfl⟩, ?_⟩⟩
    rw [if_pos valid, if_pos valid]
    exact yields_bind.2 ⟨(), _, removes, marks⟩
  | @inserted space breaks invalid spaced made =>
    obtain ⟨n, -, tag, -, container⟩ := exists_container wf
    rw [tag, spaced] at container
    have inserts : (ask (.insertFeedback l.id s.config.presentation.feedbackTag
        s.config.presentation.feedbackClasses o.errors)).Yields _ () _ :=
      (runs_insertFeedback container made (Place.siblingsAfter_head wf)).yields
    rw [Place.withBehind_head wf] at inserts
    have marks := yields_addClass (s := s) (inserts.descends wf).1 invalid
    refine ⟨.nil, P.page.fresh + 1 + breaks.labels.length,
      yields_bind.2 ⟨_, _, yields_feedback.2 ⟨found, rfl⟩, ?_⟩⟩
    rw [if_neg (by simp [invalid]), if_neg (by simp [invalid]), Place.taking_nil]
    exact yields_bind.2 ⟨(), _, inserts, marks⟩
  | replaced lf tf cf between more invalid made =>
    obtain ⟨d₁, set⟩ : ∃ d₁, (setLines lf.id o.errors).run.run
        (P.put (.cons l t c tail (.cons lf tf cf between (more.append rest)))) = (.ok (), d₁) := by
      have inner := wf
      rw [Forest.append, ← Place.put_behind] at inner
      rw [← Place.put_behind, Place.setLines_head_run inner,
        show (P.behind l t c tail).page.fresh = P.page.fresh from rfl, made]
      exact ⟨_, rfl⟩
    obtain ⟨breaks, gone, fresh, made', taken⟩ := relined_run wf set
    obtain rfl := Except.ok.inj (made.symm.trans made')
    have sets : (ask (.setLines lf.id o.errors)).Yields _ () d₁ := set
    have removes := (runs_removes more.topIds d₁).yields
    rw [show more.topIds.foldl _ _ = _ from taken] at removes
    have marks := yields_addClass (s := s) (removes.descends (sets.descends wf).1).1 invalid
    refine ⟨gone, fresh, yields_bind.2 ⟨_, _, yields_feedback.2 ⟨found, rfl⟩, ?_⟩⟩
    rw [if_neg (by simp [invalid]), if_neg (by simp [invalid])]
    exact yields_bind.2 ⟨(), _, sets, yields_bind.2 ⟨(), _, removes, marks⟩⟩

theorem relined_of_yields {d' : Document}
    (h : (s.applyFeedback l.id o).Yields (P.put (.cons l t c tail (run.append rest))) () d') :
    ∃ run', s.Relined o (P.frame.ownerTag P.root.tag) P.page.fresh run run' := by
  obtain ⟨es, d₁, asked, stage⟩ := yields_bind.1 h
  obtain ⟨found, rfl⟩ := yields_feedback.1 asked
  obtain rfl := Except.ok.inj
    ((feedback_of_run (Place.siblingsAfter_head wf) shown ends).symm.trans found)
  cases valid : o.valid with
  | true => exact ⟨.nil, .removed run valid⟩
  | false =>
    rw [if_neg (by simp [valid])] at stage
    cases run with
    | nil =>
      obtain ⟨_, d₂, inserts, -⟩ := yields_bind.1 stage
      obtain ⟨space, breaks, spaced, made, -⟩ := yields_insertFeedback inserts
      obtain ⟨n, -, tag, -, container⟩ := exists_container wf
      rw [tag] at container
      exact ⟨_, .inserted valid (container.symm.trans spaced) made⟩
    | cons lf tf cf between more =>
      obtain ⟨_, d₂, sets, -⟩ := yields_bind.1 stage
      have set := yields_ask.1 sets
      rw [Forest.append, ← Place.put_behind] at wf set
      obtain ⟨breaks, -, made, -⟩ := Place.setLines_head wf set
      exact ⟨_, .replaced lf tf cf between more valid made⟩

/-- Whatever shows an outcome behind the first element in a place leaves a run that shows it, and else
only the mark of the element. -/
theorem exists_relined_of_yields {d' : Document}
    (h : (s.applyFeedback l.id o).Yields (P.put (.cons l t c tail (run.append rest))) () d') :
    ∃ run' gone fresh, s.Relined o (P.frame.ownerTag P.root.tag) P.page.fresh run run' ∧
      P.page.fresh ≤ fresh ∧ d' = ((P.taking gone).numbering fresh).put
        (.cons (s.mark o l) t c (tailAfter o tail run) (run'.append rest)) := by
  obtain ⟨run', relined⟩ := relined_of_yields wf shown ends h
  obtain ⟨gone, fresh, yields⟩ := yields_of_relined wf shown ends relined
  exact ⟨run', gone, fresh, relined, (yields.descends wf).2.1, (yields.unique h).2⟩

end Head

end Setup

end FormGate
