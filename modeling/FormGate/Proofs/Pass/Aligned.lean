import FormGate.Proofs.Pass.Reports
import FormGate.Proofs.Pass.CleanPage

/-!
# Bringing feedback in line as a revision

On a clean page the feedback of a field can always be brought in line with an outcome, nothing is
reported on the way, and but for the numbers of new elements the page is then the one that a revision
makes of it (`Setup.runs_applyFeedback_head`).
-/

namespace FormGate

open Markup Document Pass

/-! ## Runs of feedback in a revision -/

namespace Revision

variable {m : Manner} {R : Revision m}

/-- A forest that does not start with feedback only gets new one in front. -/
theorem apply_of_ended {rest : Forest} (spared : ∀ l ∈ rest.labels, R.Spares l)
    (ends : rest.tops.takeWhile (fun n => m.isFeedback n.label) = []) (owner : Tag)
    (due : Option (List String)) : R.apply owner due rest = ("", m.noted owner due rest) := by
  cases rest with
  | nil => exact R.apply_nil owner due
  | cons l t c tail next =>
    rw [Forest.labels, List.forall_mem_cons, List.forall_mem_append] at spared
    obtain ⟨⟨label, text, lines⟩, below, behind⟩ := spared
    have plain : m.isFeedback l = false := by
      rw [Forest.tops, List.takeWhile_cons] at ends
      split_ifs at ends with shown
      simpa using shown
    rw [R.apply_plain _ _ _ _ _ plain, label, text, lines, apply_of_spared below,
      apply_of_spared behind, String.append_empty]

/-- All feedback with which a forest starts is taken out. -/
theorem apply_run {rest : Forest} (spared : ∀ l ∈ rest.labels, R.Spares l)
    (ends : rest.tops.takeWhile (fun n => m.isFeedback n.label) = []) {run : Forest}
    (shown : ∀ n ∈ run.tops, m.isFeedback n.label = true) (owner : Tag) :
    R.apply owner (some []) (run.append rest) = (run.tails, rest) := by
  induction run with
  | nil => exact apply_of_ended spared ends owner (some [])
  | cons l t c tail next _ ih =>
    rw [Forest.tops, List.forall_mem_cons] at shown
    rw [Forest.append, R.apply_removed _ _ _ _ _ shown.1, ih shown.2]
    rfl

end Revision

namespace Markup

theorem Forest.tops_capped (N : Nat) (f : Forest) :
    (f.capped N).tops = f.tops.map (Node.capped N) := by
  induction f with
  | nil => rfl
  | cons l t c tail next _ ih =>
    rw [capped_cons, tops, tops, ih, List.map_cons]
    rfl

theorem Forest.tails_capped (N : Nat) (f : Forest) : (f.capped N).tails = f.tails := by
  induction f with
  | nil => rfl
  | cons l t c tail next _ ih => rw [capped_cons, tails, tails, ih]

theorem Frame.ownerTag_capped {N : Nat} (K : Frame) (owner : Tag) :
    (K.capped N).ownerTag owner = K.ownerTag owner := by
  induction K generalizing owner with
  | here => rfl
  | inside l t inner tail next ih => exact ih l.tag
  | behind l t c tail inner ih => exact ih owner

/-- The element around an open place holds what is plugged in there. -/
theorem Frame.exists_owner {f : Forest} (some : f ≠ .nil) (K : Frame) (l : Label) (t tail : String)
    (next : Forest) :
    ∃ n ∈ (Forest.cons l t (K.plug f) tail next).nodes, n.label.id = K.owner l.id ∧
      n.label.tag = K.ownerTag l.tag ∧ n.children ≠ .nil := by
  induction K generalizing l t tail next with
  | here => exact ⟨_, List.mem_cons_self, rfl, rfl, some⟩
  | inside l' t' inner tail' next' ih =>
    obtain ⟨n, hn, id, tag, children⟩ := ih l' t' tail' next'
    refine ⟨n, ?_, id, tag, children⟩
    rw [Forest.nodes, Frame.plug]
    exact List.mem_cons_of_mem _ (List.mem_append_left _ hn)
  | behind l' t' c' tail' inner ih =>
    obtain ⟨n, hn, id, tag, children⟩ := ih l t tail next
    rw [Forest.nodes, List.mem_cons, List.mem_append] at hn
    rcases hn with rfl | below | after
    · refine ⟨_, List.mem_cons_self, id, tag, ?_⟩
      intro none
      cases none
    · refine ⟨n, ?_, id, tag, children⟩
      simp [Forest.nodes, Frame.plug, below]
    · refine ⟨n, ?_, id, tag, children⟩
      simp [Forest.nodes, after]

end Markup

/-! ## Line breaks -/

namespace Document

theorem exists_breaksIn {tag : Tag} {space : String} (spaced : tag.space = .ok space) (fresh : Nat)
    (lines : List String) : ∃ breaks, breaksIn tag fresh lines = .ok breaks := by
  unfold breaksIn
  split_ifs
  · exact ⟨_, rfl⟩
  · rw [spaced]
    exact ⟨_, rfl⟩

/-- Line breaks with new numbers are the line breaks of a revision. -/
theorem capped_breaksIn (m : Manner) {tag : Tag} {fresh : Nat} {lines : List String} {breaks : Forest}
    (made : breaksIn tag fresh lines = .ok breaks) (new : m.number ≤ fresh) :
    breaks.capped m.number = m.breaks tag lines := by
  unfold Manner.breaks
  unfold breaksIn at made ⊢
  split_ifs at made ⊢
  · cases made
    rfl
  · cases spaced : tag.space with
    | error e =>
      rw [spaced] at made
      cases made
    | ok space =>
      rw [spaced] at made
      cases made
      exact capped_breaks _ new _

end Document

/-! ## Calls that succeed -/

namespace Pass

theorem runs_removes (es : List Element) (d : Document) :
    (es.forM fun f => ask (.remove f)).Runs d () (es.foldl Document.remove d) [] := by
  induction es generalizing d with
  | nil => exact .pure () d
  | cons e es ih => exact .bind_silent (.ask rfl) (ih (d.remove e))

theorem runs_addClass (e : Element) (name : String) (d : Document) :
    (ask (.addClass e name)).Runs d () (d.modifyLabel e (labelWithClass name)) [] :=
  .ask rfl

theorem runs_removeClass (e : Element) (name : String) (d : Document) :
    (ask (.removeClass e name)).Runs d () (d.modifyLabel e (labelWithoutClass name)) [] :=
  .ask rfl

theorem runs_insertFeedback {d : Document} {e : Element} {space tag : String}
    {classes lines : List String} {breaks f : Forest} (spaced : d.space (d.container e) = .ok space)
    (made : breaksIn (.element (space ++ tag)) (d.fresh + 1) lines = .ok breaks)
    (after : d.siblingsAfter e = .ok f) :
    (ask (.insertFeedback e tag classes lines)).Runs d ()
      (d.withBehind e (feedbackNode d.fresh (.element (space ++ tag)) classes lines breaks)) [] := by
  refine .ask ?_
  rw [Call.perform, insertFeedback_run, spaced]
  dsimp only
  rw [made]
  dsimp only
  rw [after]
  rfl

end Pass

namespace Setup

variable {s : Setup} {distinct : s.Distinct} {N : Nat} {R : Revision (s.manner distinct N)}

/-! ## The first element in a place -/

section Head

variable {P : Place} {l : Label} {t : String} {c : Forest} {tail : String} {next : Forest}
  (wf : (P.put (.cons l t c tail next)).WellFormed)
include wf

/-- The element that holds another one is the owner of its place. -/
theorem exists_container : ∃ n ∈ (P.put (.cons l t c tail next)).tree.nodes,
    n.label.tag = P.frame.ownerTag P.root.tag ∧ n.children ≠ .nil ∧
    (P.put (.cons l t c tail next)).space ((P.put (.cons l t c tail next)).container l.id) =
      n.label.tag.space := by
  have parent : (P.put (.cons l t c tail next)).parent? l.id = some (P.frame.owner P.root.id) := by
    rw [Place.parent?_put (Place.misses_head wf), Forest.parent?, if_pos rfl]
  have filled : Forest.cons l t c tail next ≠ .nil := by
    intro none
    cases none
  obtain ⟨n, hn, id, tag, children⟩ := Frame.exists_owner filled P.frame P.root P.text P.tail P.next
  have label : (P.put (.cons l t c tail next)).label? (P.frame.owner P.root.id) = some n.label :=
    wf.label?_eq_some.2
      ⟨List.mem_append_left _ (Forest.labels_subset_of_mem_nodes hn List.mem_cons_self), id⟩
  refine ⟨n, hn, tag, children, ?_⟩
  rw [Document.container, parent, Option.getD_some, Document.space, label]

theorem space_container (legible : ∀ n ∈ (P.put (.cons l t c tail next)).tree.nodes, s.Legible n) :
    ∃ space, (P.frame.ownerTag P.root.tag).space = .ok space ∧
      (P.put (.cons l t c tail next)).space ((P.put (.cons l t c tail next)).container l.id) =
        .ok space := by
  obtain ⟨n, hn, tag, children, container⟩ := exists_container wf
  obtain ⟨space, spaced⟩ := legible n hn (.inr children)
  exact ⟨space, tag ▸ spaced, container.trans spaced⟩

end Head

/-- The feedback behind the first element in a place was brought in line with lines by a revision. -/
def Aligned (R : Revision (s.manner distinct N)) (lines : List String) (P : Place) (l : Label)
    (t : String) (c : Forest) (tail : String) (next : Forest) (d : Document) : Prop :=
  ∃ tail' next' gone fresh,
    d = ((P.taking gone).numbering fresh).put (.cons l t c tail' next') ∧
    (tail', next'.capped N) =
      (tail ++ (R.apply (P.frame.ownerTag P.root.tag) (some lines) (next.capped N)).1,
        (R.apply (P.frame.ownerTag P.root.tag) (some lines) (next.capped N)).2)

section Cases

variable {P : Place} {l : Label} {t : String} {c : Forest} {tail : String} {run rest : Forest}
  (shown : ∀ n ∈ run.tops, s.isFeedback n.label = true)
  (ends : rest.tops.takeWhile (fun n => s.isFeedback n.label) = [])
  (spared : ∀ l ∈ (rest.capped N).labels, R.Spares l)

include ends in
theorem ends_capped : (rest.capped N).tops.takeWhile (fun n => s.isFeedback n.label) = [] := by
  have kind : ((fun n : Node => s.isFeedback n.label) ∘ Node.capped N) =
      fun n => s.isFeedback n.label := rfl
  rw [Forest.tops_capped, List.takeWhile_map, kind, ends]
  rfl

include shown in
theorem shown_capped : ∀ n ∈ (run.capped N).tops, s.isFeedback n.label = true := by
  rw [Forest.tops_capped]
  intro n hn
  obtain ⟨n', hn', rfl⟩ := List.mem_map.1 hn
  exact shown n' hn'

include shown ends spared

/-- All feedback is taken out where no lines are due. -/
theorem aligned_removed (wf : (P.put (.cons l t c tail (run.append rest))).WellFormed) :
    Aligned R [] P l t c tail (run.append rest) ((run.tops.map (·.label.id)).foldl Document.remove
      (P.put (.cons l t c tail (run.append rest)))) := by
  obtain ⟨Q, -, removed⟩ := Place.remove_run run wf
  refine ⟨tail ++ run.tails, rest, Q, P.page.fresh, removed, ?_⟩
  rw [Forest.capped_append, Revision.apply_run spared (ends_capped ends) (shown_capped shown),
    Forest.tails_capped]

/-- The first feedback element is given new lines, and all others are taken out. -/
theorem exists_aligned_replaced {lf : Label} {tf : String} {cf : Forest} {between : String}
    (feedback : s.isFeedback lf = true) {space : String} (spaced : lf.tag.space = .ok space)
    (new : N ≤ P.page.fresh) (line : String) (lines : List String)
    (wf : (P.put (.cons l t c tail (.cons lf tf cf between (run.append rest)))).WellFormed) :
    ∃ d₁, (setLines lf.id (line :: lines)).run.run
        (P.put (.cons l t c tail (.cons lf tf cf between (run.append rest)))) = (.ok (), d₁) ∧
      Aligned R (line :: lines) P l t c tail (.cons lf tf cf between (run.append rest))
        ((run.tops.map (·.label.id)).foldl Document.remove d₁) := by
  have kept := (descends_setLines _ lf.id (line :: lines) wf).1
  rw [← Place.put_behind] at wf kept ⊢
  have held := Tag.space_holding spaced (line :: lines)
  obtain ⟨breaks, made⟩ := exists_breaksIn held P.page.fresh (line :: lines)
  have set := Place.setLines_head_run wf (line :: lines)
  rw [show (P.behind l t c tail).page.fresh = P.page.fresh from rfl, made] at set
  dsimp only at set
  rw [set] at kept
  obtain ⟨Q, -, removed⟩ := Place.remove_run run kept
  refine ⟨_, set, tail, .cons (lf.relined (line :: lines)) line breaks (between ++ run.tails) rest,
    cf.append Q, P.page.fresh + breaks.labels.length, ?_, ?_⟩
  · refine removed.trans ?_
    rw [← Place.taking_taking]
    exact Place.put_behind (((P.taking cf).taking Q).numbering _) l t c tail _
  · have lined : breaks.capped N = (s.manner distinct N).breaks (lf.tag.holding (line :: lines))
        (line :: lines) := capped_breaksIn (s.manner distinct N) made new
    have shown' : (s.manner distinct N).isFeedback (lf.capped N) = true := feedback
    have revised : R.apply (P.frame.ownerTag P.root.tag) (some (line :: lines))
        ((Forest.cons lf tf cf between (run.append rest)).capped N) =
          ("", .cons ((lf.capped N).relined (line :: lines)) line (breaks.capped N)
            (between ++ run.tails) (rest.capped N)) := by
      rw [Forest.capped_cons, R.apply_relined _ _ _ _ _ shown', Forest.capped_append,
        Revision.apply_run spared (ends_capped ends) (shown_capped shown), Forest.tails_capped, lined]
      rfl
    rw [revised, String.append_empty]
    rfl

omit shown

/-- The first feedback element is put in where there is none. -/
theorem exists_aligned_inserted (clean : s.CleanSince N (P.put (.cons l t c tail rest)))
    (named : '\x7b' ∉ s.config.presentation.feedbackTag.toList) (line : String)
    (lines : List String) :
    ∃ d₁, (ask (.insertFeedback l.id s.config.presentation.feedbackTag
        s.config.presentation.feedbackClasses (line :: lines))).Runs (P.put (.cons l t c tail rest)) ()
          d₁ [] ∧
      Aligned R (line :: lines) P l t c tail rest d₁ := by
  have wf := clean.wellFormed
  obtain ⟨space, spaced, container⟩ := space_container wf fun n hn => (clean.tidy n hn).spaced
  obtain ⟨space', spaced'⟩ := Tag.exists_space spaced named
  obtain ⟨breaks, made⟩ := exists_breaksIn spaced' (P.page.fresh + 1) (line :: lines)
  have behind := Place.withBehind_head wf (feedbackNode P.page.fresh
    (.element (space ++ s.config.presentation.feedbackTag)) s.config.presentation.feedbackClasses
    (line :: lines) breaks)
  refine ⟨_, runs_insertFeedback container made (Place.siblingsAfter_head wf), tail,
    .cons ⟨P.page.fresh, .element (space ++ s.config.presentation.feedbackTag),
      (s.manner distinct N).attributes⟩ line breaks "" rest, .nil,
    P.page.fresh + 1 + breaks.labels.length, ?_, ?_⟩
  · rw [Place.taking_nil]
    exact behind
  have new : N ≤ P.page.fresh := clean.fresh
  have lined : breaks.capped N = (s.manner distinct N).breaks
      (.element (space ++ s.config.presentation.feedbackTag)) (line :: lines) :=
    capped_breaksIn (s.manner distinct N) made (Nat.le_succ_of_le new)
  have tag : (s.manner distinct N).tag (P.frame.ownerTag P.root.tag) =
      .element (space ++ s.config.presentation.feedbackTag) := by
    unfold Manner.tag
    rw [spaced]
    rfl
  rw [Revision.apply_of_ended spared (ends_capped ends), Manner.noted, String.append_empty,
    Forest.capped_cons, Manner.label, tag, lined, Label.capped, Nat.min_eq_right new]
  rfl

end Cases

/-! ## Bringing in line -/

/-- What a page shows of a field can be brought in line with an outcome, and this is a revision. -/
theorem runs_applyFeedback_head {P : Place} {l : Label} {t : String} {c : Forest} {tail : String}
    {next : Forest} (clean : s.CleanSince N (P.put (.cons l t c tail next)))
    (named : '\x7b' ∉ s.config.presentation.feedbackTag.toList)
    (spared : ∀ l ∈ (next.capped N).labels, R.Spares l) (o : Outcome) :
    ∃ d', (s.applyFeedback l.id o).Runs (P.put (.cons l t c tail next)) () d' [] ∧
      Aligned R o.errors P (s.mark o l) t c tail next d' := by
  have wf := clean.wellFormed
  obtain ⟨run, rest, rfl, run_tops, shown, ends⟩ :=
    Forest.exists_run (fun n => s.isFeedback n.label) next
  have found : (P.put (.cons l t c tail (run.append rest))).feedback l.id
      s.config.presentation.feedbackClass = .ok (run.tops.map (·.label.id)) := by
    rw [feedback, Place.siblingsAfter_head wf, run_tops]
    rfl
  have asked : (ask (.feedback l.id s.config.presentation.feedbackClass)).Runs
      (P.put (.cons l t c tail (run.append rest))) (run.tops.map (·.label.id))
      (P.put (.cons l t c tail (run.append rest))) [] := .ask (congrArg (·, _) found)
  have spared' : ∀ l ∈ (rest.capped N).labels, R.Spares l := fun l hl =>
    spared l (by simp [Forest.capped_append, hl])
  -- in the end the label is changed, whatever was done before
  have marked {d : Document} (wf' : d.WellFormed)
      (aligned : Aligned R o.errors P l t c tail (run.append rest) d) :
      Aligned R o.errors P (s.mark o l) t c tail (run.append rest) (d.modifyLabel l.id (s.mark o)) := by
    obtain ⟨tail', next', gone, fresh, rfl, revised⟩ := aligned
    exact ⟨tail', next', gone, fresh, Place.modifyLabel_head wf' (s.mark o), revised⟩
  unfold applyFeedback
  dsimp only
  cases errors : o.errors with
  | nil =>
    have valid : o.valid = true := by rw [Outcome.valid, errors]; rfl
    have removes := runs_removes (run.tops.map (·.label.id)) (P.put (.cons l t c tail (run.append rest)))
    have aligned := aligned_removed (R := R) shown ends spared' wf
    rw [errors] at marked
    refine ⟨_, asked.bind_silent ?_, marked (removes.yields.descends wf).1 aligned⟩
    rw [if_pos valid, s.mark_of_valid valid]
    exact removes.bind_silent (runs_removeClass l.id _ _)
  | cons line lines =>
    have invalid : o.valid = false := by rw [Outcome.valid, errors]; rfl
    rw [errors] at marked
    cases run with
    | nil =>
      obtain ⟨d₁, inserted, aligned⟩ := exists_aligned_inserted (R := R) ends spared' clean named line
        lines
      refine ⟨_, asked.bind_silent ?_, marked (inserted.yields.descends wf).1 aligned⟩
      rw [if_neg (by simp [invalid]), s.mark_of_invalid invalid]
      exact inserted.bind_silent (runs_addClass l.id _ _)
    | cons lf tf cf between run =>
      rw [Forest.tops, List.forall_mem_cons] at shown
      have feedback : s.isFeedback lf = true := shown.1
      obtain ⟨space, spaced⟩ : ∃ space, lf.tag.space = .ok space := by
        refine (clean.tidy ⟨lf, tf, cf, between⟩ ?_).spaced (.inl feedback)
        exact Frame.nodes_subset_plug P.whole _ (by simp [Forest.append, Forest.nodes])
      obtain ⟨d₁, set, aligned⟩ := exists_aligned_replaced (R := R) shown.2 ends spared' feedback
        spaced clean.fresh line lines wf
      have first : (ask (.setLines lf.id (line :: lines))).Runs _ () d₁ [] := .ask set
      have removes := runs_removes (run.tops.map (·.label.id)) d₁
      refine ⟨_, asked.bind_silent ?_, marked (removes.yields.descends
        (first.yields.descends wf).1).1 aligned⟩
      rw [if_neg (by simp [invalid]), s.mark_of_invalid invalid, Forest.tops, List.map_cons]
      exact first.bind_silent (removes.bind_silent (runs_addClass l.id _ _))

end Setup

end FormGate
