import FormGate.Proofs.Pass.Aligned
import FormGate.Proofs.Pass.Consistency

/-!
# The turn of a field as a revision

What the turns of fields make of a page is one revision: values are written back, fields are marked,
and feedback is brought in line. On a clean page the turn of a single field is such a revision and
leaves the page clean (`Setup.runs_turn`).
-/

namespace FormGate

open Markup Document Pass

namespace Setup

variable {s : Setup}

/-- Marks fields by their outcomes and brings their feedback in line. -/
def marking (s : Setup) (distinct : s.Distinct) (N : Nat) (out : Element → Outcome)
    (es : List Element) : Revision (s.manner distinct N) where
  label l := if l.id ∈ es then s.mark (out l.id) l else l
  text _ t := t
  lines x := if x ∈ es then some (out x).errors else none
  id l := by
    split_ifs
    · exact (kin_mark _ l).id
    · rfl
  tag l := by
    split_ifs
    · exact tag_mark _ l
    · rfl
  feedback l := by
    split_ifs
    · exact isFeedback_mark distinct _ l
    · rfl

/-- The values that are written back to fields by their outcomes. -/
def replacedIn (out : Element → Outcome) (es : List Element) (e : Element) : Option String :=
  if e ∈ es then (out e).replaced else none

/-- What the turns of fields make of a page. -/
def turns (s : Setup) (distinct : s.Distinct) (N : Nat) (out : Element → Outcome)
    (es : List Element) : Revision (s.manner distinct N) :=
  (s.marking distinct N out es).after (.filling _ (replacedIn out es))

section Turns

variable {distinct : s.Distinct} {N : Nat} {out : Element → Outcome} {es : List Element}

theorem label_turns (l : Label) : (s.turns distinct N out es).label l =
    if l.id ∈ es then s.mark (out l.id) (l.filled (out l.id).replaced) else l := by
  show (if (l.filled (replacedIn out es l.id)).id ∈ es then
    s.mark (out (l.filled (replacedIn out es l.id)).id) (l.filled (replacedIn out es l.id))
    else l.filled (replacedIn out es l.id)) = _
  rw [Label.id_filled]
  unfold replacedIn
  split_ifs <;> rfl

theorem text_turns (l : Label) (t : String) : (s.turns distinct N out es).text l t =
    if l.id ∈ es then l.textFilled (out l.id).replaced t else t := by
  show l.textFilled (replacedIn out es l.id) t = _
  unfold replacedIn
  split_ifs <;> rfl

theorem lines_turns (x : Element) : (s.turns distinct N out es).lines x =
    if x ∈ es then some (out x).errors else none := by
  show Option.or _ none = _
  rw [Option.or_none]
  rfl

/-- Two sequences of turns of different fields, one after the other. -/
theorem turns_after {es' : List Element} (apart : ∀ e ∈ es', e ∉ es) :
    (s.turns distinct N out es').after (s.turns distinct N out es) =
      s.turns distinct N out (es' ++ es) := by
  have member {x : Element} : x ∈ es' ++ es ↔ x ∈ es' ∨ x ∈ es := List.mem_append
  refine Revision.ext (funext fun l => ?_) (funext₂ fun l t => ?_) (funext fun x => ?_)
  · show (s.turns distinct N out es').label ((s.turns distinct N out es).label l) = _
    rw [label_turns, Revision.id, label_turns, label_turns]
    by_cases first : l.id ∈ es
    · have other : l.id ∉ es' := fun again => apart _ again first
      rw [if_neg other, if_pos first, if_pos (member.2 (.inr first))]
    · by_cases second : l.id ∈ es'
      · rw [if_pos second, if_neg first, if_pos (member.2 (.inl second))]
      · rw [if_neg second, if_neg first, if_neg fun either => (member.1 either).elim second first]
  · show (s.turns distinct N out es').text ((s.turns distinct N out es).label l)
      ((s.turns distinct N out es).text l t) = _
    rw [text_turns, Revision.id, text_turns, text_turns, label_turns]
    by_cases first : l.id ∈ es
    · have other : l.id ∉ es' := fun again => apart _ again first
      rw [if_neg other, if_pos first, if_pos (member.2 (.inr first))]
    · by_cases second : l.id ∈ es'
      · rw [if_pos second, if_neg first, if_neg first, if_pos (member.2 (.inl second))]
      · rw [if_neg second, if_neg first, if_neg fun either => (member.1 either).elim second first]
  · show Option.or ((s.turns distinct N out es').lines x) ((s.turns distinct N out es).lines x) = _
    rw [lines_turns, lines_turns, lines_turns]
    by_cases second : x ∈ es'
    · rw [if_pos second, if_pos (member.2 (.inl second))]
      rfl
    · rw [if_neg second, Option.none_or]
      simp [second]

theorem turns_congr {es' : List Element} (same : ∀ e, e ∈ es' ↔ e ∈ es) :
    s.turns distinct N out es' = s.turns distinct N out es := by
  have replaced : replacedIn out es' = replacedIn out es := by
    funext e
    simp only [replacedIn, same]
  simp only [turns, marking, replaced, same]

theorem spares_marking {l : Label} (other : l.id ∉ es) : (s.marking distinct N out es).Spares l :=
  ⟨if_neg other, fun _ => rfl, if_neg other⟩

theorem get?_mark (o : Outcome) (l : Label) {a : String} (other : a ≠ "class") :
    (s.mark o l).get? a = l.get? a := by
  have classes (cs : List String) : (withClasses l cs).get? a = l.get? a := by
    unfold withClasses
    split_ifs
    · exact Label.get?_erase_of_ne other
    · exact Label.get?_set_of_ne _ other
  unfold mark labelWithoutClass labelWithClass
  split_ifs
  · exact classes _
  · rfl
  · rfl
  · exact classes _

variable (distinct N out es) in
theorem keeps_marking {a : String} (other : a ≠ "class") :
    (s.marking distinct N out es).Keeps a := by
  intro l
  show (if l.id ∈ es then s.mark (out l.id) l else l).get? a = l.get? a
  split_ifs
  · exact get?_mark _ l other
  · rfl

theorem keeps_turns {a : String} (other : a ≠ "class") (other' : a ≠ "value") :
    (s.turns distinct N out es).Keeps a := by
  intro l
  have marked := keeps_marking distinct N out es other (l.filled (replacedIn out es l.id))
  exact marked.trans (l.get?_filled _ other')

theorem spares_turns {l : Label} (other : l.id ∉ es) : (s.turns distinct N out es).Spares l := by
  refine ⟨?_, fun t => ?_, ?_⟩
  · rw [label_turns, if_neg other]
  · rw [text_turns, if_neg other]
  · rw [lines_turns, if_neg other]

theorem writes_turns : (s.turns distinct N out es).Writes (replacedIn out es) := by
  have filling : (Revision.filling (s.manner distinct N) (replacedIn out es)).Writes
    (replacedIn out es) := Revision.writes_filling
  have value (l : Label) := keeps_marking distinct N out es (a := "value") (by decide)
    (l.filled (replacedIn out es l.id))
  constructor
  · intro l unwritten
    obtain ⟨text, own⟩ := filling.kept l unwritten
    exact ⟨text, (value l).trans own⟩
  · exact filling.text
  · intro l v written other
    exact (value l).trans (filling.value l v written other)
  · exact keeps_turns (by decide) (by decide)

end Turns

/-! ## A single turn -/

section Turn

variable {distinct : s.Distinct} {N : Nat}

/-- A revision of the first element in a place of a clean page, and of what stands behind it. -/
theorem forest_put {R : Revision (s.manner distinct N)} {P : Place} {l : Label} {t : String}
    {c : Forest} {tail : String} {next : Forest}
    (clean : s.CleanSince N (P.put (.cons l t c tail next))) (field : s.isField l = true)
    (spared : ∀ l' : Label, l'.id ≠ l.id → R.Spares l') :
    R.forest ((P.put (.cons l t c tail next)).tree.capped N) =
      (P.whole.capped N).plug (.cons (R.label l) (R.text l t) (c.capped N)
        (tail ++ (R.apply (P.frame.ownerTag P.root.tag) (R.lines l.id) (next.capped N)).1)
        (R.apply (P.frame.ownerTag P.root.tag) (R.lines l.id) (next.capped N)).2) := by
  have wf := clean.wellFormed
  have here : l ∈ (P.put (.cons l t c tail next)).tree.labels :=
    P.whole.labels_subset_plug _ List.mem_cons_self
  have not_plain := not_plain_of_isField distinct field
  have old := old_of_not_plain clean here not_plain
  have found : (P.put (.cons l t c tail next)).tree.find? l.id = some ⟨l, t, c, tail⟩ := by
    rw [Place.find?_put (Place.misses_head wf), Forest.find?_here rfl]
  have clear := clear_of_not_plain distinct clean found old List.mem_cons_self not_plain
  have misses := Place.misses_head wf
  have absent : l.id ∉ (P.whole.capped N).ids := by
    rw [Frame.mem_ids_capped old]
    simp only [Place.whole, Frame.ids, List.mem_cons, List.mem_append, not_or]
    exact ⟨Ne.symm misses.root, misses.frame, misses.next⟩
  have below : l.id ∉ (c.capped N).ids := by
    rw [Forest.mem_ids_capped old]
    exact (Forest.nodup_cons (Place.nodup_put wf)).1
  have capped : (P.put (.cons l t c tail next)).tree.capped N =
      (P.whole.capped N).plug (.cons l t (c.capped N) tail (next.capped N)) := by
    have plugged := P.whole.capped_plug (N := N) (.cons l t c tail next)
    rw [Forest.capped_cons, Label.capped_of_le (Nat.le_of_lt old)] at plugged
    exact plugged
  have owner : (P.whole.capped N).ownerTag (.element "") = P.frame.ownerTag P.root.tag :=
    Frame.ownerTag_capped P.frame P.root.tag
  rw [capped] at clear ⊢
  unfold Revision.forest
  rw [Revision.apply_plug_cons spared absent below clear, owner]

theorem exists_place {d : Document} (clean : s.Clean d) {l : Label} (hl : l ∈ d.tree.labels)
    (field : s.isField l = true) :
    ∃ P t c tail next, d = Place.put P (.cons l t c tail next) := by
  have parent : ∃ p, d.parent? l.id = some p := by
    have rooted := clean.rooted
    unfold Document.parent?
    cases tree : d.tree with
    | nil =>
      rw [tree] at rooted
      exact rooted.elim
    | cons r t c tail next =>
      rw [tree] at rooted hl
      cases next with
      | cons l' t' c' tail' next => exact rooted.elim
      | nil =>
        rw [Forest.labels, List.mem_cons] at hl
        rcases hl with rfl | below
        · rw [show s.isField l = false from rooted] at field
          cases field
        · refine Forest.exists_parent (Forest.id_mem_ids ?_) r.id
          simpa [Forest.labels] using below
  obtain ⟨p, parent⟩ := parent
  obtain ⟨P, l', t, c, tail, next, rfl, id⟩ := Place.exists_put clean.wellFormed parent
  have here : l' ∈ (P.put (.cons l' t c tail next)).tree.labels :=
    P.whole.labels_subset_plug _ List.mem_cons_self
  obtain rfl := clean.wellFormed.unique (List.mem_append_left _ here) (List.mem_append_left _ hl) id
  exact ⟨P, t, c, tail, next, rfl⟩

theorem runs_writeBack_head {P : Place} {l : Label} {t : String} {c : Forest} {tail : String}
    {next : Forest} (wf : (P.put (.cons l t c tail next)).WellFormed)
    (bare : l.tag.localName = "textarea" → c = .nil) {r : Descriptor × Outcome}
    (element : r.1.element = l.id) (fixed : l.tag.localName = "select" → r.2.replaced = none) :
    (writeBack r).Runs (P.put (.cons l t c tail next)) r
      (P.put (.cons (l.filled r.2.replaced) (l.textFilled r.2.replaced t) c tail next)) [] := by
  unfold writeBack
  rw [element]
  cases replaced : r.2.replaced with
  | none => exact .pure r _
  | some v =>
    obtain ⟨l', t', c', refilled, written⟩ := Place.setValue_head wf bare v
    have filled : l' = l.filled (some v) ∧ t' = l.textFilled (some v) t ∧ c' = c := by
      unfold Label.filled Label.textFilled
      dsimp only
      cases refilled with
      | text v textarea bare =>
        rw [if_pos textarea, if_pos textarea, bare]
        exact ⟨rfl, rfl, rfl⟩
      | options v select =>
        rw [fixed select] at replaced
        cases replaced
      | value v textarea _ =>
        rw [if_neg textarea, if_neg textarea]
        exact ⟨rfl, rfl, rfl⟩
    obtain ⟨rfl, rfl, rfl⟩ := filled
    exact .bind_silent (.ask (congrArg (Prod.mk _) written)) (.pure r _)

section Head

variable (distinct) (named : '\x7b' ∉ s.config.presentation.feedbackTag.toList) {P : Place}
  {l : Label} {t : String} {c : Forest} {tail : String} {next : Forest}
  (clean : s.CleanSince N (P.put (.cons l t c tail next))) (field : s.isField l = true)
include distinct clean field

theorem old_of_isField : l.id < N :=
  old_of_not_plain clean (P.whole.labels_subset_plug _ List.mem_cons_self)
    (not_plain_of_isField distinct field)

theorem ne_of_mem_behind : ∀ l' ∈ (next.capped N).labels, l'.id ≠ l.id := by
  intro l' hl' same
  have absent := (Forest.nodup_cons (Place.nodup_put clean.wellFormed)).2.1
  rw [← Forest.mem_ids_capped (old_of_isField distinct clean field), ← same] at absent
  exact absent (Forest.id_mem_ids hl')

theorem capped_put (l' : Label) (id : l'.id = l.id) (t : String) (c : Forest) (tail : String)
    (next : Forest) : (P.put (.cons l' t c tail next)).tree.capped N =
      (P.whole.capped N).plug (.cons l' t (c.capped N) tail (next.capped N)) := by
  have plugged := P.whole.capped_plug (N := N) (.cons l' t c tail next)
  have old := old_of_isField distinct clean field
  rw [Forest.capped_cons, Label.capped_of_le (by omega)] at plugged
  exact plugged

include named

/-- Writing a value is a revision that leaves the page clean. -/
theorem filled_head (v : Option String)
    (wf : (P.put (.cons (l.filled v) (l.textFilled v t) c tail next)).WellFormed) :
    s.CleanSince N (P.put (.cons (l.filled v) (l.textFilled v t) c tail next)) ∧
      (P.put (.cons (l.filled v) (l.textFilled v t) c tail next)).tree.capped N =
        (Revision.filling (s.manner distinct N) fun x => if x = l.id then v else none).forest
          ((P.put (.cons l t c tail next)).tree.capped N) := by
  have spared (l' : Label) (other : l'.id ≠ l.id) :
      (Revision.filling (s.manner distinct N) fun x => if x = l.id then v else none).Spares l' :=
    Revision.spares_filling (if_neg other)
  have old := old_of_isField distinct clean field
  have untouched (owner : Tag) := Revision.apply_of_spared
    (fun l' hl' => spared l' (ne_of_mem_behind distinct clean field l' hl')) owner
  have tree : (P.put (.cons (l.filled v) (l.textFilled v t) c tail next)).tree.capped N =
      (Revision.filling (s.manner distinct N) fun x => if x = l.id then v else none).forest
        ((P.put (.cons l t c tail next)).tree.capped N) := by
    rw [forest_put clean field spared, capped_put distinct clean field (l.filled v) (l.id_filled v),
      show (Revision.filling (s.manner distinct N) _).lines l.id = none from rfl, untouched,
      String.append_empty]
    show _ = (P.whole.capped N).plug (.cons (l.filled (if l.id = l.id then v else none))
      (l.textFilled (if l.id = l.id then v else none) t) _ _ _)
    rw [if_pos rfl]
  refine ⟨clean.revised ?_ named ?_ ?_ wf clean.fresh tree, tree⟩
  · exact Revision.keeps_filling fun same => distinct.rules (by simp [same, written])
  · intro l' late
    exact spared l' (by omega)
  · exact fun _ due => absurd rfl due

/-- Bringing what the page shows of a field in line with its outcome is a revision. -/
theorem runs_marking_head {out : Element → Outcome} {o : Outcome} (outcome : out l.id = o) :
    ∃ d', (s.applyFeedback l.id o).Runs (P.put (.cons l t c tail next)) () d' [] ∧
      d'.tree.capped N =
        (s.marking distinct N out [l.id]).forest ((P.put (.cons l t c tail next)).tree.capped N) := by
  have spared (l' : Label) (other : l'.id ≠ l.id) : (s.marking distinct N out [l.id]).Spares l' :=
    spares_marking fun same => other (List.mem_singleton.1 same)
  obtain ⟨d', runs, tail', next', gone, fresh, rfl, revised⟩ :=
    runs_applyFeedback_head (R := s.marking distinct N out [l.id]) clean named
      (fun l' hl' => spared l' (ne_of_mem_behind distinct clean field l' hl')) o
  rw [Prod.mk.injEq] at revised
  refine ⟨_, runs, ?_⟩
  have label : (s.marking distinct N out [l.id]).label l = s.mark o l := by
    rw [← outcome]
    exact if_pos List.mem_cons_self
  have lines : (s.marking distinct N out [l.id]).lines l.id = some o.errors := by
    rw [← outcome]
    exact if_pos List.mem_cons_self
  rw [forest_put clean field spared, label, lines, ← revised.1, ← revised.2]
  exact capped_put distinct clean field (s.mark o l) (kin_mark o l).id t c tail' next'

end Head

/-- The value of a judged field is written back, and the page shows its outcome. This is the turn of
the field as a revision. -/
theorem runs_turn (distinct : s.Distinct)
    (named : '\x7b' ∉ s.config.presentation.feedbackTag.toList) {d : Document}
    (clean : s.CleanSince N d) {e : Element} {n : Node} (found : d.tree.find? e = some n)
    (field : s.isField n.label = true) {r : Descriptor × Outcome} (element : r.1.element = e)
    (fixed : n.label.tag.localName = "select" → r.2.replaced = none) {out : Element → Outcome}
    (outcome : out e = r.2) :
    ∃ d', (do
        let r ← writeBack r
        s.applyFeedback e r.2
        return r : Pass (Descriptor × Outcome)).Runs d r d' [] ∧ s.CleanSince N d' ∧
      d'.tree.capped N = (s.turns distinct N out [e]).forest (d.tree.capped N) := by
  have wf := clean.wellFormed
  have hn := Forest.nodes_of_find? found List.mem_cons_self
  have hl : n.label ∈ d.tree.labels := Forest.labels_subset_of_mem_nodes hn List.mem_cons_self
  have plain := isFeedback_of_not_plain clean hn (not_plain_of_isField distinct field)
  have bare := ((clean.tidy n hn).writable plain).textarea
  obtain ⟨P, t, c, tail, next, rfl⟩ := exists_place clean.toClean hl field
  obtain ⟨l, t', c', tail'⟩ := n
  obtain rfl : l.id = e := Forest.find?_id found
  rw [Place.find?_put (Place.misses_head wf), Forest.find?_here rfl, Option.some.injEq,
    Node.mk.injEq] at found
  obtain ⟨-, rfl, rfl, rfl⟩ := found
  have wrote := runs_writeBack_head wf bare element fixed
  have wf₁ := (wrote.yields.descends wf).1
  obtain ⟨clean₁, tree₁⟩ := filled_head distinct named clean field r.2.replaced wf₁
  have field₁ : s.isField (l.filled r.2.replaced) = true := by
    rw [← field]
    unfold isField
    rw [Label.has_eq_isSome, Label.has_eq_isSome, l.get?_filled]
    exact fun same => distinct.rules (by simp [same, written])
  have outcome₁ : out (l.filled r.2.replaced).id = r.2 := by rw [Label.id_filled, outcome]
  obtain ⟨d', shown, tree₂⟩ := runs_marking_head distinct named clean₁ field₁ outcome₁
  rw [Label.id_filled] at shown tree₂
  have runs := wrote.bind_silent (f := fun r => do s.applyFeedback l.id r.2; return r)
    (shown.bind_silent (.pure r d'))
  have replaced : (fun x => if x = l.id then r.2.replaced else none) = replacedIn out [l.id] := by
    funext x
    unfold replacedIn
    by_cases same : x = l.id
    · rw [if_pos same, if_pos (List.mem_singleton.2 same), same, outcome]
    · rw [if_neg same, if_neg fun member => same (List.mem_singleton.1 member)]
  have tree : d'.tree.capped N = (s.turns distinct N out [l.id]).forest
      ((P.put (.cons l t c tail next)).tree.capped N) := by
    rw [tree₂, tree₁, replaced]
    exact (Revision.forest_after _ _ (fun _ => Revision.agree_none _) _).symm
  have old : l.id < N := old_of_isField distinct clean field
  obtain ⟨wf', fresh, -⟩ := runs.yields.descends wf
  refine ⟨d', runs, clean.revised ?_ named ?_ ?_ wf' (Nat.le_trans clean.fresh fresh) tree, tree⟩
  · exact keeps_turns (fun same => distinct.rules (by simp [same, written]))
      fun same => distinct.rules (by simp [same, written])
  · intro l' late
    refine spares_turns fun member => ?_
    rw [List.mem_singleton.1 member] at late
    omega
  · intro x due
    rw [lines_turns] at due
    have here : x ∈ [l.id] := by
      by_contra absent
      exact due (if_neg absent)
    exact ⟨l, hl, (List.mem_singleton.1 here).symm, field⟩

end Turn

end Setup

end FormGate
