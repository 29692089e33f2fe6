import FormGate.Proofs.Document.Place

/-!
# Edits of the first element in a place

What the edits that a pass makes come to for the element that stands first in a place, and for the
elements directly behind it.
-/

namespace FormGate

open Markup

/-- The texts that follow the outermost elements, one after the other. -/
def Markup.Forest.tails : Forest → String
  | nil => ""
  | cons _ _ _ tail next => tail ++ next.tails

namespace Place

/-- The place behind an element that stands first in another one. -/
def behind (P : Place) (l : Label) (t : String) (c : Forest) (tail : String) : Place :=
  { P with frame := P.frame.comp (.behind l t c tail .here) }

theorem put_behind (P : Place) (l : Label) (t : String) (c : Forest) (tail : String) (f : Forest) :
    (P.behind l t c tail).put f = P.put (.cons l t c tail f) := by
  rw [put, put, behind]
  dsimp only
  rw [Frame.plug_comp]
  rfl

@[simp] theorem taking_nil (P : Place) : P.taking .nil = P := by
  rw [taking, Forest.append_nil]

theorem taking_taking (P : Place) (f g : Forest) :
    (P.taking f).taking g = P.taking (f.append g) := by
  rw [taking, taking, taking, Forest.append_assoc]

section Head

variable {P : Place} {l : Label} {t : String} {c : Forest} {tail : String} {next : Forest}
  (h : (P.put (.cons l t c tail next)).WellFormed)
include h

theorem misses_head : P.Misses l.id :=
  misses h (by simp)

theorem modifyLabel_head (k : Label → Label) :
    (P.put (.cons l t c tail next)).modifyLabel l.id k = P.put (.cons (k l) t c tail next) := by
  obtain ⟨below, after, -⟩ := Forest.nodup_cons (nodup_put h)
  rw [modifyLabel_put (misses_head h), Forest.modify, if_pos rfl, Forest.modify_of_not_mem below,
    Forest.modify_of_not_mem after]

theorem node?_head : (P.put (.cons l t c tail next)).node? l.id = some ⟨l, t, c, tail⟩ := by
  rw [node?_put (misses_head h), Forest.find?_here rfl]

theorem fill_head (text : String) (children : Forest) :
    (P.put (.cons l t c tail next)).mapForests (Forest.fill l.id text children) =
      P.put (.cons l text children tail next) := by
  rw [fill_put (misses_head h), Forest.fill, if_pos rfl]

theorem setText_head (text : String) :
    (P.put (.cons l t c tail next)).setText l.id text =
      (P.taking c).put (.cons l text .nil tail next) := by
  rw [setText_put (misses_head h) (Forest.find?_here rfl), Forest.fill, if_pos rfl]

theorem siblingsAfter_head : (P.put (.cons l t c tail next)).siblingsAfter l.id = .ok next := by
  rw [Document.siblingsAfter, parent?_put (misses_head h), following?_put (misses_head h),
    Forest.parent?, Forest.following?, if_pos rfl, if_pos rfl]
  rfl

theorem withBehind_head (n : Node) : (P.put (.cons l t c tail next)).withBehind l.id n =
    (P.numbering (P.page.fresh + 1 + n.children.labels.length)).put
      (.cons l t c tail (.cons n.label n.text n.children n.tail next)) := by
  rw [Document.withBehind, insertAfter_put (misses_head h), Forest.insertAfter, if_pos rfl]
  rfl

theorem withFirstLine_head (lines : List String) :
    (P.put (.cons l t c tail next)).withFirstLine l.id lines =
      (P.taking c).put
        (.cons { l with tag := l.tag.holding lines } (lines.headD "") .nil tail next) := by
  have text := setText_head h (lines.headD "")
  have wf := (Document.descends_setText _ l.id (lines.headD "") h).1
  rw [text] at wf
  rw [Document.withFirstLine, text, modifyLabel_head wf]

/-- The lines of the first element are all that it holds, where they can be put in. -/
theorem setLines_head_run (lines : List String) :
    (Document.setLines l.id lines).run.run (P.put (.cons l t c tail next)) =
      match Document.breaksIn (l.tag.holding lines) P.page.fresh lines with
      | .error f => (.error f, (P.put (.cons l t c tail next)).withFirstLine l.id lines)
      | .ok breaks => (.ok (), ((P.taking c).numbering (P.page.fresh + breaks.labels.length)).put
          (.cons { l with tag := l.tag.holding lines } (lines.headD "") breaks tail next)) := by
  have first := withFirstLine_head h lines
  have wf := (Document.descends_withFirstLine _ l.id lines h).1
  rw [first] at wf
  have tag : ((P.taking c).put (.cons { l with tag := l.tag.holding lines } (lines.headD "") .nil tail
      next)).tagOf l.id = l.tag.holding lines := by
    have node := node?_head wf
    rw [Document.tagOf, Document.label?]
    exact congrArg (fun n => ((Option.map Node.label n).map Label.tag).getD (.element "")) node
  rw [Document.setLines_run, first, tag]
  have fresh : ((P.taking c).put (.cons { l with tag := l.tag.holding lines } (lines.headD "") .nil
      tail next)).fresh = P.page.fresh := rfl
  rw [fresh]
  cases Document.breaksIn (l.tag.holding lines) P.page.fresh lines with
  | error f => rfl
  | ok breaks =>
    have filled := fill_head wf (lines.headD "") breaks
    exact congrArg (fun d : Document => ((.ok () : Except Failure Unit),
      { d with fresh := P.page.fresh + breaks.labels.length })) filled

/-- The lines of the first element are all that it holds, once they could be put in. -/
theorem setLines_head {lines : List String} {u : Unit} {d : Document}
    (set : (Document.setLines l.id lines).run.run (P.put (.cons l t c tail next)) = (.ok u, d)) :
    ∃ breaks fresh, Document.breaksIn (l.tag.holding lines) P.page.fresh lines = .ok breaks ∧
      d = ((P.taking c).numbering fresh).put
        (.cons { l with tag := l.tag.holding lines } (lines.headD "") breaks tail next) := by
  rw [setLines_head_run h] at set
  split at set
  · cases set
  · rename_i breaks made
    cases set
    exact ⟨breaks, P.page.fresh + breaks.labels.length, made, rfl⟩

end Head

/-! ## Taking out what stands behind the first element -/

/-- The element directly behind the first one in a place is taken out, and the text that followed it
follows the first one. -/
theorem remove_second {P : Place} {l l' : Label} {t t' : String} {c c' : Forest}
    {tail tail' : String} {next : Forest}
    (h : (P.put (.cons l t c tail (.cons l' t' c' tail' next))).WellFormed) :
    (P.put (.cons l t c tail (.cons l' t' c' tail' next))).remove l'.id =
      (P.taking (.cons l' t' c' "" .nil)).put (.cons l t c (tail ++ tail') next) := by
  obtain ⟨-, ne, -, -, apart⟩ := Forest.nodup_cons (nodup_put h)
  have here : l.id ≠ l'.id := by
    intro same
    exact ne (by simp [same])
  have below : l'.id ∉ c.ids := fun m => apart l'.id m (by simp)
  have found : (Forest.cons l t c tail (.cons l' t' c' tail' next)).find? l'.id =
      some ⟨l', t', c', tail'⟩ := by
    rw [Forest.find?, if_neg here, Forest.find?_of_not_mem below, Forest.find?_here rfl]
    rfl
  have parent : (Forest.cons l t c tail (.cons l' t' c' tail' next)).parent? l'.id
      (P.frame.owner P.root.id) = some (P.frame.owner P.root.id) := by
    rw [Forest.parent?, if_neg here, Forest.parent?_of_not_mem below, Forest.parent?, if_pos rfl]
    rfl
  have cut : (Forest.cons l t c tail (.cons l' t' c' tail' next)).cut l'.id =
      ("", .cons l t c (tail ++ tail') next) := by
    rw [Forest.cut, if_neg here, Forest.cut_of_not_mem below, Forest.cut, if_pos rfl]
    simp
  rw [remove_put (misses h (by simp)) found parent (by rw [cut]), cut]
  rfl

/-- All elements of a run behind the first one are taken out. -/
theorem remove_run {P : Place} {l : Label} {t : String} {c : Forest} {tail : String} {rest : Forest}
    (run : Forest) (h : (P.put (.cons l t c tail (run.append rest))).WellFormed) :
    ∃ Q : Forest, Q.labels = run.labels ∧
      (run.tops.map (·.label.id)).foldl Document.remove (P.put (.cons l t c tail (run.append rest))) =
        (P.taking Q).put (.cons l t c (tail ++ run.tails) rest) := by
  induction run generalizing P tail with
  | nil => exact ⟨.nil, rfl, by simp [Forest.tops, Forest.tails, Forest.append]⟩
  | cons l' t' c' tail' next _ ih =>
    have wf := (Document.descends_remove _ l'.id h).1
    have removed : (P.put (.cons l t c tail (.cons l' t' c' tail' (next.append rest)))).remove l'.id =
        (P.taking (.cons l' t' c' "" .nil)).put (.cons l t c (tail ++ tail') (next.append rest)) :=
      remove_second h
    rw [Forest.append] at wf ⊢
    rw [removed] at wf
    obtain ⟨Q, labels, folded⟩ := ih wf
    refine ⟨(Forest.cons l' t' c' "" .nil).append Q, ?_, ?_⟩
    · simp [Forest.labels, labels]
    · rw [Forest.tops, List.map_cons, List.foldl_cons, removed, folded, taking_taking, Forest.tails,
        String.append_assoc]

end Place

end FormGate
