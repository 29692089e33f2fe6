import FormGate.Proofs.Document.Numbers

/-!
# Revised forests

What a pass makes of a page is one revision of the forest in it: labels and texts of elements change,
and behind some elements the feedback is brought in line with lines that are due there. One revision
after another is again a revision (`Revision.apply_apply`), so that the order of the turns of a pass
does not matter for what comes out. What a revision leaves to be read is told element by element.
-/

namespace FormGate

open Markup Document

/-- A label without any attribute but its class. -/
def Markup.Label.Plain (l : Label) : Prop :=
  ∀ a ∈ l.attributes, a.1 = "class"

instance (l : Label) : Decidable l.Plain :=
  inferInstanceAs (Decidable (∀ a ∈ l.attributes, a.1 = "class"))

/-- A label of an element that was given lines. -/
def Markup.Label.relined (lines : List String) (l : Label) : Label :=
  { l with tag := l.tag.holding lines }

theorem Markup.Label.relined_relined (lines : List String) (l : Label) :
    (l.relined lines).relined lines = l.relined lines := by
  unfold relined
  cases l.tag <;> rfl

/-- The tag of the parent of the open place, in a frame below an element of the given tag. -/
def Markup.Frame.ownerTag : Frame → Tag → Tag
  | .here, o => o
  | .inside l _ inner _ _, _ => inner.ownerTag l.tag
  | .behind _ _ _ _ inner, o => inner.ownerTag o

/-- How feedback is told from other elements, and what a new element of it is labelled with: a name
to be put behind a namespace, attributes, and the number that stands for all new ones. -/
structure Manner where
  isFeedback : Label → Bool
  name : String
  attributes : List (String × String)
  number : Nat
  retag : ∀ l tag, isFeedback { l with tag } = isFeedback l
  valued : ∀ l v, isFeedback (l.set "value" v) = isFeedback l
  new : ∀ tag, isFeedback ⟨number, tag, attributes⟩ = true
  plain : ∀ a ∈ attributes, a.1 = "class"

namespace Manner

variable (m : Manner)

/-- The tag of new feedback below an element of the given tag. -/
def tag (owner : Tag) : Tag :=
  .element (owner.space.toOption.getD "" ++ m.name)

/-- The label of new feedback below an element of the given tag. -/
def label (owner : Tag) : Label :=
  ⟨m.number, m.tag owner, m.attributes⟩

/-- New line breaks for lines in an element of the given tag. -/
def breaks (tag : Tag) (lines : List String) : Forest :=
  ((breaksIn tag m.number lines).toOption.getD .nil).capped m.number

/-- A forest with new feedback in front of it, where lines are due there. -/
def noted (owner : Tag) : Option (List String) → Forest → Forest
  | some (line :: lines), f =>
    .cons (m.label owner) line (m.breaks (m.tag owner) (line :: lines)) "" f
  | _, f => f

/-- An element of a number is neither feedback in a forest nor in such. -/
def Clear (x : Nat) (f : Forest) : Prop :=
  ∀ n ∈ f.nodes, m.isFeedback n.label = true → x ∉ n.labels.map (·.id)

end Manner

/-- A change of a page: what becomes of labels and texts, and which lines are due behind an element.
Behind the others feedback stays as it is. -/
@[ext]
structure Revision (m : Manner) where
  label : Label → Label
  text : Label → String → String
  lines : Nat → Option (List String)
  id : ∀ l, (label l).id = l.id
  tag : ∀ l, (label l).tag = l.tag
  feedback : ∀ l, m.isFeedback (label l) = m.isFeedback l

namespace Revision

variable {m : Manner}

/-- The revised forest and the text that goes to what precedes it. Below an element with the given
tag the lines that are `due` go to the feedback with which the forest starts: to its first element,
or to a new one where there is none, while all other elements of it are taken out. -/
def apply (R : Revision m) : (owner : Tag) → (due : Option (List String)) → Forest → String × Forest
  | owner, due, .nil => ("", m.noted owner due .nil)
  | owner, due, .cons l t c tail next =>
    if m.isFeedback l then
      match due with
      | none => ("", .cons l t c tail (R.apply owner none next).2)
      | some [] => (tail ++ (R.apply owner (some []) next).1, (R.apply owner (some []) next).2)
      | some (line :: lines) =>
        ("", .cons (l.relined (line :: lines)) line
          (m.breaks (l.relined (line :: lines)).tag (line :: lines))
          (tail ++ (R.apply owner (some []) next).1) (R.apply owner (some []) next).2)
    else
      ("", m.noted owner due (.cons (R.label l) (R.text l t) (R.apply l.tag none c).2
        (tail ++ (R.apply owner (R.lines l.id) next).1) (R.apply owner (R.lines l.id) next).2))

/-- A forest in which nothing is due in front. -/
def forest (R : Revision m) (f : Forest) : Forest :=
  (R.apply (.element "") none f).2

/-- One revision after another. -/
def after (R' R : Revision m) : Revision m where
  label l := R'.label (R.label l)
  text l t := R'.text (R.label l) (R.text l t)
  lines x := (R'.lines x).or (R.lines x)
  id l := (R'.id _).trans (R.id l)
  tag l := (R'.tag _).trans (R.tag l)
  feedback l := (R'.feedback _).trans (R.feedback l)

variable (R : Revision m) (owner : Tag)

theorem apply_nil (due : Option (List String)) :
    R.apply owner due .nil = ("", m.noted owner due .nil) := rfl

section Cons

variable {l : Label} (t : String) (c : Forest) (tail : String) (next : Forest)

theorem apply_plain (plain : m.isFeedback l = false) (due : Option (List String)) :
    R.apply owner due (.cons l t c tail next) =
      ("", m.noted owner due (.cons (R.label l) (R.text l t) (R.apply l.tag none c).2
        (tail ++ (R.apply owner (R.lines l.id) next).1) (R.apply owner (R.lines l.id) next).2)) := by
  rw [apply.eq_def]
  exact if_neg (by simp [plain])

theorem apply_kept (shown : m.isFeedback l = true) :
    R.apply owner none (.cons l t c tail next) =
      ("", .cons l t c tail (R.apply owner none next).2) := by
  rw [apply, if_pos shown]

theorem apply_removed (shown : m.isFeedback l = true) :
    R.apply owner (some []) (.cons l t c tail next) =
      (tail ++ (R.apply owner (some []) next).1, (R.apply owner (some []) next).2) := by
  rw [apply, if_pos shown]

theorem apply_relined (shown : m.isFeedback l = true) (line : String) (lines : List String) :
    R.apply owner (some (line :: lines)) (.cons l t c tail next) =
      ("", .cons (l.relined (line :: lines)) line
        (m.breaks (l.relined (line :: lines)).tag (line :: lines))
        (tail ++ (R.apply owner (some []) next).1) (R.apply owner (some []) next).2) := by
  rw [apply, if_pos shown]

end Cons

/-- Where nothing is due, no text goes to what precedes. -/
theorem apply_none_fst (f : Forest) : (R.apply owner none f).1 = "" := by
  cases f with
  | nil => rfl
  | cons l t c tail next =>
    cases shown : m.isFeedback l with
    | true => rw [R.apply_kept owner t c tail next shown]
    | false => rw [R.apply_plain owner t c tail next shown]

theorem apply_none (f : Forest) :
    R.apply owner none f = ("", (R.apply owner none f).2) :=
  Prod.ext (R.apply_none_fst owner f) rfl

/-! ## One revision after another -/

/-- Two due texts of lines that are the same where both are given. -/
def Agree (due due' : Option (List String)) : Prop :=
  ∀ ls ls', due = some ls → due' = some ls' → ls = ls'

theorem agree_none (due : Option (List String)) : Agree none due := by
  intro ls ls' h
  cases h

theorem agree_none' (due : Option (List String)) : Agree due none := by
  intro ls ls' _ h
  cases h

theorem agree_self (due : Option (List String)) : Agree due due := by
  intro ls ls' h h'
  exact Option.some.inj (h.symm.trans h')

/-- Where lines are due already, the same ones do not change that. -/
theorem Agree.or_some {ls : List String} {due' : Option (List String)} (same : Agree (some ls) due') :
    due'.or (some ls) = some ls := by
  cases due' with
  | none => rfl
  | some ls' => rw [Option.some_or, same ls ls' rfl rfl]

/-- New feedback takes the lines that are due before it, if any. -/
theorem apply_noted {g g' : Forest}
    (ends : ∀ due, R.apply owner due g = ("", m.noted owner due g')) {due due' : Option (List String)}
    (agree : Agree due due') :
    R.apply owner due' (m.noted owner due g) = ("", m.noted owner (due'.or due) g') := by
  have new : m.isFeedback (m.label owner) = true := m.new (m.tag owner)
  rcases due with _ | _ | ⟨line, lines⟩
  · rw [Option.or_none]
    exact ends due'
  · cases due' with
    | none => exact ends none
    | some ls => exact ends (some ls)
  · show R.apply owner due' (.cons (m.label owner) line _ "" g) = _
    cases due' with
    | none =>
      rw [R.apply_kept owner _ _ _ _ new, ends none]
      rfl
    | some ls =>
      obtain rfl : line :: lines = ls := agree _ _ rfl rfl
      rw [R.apply_relined owner _ _ _ _ new, ends (some [])]
      rfl

/-- One revision and then another come to one revision, if they have the same lines in store for the
elements that both bring in line. -/
theorem apply_apply (R' : Revision m) (agree : ∀ x, Agree (R.lines x) (R'.lines x)) (f : Forest)
    (owner : Tag) {due due' : Option (List String)} (same : Agree due due') :
    (R'.after R).apply owner (due'.or due) f =
      ((R.apply owner due f).1 ++ (R'.apply owner due' (R.apply owner due f).2).1,
        (R'.apply owner due' (R.apply owner due f).2).2) := by
  induction f generalizing owner due due' with
  | nil =>
    have ends (due : Option (List String)) := R'.apply_nil owner due
    rw [apply_nil, apply_nil, R'.apply_noted owner ends same]
    rfl
  | cons l t c tail next ihc ih =>
    cases shown : m.isFeedback l with
    | false =>
      have shown' : m.isFeedback (R.label l) = false := (R.feedback l).trans shown
      -- the revised element ends the feedback before it for the second revision too
      have ends (due : Option (List String)) := R'.apply_plain owner (R.text l t)
        (R.apply l.tag none c).2 (tail ++ (R.apply owner (R.lines l.id) next).1)
        (R.apply owner (R.lines l.id) next).2 shown' due
      have below := ihc l.tag (agree_none none)
      have behind := ih owner (agree l.id)
      rw [Option.or_none] at below
      rw [apply_plain _ _ _ _ _ _ shown, apply_plain _ _ _ _ _ _ shown,
        R'.apply_noted owner ends same, R.id, R.tag]
      show ("", m.noted owner _ (.cons _ _ ((R'.after R).apply l.tag none c).2
        (tail ++ ((R'.after R).apply owner ((R'.lines l.id).or (R.lines l.id)) next).1)
        ((R'.after R).apply owner ((R'.lines l.id).or (R.lines l.id)) next).2)) = _
      rw [below, behind, ← String.append_assoc, String.empty_append]
      rfl
    | true =>
      have first := R.apply_none_fst owner next
      rcases due with _ | _ | ⟨line, lines⟩
      · rw [Option.or_none, R.apply_kept owner t c tail next shown]
        rcases due' with _ | _ | ⟨line, lines⟩
        · have behind := ih owner (agree_none none)
          rw [Option.or_none, first, String.empty_append] at behind
          rw [apply_kept _ _ _ _ _ _ shown, apply_kept _ _ _ _ _ _ shown, behind]
          rfl
        · have behind := ih owner (agree_none (some []))
          rw [Option.or_none, first, String.empty_append] at behind
          rw [apply_removed _ _ _ _ _ _ shown, apply_removed _ _ _ _ _ _ shown, behind,
            String.empty_append]
        · have behind := ih owner (agree_none (some []))
          rw [Option.or_none, first, String.empty_append] at behind
          rw [apply_relined _ _ _ _ _ _ shown, apply_relined _ _ _ _ _ _ shown, behind]
          rfl
      · have behind := ih owner same
        rw [same.or_some] at behind ⊢
        rw [apply_removed _ _ _ _ _ _ shown, apply_removed _ _ _ _ _ _ shown, behind,
          String.append_assoc]
      · have shown' : m.isFeedback (l.relined (line :: lines)) = true := by
          rw [Label.relined, m.retag, shown]
        rw [same.or_some, apply_relined _ _ _ _ _ _ shown, apply_relined _ _ _ _ _ _ shown]
        cases due' with
        | none =>
          have behind := ih owner (agree_none' (some []))
          rw [Option.none_or, R'.apply_none_fst, String.append_empty] at behind
          rw [apply_kept _ _ _ _ _ _ shown', behind]
          rfl
        | some ls =>
          obtain rfl : line :: lines = ls := same _ _ rfl rfl
          have behind := ih owner (agree_self (some []))
          rw [Option.some_or] at behind
          rw [apply_relined _ _ _ _ _ _ shown', Label.relined_relined, behind, String.append_assoc]
          rfl

theorem forest_after (R' : Revision m) (agree : ∀ x, Agree (R.lines x) (R'.lines x)) (f : Forest) :
    (R'.after R).forest f = R'.forest (R.forest f) := by
  have both := R.apply_apply R' agree f (.element "") (agree_none none)
  rw [Option.or_none] at both
  show ((R'.after R).apply (.element "") none f).2 =
    (R'.apply (.element "") none (R.apply (.element "") none f).2).2
  rw [both]

/-! ## Parts that a revision leaves alone -/

/-- A revision does nothing to elements of a label. -/
def Spares (l : Label) : Prop :=
  R.label l = l ∧ (∀ t, R.text l t = t) ∧ R.lines l.id = none

variable {R}

theorem apply_of_spared {f : Forest} (h : ∀ l ∈ f.labels, R.Spares l) (owner : Tag) :
    R.apply owner none f = ("", f) := by
  induction f generalizing owner with
  | nil => rfl
  | cons l t c tail next ihc ih =>
    rw [Forest.labels, List.forall_mem_cons, List.forall_mem_append] at h
    obtain ⟨⟨label, text, lines⟩, below, behind⟩ := h
    cases shown : m.isFeedback l with
    | true => rw [R.apply_kept owner t c tail next shown, ih behind]
    | false =>
      rw [R.apply_plain owner t c tail next shown, label, text, lines, ihc below, ih behind,
        String.append_empty]
      rfl

theorem forest_of_spared {f : Forest} (h : ∀ l ∈ f.labels, R.Spares l) : R.forest f = f :=
  congrArg Prod.snd (apply_of_spared h (.element ""))

/-- A revision that spares all of a frame is one of what is plugged in there, if this does not stand
in feedback. -/
theorem apply_plug {K : Frame} {f : Forest} {x : Nat} (spared : ∀ l : Label, l.id ≠ x → R.Spares l)
    (absent : x ∉ K.ids) (inside : x ∈ f.ids) (clear : m.Clear x (K.plug f)) (owner : Tag) :
    R.apply owner none (K.plug f) = ("", K.plug (R.apply (K.ownerTag owner) none f).2) := by
  have others {g : Forest} (hg : x ∉ g.ids) : ∀ l ∈ g.labels, R.Spares l := by
    intro l hl
    refine spared l ?_
    rintro rfl
    exact hg (Forest.id_mem_ids hl)
  induction K generalizing owner with
  | here => exact R.apply_none owner f
  | inside l t inner tail next ih =>
    simp only [Frame.ids, List.mem_cons, List.mem_append, not_or] at absent
    obtain ⟨here, within, behind⟩ := absent
    obtain ⟨label, text, lines⟩ := spared l (Ne.symm here)
    have around : x ∈ (Node.labels ⟨l, t, inner.plug f, tail⟩).map (·.id) := by
      rw [Node.labels, List.map_cons]
      exact List.mem_cons_of_mem _ (Frame.mem_ids_plug.2 (.inr inside))
    have plain : m.isFeedback l = false := by
      rw [Bool.eq_false_iff]
      exact fun shown => clear _ List.mem_cons_self shown around
    have below := ih within fun n hn => clear n (by simp [Frame.plug, Forest.nodes, hn])
    rw [Frame.plug, R.apply_plain owner t _ tail next plain, label, text, lines, below,
      apply_of_spared (others behind), String.append_empty]
    rfl
  | behind l t c tail inner ih =>
    simp only [Frame.ids, List.mem_cons, List.mem_append, not_or] at absent
    obtain ⟨here, below, within⟩ := absent
    obtain ⟨label, text, lines⟩ := spared l (Ne.symm here)
    have later := ih within fun n hn => clear n (by simp [Frame.plug, Forest.nodes, hn])
    cases shown : m.isFeedback l with
    | true =>
      rw [Frame.plug, R.apply_kept owner t c tail _ shown, later]
      rfl
    | false =>
      rw [Frame.plug, R.apply_plain owner t c tail _ shown, label, text, lines, later,
        apply_of_spared (others below), String.append_empty]
      rfl

theorem apply_plug_cons {K : Frame} {l : Label} {t : String} {c : Forest} {tail : String}
    {next : Forest} (spared : ∀ l' : Label, l'.id ≠ l.id → R.Spares l') (absent : l.id ∉ K.ids)
    (below : l.id ∉ c.ids) (clear : m.Clear l.id (K.plug (.cons l t c tail next))) (owner : Tag) :
    R.apply owner none (K.plug (.cons l t c tail next)) =
      ("", K.plug (.cons (R.label l) (R.text l t) c
        (tail ++ (R.apply (K.ownerTag owner) (R.lines l.id) next).1)
        (R.apply (K.ownerTag owner) (R.lines l.id) next).2)) := by
  have plain : m.isFeedback l = false := by
    rw [Bool.eq_false_iff]
    intro shown
    have here : (⟨l, t, c, tail⟩ : Node) ∈ (K.plug (.cons l t c tail next)).nodes :=
      K.nodes_subset_plug _ List.mem_cons_self
    exact clear _ here shown List.mem_cons_self
  have inside : R.apply l.tag none c = ("", c) := by
    refine apply_of_spared (fun l' hl' => spared l' ?_) l.tag
    intro same
    exact below (same ▸ Forest.id_mem_ids hl')
  rw [apply_plug spared absent (by simp) clear, R.apply_plain _ _ _ _ _ plain, inside]
  rfl

end Revision

end FormGate
