import FormGate.Proofs.Document.Classes
import FormGate.Proofs.Document.Head
import FormGate.Proofs.Pass.Effect
import FormGate.Proofs.Pass.Ready

/-!
# Feedback in line with an outcome

What a pass does to the feedback of a field stays within the run of feedback directly behind it. In
the end there is none behind a valid field, and behind an invalid one a single element that holds its
messages.
-/

namespace FormGate

open Markup Document Pass

/-- The numbers of the outermost elements. -/
def Markup.Forest.topIds (f : Forest) : List Nat :=
  f.tops.map (·.label.id)

/-! ## Namespaces -/

namespace Markup.Tag

theorem space_eq_ok {tag : Tag} {space : String} (h : tag.space = .ok space) :
    space = "" ∨ ∃ cs, space.toList = '\x7b' :: cs ∧ '\x7d' ∈ cs := by
  cases tag with
  | comment hollow => cases h
  | element name =>
    unfold Tag.space at h
    dsimp only at h
    split at h
    · rename_i cs chars
      split_ifs at h with closed
      cases h
      refine .inr ⟨cs.takeWhile (· != '\x7d') ++ ['\x7d'], ?_, by simp⟩
      rw [String.toList_ofList, chars, List.takeWhile_cons_of_pos (by decide)]
      rfl
    · cases h
      exact .inl rfl

/-- A plain name behind a namespace is a tag in a namespace. -/
theorem exists_space {tag : Tag} {space : String} (h : tag.space = .ok space) {name : String}
    (plain : '\x7b' ∉ name.toList) : ∃ space', (element (space ++ name)).space = .ok space' := by
  unfold Tag.space
  dsimp only
  rw [String.toList_append]
  rcases space_eq_ok h with rfl | ⟨cs, chars, closed⟩
  · split
    · rename_i cs chars
      have first : '\x7b' ∈ name.toList := by
        have chars : name.toList = '\x7b' :: cs := chars
        rw [chars]
        exact List.mem_cons_self
      exact absurd first plain
    · exact ⟨"", rfl⟩
  · rw [chars]
    dsimp only [List.cons_append]
    rw [if_pos (by simp [closed])]
    exact ⟨_, rfl⟩

theorem space_holding {tag : Tag} {space : String} (h : tag.space = .ok space) (lines : List String) :
    (tag.holding lines).space = .ok space := by
  cases tag with
  | element name => exact h
  | comment hollow => cases h

end Markup.Tag

theorem Document.exists_tag_of_space {d : Document} {e : Element} {space : String}
    (h : d.space e = .ok space) : ∃ tag : Tag, tag.space = .ok space := by
  unfold Document.space at h
  split at h
  · exact ⟨_, h⟩
  · cases h
    exact ⟨.element "", rfl⟩

/-! ## Line breaks -/

namespace Document

theorem localName_br {tag : Tag} {space : String} (h : tag.space = .ok space) :
    (Tag.element (space ++ "br")).localName = "br" := by
  have ends : space = "" ∨ ∃ cs, space.toList = cs ++ ['\x7d'] := by
    cases tag with
    | comment hollow => cases h
    | element name =>
      unfold Tag.space at h
      dsimp only at h
      split at h
      · split_ifs at h
        cases h
        exact .inr ⟨_, String.toList_ofList⟩
      · cases h
        exact .inl rfl
  rcases ends with rfl | ⟨cs, chars⟩
  · decide
  · have reversed : (space ++ "br").toList.reverse = 'r' :: 'b' :: '\x7d' :: cs.reverse := by
      simp [chars]
    show Text.lower (.ofList ((space ++ "br").toList.reverse.takeWhile (· != '\x7d')).reverse) = "br"
    rw [reversed]
    show Text.lower (.ofList ['b', 'r']) = "br"
    decide

theorem tails_breaks {tag : Tag} (br : tag.localName = "br") (fresh : Nat) (lines : List String) :
    ((breaks tag fresh lines).tops.filter (·.label.tag.localName == "br")).map (·.tail) = lines := by
  induction lines generalizing fresh with
  | nil => rfl
  | cons line lines ih =>
    rw [breaks, Forest.tops, List.filter_cons_of_pos (by simp [br]), List.map_cons, ih]

theorem attributes_breaks (tag : Tag) (fresh : Nat) (lines : List String) :
    ∀ l ∈ (breaks tag fresh lines).labels, l.attributes = [] := by
  induction lines generalizing fresh with
  | nil => exact fun l hl => (List.not_mem_nil hl).elim
  | cons line lines ih =>
    rw [breaks, Forest.labels, List.forall_mem_cons]
    exact ⟨rfl, ih (fresh + 1)⟩

theorem children_breaks (tag : Tag) (fresh : Nat) (lines : List String) :
    ∀ n ∈ (breaks tag fresh lines).nodes, n.children = .nil := by
  induction lines generalizing fresh with
  | nil => exact fun n hn => (List.not_mem_nil hn).elim
  | cons line lines ih =>
    rw [breaks, Forest.nodes, List.forall_mem_cons]
    exact ⟨rfl, ih (fresh + 1)⟩

section BreaksIn

variable {tag : Tag} {fresh : Nat} {lines : List String} {f : Forest}
  (made : breaksIn tag fresh lines = .ok f)
include made

theorem lines_breaksIn (some : lines ≠ []) (l : Label) (tail : String) :
    Node.lines ⟨l, lines.headD "", f, tail⟩ = lines := by
  have later : (f.tops.filter (·.label.tag.localName == "br")).map (·.tail) = lines.drop 1 := by
    rcases breaksIn_eq_ok made with ⟨short, rfl⟩ | ⟨space, spaced, rfl⟩
    · exact (List.drop_eq_nil_of_le short).symm
    · exact tails_breaks (localName_br spaced) fresh (lines.drop 1)
  unfold Node.lines
  rw [later]
  cases lines with
  | nil => exact absurd rfl some
  | cons line lines => rfl

theorem attributes_breaksIn : ∀ l ∈ f.labels, l.attributes = [] := by
  rcases breaksIn_eq_ok made with ⟨-, rfl⟩ | ⟨space, -, rfl⟩
  · exact fun l hl => (List.not_mem_nil hl).elim
  · exact attributes_breaks _ fresh (lines.drop 1)

theorem children_breaksIn : ∀ n ∈ f.nodes, n.children = .nil := by
  rcases breaksIn_eq_ok made with ⟨-, rfl⟩ | ⟨space, -, rfl⟩
  · exact fun n hn => (List.not_mem_nil hn).elim
  · exact children_breaks _ fresh (lines.drop 1)

end BreaksIn

end Document

/-! ## Edits by calls -/

namespace Pass

variable {d d' : Document} {u : Unit}

theorem yields_feedback {e : Element} {name : String} {es : List Element} :
    (ask (.feedback e name)).Yields d es d' ↔ d.feedback e name = .ok es ∧ d' = d := by
  rw [yields_ask]
  show (d.feedback e name, d) = (.ok es, d') ↔ _
  rw [Prod.mk.injEq, eq_comm (a := d)]

theorem yields_removes {es : List Element} (h : (es.forM fun f => ask (.remove f)).Yields d u d') :
    d' = es.foldl Document.remove d := by
  refine yields_forM (fun f _ d u d' removed => ?_) h
  exact (congrArg Prod.snd (yields_ask.1 removed)).symm

theorem yields_insertFeedback {e : Element} {tag : String} {classes lines : List String}
    (h : (ask (.insertFeedback e tag classes lines)).Yields d u d') :
    ∃ space breaks, d.space (d.container e) = .ok space ∧
      breaksIn (.element (space ++ tag)) (d.fresh + 1) lines = .ok breaks ∧
      d' = d.withBehind e
        (feedbackNode d.fresh (.element (space ++ tag)) classes lines breaks) := by
  have inserted := yields_ask.1 h
  rw [Call.perform, insertFeedback_run] at inserted
  cases spaced : d.space (d.container e) with
  | error f =>
    rw [spaced] at inserted
    cases inserted
  | ok space =>
    rw [spaced] at inserted
    dsimp only at inserted
    cases made : breaksIn (.element (space ++ tag)) (d.fresh + 1) lines with
    | error f =>
      rw [made] at inserted
      cases inserted
    | ok breaks =>
      rw [made] at inserted
      dsimp only at inserted
      cases after : d.siblingsAfter e with
      | error f =>
        rw [after] at inserted
        cases inserted
      | ok f =>
        rw [after] at inserted
        exact ⟨space, breaks, rfl, made, (congrArg Prod.snd inserted).symm⟩

end Pass

/-! ## The run of feedback -/

namespace Setup

variable (s : Setup)

/-- The label of a field with or without the class for invalid fields. -/
def mark (o : Outcome) (l : Label) : Label :=
  if o.valid then labelWithoutClass s.config.presentation.invalidClass l
  else labelWithClass s.config.presentation.invalidClass l

theorem mark_of_valid {o : Outcome} (valid : o.valid = true) :
    s.mark o = labelWithoutClass s.config.presentation.invalidClass :=
  funext fun _ => if_pos valid

theorem mark_of_invalid {o : Outcome} (invalid : o.valid = false) :
    s.mark o = labelWithClass s.config.presentation.invalidClass :=
  funext fun _ => if_neg (by simp [invalid])

section Mark

variable {s}

theorem contains_invalid_mark (word : Text.isWord s.config.presentation.invalidClass = true)
    (o : Outcome) (l : Label) :
    (classesOf (s.mark o l)).contains s.config.presentation.invalidClass = !o.valid := by
  unfold mark
  cases o.valid with
  | true =>
    rw [if_pos rfl, classesOf_labelWithoutClass]
    simp
  | false =>
    rw [if_neg (by decide), classesOf_labelWithClass word]
    split_ifs with already
    · exact already
    · simp

theorem filter_classesOf_mark (word : Text.isWord s.config.presentation.invalidClass = true)
    (o : Outcome) (l : Label) :
    (classesOf (s.mark o l)).filter (· != s.config.presentation.invalidClass) =
      (classesOf l).filter (· != s.config.presentation.invalidClass) := by
  unfold mark
  split_ifs
  · rw [classesOf_labelWithoutClass, List.filter_filter]
    simp
  · rw [classesOf_labelWithClass word]
    split_ifs
    · rfl
    · simp

/-- A mark does not make an element feedback, nor keep it from being that. -/
theorem isFeedback_mark_of_ne (word : Text.isWord s.config.presentation.invalidClass = true)
    (apart : s.config.presentation.invalidClass ≠ s.config.presentation.feedbackClass) (o : Outcome)
    (l : Label) : s.isFeedback (s.mark o l) = s.isFeedback l := by
  have among (cs : List String) : cs.contains s.config.presentation.feedbackClass =
      (cs.filter (· != s.config.presentation.invalidClass)).contains
        s.config.presentation.feedbackClass := by
    simp [apart.symm]
  rw [isFeedback, isFeedback, among, filter_classesOf_mark word, ← among]

/-- A label that bears the mark of an outcome already is not changed by it. -/
theorem mark_eq_self {o : Outcome} {l : Label}
    (h : (classesOf l).contains s.config.presentation.invalidClass = !o.valid) : s.mark o l = l := by
  cases valid : o.valid with
  | true =>
    have absent : ¬ (classesOf l).contains s.config.presentation.invalidClass = true := by
      rw [h, valid]
      decide
    rw [s.mark_of_valid valid, labelWithoutClass, if_neg absent]
  | false =>
    have present : (classesOf l).contains s.config.presentation.invalidClass = true := by
      rw [h, valid]
      rfl
    rw [s.mark_of_invalid valid, labelWithClass, if_pos present]

theorem tag_mark (o : Outcome) (l : Label) : (s.mark o l).tag = l.tag := by
  unfold mark labelWithoutClass labelWithClass withClasses
  split_ifs <;> rfl

theorem id_mark (o : Outcome) (l : Label) : (s.mark o l).id = l.id := by
  unfold mark labelWithoutClass labelWithClass withClasses
  split_ifs <;> rfl

theorem filter_attributes_mark (o : Outcome) (l : Label) :
    (s.mark o l).attributes.filter (·.1 != "class") = l.attributes.filter (·.1 != "class") := by
  have kept (cs : List String) : (withClasses l cs).attributes.filter (·.1 != "class") =
      l.attributes.filter (·.1 != "class") := by
    unfold withClasses
    split_ifs
    · exact Label.filter_erase (p := (· != "class")) (by simp)
    · exact Label.filter_set (p := (· != "class")) (by simp) _
  unfold mark labelWithoutClass labelWithClass
  split_ifs
  · exact kept _
  · rfl
  · rfl
  · exact kept _

end Mark

/-- The namespace of an element can be read where a pass asks for it: where something stands in the
element, or where it is feedback. -/
def Legible (n : Node) : Prop :=
  s.isFeedback n.label = true ∨ n.children ≠ .nil → ∃ space, n.label.tag.space = .ok space

instance (n : Node) : Decidable (s.Legible n) :=
  decidable_of_iff (s.isFeedback n.label = true ∨ n.children ≠ .nil → n.label.tag.space.isOk = true)
    (imp_congr_right fun _ => by cases n.label.tag.space <;> simp [Except.isOk, Except.toBool])

/-- The elements of the feedback with which a forest starts. -/
def runIds (f : Forest) : List Element :=
  (f.tops.takeWhile fun n => s.isFeedback n.label).map (·.label.id)

section Run

variable {s} {run rest : Forest}

theorem runIds_append (shown : ∀ n ∈ run.tops, s.isFeedback n.label = true)
    (ends : rest.tops.takeWhile (fun n => s.isFeedback n.label) = []) :
    s.runIds (run.append rest) = run.topIds := by
  rw [runIds, Forest.tops_append, List.takeWhile_append_of_pos shown, ends, List.append_nil]
  rfl

theorem feedback_of_run {d : Document} {e : Element}
    (after : d.siblingsAfter e = .ok (run.append rest))
    (shown : ∀ n ∈ run.tops, s.isFeedback n.label = true)
    (ends : rest.tops.takeWhile (fun n => s.isFeedback n.label) = []) :
    d.feedback e s.config.presentation.feedbackClass = .ok run.topIds := by
  rw [feedback, after]
  exact congrArg Except.ok (runIds_append shown ends)

end Run

/-- What becomes of the run of feedback behind a field, and of the text between the two, on a page on
which numbers from `fresh` on are free. -/
structure Renewed (o : Outcome) (fresh : Nat) (tail : String) (run : Forest) (tail' : String)
    (run' : Forest) : Prop where
  lines : run'.tops.map (·.lines) = if o.valid then [] else [o.errors]
  feedback : ∀ n ∈ run'.tops, s.isFeedback n.label = true
  plain : ∀ l ∈ run'.labels, s.isField l = false
  ids : ∀ x ∈ run'.ids, x ∈ run.ids ∨ fresh ≤ x
  tails : tail' ++ run'.tails = tail ++ run.tails
  legible : '\x7b' ∉ s.config.presentation.feedbackTag.toList →
    (∀ n ∈ run.nodes, s.Legible n) → ∀ n ∈ run'.nodes, s.Legible n

def feedbackLabel (id : Element) (tag : Tag) : Label :=
  ⟨id, tag, [("class", " ".intercalate s.config.presentation.feedbackClasses)]⟩

variable {s} in
theorem isFeedback_feedbackLabel (word : Text.isWord s.config.presentation.feedbackClass = true)
    (id : Element) (tag : Tag) : s.isFeedback (s.feedbackLabel id tag) = true := by
  unfold isFeedback classesOf Label.get?
  show (Text.words (" ".intercalate s.config.presentation.feedbackClasses)).contains _ = true
  rw [Text.words_intercalate, Config.Presentation.feedbackClasses, List.flatMap_cons,
    Text.words_of_isWord word]
  simp

/-- The label of the element that is given lines, on a page on which numbers from `fresh` on are free: a
new one where there is no feedback, else that of the first element of the run. -/
inductive Leading (s : Setup) (lines : List String) (fresh : Element) : Forest → Label → Prop
  | new (tag : Tag) :
    ('\x7b' ∉ s.config.presentation.feedbackTag.toList → ∃ space, tag.space = .ok space) →
    Leading s lines fresh .nil (s.feedbackLabel fresh tag)
  | old (l : Label) (t : String) (c : Forest) (between : String) (run : Forest) :
    Leading s lines fresh (.cons l t c between run) { l with tag := l.tag.holding lines }

namespace Leading

variable {s} {lines : List String} {fresh : Element} {run : Forest} {l : Label}
  (h : s.Leading lines fresh run l)
include h

theorem id : l.id = (run.tops.map (·.label.id)).headD fresh := by
  cases h <;> rfl

theorem isFeedback (word : Text.isWord s.config.presentation.feedbackClass = true)
    (shown : ∀ n ∈ run.tops, s.isFeedback n.label = true) : s.isFeedback l = true := by
  cases h with
  | new tag => exact isFeedback_feedbackLabel word fresh tag
  | old l t c between run => exact shown ⟨l, t, c, between⟩ List.mem_cons_self

theorem plain (other : "class" ≠ s.config.attributes.rules)
    (plain : ∀ n ∈ run.tops, s.isField n.label = false) : s.isField l = false := by
  cases h with
  | new tag => simp [isField, Label.has, feedbackLabel, other]
  | old l t c between run => exact plain ⟨l, t, c, between⟩ List.mem_cons_self

theorem spaced (shown : ∀ n ∈ run.tops, s.isFeedback n.label = true)
    (named : '\x7b' ∉ s.config.presentation.feedbackTag.toList)
    (legible : ∀ n ∈ run.nodes, s.Legible n) : ∃ space, l.tag.space = .ok space := by
  cases h with
  | new tag spaced => exact spaced named
  | old l t c between run =>
    obtain ⟨space, spaced⟩ := legible ⟨l, t, c, between⟩ List.mem_cons_self
      (.inl (shown ⟨l, t, c, between⟩ List.mem_cons_self))
    exact ⟨space, Tag.space_holding spaced lines⟩

end Leading

/-- What an outcome makes of a run of feedback, on a page on which numbers from `fresh` on are free:
nothing is left of it, or a single element with all messages, which all text of the run follows. -/
inductive Rewritten (s : Setup) (o : Outcome) (fresh : Element) (run : Forest) : Forest → Prop
  | removed : o.valid = true → Rewritten s o fresh run .nil
  | lined (l : Label) (tag : Tag) (start : Element) (breaks : Forest) : o.valid = false →
    s.Leading o.errors fresh run l → breaksIn tag start o.errors = .ok breaks → fresh ≤ start →
    Rewritten s o fresh run (.cons l (o.errors.headD "") breaks run.tails .nil)

/-- The text between an element and its feedback, to which the text of a run goes that is removed. -/
def tailAfter (o : Outcome) (tail : String) (run : Forest) : String :=
  if o.valid then tail ++ run.tails else tail

namespace Rewritten

variable {s} {o : Outcome} {fresh : Element} {run run' : Forest} (h : s.Rewritten o fresh run run')
include h

theorem lines : run'.tops.map (·.lines) = if o.valid then [] else [o.errors] := by
  cases h with
  | removed valid =>
    rw [if_pos valid]
    rfl
  | lined l tag start breaks invalid leading made =>
    have some : o.errors ≠ [] := by
      intro none
      rw [Outcome.valid, none] at invalid
      cases invalid
    rw [if_neg (by simp [invalid]), Forest.tops, List.map_cons, lines_breaksIn made some l run.tails]
    rfl

theorem tops : run'.tops.map (·.label.id) =
    if o.valid then [] else [(run.tops.map (·.label.id)).headD fresh] := by
  cases h with
  | removed valid =>
    rw [if_pos valid]
    rfl
  | lined l tag start breaks invalid leading =>
    rw [if_neg (by simp [invalid]), ← leading.id]
    rfl

theorem feedback (word : Text.isWord s.config.presentation.feedbackClass = true)
    (shown : ∀ n ∈ run.tops, s.isFeedback n.label = true) :
    ∀ n ∈ run'.tops, s.isFeedback n.label = true := by
  cases h with
  | removed => exact fun n hn => absurd hn List.not_mem_nil
  | lined l tag start breaks invalid leading =>
    exact List.forall_mem_singleton.2 (leading.isFeedback word shown)

theorem plain (other : "class" ≠ s.config.attributes.rules)
    (plain : ∀ n ∈ run.tops, s.isField n.label = false) : ∀ l ∈ run'.labels, s.isField l = false := by
  cases h with
  | removed => exact fun l hl => absurd hl List.not_mem_nil
  | lined l tag start breaks invalid leading made =>
    rw [Forest.labels, List.forall_mem_cons, List.forall_mem_append]
    refine ⟨leading.plain other plain, fun l' hl' => ?_, fun l' hl' => by cases hl'⟩
    unfold isField Label.has
    rw [attributes_breaksIn made l' hl']
    rfl

theorem ids : ∀ x ∈ run'.ids, x ∈ run'.tops.map (·.label.id) ∨ fresh ≤ x := by
  intro x hx
  cases h with
  | removed => cases hx
  | lined l tag start breaks invalid leading made later =>
    rw [Forest.ids_cons, List.mem_cons, List.mem_append] at hx
    rcases hx with rfl | hx | hx
    · exact .inl List.mem_cons_self
    · rw [ids_breaksIn made, List.mem_range'_1] at hx
      exact .inr (Nat.le_trans later hx.1)
    · cases hx

theorem ids_or : ∀ x ∈ run'.ids, x ∈ run.ids ∨ fresh ≤ x := by
  intro x hx
  refine (h.ids x hx).elim (fun top => ?_) .inr
  rw [h.tops] at top
  split_ifs at top
  · cases top
  · obtain rfl := List.mem_singleton.1 top
    cases run with
    | nil => exact .inr (Nat.le_refl _)
    | cons l t c between run => exact .inl (by simp [Forest.tops])

theorem tails (tail : String) : tailAfter o tail run ++ run'.tails = tail ++ run.tails := by
  unfold tailAfter
  cases h with
  | removed valid =>
    rw [if_pos valid]
    exact String.append_empty
  | lined l tag start breaks invalid =>
    rw [if_neg (by simp [invalid]), Forest.tails, Forest.tails, String.append_empty]

theorem legible (shown : ∀ n ∈ run.tops, s.isFeedback n.label = true)
    (named : '\x7b' ∉ s.config.presentation.feedbackTag.toList)
    (old : ∀ n ∈ run.nodes, s.Legible n) : ∀ n ∈ run'.nodes, s.Legible n := by
  cases h with
  | removed => exact fun n hn => absurd hn List.not_mem_nil
  | lined l tag start breaks invalid leading made =>
    rw [Forest.nodes, Forest.nodes, List.append_nil, List.forall_mem_cons]
    refine ⟨fun _ => leading.spaced shown named old, fun n hn needed => ?_⟩
    rcases needed with marked | filled
    · have bare := attributes_breaksIn made n.label
        (Forest.labels_subset_of_mem_nodes hn List.mem_cons_self)
      rw [Setup.isFeedback, classesOf, Label.get?, bare] at marked
      cases marked
    · exact absurd (children_breaksIn made n hn) filled

theorem renewed (distinct : s.Distinct) (shown : ∀ n ∈ run.tops, s.isFeedback n.label = true)
    (unmarked : ∀ n ∈ run.tops, s.isField n.label = false) (tail : String) :
    s.Renewed o fresh tail run (tailAfter o tail run) run' where
  lines := h.lines
  feedback := h.feedback distinct.feedback shown
  plain := by
    refine h.plain (fun same => distinct.rules ?_) unmarked
    rw [← same]
    decide
  ids := h.ids_or
  tails := h.tails tail
  legible := h.legible shown

end Rewritten

variable {s} {o : Outcome} {tail : String}

/-! ## The three ways to bring feedback in line -/

/-- How the feedback of an element is brought in line with an outcome: all of it is removed, a first
one is inserted, or the first one is given new lines and all others are removed. -/
inductive Refreshing (s : Setup) (o : Outcome) (e : Element) (d : Document) :
    List Element → Document → Prop
  | removed (es : List Element) : o.valid = true → Refreshing s o e d es (es.foldl Document.remove d)
  | inserted (tag : Tag) (breaks : Forest) : o.valid = false →
    breaksIn tag (d.fresh + 1) o.errors = .ok breaks →
    ('\x7b' ∉ s.config.presentation.feedbackTag.toList → ∃ space, tag.space = .ok space) →
    Refreshing s o e d [] (d.withBehind e
      (feedbackNode d.fresh tag s.config.presentation.feedbackClasses o.errors breaks))
  | replaced (f : Element) (es : List Element) (d₁ : Document) : o.valid = false →
    (setLines f o.errors).run.run d = (.ok (), d₁) →
    Refreshing s o e d (f :: es) (es.foldl Document.remove d₁)

/-- The feedback of an element is brought in line with an outcome, and then its label. -/
theorem yields_applyFeedback {e : Element} {d d' : Document} {u : Unit}
    (h : (s.applyFeedback e o).Yields d u d') :
    ∃ es d₁, d.feedback e s.config.presentation.feedbackClass = .ok es ∧ d.Descends d₁ ∧
      Refreshing s o e d es d₁ ∧ d' = d₁.modifyLabel e (s.mark o) := by
  unfold applyFeedback at h
  obtain ⟨es, d₁, asked, stage⟩ := yields_bind.1 h
  obtain ⟨found, rfl⟩ := yields_feedback.1 asked
  cases valid : o.valid with
  | true =>
    rw [if_pos valid] at stage
    obtain ⟨_, d₂, removes, marked⟩ := yields_bind.1 stage
    obtain rfl := yields_removes removes
    obtain rfl := congrArg Prod.snd (yields_ask.1 marked)
    rw [s.mark_of_valid valid]
    exact ⟨es, _, found, removes.descends, .removed es valid, rfl⟩
  | false =>
    rw [if_neg (by simp [valid])] at stage
    rw [s.mark_of_invalid valid]
    cases es with
    | nil =>
      obtain ⟨_, d₂, inserted, marked⟩ := yields_bind.1 stage
      obtain ⟨space, breaks, spaced, made, rfl⟩ := yields_insertFeedback inserted
      obtain rfl := congrArg Prod.snd (yields_ask.1 marked)
      refine ⟨[], _, found, inserted.descends, .inserted _ breaks valid made fun named => ?_, rfl⟩
      obtain ⟨tag, spaced⟩ := exists_tag_of_space spaced
      exact Tag.exists_space spaced named
    | cons f es =>
      obtain ⟨_, d₂, set, later⟩ := yields_bind.1 stage
      obtain ⟨_, d₃, removes, marked⟩ := yields_bind.1 later
      obtain rfl := yields_removes removes
      obtain rfl := congrArg Prod.snd (yields_ask.1 marked)
      exact ⟨f :: es, _, found, set.descends.trans removes.descends,
        .replaced f es d₂ valid (yields_ask.1 set), rfl⟩

section Head

variable {P : Place} {l : Label} {t : String} {c : Forest} {rest : Forest}

/-- Feedback was brought in line behind the first element in a place. -/
def Refreshed (s : Setup) (o : Outcome) (P : Place) (l : Label) (t : String) (c : Forest)
    (tail : String) (run rest : Forest) (d : Document) : Prop :=
  ∃ tail' run' gone fresh, s.Renewed o P.page.fresh tail run tail' run' ∧
    d = ((P.taking gone).numbering fresh).put (.cons l t c tail' (run'.append rest))

/-- The first feedback element of an invalid field is given new lines, and all others are removed. -/
theorem relined_run {lf : Label} {tf : String} {cf : Forest} {between : String} {run : Forest}
    (wf : (P.put (.cons l t c tail (.cons lf tf cf between (run.append rest)))).WellFormed)
    {u : Unit} {d : Document}
    (set : (setLines lf.id o.errors).run.run
      (P.put (.cons l t c tail (.cons lf tf cf between (run.append rest)))) = (.ok u, d)) :
    ∃ breaks gone fresh, breaksIn (lf.tag.holding o.errors) P.page.fresh o.errors = .ok breaks ∧
      (run.tops.map (·.label.id)).foldl Document.remove d =
        ((P.taking gone).numbering fresh).put (.cons l t c tail
          (.cons { lf with tag := lf.tag.holding o.errors } (o.errors.headD "") breaks
            (between ++ run.tails) rest)) := by
  have kept := (descends_setLines _ lf.id o.errors wf).1
  rw [set] at kept
  rw [← Place.put_behind] at wf set
  obtain ⟨breaks, fresh, made, rfl⟩ := Place.setLines_head wf set
  obtain ⟨Q, -, removed⟩ := Place.remove_run run kept
  refine ⟨breaks, cf.append Q, fresh, made, ?_⟩
  rw [removed, ← Place.taking_taking]
  exact Place.put_behind (((P.taking cf).taking Q).numbering fresh) l t c tail _

/-- Feedback that stands directly behind the first element in a place is rewritten there. -/
theorem Refreshing.rewritten {run : Forest} {d : Document}
    (wf : (P.put (.cons l t c tail (run.append rest))).WellFormed)
    (h : Refreshing s o l.id (P.put (.cons l t c tail (run.append rest)))
      (run.tops.map (·.label.id)) d) :
    ∃ run' gone fresh, s.Rewritten o P.page.fresh run run' ∧
      d = ((P.taking gone).numbering fresh).put
        (.cons l t c (tailAfter o tail run) (run'.append rest)) := by
  generalize ids : run.tops.map (·.label.id) = es at h
  cases h with
  | removed es valid =>
    obtain ⟨Q, -, removed⟩ := Place.remove_run run wf
    refine ⟨.nil, Q, P.page.fresh, .removed valid, ?_⟩
    rw [← ids, removed, tailAfter, if_pos valid]
    rfl
  | inserted tag breaks invalid made spaced =>
    cases run with
    | nil =>
      refine ⟨_, .nil, P.page.fresh + 1 + breaks.labels.length,
        .lined _ tag _ breaks invalid (.new tag spaced) made (Nat.le_succ _), ?_⟩
      rw [Place.taking_nil, tailAfter, if_neg (by simp [invalid])]
      exact Place.withBehind_head wf _
    | cons lf tf cf between run => cases ids
  | replaced f es d₁ invalid set =>
    cases run with
    | nil => cases ids
    | cons lf tf cf between run =>
      obtain ⟨rfl, rfl⟩ := List.cons.inj ids
      obtain ⟨breaks, gone, fresh, made, removed⟩ := relined_run wf set
      refine ⟨_, gone, fresh,
        .lined _ _ _ breaks invalid (.old lf tf cf between run) made (Nat.le_refl _), ?_⟩
      rw [tailAfter, if_neg (by simp [invalid])]
      exact removed

/-- Bringing what the page shows of an element in line with an outcome touches the element's label, the
run of feedback behind it, and no more. -/
theorem applyFeedback_rewritten {next : Forest} (wf : (P.put (.cons l t c tail next)).WellFormed)
    {u : Unit} {d' : Document}
    (h : (s.applyFeedback l.id o).Yields (P.put (.cons l t c tail next)) u d') :
    ∃ run rest, next = run.append rest ∧ (∀ n ∈ run.tops, s.isFeedback n.label = true) ∧
      rest.tops.takeWhile (fun n => s.isFeedback n.label) = [] ∧
      ∃ run' gone fresh, s.Rewritten o P.page.fresh run run' ∧
        d' = ((P.taking gone).numbering fresh).put
          (.cons (s.mark o l) t c (tailAfter o tail run) (run'.append rest)) := by
  obtain ⟨run, rest, rfl, run_tops, shown, ends⟩ :=
    Forest.exists_run (fun n => s.isFeedback n.label) next
  refine ⟨run, rest, rfl, shown, ends, ?_⟩
  obtain ⟨es, d₁, found, descends, refreshing, rfl⟩ := yields_applyFeedback h
  rw [feedback, Place.siblingsAfter_head wf] at found
  obtain rfl : run.tops.map (·.label.id) = es := by
    rw [run_tops]
    exact Except.ok.inj found
  obtain ⟨run', gone, fresh, rewritten, rfl⟩ := refreshing.rewritten wf
  exact ⟨run', gone, fresh, rewritten, Place.modifyLabel_head (descends wf).1 (s.mark o)⟩

/-- Behind a field, in whose feedback there is no field, feedback is renewed. -/
theorem applyFeedback_refreshed (distinct : s.Distinct) {next : Forest}
    (wf : (P.put (.cons l t c tail next)).WellFormed)
    (plain : ∀ n ∈ next.tops, s.isFeedback n.label = true → s.isField n.label = false)
    {u : Unit} {d' : Document}
    (h : (s.applyFeedback l.id o).Yields (P.put (.cons l t c tail next)) u d') :
    ∃ run rest, next = run.append rest ∧ (∀ n ∈ run.tops, s.isFeedback n.label = true) ∧
      rest.tops.takeWhile (fun n => s.isFeedback n.label) = [] ∧
      Refreshed s o P (s.mark o l) t c tail run rest d' := by
  obtain ⟨run, rest, rfl, shown, ends, run', gone, fresh, rewritten, rfl⟩ :=
    applyFeedback_rewritten wf h
  have unmarked : ∀ n ∈ run.tops, s.isField n.label = false := fun n hn =>
    plain n (by simp [hn]) (shown n hn)
  exact ⟨run, rest, rfl, shown, ends, _, run', gone, fresh,
    rewritten.renewed distinct shown unmarked tail, rfl⟩

end Head

end Setup

end FormGate
