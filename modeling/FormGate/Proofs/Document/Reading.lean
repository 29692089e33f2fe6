import FormGate.Proofs.Document.WellFormed

/-!
# The numbers in a page that is read

A page that is read is well-formed: its elements are numbered from zero on in document order, one for
each opening tag.
-/

namespace FormGate

open Markup

namespace Markup

theorem id_of_label? {d : Declarations} {b : Bindings} {id : Nat} {name : List Char}
    {given : List RawAttribute} {l : Label} {inner : Bindings}
    (h : label? d b id name given = some (l, inner)) : l.id = id := by
  unfold label? at h
  obtain ⟨-, -, h⟩ := Option.bind_eq_some_iff.1 h
  obtain ⟨inside, -, h⟩ := Option.bind_eq_some_iff.1 h
  obtain ⟨attributes, -, h⟩ := Option.bind_eq_some_iff.1 h
  obtain ⟨-, -, h⟩ := Option.bind_eq_some_iff.1 h
  obtain ⟨tag, -, h⟩ := Option.bind_eq_some_iff.1 h
  cases h
  rfl

namespace Mark

/-- The numbers in runs, from left to right. -/
def idsOf (runs : List Run) : List Nat :=
  runs.flatMap (·.2.ids)

theorem runs_push_char (c : Char) {runs : List Run} {k : Nat} (length : runs.length = k + 1) :
    (push (.char c) runs).length = k + 1 ∧ idsOf (push (.char c) runs) = idsOf runs := by
  cases runs with
  | nil => cases length
  | cons run outer => exact ⟨length, rfl⟩

/-- An element takes up the run inside it and joins the run behind it. -/
theorem runs_push_opening (l : Label) {runs : List Run} {k : Nat} (length : runs.length = k + 2) :
    (push (.opening l) runs).length = k + 1 ∧
      idsOf (push (.opening l) runs) = l.id :: idsOf runs := by
  cases runs with
  | nil => cases length
  | cons run outer =>
    cases outer with
    | nil => cases length
    | cons run' outer => exact ⟨Nat.succ.inj length, by simp [push, idsOf]⟩

/-- Marks made of tokens leave one run for each element that is still open and one around them, and
number the elements one after the other. -/
theorem runs_of_ofTokens? {d : Declarations} {ts : List Token} :
    ∀ {inside : Bindings} {opened : List Opened} {next : Nat} {marks : List Mark},
      ofTokens? d inside opened next ts = some marks →
      (marks.foldr push [([], .nil)]).length = opened.length + 1 ∧
        ∃ n, idsOf (marks.foldr push [([], .nil)]) = List.range' next n := by
  induction ts with
  | nil =>
    intro inside opened next marks h
    rw [ofTokens?] at h
    split_ifs at h with empty
    cases h
    rw [List.isEmpty_iff.1 empty]
    exact ⟨rfl, 0, rfl⟩
  | cons t ts ih =>
    intro inside opened next marks h
    cases t with
    | char c =>
      rw [ofTokens?] at h
      obtain ⟨marks, later, rfl⟩ := Option.map_eq_some_iff.1 h
      obtain ⟨length, n, ids⟩ := ih later
      obtain ⟨length', ids'⟩ := runs_push_char c length
      exact ⟨length', n, ids'.trans ids⟩
    | opening name attributes =>
      rw [ofTokens?] at h
      split at h
      · cases h
      · rename_i label inner made
        obtain ⟨marks, later, rfl⟩ := Option.map_eq_some_iff.1 h
        obtain ⟨length, n, ids⟩ := ih later
        obtain ⟨length', ids'⟩ := runs_push_opening label length
        refine ⟨length', n + 1, ids'.trans ?_⟩
        rw [ids, id_of_label? made, List.range'_succ]
    | closing name =>
      cases opened with
      | nil => cases h
      | cons o opened =>
        rw [ofTokens?] at h
        split_ifs at h with same
        obtain ⟨marks, later, rfl⟩ := Option.map_eq_some_iff.1 h
        obtain ⟨length, n, ids⟩ := ih later
        exact ⟨congrArg (· + 1) length, n, ids⟩

/-- All elements that tokens make up are numbered from zero on. -/
theorem ids_of_ofTokens? {d : Declarations} {inside : Bindings} {ts : List Token}
    {marks : List Mark} (h : ofTokens? d inside [] 0 ts = some marks) :
    ∃ n, (Forest.ofMarks marks).2.ids = List.range' 0 n := by
  obtain ⟨length, n, ids⟩ := runs_of_ofTokens? h
  unfold Forest.ofMarks
  rcases runs : marks.foldr push [([], .nil)] with _ | ⟨run, _ | ⟨run', outer⟩⟩
  · rw [runs] at length
    cases length
  · rw [runs] at ids
    exact ⟨n, by simpa [idsOf] using ids⟩
  · rw [runs] at length
    simp at length

end Mark

namespace Page

theorem bind_ok {α β : Type} {x : Except MarkupFault α} {f : α → Except MarkupFault β} {b : β}
    (h : (x >>= f) = .ok b) : ∃ a, x = .ok a ∧ f a = .ok b := by
  cases x with
  | error e => cases h
  | ok a => exact ⟨a, rfl, h⟩

theorem need_ok {α : Type} {x : Option α} {a : α} (h : Doctype.need x = .ok a) : x = some a := by
  cases x with
  | none => cases h
  | some b => cases h; rfl

theorem ids_of_forest {cs : List Char} {f : Forest} (h : Page.forest cs = .ok f) :
    ∃ n, f.ids = List.range' 0 n := by
  unfold Page.forest at h
  obtain ⟨⟨d, rest⟩, -, h⟩ := bind_ok h
  obtain ⟨body, -, h⟩ := bind_ok h
  obtain ⟨⟨tokens, rest⟩, -, h⟩ := bind_ok h
  obtain ⟨marks, made, h⟩ := bind_ok h
  obtain ⟨rest, -, h⟩ := bind_ok h
  split at h
  · cases h
    exact Mark.ids_of_ofTokens? (need_ok made)
  · cases h

theorem ids_of_read {text : String} {p : Option String × Forest}
    (h : Page.read text = .ok p) : p.2.ids = List.range' 0 p.2.labels.length := by
  have counted : ∀ {f : Forest}, (∃ n, f.ids = List.range' 0 n) →
      f.ids = List.range' 0 f.labels.length := by
    rintro f ⟨n, ids⟩
    have length := congrArg List.length ids
    rw [Forest.ids, List.length_map, List.length_range'] at length
    rw [length, ids]
  unfold Page.read at h
  obtain ⟨f, read, h⟩ := bind_ok h
  cases h
  exact counted (ids_of_forest read)

end Page

end Markup

theorem Document.wellFormed_ofText {text : String} {d : Document}
    (h : Document.ofText text = .ok d) : d.WellFormed := by
  unfold ofText at h
  cases read : Page.read text with
  | error e => rw [read] at h; cases h
  | ok p =>
    rw [read] at h
    cases h
    obtain ⟨nodup, free⟩ := free_of_ids (Page.ids_of_read read)
    constructor
    · simpa [labels, Forest.labels] using nodup
    · intro l hl
      have := (free l (by simpa [labels, Forest.labels] using hl)).2
      simpa using this

end FormGate
