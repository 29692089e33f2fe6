import FormGate.Proofs.Document.Reading
import FormGate.Proofs.Markup.Marks

/-!
# The tags and the characters of a forest

The marks of the forest that tokens make up are the marks of the tokens (`Mark.marks_of_ofTokens?`). So
the forest has a mark for each tag, whatever characters stand between the tags, and each of the characters.
-/

namespace FormGate.Markup

/-! ## Tags and characters -/

namespace Token

/-- The character that a token is. -/
def char? : Token → Option Char
  | char c => some c
  | _ => none

def tags (ts : List Token) : List Token :=
  ts.filter (·.char?.isNone)

theorem tags_append (ts ts' : List Token) : tags (ts ++ ts') = tags ts ++ tags ts' :=
  List.filter_append ..

end Token

namespace Mark

/-- The character that a mark is. -/
def char? : Mark → Option Char
  | char c => some c
  | _ => none

def tags (marks : List Mark) : List Mark :=
  marks.filter (·.char?.isNone)

variable {d : Declarations} {inside : Bindings} {opened : List Opened} {next : Nat} {ts : List Token}
  {marks : List Mark}

theorem tags_of_ofTokens? (d : Declarations) (inside : Bindings) (opened : List Opened) (next : Nat)
    (ts : List Token) :
    (ofTokens? d inside opened next ts).map tags = ofTokens? d inside opened next (Token.tags ts) := by
  induction ts generalizing inside opened next with
  | nil =>
    show _ = ofTokens? d inside opened next []
    rw [ofTokens?]
    split_ifs <;> rfl
  | cons t ts ih =>
    cases t with
    | char c =>
      show _ = ofTokens? d inside opened next (Token.tags ts)
      rw [ofTokens?, Option.map_map, ← ih]
      rfl
    | opening name attributes =>
      show _ = ofTokens? d inside opened next (.opening name attributes :: Token.tags ts)
      rw [ofTokens?, ofTokens?]
      cases label? d inside next name attributes with
      | none => rfl
      | some p =>
        dsimp only
        rw [← ih, Option.map_map, Option.map_map]
        rfl
    | closing name =>
      show _ = ofTokens? d inside opened next (.closing name :: Token.tags ts)
      cases opened with
      | nil => rfl
      | cons o opened =>
        rw [ofTokens?, ofTokens?]
        split_ifs
        · rw [← ih, Option.map_map, Option.map_map]
          rfl
        · rfl

theorem chars_of_ofTokens? (h : ofTokens? d inside opened next ts = some marks) :
    marks.filterMap char? = ts.filterMap Token.char? := by
  induction ts generalizing inside opened next marks with
  | nil =>
    rw [ofTokens?, Option.ite_none_right_eq_some] at h
    cases h.2
    rfl
  | cons t ts ih =>
    cases t with
    | char c =>
      obtain ⟨marks, later, rfl⟩ := Option.map_eq_some_iff.1 h
      exact congrArg (c :: ·) (ih later)
    | opening name attributes =>
      rw [ofTokens?] at h
      split at h
      · cases h
      · obtain ⟨marks, later, rfl⟩ := Option.map_eq_some_iff.1 h
        exact (ih later :)
    | closing name =>
      cases opened with
      | nil => cases h
      | cons o opened =>
        rw [ofTokens?, Option.ite_none_right_eq_some] at h
        obtain ⟨marks, later, rfl⟩ := Option.map_eq_some_iff.1 h.2
        exact (ih later :)

/-! ## The marks of what was made -/

/-- The marks of a run behind the closing tag in front of it. -/
def closed (run : Run) : List Mark :=
  closing :: (run.1.map char ++ run.2.marks)

theorem closed_of_ofTokens? (h : ofTokens? d inside opened next ts = some marks) :
    (marks.foldr push [([], .nil)]).flatMap closed = closing :: marks := by
  induction ts generalizing inside opened next marks with
  | nil =>
    rw [ofTokens?, Option.ite_none_right_eq_some] at h
    cases h.2
    rfl
  | cons t ts ih =>
    cases t with
    | char c =>
      obtain ⟨marks, later, rfl⟩ := Option.map_eq_some_iff.1 h
      have length := (runs_of_ofTokens? later).1
      have all := ih later
      rw [List.foldr_cons]
      generalize marks.foldr push [([], .nil)] = runs at length all ⊢
      rcases runs with _ | ⟨run, outer⟩
      · cases length
      · exact congrArg (fun marks => closing :: char c :: marks) (List.cons.inj all).2
    | opening name attributes =>
      rw [ofTokens?] at h
      split at h
      · cases h
      · rename_i label inner _
        obtain ⟨marks, later, rfl⟩ := Option.map_eq_some_iff.1 h
        have length := (runs_of_ofTokens? later).1
        have all := ih later
        rw [List.foldr_cons]
        generalize marks.foldr push [([], .nil)] = runs at length all ⊢
        rcases runs with _ | ⟨run, _ | ⟨run', outer⟩⟩
        · cases length
        · cases length
        · rw [List.flatMap_cons, closed, List.cons_append] at all
          obtain ⟨-, rfl⟩ := List.cons.inj all
          simp [push, closed, Forest.marks]
    | closing name =>
      cases opened with
      | nil => cases h
      | cons o opened =>
        rw [ofTokens?, Option.ite_none_right_eq_some] at h
        obtain ⟨marks, later, rfl⟩ := Option.map_eq_some_iff.1 h.2
        exact congrArg (closing :: ·) (ih later)

/-- The marks of tokens in which every tag is closed are those of the forest that they make up, behind
the text in front of it. -/
theorem marks_of_ofTokens? (h : ofTokens? d inside [] next ts = some marks) :
    marks = (Forest.ofMarks marks).1.map char ++ (Forest.ofMarks marks).2.marks := by
  have length := (runs_of_ofTokens? h).1
  have all := closed_of_ofTokens? h
  unfold Forest.ofMarks
  generalize marks.foldr push [([], .nil)] = runs at length all ⊢
  rcases runs with _ | ⟨run, _ | ⟨run', outer⟩⟩
  · cases length
  · rw [List.flatMap_singleton] at all
    exact (List.cons.inj all).2.symm
  · simp at length

/-- No text stands in front of a forest whose tokens start with a tag. -/
theorem marks_of_opening {name : List Char} {attributes : List RawAttribute}
    (h : ofTokens? d inside [] next (.opening name attributes :: ts) = some marks) :
    (Forest.ofMarks marks).2.marks = marks := by
  have whole := marks_of_ofTokens? h
  rw [ofTokens?] at h
  split at h
  · cases h
  · obtain ⟨marks, -, rfl⟩ := Option.map_eq_some_iff.1 h
    cases front : (Forest.ofMarks (.opening _ :: marks)).1 with
    | nil =>
      rw [front] at whole
      exact whole.symm
    | cons c text =>
      rw [front] at whole
      cases (List.cons.inj whole).1

end Mark

end FormGate.Markup
