import FormGate.Markup.Namespace

/-!
# Marks

A forest written down from left to right is a list of marks: the characters of its text, and for
each element a mark with its label where it opens and one where it closes. Reading the marks from
right to left gives the forest back.
-/

namespace FormGate.Markup

/-- A character of text, or where an element opens or closes. -/
inductive Mark
  | char (c : Char)
  | opening (label : Label)
  | closing
  deriving DecidableEq, Repr

namespace Mark

/-- An element that is open: the name in its tag and the bindings around it. -/
structure Opened where
  name : List Char
  around : Bindings

/-- The marks of tokens, with numbers for the elements from `next` on. Every closing tag has to
repeat the name of the element that it closes, and in the end none may be open. -/
def ofTokens? (d : Declarations) : (inside : Bindings) → (opened : List Opened) → (next : Nat) →
    List Token → Option (List Mark)
  | _, opened, _, [] => if opened.isEmpty then some [] else none
  | inside, opened, next, .char c :: ts =>
    (ofTokens? d inside opened next ts).map (.char c :: ·)
  | inside, opened, next, .opening name attributes :: ts =>
    match label? d inside next name attributes with
    | none => none
    | some (label, inner) =>
      (ofTokens? d inner (⟨name, inside⟩ :: opened) (next + 1) ts).map (.opening label :: ·)
  | _, [], _, .closing _ :: _ => none
  | _, o :: opened, next, .closing name :: ts =>
    if o.name = name then (ofTokens? d o.around opened next ts).map (.closing :: ·) else none

/-- Text and the elements that follow it below the same parent. -/
abbrev Run := List Char × Forest

/-- Puts a mark in front of what was read to its right: the run that the mark joins, and the runs
around it. -/
def push : Mark → List Run → List Run
  | char c, (text, forest) :: outer => (c :: text, forest) :: outer
  | closing, runs => ([], .nil) :: runs
  | opening label, (text, children) :: (tail, next) :: outer =>
    ([], .cons label (.ofList text) children (.ofList tail) next) :: outer
  | _, runs => runs

end Mark

/-- The forest of a list of marks, with the text in front of it. -/
def Forest.ofMarks (marks : List Mark) : List Char × Forest :=
  (marks.foldr Mark.push [([], .nil)]).headD ([], .nil)

end FormGate.Markup
