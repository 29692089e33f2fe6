import FormGate.Text.Blank
import FormGate.Text.Columns

/-!
# Wrapping

A text that is too wide for its place goes on in the next line. A line ends only where the next
word would not fit. A word that fits into no line is either folded over several lines or has a line
of its own, in which it is cut and ends in an ellipsis.
-/

namespace FormGate.Console

open Text

/-- What becomes of a word that fits into no line. -/
inductive Overflow
  | fold
  | ellipsis
  deriving DecidableEq, Repr

/-- The characters with each tab going on to the next multiple of eight columns. -/
def expandTabs : (column : Nat) → List Char → List Char
  | _, [] => []
  | column, c :: rest =>
    if c = '\t' then
      let gap := 8 - column % 8
      List.replicate gap ' ' ++ expandTabs (column + gap) rest
    else c :: expandTabs (column + columnsOf c) rest

/-- The words of a line, each with the blanks after it. Blanks that open the line belong to the
first word. -/
def spacedWords (line : List Char) : List (List Char) :=
  match line.splitBy fun a b => !isBlank a || isBlank b with
  | first :: second :: rest =>
    if first.all isBlank then (first ++ second) :: rest else first :: second :: rest
  | ws => ws

/-- The characters without the blanks at their end. -/
def withoutTail (cs : List Char) : List Char :=
  (cs.reverse.dropWhile isBlank).reverse

/-- Cuts characters, of which those of `line` go before in the same line, into pieces as wide as
fits into a width. -/
def chopAfter (width : Nat) (line : List Char) : List Char → List (List Char)
  | [] => [line]
  | c :: rest =>
    if columns line + columnsOf c ≤ width then chopAfter width (line ++ [c]) rest
    else line :: chopAfter width [c] rest

/-- Lines that are being filled: those that are full, the last one first, and the one that is
not. -/
structure Filling where
  full : List (List Char) := []
  line : List Char := []

namespace Filling

/-- Goes on in a new line, unless the line is still empty. -/
def breakTo (f : Filling) (cs : List Char) : Filling :=
  if f.line.isEmpty then { f with line := cs } else { full := f.line :: f.full, line := cs }

/-- Goes on with a word. -/
def place (o : Overflow) (width : Nat) (f : Filling) (word : List Char) : Filling :=
  let need := columns (withoutTail word)
  if columns f.line + need ≤ width then { f with line := f.line ++ word }
  else if o = .fold ∧ width < need then (chopAfter width [] word).foldl breakTo f
  else f.breakTo word

def lines (f : Filling) : List (List Char) :=
  (f.line :: f.full).reverse

end Filling

/-- The characters without as many of the blanks at their end as they have too many. -/
def trimExcess (width : Nat) (cs : List Char) : List Char :=
  cs.take (cs.length - min (cs.length - width) (cs.length - (withoutTail cs).length))

/-- The longest beginning of characters that takes up a width, looked for by halving between two
lengths. Half a wide character is filled up by a space. -/
def fitBetween (width : Nat) (cs : List Char) (low high : Nat) : List Char :=
  let middle := (low + high) / 2
  let start := cs.take (middle + 1)
  let taken := columns start
  if taken = width then start
  else if taken = width + 1 ∧ (start.getLast?.map columnsOf) = some 2 then start.dropLast ++ [' ']
  else if width < taken then
    if middle < high then fitBetween width cs low middle else start
  else if low < middle ∧ middle < high then fitBetween width cs middle high
  else start
termination_by high - low

/-- A line cut down to a width. -/
def crop (o : Overflow) (width : Nat) (cs : List Char) : List Char :=
  if columns cs ≤ width then cs
  else match o with
    | .fold => fitBetween width cs 0 cs.length
    | .ellipsis => fitBetween (width - 1) cs 0 cs.length ++ ['…']

/-- The lines that a single line of text takes up. -/
def wrapLine (o : Overflow) (width : Nat) (line : List Char) : List (List Char) :=
  let f := (spacedWords (expandTabs 0 line)).foldl (Filling.place o width) {}
  f.lines.map fun l => crop o width (trimExcess width l)

/-- The lines that a text takes up. -/
def wrap (o : Overflow) (width : Nat) (cs : List Char) : List (List Char) :=
  (cs.splitOn '\n').flatMap (wrapLine o width)

end FormGate.Console
