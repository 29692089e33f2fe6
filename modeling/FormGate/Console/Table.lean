import FormGate.Console.Phrase
import FormGate.Console.Wrap

/-!
# Tables

A table is drawn with a border. A column is as wide as its widest cell; where the table is too wide
for the console, its widest columns are narrowed, and their cells wrapped.
-/

namespace FormGate.Console

open Text

def consoleWidth : Nat := 400

/-- Whether a character ends a line when the width of a text is taken. -/
def endsLine (c : Char) : Bool :=
  c == '\n' || (0x1C ≤ c.toNat && c.toNat ≤ 0x1E) || c.toNat == 0x85 || c.toNat == 0x2028 ||
    c.toNat == 0x2029

/-- The width of the widest line of a text. -/
def naturalWidth (cs : List Char) : Nat :=
  ((cs.splitOnP endsLine).map columns).foldl max 0

/-- A quotient rounded to the nearest whole number, and half-way to the even one. -/
def roundedQuotient (n d : Nat) : Nat :=
  let q := n / d
  let twice := 2 * (n % d)
  if twice < d ∨ (twice = d ∧ q % 2 = 0) then q else q + 1

/-- Widths side by side. -/
def total (ws : List Nat) : Nat :=
  ws.foldl (· + ·) 0

/-- Takes an excess from the `count` columns of a width, from each its part of what remains but
never more than `most`. -/
def takeFrom (width most : Nat) : (excess count : Nat) → List Nat → List Nat
  | _, _, [] => []
  | excess, count, w :: ws =>
    if w = width then
      let part := min most (roundedQuotient excess count)
      (w - part) :: takeFrom width most (excess - part) (count - 1) ws
    else w :: takeFrom width most excess count ws

/-- Narrows the widest columns in rounds until the widths fit together into a limit. Each round
takes something away, and no column gets narrower than the second widest was. -/
def narrow (limit : Nat) : (rounds : Nat) → List Nat → List Nat
  | 0, ws => ws
  | rounds + 1, ws =>
    if total ws ≤ limit then ws
    else
      let excess := total ws - limit
      let widest := ws.foldl max 0
      let second := (ws.filter (· != widest)).foldl max 0
      narrow limit rounds
        (takeFrom widest (min excess (widest - second)) excess (ws.count widest) ws)

/-- The widths of the columns of a table, each with a space on both sides of its cells. -/
def columnWidths (rows : List (List (List Char))) : List Nat :=
  let count := (rows.head?.map (·.length)).getD 0
  let limit := consoleWidth - (count + 1)
  let natural := (List.range count).map fun i =>
    min limit ((rows.map fun r => naturalWidth ((r[i]?).getD [])).foldl max 0 + 2)
  narrow limit (total natural - limit) natural

/-- The characters filled up with spaces to a width. -/
def padded (width : Nat) (cs : List Char) : List Char :=
  cs ++ List.replicate (width - columns cs) ' '

/-- The lines that a row of cells takes up between bars: as many as its highest cell has. -/
def drawRow (bar : Char) (widths : List Nat) (row : List (List Char)) : List String :=
  let cells := List.zipWith (fun w cs => (w - 2, wrap .ellipsis (w - 2) cs)) widths row
  let height := (cells.map (·.2.length)).foldl max 0
  (List.range height).map fun i =>
    .ofList (bar :: cells.flatMap fun cell =>
      ' ' :: padded cell.1 ((cell.2[i]?).getD []) ++ [' ', bar])

def border (widths : List Nat) (left middle right : String) (rule : Char) : String :=
  left ++ middle.intercalate (widths.map fun w => .ofList (List.replicate w rule)) ++ right

def drawTable (header : List String) (rows : List (List Phrase)) : List String :=
  let head := header.map fun s => Phrase.shown [.own s]
  let body := rows.map fun r => r.map Phrase.shown
  let widths := columnWidths (head :: body)
  [border widths "┏" "┳" "┓" '━'] ++ drawRow '┃' widths head ++ [border widths "┡" "╇" "┩" '━'] ++
    body.flatMap (drawRow '│' widths) ++ [border widths "└" "┴" "┘" '─']

end FormGate.Console
