import FormGate.Text.Blank
import FormGate.Text.Emoji.Table
import FormGate.Text.LetterCase

/-!
# Emoji codes

A text that is shown may ask for an emoji by a name between colons, such as `:heart:`. The name
may end in a wish for one of the two looks of the emoji, as in `:heart-text:`. A code that names
no emoji is shown as it is.
-/

namespace FormGate.Text.Emoji

def hexValue (c : Char) : Nat :=
  if c.isDigit then c.toNat - '0'.toNat else c.toNat - 'A'.toNat + 10

/-- The character with the code point that hexadecimal digits spell. -/
def character (digits : String) : Char :=
  .ofNat (digits.toList.foldl (fun n c => 16 * n + hexValue c) 0)

/-- The names of an entry, each with the emoji of the entry. -/
def ofEntry (entry : String) : List (String × List Char) :=
  match entry.splitOn " " with
  | points :: names => names.map (·, (points.splitOn "-").map character)
  | [] => []

def table : List (String × List Char) :=
  (throughE ++ throughL ++ ofM ++ throughV ++ throughZ).flatMap fun line =>
    (line.splitOn ", ").flatMap ofEntry

def named? (name : String) : Option (List Char) :=
  table.lookup name

/-- The ends of a code that wish for a look, each with the character that gives it. -/
def looks : List (List Char × Char) :=
  [("-emoji".toList, '\uFE0F'), ("-text".toList, '\uFE0E')]

/-- What a code asks for, whatever the case of its letters. -/
def read? (code : List Char) : Option (List Char) :=
  match looks.find? (·.1.isSuffixOf code) with
  | some (ending, look) =>
    (named? (lower (.ofList (code.take (code.length - ending.length))))).map (· ++ [look])
  | none => named? (lower (.ofList code))

/-- Puts the parts of a text that colons separate together again, with emoji in the place of the
codes. No code holds a blank, and none starts at the colon that ended another. -/
def assemble : List (List Char) → List Char
  | before :: code :: after :: rest =>
    if code.any isBlank then before ++ ':' :: assemble (code :: after :: rest)
    else before ++ (read? code).getD (':' :: code ++ [':']) ++ assemble (after :: rest)
  | [before, after] => before ++ ':' :: after
  | [only] => only
  | [] => []

/-- The text with emoji in the place of their codes. -/
def replace (cs : List Char) : List Char :=
  assemble (cs.splitOn ':')

end FormGate.Text.Emoji
