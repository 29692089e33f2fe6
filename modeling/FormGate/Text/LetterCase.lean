import FormGate.Text.LetterCase.Table

/-!
# Letter case

Tag names, input types and opt-in flags are compared in lower case, and the first letter of a
field's label is put into upper case. Both follow Unicode's full mappings: a letter may become
several, and a capital sigma that ends a word has a form of its own.
-/

namespace FormGate.Text

namespace LetterCase

/-- Whether one of the ranges holds the character. -/
def within (ranges : List (Nat × Nat)) (c : Char) : Bool :=
  ranges.any fun r => r.1 ≤ c.toNat && c.toNat ≤ r.2

/-- The character that a table of runs maps to, and the character itself where no run does. -/
def shifted (runs : List Run) (c : Char) : Char :=
  match runs.find? (·.covers c.toNat) with
  | some r => .ofNat (c.toNat + r.shift).toNat
  | none => c

def upperChar (c : Char) : List Char :=
  if c.toNat < 0x80 then [c.toUpper]
  else match upperExpansions.lookup c.toNat with
    | some ns => ns.map .ofNat
    | none => [shifted upperRuns c]

/-- The lower case of one character that stands alone. -/
def lowerChar (c : Char) : List Char :=
  if c.toNat < 0x80 then [c.toLower]
  else if c.toNat = 0x130 then ['i', .ofNat 0x307]
  else [shifted lowerRuns c]

/-- Whether the nearest character that is not ignored is a cased letter. -/
def meetsLetter (cs : List Char) : Bool :=
  match cs.dropWhile (within ignorableRanges) with
  | [] => false
  | c :: _ => within casedRanges c

/-- The lower case of the characters, of which `before` went before in reverse. A capital sigma
takes its final form after a letter where no letter follows. -/
def lowerFrom (before : List Char) : List Char → List Char
  | [] => []
  | c :: rest =>
    (if c.toNat = 0x3A3 then
      [if meetsLetter before && !meetsLetter rest then .ofNat 0x3C2 else .ofNat 0x3C3]
     else lowerChar c) ++ lowerFrom (c :: before) rest

end LetterCase

def lower (s : String) : String :=
  .ofList (LetterCase.lowerFrom [] s.toList)

def upper (s : String) : String :=
  .ofList (s.toList.flatMap LetterCase.upperChar)

def capitalised (s : String) : String :=
  match s.toList with
  | [] => ""
  | c :: rest => .ofList (LetterCase.upperChar c ++ rest)

end FormGate.Text
