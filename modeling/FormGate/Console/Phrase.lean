import FormGate.Text.Emoji

/-!
# Phrases

What is shown on the console is put together from the program's own words and from text that comes
from outside. Both may hold emoji codes. In text from outside, brackets around the name of a style
stay as they are; of a backslash before any other opening bracket nothing is seen, and a single
backslash at the end is seen twice.
-/

namespace FormGate.Console

inductive Part
  /-- The program's own words. -/
  | own (s : String)
  /-- The program's own words in a style of their own. -/
  | styled (s : String)
  /-- Text from outside. -/
  | quoted (s : String)
  deriving DecidableEq, Repr

/-- What is shown in one go. -/
abbrev Phrase := List Part

/-- Characters that are shown together. An emoji code lies within one stretch, and a closed stretch
is not joined to the ones around it. -/
structure Stretch where
  closed : Bool
  text : List Char

def Stretch.join : Stretch → List Stretch → List Stretch
  | ⟨false, before⟩, ⟨false, after⟩ :: rest => ⟨false, before ++ after⟩ :: rest
  | s, rest => s :: rest

/-- Whether a character may open the name of a style. -/
def opensStyle (c : Char) : Bool :=
  ('a' ≤ c && c ≤ 'z') || c == '#' || c == '/' || c == '@'

/-- The stretches of what follows an opening bracket up to the next one. -/
def afterBracket (cs : List Char) : List Stretch :=
  let name := cs.takeWhile (· != ']')
  if cs.head?.any opensStyle && name.length < cs.length then
    [⟨true, '[' :: name ++ [']']⟩, ⟨false, cs.drop (name.length + 1)⟩]
  else [⟨false, '[' :: cs⟩]

/-- Whether exactly one backslash ends the characters. -/
def endsInOneBackslash (cs : List Char) : Bool :=
  (cs.reverse.takeWhile (· == '\\')).length == 1

def quotedStretches (cs : List Char) : List Stretch :=
  (match cs.splitOn '[' with
    | first :: others => ⟨false, first⟩ :: others.flatMap afterBracket
    | [] => []) ++
  if endsInOneBackslash cs then [⟨false, ['\\']⟩] else []

def Part.stretches : Part → List Stretch
  | .own s => [⟨false, s.toList⟩]
  | .styled s => [⟨true, s.toList⟩]
  | .quoted s => quotedStretches s.toList

/-- The characters without the backslashes that stand before an opening bracket. -/
def withoutEscapes : List Char → List Char
  | '\\' :: '[' :: rest => '[' :: withoutEscapes rest
  | c :: rest => c :: withoutEscapes rest
  | [] => []

/-- Whether a control character is left out. -/
def isSilent (c : Char) : Bool :=
  c == '\x07' || c == '\x08' || c == '\x0b' || c == '\x0c' || c == '\r'

/-- The characters that are seen of a phrase. -/
def Phrase.shown (p : Phrase) : List Char :=
  let stretches := (p.flatMap Part.stretches).foldr Stretch.join []
  (stretches.flatMap fun s => Text.Emoji.replace (withoutEscapes s.text)).filter (!isSilent ·)

end FormGate.Console
