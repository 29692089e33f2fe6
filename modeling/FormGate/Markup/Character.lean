import FormGate.Markup.NameTable

/-!
# The characters of markup

Which characters a page may hold, which of them are white space, and which make up a name.
-/

namespace FormGate.Markup

/-- The characters that a page may hold. -/
def isLegal (c : Char) : Bool :=
  (0x20 ≤ c.toNat || c == '\t' || c == '\n' || c == '\r') && c.toNat != 0xFFFE && c.toNat != 0xFFFF

/-- The white space between the parts of a tag. -/
def isSpace (c : Char) : Bool :=
  c == ' ' || c == '\t' || c == '\n' || c == '\r'

/-- The characters that may start a name. -/
def isNameStart (c : Char) : Bool :=
  nameStartRanges.any fun r => r.1 ≤ c.toNat && c.toNat ≤ r.2

def isNameChar (c : Char) : Bool :=
  isNameStart c || nameExtraRanges.any fun r => r.1 ≤ c.toNat && c.toNat ≤ r.2

/-- The characters after the white space at the front. -/
def skipSpace (cs : List Char) : List Char :=
  cs.dropWhile isSpace

/-- A name without a prefix at the front, and what follows it. -/
def plainName? : List Char → Option (List Char × List Char)
  | [] => none
  | c :: rest =>
    if isNameStart c then some (c :: rest.takeWhile isNameChar, rest.dropWhile isNameChar)
    else none

/-- A name at the front, with one prefix or none, and what follows it. -/
def qualifiedName? (cs : List Char) : Option (List Char × List Char) :=
  match plainName? cs with
  | some (front, ':' :: rest) =>
    match plainName? rest with
    | some (_, ':' :: _) => none
    | some (back, after) => some (front ++ ':' :: back, after)
    | none => none
  | r => r

/-- The characters after a word that they start with. -/
def after? (word : String) (cs : List Char) : Option (List Char) :=
  if word.toList.isPrefixOf cs then some (cs.drop word.length) else none

/-- The text up to the first occurrence of `--`, `?>` or another closing mark of two characters,
and what follows the mark. Every character before it has to be legal. -/
def upTo? (first second : Char) : List Char → Option (List Char × List Char)
  | [] => none
  | c :: rest =>
    if c = first && rest.head? == some second then some ([], rest.drop 1)
    else if isLegal c then (upTo? first second rest).map fun p => (c :: p.1, p.2)
    else none

/-- What follows a comment whose opening mark was read. -/
def afterComment? (cs : List Char) : Option (List Char) :=
  match upTo? '-' '-' cs with
  | some (_, '>' :: rest) => some rest
  | _ => none

/-- The target of an instruction whose opening mark was read, and what follows the instruction. -/
def instruction? (cs : List Char) : Option (List Char × List Char) :=
  match plainName? cs with
  | none => none
  | some (target, rest) =>
    match rest with
    | '?' :: '>' :: after => some (target, after)
    | c :: body =>
      if isSpace c then (upTo? '?' '>' body).map fun p => (target, p.2) else none
    | [] => none

/-- Whether a target is kept for the declaration that opens a page, in any letter case. -/
def isReservedTarget (target : List Char) : Bool :=
  target.map Char.toLower == ['x', 'm', 'l']

/-- What follows an instruction whose opening mark was read. -/
def afterInstruction? (cs : List Char) : Option (List Char) :=
  match instruction? cs with
  | some (target, rest) => if isReservedTarget target then none else some rest
  | none => none

end FormGate.Markup
