import FormGate.Text.Blank

/-!
# E-mail addresses

An address is a local part and a domain with an `@` between them. The local part is a row of atoms
with dots between them, or anything between double quotes. The domain is four groups of digits in
brackets, or a row of labels that ends in a word of at least two letters.
-/

namespace FormGate.Email

def isLetter (c : Char) : Bool :=
  ('a' ≤ c && c ≤ 'z') || ('A' ≤ c && c ≤ 'Z')

def isDigit (c : Char) : Bool :=
  '0' ≤ c && c ≤ '9'

def isAtomChar (c : Char) : Bool :=
  !("<>()[]\\.,;:@\"".toList.contains c) && !Text.isBlank c

/-- The characters of a domain label. -/
def isLabelChar (c : Char) : Bool :=
  isLetter c || isDigit c || c == '-'

/-- At least one character, and all of one class. -/
def isRun (p : Char → Bool) (cs : List Char) : Bool :=
  !cs.isEmpty && cs.all p

def isDotAtom (cs : List Char) : Bool :=
  (cs.splitOn '.').all (isRun isAtomChar)

/-- Something between double quotes, on one line. -/
def isQuotedName (cs : List Char) : Bool :=
  match cs with
  | '"' :: rest =>
    match rest.reverse with
    | '"' :: inside => isRun (· != '\n') inside
    | _ => false
  | _ => false

def isLocalPart (cs : List Char) : Bool :=
  isDotAtom cs || isQuotedName cs

/-- Four groups of one to three digits between brackets. -/
def isAddressLiteral (cs : List Char) : Bool :=
  match cs with
  | '[' :: rest =>
    match rest.reverse with
    | ']' :: inside =>
      let groups := inside.splitOn '.'
      groups.length == 4 && groups.all fun g => isRun isDigit g && g.length ≤ 3
    | _ => false
  | _ => false

/-- Labels, each followed by a dot, and then a word of at least two letters. -/
def isHostName (cs : List Char) : Bool :=
  let labels := cs.splitOn '.'
  match labels.reverse with
  | last :: before@(_ :: _) =>
    last.all isLetter && 2 ≤ last.length && before.all (isRun isLabelChar)
  | _ => false

def isDomain (cs : List Char) : Bool :=
  isAddressLiteral cs || isHostName cs

/-- Every way to cut the characters at an `@`: what stands before it and what after. -/
def cuts : List Char → List (List Char × List Char)
  | [] => []
  | c :: rest =>
    let later := (cuts rest).map fun p => (c :: p.1, p.2)
    if c = '@' then ([], rest) :: later else later

def isAddress (cs : List Char) : Bool :=
  (cuts cs).any fun p => isLocalPart p.1 && isDomain p.2

end FormGate.Email
