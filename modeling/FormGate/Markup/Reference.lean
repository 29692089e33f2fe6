import FormGate.Markup.Character

/-!
# References

An ampersand opens a reference: to a character by its code point, or to an entity by its name. Five
entities are known everywhere.
-/

namespace FormGate.Markup

/-- The value of a digit in a base of at most sixteen. -/
def digitIn? (base : Nat) (c : Char) : Option Nat :=
  let v :=
    if '0' ≤ c && c ≤ '9' then some (c.toNat - 0x30)
    else if 'a' ≤ c && c ≤ 'f' then some (c.toNat - 0x57)
    else if 'A' ≤ c && c ≤ 'F' then some (c.toNat - 0x37)
    else none
  v.filter (· < base)

/-- The number that digits of a base spell. -/
def numberIn (base : Nat) (digits : List Char) : Nat :=
  digits.foldl (fun n c => base * n + (digitIn? base c).getD 0) 0

/-- The character of a code point, where a page may refer to it. -/
def codePoint? (n : Nat) : Option Char :=
  if h : n.isValidChar then
    let c := Char.ofNatAux n h
    if isLegal c then some c else none
  else none

/-- The character of a reference by code point, after `&#`, and what follows the reference. -/
def charReference? (cs : List Char) : Option (Char × List Char) :=
  let (base, body) := match cs with
    | 'x' :: rest => (16, rest)
    | _ => (10, cs)
  let isDigit (c : Char) : Bool := (digitIn? base c).isSome
  match body.takeWhile isDigit, body.dropWhile isDigit with
  | [], _ => none
  | digits, ';' :: rest => (codePoint? (numberIn base digits)).map fun c => (c, rest)
  | _, _ => none

/-- The character of an entity that is known everywhere. -/
def knownEntity? : List Char → Option Char
  | ['a', 'm', 'p'] => some '&'
  | ['l', 't'] => some '<'
  | ['g', 't'] => some '>'
  | ['q', 'u', 'o', 't'] => some '"'
  | ['a', 'p', 'o', 's'] => some '\''
  | _ => none

/-- The name of a reference to an entity, after `&`, and what follows the reference. -/
def entityName? (cs : List Char) : Option (List Char × List Char) :=
  match plainName? cs with
  | some (name, ';' :: rest) => some (name, rest)
  | _ => none

/-- What a reference stands for: one character, or an entity that is not known. -/
inductive Referent
  | char (c : Char)
  | unknown (name : List Char)
  deriving DecidableEq, Repr

/-- What the reference after an ampersand stands for, and what follows it. -/
def reference? (cs : List Char) : Option (Referent × List Char) :=
  match cs with
  | '#' :: rest => (charReference? rest).map fun p => (.char p.1, p.2)
  | _ =>
    match entityName? cs with
    | some (name, rest) =>
      match knownEntity? name with
      | some c => some (.char c, rest)
      | none => some (.unknown name, rest)
    | none => none

end FormGate.Markup
