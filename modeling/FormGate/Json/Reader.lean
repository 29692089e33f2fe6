import FormGate.Json.Basic
import FormGate.Text.Numeral

/-!
# Reading JSON

The reader takes one value with white space around it. It also knows the words `NaN`, `Infinity`
and `-Infinity`; it refuses raw control characters in strings, and an integer with more digits
than a numeral may have. Each call of the reader takes at least one character, so that the
number of characters bounds the depth of the recursion.
-/

namespace FormGate.Json

/-- Why a text is no JSON value. -/
inductive ReadFault
  | malformed
  | hugeInteger
  deriving DecidableEq, Repr

namespace Reader

/-- White space between the parts of a value. -/
def isSpace (c : Char) : Bool :=
  c == ' ' || c == '\n' || c == '\t' || c == '\r'

/-- The characters after the white space. -/
def skip (cs : List Char) : List Char :=
  cs.dropWhile isSpace

def hexValue? (c : Char) : Option Nat :=
  if '0' ≤ c && c ≤ '9' then some (c.toNat - 0x30)
  else if 'a' ≤ c && c ≤ 'f' then some (c.toNat - 0x57)
  else if 'A' ≤ c && c ≤ 'F' then some (c.toNat - 0x37)
  else none

def hexFour? : List Char → Option (Nat × List Char)
  | a :: b :: c :: d :: rest => do
    let a ← hexValue? a
    let b ← hexValue? b
    let c ← hexValue? c
    let d ← hexValue? d
    return (0x1000 * a + 0x100 * b + 0x10 * c + d, rest)
  | _ => none

/-- The character that a code point names; a surrogate that stands alone names the replacement
character. -/
def charOf (n : Nat) : Char :=
  if 0xD800 ≤ n && n ≤ 0xDFFF then .ofNat 0xFFFD else .ofNat n

/-- The character that stands for itself or for a control after a backslash. -/
def escape? : Char → Option Char
  | '"' => some '"'
  | '\\' => some '\\'
  | '/' => some '/'
  | 'b' => some '\x08'
  | 'f' => some '\x0c'
  | 'n' => some '\n'
  | 'r' => some '\r'
  | 't' => some '\t'
  | _ => none

/-- The character of an escape with a code point, which may be written as a pair of surrogates. -/
def codeEscape? (cs : List Char) : Option (Char × List Char) := do
  let (high, rest) ← hexFour? cs
  if 0xD800 ≤ high && high ≤ 0xDBFF then
    match rest with
    | '\\' :: 'u' :: tail =>
      let (low, after) ← hexFour? tail
      if 0xDC00 ≤ low && low ≤ 0xDFFF then
        return (.ofNat (0x10000 + (high - 0xD800) * 0x400 + (low - 0xDC00)), after)
      else return (charOf high, rest)
    | _ => return (charOf high, rest)
  else return (charOf high, rest)

/-- The rest of a string after its opening quote; `read` holds what was read, in reverse. -/
def string? : (fuel : Nat) → (read : List Char) → List Char → Option (String × List Char)
  | 0, _, _ => none
  | _ + 1, _, [] => none
  | fuel + 1, read, c :: rest =>
    if c = '"' then some (.ofList read.reverse, rest)
    else if c.toNat < 0x20 then none
    else if c = '\\' then
      match rest with
      | 'u' :: tail =>
        match codeEscape? tail with
        | some (d, after) => string? fuel (d :: read) after
        | none => none
      | d :: tail =>
        match escape? d with
        | some e => string? fuel (e :: read) tail
        | none => none
      | [] => none
    else string? fuel (c :: read) rest

def digits (cs : List Char) : List Nat × List Char :=
  ((cs.takeWhile Text.isAsciiDigit).map fun c => c.toNat - 0x30, cs.dropWhile Text.isAsciiDigit)

/-- The fraction after a decimal point, where at least one digit follows the point. -/
def fraction : List Char → Option (List Nat) × List Char
  | '.' :: rest =>
    match digits rest with
    | ([], _) => (none, '.' :: rest)
    | (ds, after) => (some ds, after)
  | cs => (none, cs)

/-- The exponent, where at least one digit follows its letter and sign. -/
def exponent : List Char → Option Int × List Char
  | c :: rest =>
    if c = 'e' || c = 'E' then
      let (negative, body) := Text.Numeral.splitSign rest
      match digits body with
      | ([], _) => (none, c :: rest)
      | (ds, after) => (some (Text.Numeral.signed negative (Text.Numeral.value ds)), after)
    else (none, c :: rest)
  | [] => (none, [])

/-- A number, whose sign was read before. -/
def number (negative : Bool) (cs : List Char) : Except ReadFault (Json × List Char) := do
  let (whole, rest) ← match cs with
    | '0' :: rest => .ok ([0], rest)
    | _ => match digits cs with
      | ([], _) => .error .malformed
      | r => .ok r
  let (frac, rest) := fraction rest
  let (exp, rest) := exponent rest
  match frac, exp with
  | none, none =>
    if whole.length ≤ Text.Numeral.maxDigits then
      return (.int (Text.Numeral.signed negative (Text.Numeral.value whole)), rest)
    else throw .hugeInteger
  | _, _ =>
    let ds := frac.getD []
    return (.real (.decimal negative (Text.Numeral.value (whole ++ ds))
      (exp.getD 0 - ds.length)), rest)

/-- The characters after a word that they start with. -/
def word? (w : String) (cs : List Char) : Option (List Char) :=
  if w.toList.isPrefixOf cs then some (cs.drop w.length) else none

/-- A value that is neither a string, a list nor an object. -/
def scalar (cs : List Char) : Except ReadFault (Json × List Char) :=
  match word? "null" cs, word? "true" cs, word? "false" cs, word? "NaN" cs,
      word? "Infinity" cs, word? "-Infinity" cs with
  | some rest, _, _, _, _, _ => .ok (.null, rest)
  | _, some rest, _, _, _, _ => .ok (.bool true, rest)
  | _, _, some rest, _, _, _ => .ok (.bool false, rest)
  | _, _, _, some rest, _, _ => .ok (.real .notANumber, rest)
  | _, _, _, _, some rest, _ => .ok (.real (.infinite false), rest)
  | _, _, _, _, _, some rest => .ok (.real (.infinite true), rest)
  | _, _, _, _, _, _ =>
    match cs with
    | '-' :: rest => number true rest
    | _ => number false cs

mutual

def value : (fuel : Nat) → List Char → Except ReadFault (Json × List Char)
  | 0, _ => .error .malformed
  | fuel + 1, cs =>
    match cs with
    | '"' :: rest =>
      match string? rest.length.succ [] rest with
      | some (s, after) => .ok (.text s, after)
      | none => .error .malformed
    | '[' :: rest =>
      match skip rest with
      | ']' :: after => .ok (.list [], after)
      | body => items fuel [] body
    | '{' :: rest =>
      match skip rest with
      | '}' :: after => .ok (.object [], after)
      | body => fields fuel [] body
    | _ => scalar cs

/-- The items of a list from the next one on; `read` holds those before it, in reverse. -/
def items : (fuel : Nat) → (read : List Json) → List Char → Except ReadFault (Json × List Char)
  | 0, _, _ => .error .malformed
  | fuel + 1, read, cs => do
    let (item, rest) ← value fuel cs
    match skip rest with
    | ']' :: after => return (.list (item :: read).reverse, after)
    | ',' :: more => items fuel (item :: read) (skip more)
    | _ => throw .malformed

/-- The fields of an object from the next one on, after those already read. -/
def fields : (fuel : Nat) → (read : List (String × Json)) → List Char →
    Except ReadFault (Json × List Char)
  | 0, _, _ => .error .malformed
  | fuel + 1, read, cs =>
    match cs with
    | '"' :: rest =>
      match string? rest.length.succ [] rest with
      | none => .error .malformed
      | some (name, after) =>
        match skip after with
        | ':' :: body => do
          let (item, rest) ← value fuel (skip body)
          match skip rest with
          | '}' :: after => return (.object (addField read name item), after)
          | ',' :: more => fields fuel (addField read name item) (skip more)
          | _ => throw .malformed
        | _ => .error .malformed
    | _ => .error .malformed

end

end Reader

/-- The value that a text spells. -/
def read (s : String) : Except ReadFault Json :=
  match Reader.value (2 * s.length + 2) (Reader.skip s.toList) with
  | .ok (j, rest) => if (Reader.skip rest).isEmpty then .ok j else .error .malformed
  | .error e => .error e

end FormGate.Json
