import FormGate.Text.Blank
import FormGate.Text.Digit

/-!
# Numerals

Two dialects of integer numerals occur. A rule parameter is read strictly: a sign, and digits of
any script with single underscores between them. A setting is read leniently: ASCII digits only,
but leading zeros and a fraction of zeros are allowed, and so are underscores. Both stop at the same
number of digits.
-/

namespace FormGate.Text.Numeral

def maxDigits : Nat := 4300

/-- The number that a list of digit values spells, most significant first. -/
def value (digits : List Nat) : Nat :=
  digits.foldl (fun n d => 10 * n + d) 0

/-- The digit values of the characters, where a single underscore may stand between two digits. -/
def groupedDigits? : List Char → Option (List Nat)
  | [] => none
  | [c] => (digitValue? c).map ([·])
  | c :: '_' :: rest => do
    let d ← digitValue? c
    let ds ← groupedDigits? rest
    return d :: ds
  | c :: rest => do
    let d ← digitValue? c
    let ds ← groupedDigits? rest
    return d :: ds

/-- Splits a sign off the characters: whether it is a minus, and the rest. -/
def splitSign : List Char → Bool × List Char
  | '-' :: rest => (true, rest)
  | '+' :: rest => (false, rest)
  | cs => (false, cs)

def signed (negative : Bool) (n : Nat) : Int :=
  if negative then -(n : Int) else n

/-- The white space around a numeral: blank, but none of the four separators below the space. -/
def isMargin (c : Char) : Bool :=
  isBlank c && !(0x1C ≤ c.toNat && c.toNat ≤ 0x1F)

/-- The characters without the white space around them. -/
def withoutMargins (cs : List Char) : List Char :=
  ((cs.dropWhile isMargin).reverse.dropWhile isMargin).reverse

/-- The integer that a rule parameter spells. -/
def integer? (s : String) : Option Int :=
  let (negative, cs) := splitSign (withoutMargins s.toList)
  match groupedDigits? cs with
  | none => none
  | some digits =>
    if digits.length ≤ maxDigits then some (signed negative (value digits)) else none

/-- Why a setting is no integer. -/
inductive Fault
  | malformed
  | tooLong
  deriving DecidableEq, Repr

/-- Splits a minus off the characters: whether there is one, and the rest. -/
def splitMinus : List Char → Bool × List Char
  | '-' :: rest => (true, rest)
  | cs => (false, cs)

/-- The integer of a plain numeral: a minus where there is one, and ASCII digits without a
superfluous zero in front. The minus counts as a digit, and a numeral that goes on for too long is
refused for that before anything after it is looked at. -/
def plain (cs : List Char) : Except Fault Int :=
  let (negative, body) := splitMinus cs
  let digits := body.takeWhile isAsciiDigit
  match digits with
  | [] => .error .malformed
  | first :: more =>
    if first == '0' && !more.isEmpty then .error .malformed
    else if digits.length + (if negative then 1 else 0) > maxDigits then .error .tooLong
    else if digits.length < body.length then .error .malformed
    else .ok (signed negative (value (digits.map fun c => c.toNat - 0x30)))

/-- Drops the leading zeros of an unsigned numeral, with the underscores among them. A zero
stays before a decimal point and at the end, and a minus may follow the zeros. -/
def dropZeros : List Char → Option (List Char)
  | '0' :: rest =>
    match rest.dropWhile (fun c => c == '0' || c == '_') with
    | [] => some [((('0' :: rest).getLast?).getD '0')]
    | '.' :: tail =>
      let last := ((rest.takeWhile (fun c => c == '0' || c == '_')).getLast?).getD '0'
      some (last :: '.' :: tail)
    | c :: tail => if ('1' ≤ c && c ≤ '9') || c == '-' then some (c :: tail) else none
  | c :: rest => if ('1' ≤ c && c ≤ '9') || c == '-' then some (c :: rest) else none
  | [] => none

/-- Drops a decimal point with zeros and nothing else after it. -/
def dropZeroFraction (cs : List Char) : List Char :=
  match cs.dropWhile (· != '.') with
  | _ :: fraction =>
    if !fraction.isEmpty && fraction.all (· == '0') then cs.takeWhile (· != '.') else cs
  | [] => cs

/-- Drops the underscores, where none stands at an end or beside another. -/
def dropUnderscores (cs : List Char) : List Char :=
  if (cs.splitOn '_').any (·.isEmpty) then cs else cs.filter (· != '_')

/-- The plain numeral that a numeral of a setting stands for. -/
def tidied? (cs : List Char) : Option (List Char) :=
  let tidy (cs : List Char) : Option (List Char) :=
    (dropZeros cs).map fun cs => dropUnderscores (dropZeroFraction cs)
  match withoutMargins cs with
  | '+' :: rest => if rest.head? == some '-' then none else tidy rest
  | '-' :: rest => (tidy rest).map ('-' :: ·)
  | cs => tidy cs

/-- The integer that a setting spells: as a plain numeral, or else as what is left of it when the
white space, the leading zeros, a fraction of zeros and the underscores are gone. -/
def lenient (s : String) : Except Fault Int :=
  match plain s.toList, tidied? s.toList with
  | .error .malformed, some cs => plain cs
  | r, _ => r

example : integer? " 1_0 " = some 10 ∧ integer? "+٥" = some 5 ∧ integer? "1__0" = none := by
  decide

example : (lenient " 5_0 ").toOption = some 50 ∧ (lenient "1.0").toOption = some 1 ∧
    (lenient "-5").toOption = some (-5) ∧ (lenient "007").toOption = some 7 ∧
    (lenient "٥").toOption = none ∧ (lenient "1.").toOption = none ∧
    (lenient "-0_7").toOption = some (-7) ∧ (lenient "-_7").toOption = none := by
  decide

end FormGate.Text.Numeral
