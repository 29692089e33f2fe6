/-!
# Numbers in a field

A field holds a number when its value is a decimal numeral: a sign or none, digits with a decimal
point among, before or after them, and an exponent or none. All digits are ASCII digits.
-/

namespace FormGate.Number

def isDigit (c : Char) : Bool :=
  '0' ≤ c && c ≤ '9'

/-- The characters after a sign, where there is one. -/
def afterSign : List Char → List Char
  | c :: rest => if c = '+' || c = '-' then rest else c :: rest
  | [] => []

/-- The characters after a mantissa. -/
def afterMantissa? (cs : List Char) : Option (List Char) :=
  let whole := cs.takeWhile isDigit
  match cs.dropWhile isDigit with
  | '.' :: rest =>
    if whole.isEmpty && (rest.takeWhile isDigit).isEmpty then none
    else some (rest.dropWhile isDigit)
  | rest => if whole.isEmpty then none else some rest

/-- Whether the characters are an exponent, or none are left. -/
def isExponent : List Char → Bool
  | [] => true
  | c :: rest =>
    let digits := afterSign rest
    (c = 'e' || c = 'E') && !digits.isEmpty && digits.all isDigit

def isNumber (cs : List Char) : Bool :=
  match afterMantissa? (afterSign cs) with
  | some rest => isExponent rest
  | none => false

end FormGate.Number
