/-!
# Decimal numbers as binary floating point

A number with a fraction or an exponent is held in binary with 53 significant bits. This module
rounds a decimal number to the nearest such number, a tie going to the even one, and says when the
result is a whole number. All arithmetic is exact.
-/

namespace FormGate.Binary64

/-- The natural number nearest to a quotient; a tie goes to the even one. -/
def roundQuotient (num den : Nat) : Nat :=
  let q := num / den
  let r := num % den
  if 2 * r < den then q
  else if den < 2 * r then q + 1
  else if q % 2 = 0 then q else q + 1

/-- The quotient divided by a power of two, as a quotient again. -/
def scaled (num den : Nat) (e : Int) : Nat × Nat :=
  if 0 ≤ e then (num, den * Nat.pow 2 e.toNat) else (num * Nat.pow 2 (-e).toNat, den)

/-- The exponent of two for which the quotient has 53 binary digits before the point, but never
below that of the least positive number. -/
def exponentFor (num den : Nat) : Int :=
  let guess : Int := (Nat.log2 num : Int) - Nat.log2 den - 52
  let whole (e : Int) : Nat := (scaled num den e).1 / (scaled num den e).2
  let e := if whole guess < Nat.pow 2 52 then guess - 1
    else if Nat.pow 2 53 ≤ whole guess then guess + 1 else guess
  max e (-1074)

/-- A rounded number: a significand and the power of two it is multiplied by, or infinity. -/
inductive Magnitude
  | finite (significand : Nat) (exponent : Int)
  | infinite
  deriving DecidableEq, Repr

def ofQuotient (num den : Nat) : Magnitude :=
  if num = 0 then .finite 0 0
  else
    let e := exponentFor num den
    let s := scaled num den e
    let m := roundQuotient s.1 s.2
    if 0 ≤ e && Nat.pow 2 1024 ≤ m * Nat.pow 2 e.toNat then .infinite else .finite m e

/-- The rounded value of a coefficient times a power of ten. Exponents far outside the range of
the format are settled without computing the power. -/
def ofDecimal (coefficient : Nat) (exponent : Int) : Magnitude :=
  let size : Int := Nat.log2 coefficient
  if coefficient = 0 then .finite 0 0
  else if 400 < exponent then .infinite
  else if exponent + size < -400 then .finite 0 0
  else if 0 ≤ exponent then ofQuotient (coefficient * Nat.pow 10 exponent.toNat) 1
  else ofQuotient coefficient (Nat.pow 10 (-exponent).toNat)

/-- The whole number that a rounded number equals. -/
def Magnitude.whole? : Magnitude → Option Nat
  | .infinite => none
  | .finite m e =>
    if 0 ≤ e then some (m * Nat.pow 2 e.toNat)
    else if m % Nat.pow 2 (-e).toNat = 0 then some (m / Nat.pow 2 (-e).toNat) else none

end FormGate.Binary64
