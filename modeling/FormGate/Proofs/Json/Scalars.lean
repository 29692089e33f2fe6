import FormGate.Json.Reader
import FormGate.Json.Writer
import Mathlib.Data.List.Basic
import Mathlib.Tactic.SplitIfs

/-!
# Written scalars

A number is read back from its digits and a string from its escapes, wherever they stand. A number
ends where what follows cannot go on with it; a string ends at its closing quote, as a quote inside it
is escaped. A character beyond 0xFFFF comes back from the two surrogates that it is escaped by.
-/

namespace FormGate.Json

open Text Reader

/-! ## Numbers -/

/-- What may stand behind a number: nothing that would go on with it. -/
def Stops (rest : List Char) : Prop :=
  ∀ c ∈ rest.head?, isAsciiDigit c = false ∧ c ≠ '.' ∧ c ≠ 'e' ∧ c ≠ 'E'

theorem isAsciiDigit_iff_isDigit (c : Char) : isAsciiDigit c = c.isDigit := by
  rw [Bool.eq_iff_iff]
  simp only [isAsciiDigit, Char.isDigit, Bool.and_eq_true, decide_eq_true_eq, Char.le_def]

/-- The decimal digits of a number. -/
def decimal (n : Nat) : List Char :=
  Nat.toDigits 10 n

theorem decimal_ne_nil (n : Nat) : decimal n ≠ [] :=
  Nat.toDigits_ne_nil

theorem isAsciiDigit_of_mem_decimal {n : Nat} {c : Char} (h : c ∈ decimal n) :
    isAsciiDigit c = true := by
  rw [isAsciiDigit_iff_isDigit]
  exact Nat.isDigit_of_mem_toDigits (by decide) (by decide) h

theorem value_decimal (n : Nat) : Numeral.value ((decimal n).map fun c => c.toNat - 0x30) = n := by
  have spelt : Nat.ofDigitChars 10 (decimal n) 0 = n := Nat.ofDigitChars_toDigits (by decide) (by decide)
  rw [Nat.ofDigitChars_eq_foldl] at spelt
  rw [Numeral.value, List.foldl_map]
  exact spelt

theorem head?_decimal {n : Nat} (nonzero : n ≠ 0) : (decimal n).head? ≠ some '0' := by
  induction n using Nat.strongRecOn with
  | ind n ih =>
    unfold decimal at ih ⊢
    rw [Nat.toDigits_eq_if (by decide)]
    split
    · rename_i small
      intro zero
      have same := congrArg Char.toNat (Option.some.inj zero)
      rw [Nat.toNat_digitChar_of_lt_ten small] at same
      have code : '0'.toNat = 48 := rfl
      omega
    · rw [List.head?_append_of_ne_nil _ Nat.toDigits_ne_nil]
      exact ih (n / 10) (by omega) (by omega)

theorem digits_decimal (n : Nat) {rest : List Char} (ends : ∀ c ∈ rest.head?, isAsciiDigit c = false) :
    digits (decimal n ++ rest) = ((decimal n).map fun c => c.toNat - 0x30, rest) := by
  have all : ∀ c ∈ decimal n, isAsciiDigit c = true := fun c => isAsciiDigit_of_mem_decimal
  unfold digits
  rw [List.takeWhile_append_of_pos all, List.dropWhile_append_of_pos all]
  cases rest with
  | nil => simp
  | cons c rest =>
    have other := ends c rfl
    simp [other]

/-- What stands in front of the digits of a number. -/
def sign (negative : Bool) : List Char :=
  if negative then ['-'] else []

theorem toList_toString (n : Int) :
    (toString n).toList = sign (decide (n < 0)) ++ decimal n.natAbs := by
  rw [Int.toString_eq_repr, Int.repr_eq_if]
  split_ifs with positive
  · have size : n.toNat = n.natAbs := by omega
    rw [Nat.toList_repr, decimal, size, decide_eq_false (by omega)]
    rfl
  · have size : (-n).toNat = n.natAbs := by omega
    rw [String.toList_append, Nat.toList_repr, decimal, size, decide_eq_true (by omega)]
    rfl

theorem signed_natAbs (n : Int) : Numeral.signed (decide (n < 0)) n.natAbs = n := by
  unfold Numeral.signed
  split_ifs with negative
  · have := of_decide_eq_true negative
    omega
  · have : ¬ n < 0 := by simpa using negative
    omega

theorem ne_of_digit {c d : Char} (digit : isAsciiDigit c = true) (other : isAsciiDigit d = false) :
    d ≠ c := by
  rintro rfl
  rw [other] at digit
  cases digit

theorem exists_decimal (n : Nat) : ∃ c cs, decimal n = c :: cs ∧ isAsciiDigit c = true := by
  obtain ⟨c, cs, digits⟩ := List.exists_cons_of_ne_nil (decimal_ne_nil n)
  exact ⟨c, cs, digits, isAsciiDigit_of_mem_decimal (digits ▸ List.mem_cons_self)⟩

theorem splitSign_sign (negative : Bool) (n : Nat) (rest : List Char) :
    Numeral.splitSign (sign negative ++ (decimal n ++ rest)) = (negative, decimal n ++ rest) := by
  cases negative with
  | true => rfl
  | false =>
    obtain ⟨c, cs, digits, digit⟩ := exists_decimal n
    rw [digits]
    show Numeral.splitSign (c :: (cs ++ rest)) = _
    unfold Numeral.splitSign
    split
    · rename_i same
      exact absurd (List.cons.inj same).1.symm (ne_of_digit digit (by decide))
    · rename_i same
      exact absurd (List.cons.inj same).1.symm (ne_of_digit digit (by decide))
    · rfl

theorem fraction_of_head {rest : List Char} (other : ∀ c ∈ rest.head?, c ≠ '.') :
    fraction rest = (none, rest) := by
  cases rest with
  | nil => rfl
  | cons c rest =>
    unfold fraction
    split
    · rename_i same
      exact absurd (List.cons.inj same).1 (other c rfl)
    · rfl

theorem exponent_of_stops {rest : List Char} (stops : Stops rest) : exponent rest = (none, rest) := by
  cases rest with
  | nil => rfl
  | cons c rest =>
    have other := (stops c rfl).2.2
    unfold exponent
    simp [other.1, other.2]

/-- A whole number behind an `e` is read back as an exponent. -/
theorem exponent_toString (e : Int) {rest : List Char} (stops : Stops rest) :
    exponent ('e' :: ((toString e).toList ++ rest)) = (some e, rest) := by
  have read := digits_decimal e.natAbs fun c front => (stops c front).1
  have value := value_decimal e.natAbs
  obtain ⟨c, cs, digits, -⟩ := exists_decimal e.natAbs
  rw [toList_toString, List.append_assoc]
  unfold exponent
  simp only [splitSign_sign, read, decide_true, Bool.true_or, if_true]
  rw [digits] at value ⊢
  rw [List.map_cons] at value ⊢
  dsimp only
  rw [value, signed_natAbs]

/-- What a number is whose whole part is written by its digits. -/
theorem number_decimal (negative : Bool) (n : Nat) {rest : List Char}
    (ends : ∀ c ∈ rest.head?, isAsciiDigit c = false ∧ c ≠ '.') :
    number negative (decimal n ++ rest) =
      match exponent rest with
      | (none, after) =>
        if (decimal n).length ≤ Numeral.maxDigits then .ok (.int (Numeral.signed negative n), after)
        else .error .hugeInteger
      | (some e, after) => .ok (.real (.decimal negative n e), after) := by
  have point : fraction rest = (none, rest) := fraction_of_head fun c front => (ends c front).2
  by_cases zero : n = 0
  · subst zero
    show number negative ('0' :: rest) = _
    unfold number
    simp only [point, bind, Except.bind]
    obtain ⟨_ | e, after⟩ := exponent rest
    · rfl
    · exact congrArg (fun e => Except.ok (Json.real (.decimal negative 0 e), after)) (Int.sub_zero e)
  · have value := value_decimal n
    have size : ((decimal n).map fun c => c.toNat - 0x30).length = (decimal n).length :=
      List.length_map _
    have read := digits_decimal n fun c front => (ends c front).1
    obtain ⟨d, ds, shape⟩ := List.exists_cons_of_ne_nil
      (mt List.map_eq_nil_iff.1 (decimal_ne_nil n) : (decimal n).map (fun c => c.toNat - 0x30) ≠ [])
    rw [shape] at value size read
    unfold number
    split
    · rename_i same
      have front := congrArg List.head? same
      rw [List.head?_append_of_ne_nil _ (decimal_ne_nil n)] at front
      exact absurd front (head?_decimal zero)
    · rw [read]
      simp only [bind, Except.bind, point]
      obtain ⟨_ | e, after⟩ := exponent rest
      · simp only [size, value]
        rfl
      · simp only [Option.getD_none, List.append_nil, value]
        exact congrArg (fun e => Except.ok (Json.real (.decimal negative n e), after)) (Int.sub_zero e)

/-! ## Words and whole numbers -/

theorem word?_of_not_prefix {w : String} {cs : List Char} (h : w.toList.isPrefixOf cs = false) :
    word? w cs = none := by
  unfold word?
  rw [h]
  rfl

/-- A word is not read where another character than its first one stands. -/
theorem word?_of_head {w : String} {c : Char} {cs : List Char}
    (other : (w.toList.head?).any (· != c) = true) : word? w (c :: cs) = none := by
  refine word?_of_not_prefix ?_
  cases letters : w.toList with
  | nil =>
    rw [letters] at other
    cases other
  | cons d ds =>
    have apart : (d == c) = false := by simpa [letters] using other
    rw [List.isPrefixOf_cons_cons, apart, Bool.false_and]

section

variable {c : Char} (digit : isAsciiDigit c = true)
include digit

theorem scalar_of_digit (cs : List Char) : scalar (c :: cs) = number false (c :: cs) := by
  have unread (w : String) (lead : (w.toList.head?).any (!isAsciiDigit ·) = true) :
      word? w (c :: cs) = none := by
    refine word?_of_head ?_
    cases first : w.toList.head? with
    | none =>
      rw [first] at lead
      cases lead
    | some d =>
      have other : isAsciiDigit d = false := by simpa [first] using lead
      simpa using ne_of_digit digit other
  unfold scalar
  rw [unread "null" (by decide), unread "true" (by decide), unread "false" (by decide),
    unread "NaN" (by decide), unread "Infinity" (by decide), unread "-Infinity" (by decide)]
  dsimp only
  split
  · rename_i after same
    exact absurd (List.cons.inj same).1.symm (ne_of_digit digit (by decide))
  · rfl

theorem scalar_of_minus (cs : List Char) : scalar ('-' :: c :: cs) = number true (c :: cs) := by
  have infinity : word? "-Infinity" ('-' :: c :: cs) = none := by
    refine word?_of_not_prefix ?_
    have apart : ('I' == c) = false := by simpa using ne_of_digit digit (by decide)
    have letters : "-Infinity".toList = '-' :: 'I' :: "nfinity".toList := by decide
    rw [letters, List.isPrefixOf_cons_cons, List.isPrefixOf_cons_cons, apart, Bool.false_and,
      Bool.and_false]
  unfold scalar
  rw [word?_of_head (w := "null") (by decide), word?_of_head (w := "true") (by decide),
    word?_of_head (w := "false") (by decide), word?_of_head (w := "NaN") (by decide),
    word?_of_head (w := "Infinity") (by decide), infinity]
  rfl

end

theorem scalar_sign (negative : Bool) (n : Nat) (rest : List Char) :
    scalar (sign negative ++ (decimal n ++ rest)) = number negative (decimal n ++ rest) := by
  obtain ⟨c, cs, digits, digit⟩ := exists_decimal n
  rw [digits]
  cases negative with
  | true => exact scalar_of_minus digit (cs ++ rest)
  | false => exact scalar_of_digit digit (cs ++ rest)

/-- A whole number is read back, if it does not have too many digits. -/
theorem scalar_int {n : Int} (short : (decimal n.natAbs).length ≤ Numeral.maxDigits)
    {rest : List Char} (stops : Stops rest) :
    scalar ((toString n).toList ++ rest) = .ok (.int n, rest) := by
  rw [toList_toString, List.append_assoc, scalar_sign, number_decimal, exponent_of_stops stops]
  · dsimp only
    rw [if_pos short, signed_natAbs]
  · exact fun c front => ⟨(stops c front).1, (stops c front).2.1⟩

theorem toList_decimal (negative : Bool) (coefficient : Nat) (exponent : Int) :
    (Writer.real (.decimal negative coefficient exponent)).toList =
      sign negative ++ (decimal coefficient ++ 'e' :: (toString exponent).toList) := by
  have front : (if negative then "-" else "").toList = sign negative := by cases negative <;> rfl
  have digits : (toString coefficient).toList = decimal coefficient := Nat.toList_repr
  simp only [Writer.real, String.toList_append, front, digits, List.append_assoc]
  rfl

/-- A number that is no whole number is read back. -/
theorem scalar_real (r : Real) {rest : List Char} (stops : Stops rest) :
    scalar ((Writer.real r).toList ++ rest) = .ok (.real r, rest) := by
  cases r with
  | decimal negative coefficient exponent =>
    rw [toList_decimal, List.append_assoc, List.append_assoc, List.cons_append, scalar_sign,
      number_decimal, exponent_toString exponent stops]
    intro c front
    cases front
    decide
  | infinite negative => cases negative <;> rfl
  | notANumber => rfl

/-! ## Strings -/

theorem hexValue?_hexDigit {n : Nat} (small : n < 16) : hexValue? (hexDigit n) = some n := by
  decide +revert

/-- Four hexadecimal digits spell every number below 0x10000. -/
theorem hexFour?_hexDigits {n : Nat} (small : n < 0x10000) (rest : List Char) :
    hexFour? (hexDigits 4 n ++ rest) = some (n, rest) := by
  have digit (k : Nat) : hexValue? (hexDigit (k % 16)) = some (k % 16) :=
    hexValue?_hexDigit (Nat.mod_lt k (by decide))
  have whole : 0x1000 * (n / 16 / 16 / 16 % 16) + 0x100 * (n / 16 / 16 % 16) +
      0x10 * (n / 16 % 16) + n % 16 = n := by omega
  simp [hexDigits, hexFour?, digit, whole]

theorem codePoint_cases (c : Char) :
    c.toNat < 0xD800 ∨ 0xDFFF < c.toNat ∧ c.toNat < 0x110000 :=
  c.valid

/-- An escape of a code point below 0x10000 is read back, as no character is a surrogate. -/
theorem codeEscape?_hexDigits {c : Char} (small : c.toNat < 0x10000) (rest : List Char) :
    codeEscape? (hexDigits 4 c.toNat ++ rest) = some (c, rest) := by
  have single : (0xD800 ≤ c.toNat && c.toNat ≤ 0xDBFF) = false := by
    have := codePoint_cases c
    simp only [Bool.and_eq_false_iff, decide_eq_false_iff_not]
    omega
  have char : charOf c.toNat = c := by
    have := codePoint_cases c
    unfold charOf
    rw [if_neg (by simp only [Bool.and_eq_true, decide_eq_true_eq]; omega), Char.ofNat_toNat]
  unfold codeEscape?
  rw [hexFour?_hexDigits small]
  simp only [Option.bind_eq_bind, Option.bind_some, single, Bool.false_eq_true, if_false, char]
  rfl

theorem codeEscape?_surrogates {high low : Nat} (isHigh : (0xD800 ≤ high && high ≤ 0xDBFF) = true)
    (isLow : (0xDC00 ≤ low && low ≤ 0xDFFF) = true) (rest : List Char) :
    codeEscape? (hexDigits 4 high ++ (Writer.codeEscape low ++ rest)) =
      some (.ofNat (0x10000 + (high - 0xD800) * 0x400 + (low - 0xDC00)), rest) := by
  have small : high < 0x10000 ∧ low < 0x10000 := by
    simp only [Bool.and_eq_true, decide_eq_true_eq] at isHigh isLow
    omega
  unfold codeEscape?
  rw [hexFour?_hexDigits small.1]
  simp only [Option.bind_eq_bind, Option.bind_some, isHigh, if_true, Writer.codeEscape,
    List.cons_append]
  rw [hexFour?_hexDigits small.2]
  simp only [Option.bind_some, isLow, if_true]
  rfl

/-- The pair of surrogates by which a character beyond 0xFFFF is escaped is read back. -/
theorem codeEscape?_pair {c : Char} (large : 0x10000 ≤ c.toNat) (rest : List Char) :
    codeEscape? (hexDigits 4 (0xD800 + (c.toNat - 0x10000) / 0x400) ++
      (Writer.codeEscape (0xDC00 + (c.toNat - 0x10000) % 0x400) ++ rest)) = some (c, rest) := by
  have bound := codePoint_cases c
  have whole : 0x10000 + (0xD800 + (c.toNat - 0x10000) / 0x400 - 0xD800) * 0x400 +
      (0xDC00 + (c.toNat - 0x10000) % 0x400 - 0xDC00) = c.toNat := by omega
  rw [codeEscape?_surrogates, whole, Char.ofNat_toNat]
  · simp only [Bool.and_eq_true, decide_eq_true_eq]
    omega
  · simp only [Bool.and_eq_true, decide_eq_true_eq]
    omega

section

variable (fuel : Nat) (read more : List Char)

theorem string?_plain {c : Char} (quote : c ≠ '"') (escape : c ≠ '\\') (control : ¬ c.toNat < 0x20) :
    string? (fuel + 1) read (c :: more) = string? fuel (c :: read) more := by
  rw [string?.eq_def]
  dsimp only
  rw [if_neg quote, if_neg control, if_neg escape]

theorem string?_escape {d c : Char} (escape : escape? d = some c) :
    string? (fuel + 1) read ('\\' :: d :: more) = string? fuel (c :: read) more := by
  have other : d ≠ 'u' := by
    rintro rfl
    cases escape
  rw [string?.eq_def]
  dsimp only
  rw [if_neg (by decide), if_neg (by decide), if_pos rfl]
  split
  · rename_i same
    exact absurd (List.cons.inj same).1 other
  · rename_i same
    obtain ⟨rfl, rfl⟩ := List.cons.inj same
    rw [escape]
  · rename_i same
    cases same

theorem string?_codeEscape {tail : List Char} {c : Char}
    (escape : codeEscape? tail = some (c, more)) :
    string? (fuel + 1) read ('\\' :: 'u' :: tail) = string? fuel (c :: read) more := by
  rw [string?.eq_def]
  dsimp only
  rw [if_neg (by decide), if_neg (by decide), if_pos rfl]
  simp only [escape]

theorem string?_stringChar (ascii : Bool) (c : Char) :
    string? (fuel + 1) read (Writer.stringChar ascii c ++ more) = string? fuel (c :: read) more := by
  unfold Writer.stringChar
  split_ifs with marked newline carriage tab backspace formFeed control plain basic
  · refine string?_escape fuel read more ?_
    rcases (Bool.or_eq_true _ _ ▸ marked) with quote | escape
    · rw [of_decide_eq_true quote]
      rfl
    · rw [of_decide_eq_true escape]
      rfl
  · rw [newline]
    exact string?_escape fuel read more rfl
  · rw [carriage]
    exact string?_escape fuel read more rfl
  · rw [tab]
    exact string?_escape fuel read more rfl
  · rw [backspace]
    exact string?_escape fuel read more rfl
  · rw [formFeed]
    exact string?_escape fuel read more rfl
  · exact string?_codeEscape fuel read more (codeEscape?_hexDigits (by omega) more)
  · simp only [Bool.or_eq_true, decide_eq_true_eq, not_or] at marked
    exact string?_plain fuel read more marked.1 marked.2 control
  · exact string?_codeEscape fuel read more (codeEscape?_hexDigits basic more)
  · refine string?_codeEscape fuel read more ?_
    exact (congrArg codeEscape? (List.append_assoc _ _ _)).trans (codeEscape?_pair (by omega) more)

end

/-- The text between the quotes of a written string is read back. -/
theorem string?_written (ascii : Bool) (cs : List Char) {fuel : Nat} (read rest : List Char)
    (enough : cs.length < fuel) :
    string? fuel read (cs.flatMap (Writer.stringChar ascii) ++ '"' :: rest) =
      some (.ofList (read.reverse ++ cs), rest) := by
  induction cs generalizing fuel read with
  | nil =>
    obtain ⟨fuel, rfl⟩ : ∃ k, fuel = k + 1 := ⟨fuel - 1, by simp at enough; omega⟩
    simp [string?]
  | cons c cs ih =>
    obtain ⟨fuel, rfl⟩ : ∃ k, fuel = k + 1 := ⟨fuel - 1, by omega⟩
    rw [List.flatMap_cons, List.append_assoc, string?_stringChar,
      ih (c :: read) (by simpa using enough)]
    simp

end FormGate.Json
