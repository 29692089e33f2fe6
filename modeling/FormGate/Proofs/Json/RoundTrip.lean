import FormGate.Proofs.Json.Scalars
import Mathlib.Data.List.Nodup

/-!
# Written values

What is written is read as it was, on one line or over several, in ASCII or not. Two things only do
not come back: a whole number with more digits than the reader takes, and an object that gives a name
twice, of which the last value is kept. The reader has two units of fuel for each character, one for
the value and one for the item or field that it stands in.
-/

namespace FormGate.Json

open Text Reader

/-- A value without whole numbers that have too many digits and without objects that give a name
twice. -/
inductive Faithful : Json → Prop
  | null : Faithful .null
  | bool (b : Bool) : Faithful (.bool b)
  | int {n : Int} (short : (decimal n.natAbs).length ≤ Numeral.maxDigits) : Faithful (.int n)
  | real (r : Real) : Faithful (.real r)
  | text (s : String) : Faithful (.text s)
  | list {js : List Json} (items : ∀ j ∈ js, Faithful j) : Faithful (.list js)
  | object {fs : List (String × Json)} (distinct : (fs.map Prod.fst).Nodup)
      (values : ∀ f ∈ fs, Faithful f.2) : Faithful (.object fs)

/-! ## White space -/

theorem skip_cons {c : Char} (solid : isSpace c = false) (cs : List Char) :
    skip (c :: cs) = c :: cs := by
  unfold skip
  rw [List.dropWhile_cons_of_neg (by simpa using solid)]

theorem skip_append {gap : List Char} (blank : ∀ c ∈ gap, isSpace c = true) (cs : List Char) :
    skip (gap ++ cs) = skip cs :=
  List.dropWhile_append_of_pos blank

theorem isSpace_of_mem_single {c : Char} (h : c ∈ [' ']) : isSpace c = true := by
  rw [List.mem_singleton.1 h]
  rfl

theorem isSpace_of_mem_lineBreak {pretty : Bool} {depth : Nat} {c : Char}
    (h : c ∈ (Writer.lineBreak pretty depth).toList) : isSpace c = true := by
  unfold Writer.lineBreak at h
  split at h
  · rw [String.toList_ofList, List.mem_cons, List.mem_replicate] at h
    rcases h with rfl | ⟨-, rfl⟩ <;> decide
  · cases h

/-- Behind its comma, what stands between two items is white space. -/
theorem exists_comma (pretty : Bool) (depth : Nat) :
    ∃ gap, (Writer.comma pretty depth).toList = ',' :: gap ∧ ∀ c ∈ gap, isSpace c = true := by
  unfold Writer.comma
  split
  · refine ⟨(Writer.lineBreak true depth).toList, ?_, fun c => isSpace_of_mem_lineBreak⟩
    rw [String.toList_append]
    rfl
  · exact ⟨[' '], rfl, fun c => isSpace_of_mem_single⟩

theorem stops_cons {c : Char} (other : isAsciiDigit c = false ∧ c ≠ '.' ∧ c ≠ 'e' ∧ c ≠ 'E')
    (cs : List Char) : Stops (c :: cs) := by
  intro d same
  cases same
  exact other

/-- A line break and a closing bracket end a number. -/
theorem stops_closing (pretty : Bool) (depth : Nat) {c : Char}
    (other : isAsciiDigit c = false ∧ c ≠ '.' ∧ c ≠ 'e' ∧ c ≠ 'E') (rest : List Char) :
    Stops ((Writer.lineBreak pretty depth).toList ++ c :: rest) := by
  unfold Writer.lineBreak
  split
  · rw [String.toList_ofList]
    exact stops_cons (by decide) _
  · exact stops_cons other rest

/-! ## Values -/

/-- A character that begins neither a string, a list, an object nor white space, and closes no list. -/
def Bare (c : Char) : Prop :=
  isSpace c = false ∧ c ∉ ['"', '[', ']', '\x7b']

instance (c : Char) : Decidable (Bare c) :=
  inferInstanceAs (Decidable (isSpace c = false ∧ c ∉ ['"', '[', ']', '\x7b']))

theorem bare_of_digit {c : Char} (digit : isAsciiDigit c = true) : Bare c := by
  have other {d : Char} (h : isAsciiDigit d = false) : c ≠ d := (ne_of_digit digit h).symm
  have space : c ≠ ' ' ∧ c ≠ '\n' ∧ c ≠ '\t' ∧ c ≠ '\r' :=
    ⟨other (by decide), other (by decide), other (by decide), other (by decide)⟩
  refine ⟨by simp [isSpace, space], ?_⟩
  simp only [List.mem_cons, List.not_mem_nil, or_false, not_or]
  exact ⟨other (by decide), other (by decide), other (by decide), other (by decide)⟩

theorem exists_sign (negative : Bool) (n : Nat) (tail : List Char) :
    ∃ c cs, sign negative ++ (decimal n ++ tail) = c :: cs ∧ Bare c := by
  cases negative with
  | true => exact ⟨'-', _, rfl, by decide⟩
  | false =>
    obtain ⟨c, cs, digits, digit⟩ := exists_decimal n
    rw [digits]
    exact ⟨c, _, rfl, bare_of_digit digit⟩

theorem exists_int (n : Int) (tail : List Char) :
    ∃ c cs, (toString n).toList ++ tail = c :: cs ∧ Bare c := by
  rw [toList_toString, List.append_assoc]
  exact exists_sign _ _ _

theorem exists_real (r : Real) (tail : List Char) :
    ∃ c cs, (Writer.real r).toList ++ tail = c :: cs ∧ Bare c := by
  cases r with
  | decimal negative coefficient exponent =>
    rw [toList_decimal, List.append_assoc, List.append_assoc]
    exact exists_sign _ _ _
  | infinite negative =>
    cases negative with
    | true => exact ⟨'-', _, rfl, by decide⟩
    | false => exact ⟨'I', _, rfl, by decide⟩
  | notANumber => exact ⟨'N', _, rfl, by decide⟩

theorem value_of_bare {c : Char} (bare : Bare c) (fuel : Nat) (cs : List Char) :
    value (fuel + 1) (c :: cs) = scalar (c :: cs) := by
  have other : c ≠ '"' ∧ c ≠ '[' ∧ c ≠ ']' ∧ c ≠ '\x7b' := by simpa using bare.2
  rw [value.eq_def]
  dsimp only
  split
  · rename_i same
    exact absurd (List.cons.inj same).1 other.1
  · rename_i same
    exact absurd (List.cons.inj same).1 other.2.1
  · rename_i same
    exact absurd (List.cons.inj same).1 other.2.2.2
  · rfl

section

variable (ascii pretty : Bool)

/-- The characters by which a value is written. -/
def written (depth : Nat) (j : Json) : List Char :=
  (Writer.value ascii pretty depth j).toList

/-- A value that is read back from where it is written, if what stands behind it does not go on with a
number. -/
def ReadsBack (j : Json) : Prop :=
  ∀ (depth fuel : Nat) (rest : List Char), Stops rest →
    2 * (written ascii pretty depth j).length ≤ fuel →
      value fuel (written ascii pretty depth j ++ rest) = .ok (j, rest)

variable {ascii pretty}

theorem toList_string (s : String) : (Writer.string ascii s).toList =
    '"' :: (s.toList.flatMap (Writer.stringChar ascii) ++ ['"']) := by
  unfold Writer.string
  rw [String.toList_ofList]
  rfl

/-- A written value begins with neither white space nor a closing bracket. -/
theorem exists_written (ascii pretty : Bool) (depth : Nat) (j : Json) :
    ∃ c cs, written ascii pretty depth j = c :: cs ∧ isSpace c = false ∧ c ≠ ']' := by
  unfold written
  cases j with
  | null =>
    rw [Writer.value]
    exact ⟨'n', "ull".toList, by decide, by decide, by decide⟩
  | bool b =>
    rw [Writer.value]
    cases b with
    | true => exact ⟨'t', "rue".toList, by decide, by decide, by decide⟩
    | false => exact ⟨'f', "alse".toList, by decide, by decide, by decide⟩
  | int n =>
    obtain ⟨c, cs, opens, solid, other⟩ := exists_int n []
    rw [List.append_nil] at opens
    rw [Writer.value, opens]
    exact ⟨c, cs, rfl, solid, fun same => other (by simp [same])⟩
  | real r =>
    obtain ⟨c, cs, opens, solid, other⟩ := exists_real r []
    rw [List.append_nil] at opens
    rw [Writer.value, opens]
    exact ⟨c, cs, rfl, solid, fun same => other (by simp [same])⟩
  | text s =>
    rw [Writer.value, toList_string]
    exact ⟨'"', _, rfl, by decide, by decide⟩
  | list js =>
    cases js with
    | nil =>
      rw [Writer.value]
      exact ⟨'[', [']'], by decide, by decide, by decide⟩
    | cons j js =>
      simp only [Writer.value, String.toList_append, List.append_assoc]
      exact ⟨'[', _, rfl, by decide, by decide⟩
  | object fs =>
    cases fs with
    | nil =>
      rw [Writer.value]
      exact ⟨'\x7b', ['\x7d'], by decide, by decide, by decide⟩
    | cons f fs =>
      simp only [Writer.value, String.toList_append, List.append_assoc]
      exact ⟨'\x7b', _, rfl, by decide, by decide⟩

theorem skip_written (ascii pretty : Bool) (depth : Nat) (j : Json) (rest : List Char) :
    skip (written ascii pretty depth j ++ rest) = written ascii pretty depth j ++ rest := by
  obtain ⟨c, cs, opens, solid, -⟩ := exists_written ascii pretty depth j
  rw [opens]
  exact skip_cons solid _

/-! ### Lists -/

/-- The characters by which the items behind the first one are written. -/
def writtenItems (ascii pretty : Bool) (depth : Nat) (js : List Json) : List Char :=
  (Writer.items ascii pretty depth js).toList

/-- A further item stands behind its comma and white space. -/
theorem exists_writtenItems (ascii pretty : Bool) (depth : Nat) (j : Json) (js : List Json) :
    ∃ gap, (∀ c ∈ gap, isSpace c = true) ∧ ∀ tail,
      writtenItems ascii pretty depth (j :: js) ++ tail =
        ',' :: (gap ++ (written ascii pretty depth j ++
          (writtenItems ascii pretty depth js ++ tail))) := by
  obtain ⟨gap, comma, space⟩ := exists_comma pretty depth
  refine ⟨gap, space, fun tail => ?_⟩
  simp only [writtenItems, written, Writer.items, String.toList_append, comma, List.append_assoc,
    List.cons_append]

theorem items_step {depth fuel : Nat} {j : Json} {rest : List Char}
    (back : ReadsBack ascii pretty j) (stops : Stops rest)
    (enough : 2 * (written ascii pretty depth j).length ≤ fuel) (read : List Json) :
    items (fuel + 1) read (written ascii pretty depth j ++ rest) =
      match skip rest with
      | ']' :: after => .ok (.list (j :: read).reverse, after)
      | ',' :: more => items fuel (j :: read) (skip more)
      | _ => .error .malformed := by
  have item : value fuel (written ascii pretty depth j ++ rest) = .ok (j, rest) :=
    back depth fuel rest stops enough
  simp only [items, item, bind, Except.bind]
  rfl

/-- Items are read back up to the bracket that closes them. -/
theorem items_written {depth : Nat} {closing rest : List Char}
    (blank : ∀ c ∈ closing, isSpace c = true) (stops : Stops (closing ++ ']' :: rest)) {j : Json}
    {js : List Json} (all : ∀ k ∈ j :: js, ReadsBack ascii pretty k) {fuel : Nat} (read : List Json)
    (enough : 2 * (written ascii pretty depth j ++ writtenItems ascii pretty depth js).length < fuel) :
    items fuel read (written ascii pretty depth j ++ (writtenItems ascii pretty depth js ++
      (closing ++ ']' :: rest))) = .ok (.list (read.reverse ++ j :: js), rest) := by
  -- The reader goes from one item to the next, so the induction is on the items behind the first,
  -- and each comma pays for the step that it costs.
  induction js generalizing j fuel read with
  | nil =>
    rw [List.length_append] at enough
    obtain ⟨fuel, rfl⟩ : ∃ k, fuel = k + 1 := ⟨fuel - 1, by omega⟩
    have close : skip (closing ++ ']' :: rest) = ']' :: rest := by
      rw [skip_append blank, skip_cons (by decide)]
    show items (fuel + 1) read (written ascii pretty depth j ++ (closing ++ ']' :: rest)) = _
    rw [items_step (all j List.mem_cons_self) stops (by omega), close, List.reverse_cons]
    rfl
  | cons k js ih =>
    obtain ⟨gap, space, shape⟩ := exists_writtenItems ascii pretty depth k js
    have size := congrArg List.length (shape [])
    simp only [List.append_nil, List.length_cons, List.length_append] at size enough
    obtain ⟨fuel, rfl⟩ : ∃ k, fuel = k + 1 := ⟨fuel - 1, by omega⟩
    rw [shape, items_step (all j List.mem_cons_self) (stops_cons (by decide) _) (by omega),
      skip_cons (by decide)]
    show items fuel (j :: read) (skip (gap ++ _)) = _
    rw [skip_append space, skip_written,
      ih (fun i among => all i (List.mem_cons_of_mem j among)) (j :: read)
        (by rw [List.length_append]; omega), List.reverse_cons, List.append_assoc]
    rfl

/-! ### Objects -/

/-- The characters by which a field is written. -/
def writtenField (ascii pretty : Bool) (depth : Nat) (f : String × Json) : List Char :=
  (Writer.string ascii f.1).toList ++ ':' :: ' ' :: written ascii pretty depth f.2

/-- The characters by which the fields behind the first one are written. -/
def writtenFields (ascii pretty : Bool) (depth : Nat) (fs : List (String × Json)) : List Char :=
  (Writer.fields ascii pretty depth fs).toList

/-- A further field stands behind its comma and white space. -/
theorem exists_writtenFields (ascii pretty : Bool) (depth : Nat) (f : String × Json) (fs : List (String × Json)) :
    ∃ gap, (∀ c ∈ gap, isSpace c = true) ∧ ∀ tail,
      writtenFields ascii pretty depth (f :: fs) ++ tail =
        ',' :: (gap ++ (writtenField ascii pretty depth f ++
          (writtenFields ascii pretty depth fs ++ tail))) := by
  obtain ⟨gap, comma, space⟩ := exists_comma pretty depth
  have colon : ": ".toList = [':', ' '] := rfl
  refine ⟨gap, space, fun tail => ?_⟩
  simp only [writtenFields, writtenField, written, Writer.fields, String.toList_append, comma, colon,
    List.append_assoc, List.cons_append, List.nil_append]

/-- A name that an object does not give yet is added behind its fields. -/
theorem addField_of_notMem {fs : List (String × Json)} {name : String}
    (fresh : name ∉ fs.map Prod.fst) (j : Json) : addField fs name j = fs ++ [(name, j)] := by
  unfold addField
  rw [if_neg]
  simpa using fresh

theorem fresh_of_nodup {read fs : List (String × Json)} {f : String × Json}
    (distinct : ((read ++ f :: fs).map Prod.fst).Nodup) : f.1 ∉ read.map Prod.fst := by
  rw [List.map_append, List.map_cons, List.nodup_middle, List.nodup_cons] at distinct
  exact fun among => distinct.1 (List.mem_append_left _ among)

theorem length_le_flatMap (ascii : Bool) (cs : List Char) :
    cs.length ≤ (cs.flatMap (Writer.stringChar ascii)).length := by
  induction cs with
  | nil => exact Nat.le_refl 0
  | cons c cs ih =>
    have nonempty : 0 < (Writer.stringChar ascii c).length := by
      unfold Writer.stringChar
      split_ifs <;> exact Nat.succ_pos _
    rw [List.flatMap_cons, List.length_append, List.length_cons]
    omega

/-- A written string is read back, whatever follows its closing quote. -/
theorem string?_string (ascii : Bool) (s : String) (rest : List Char) :
    ∃ cs, (Writer.string ascii s).toList ++ rest = '"' :: cs ∧
      string? cs.length.succ [] cs = some (s, rest) := by
  refine ⟨s.toList.flatMap (Writer.stringChar ascii) ++ '"' :: rest, ?_, ?_⟩
  · rw [toList_string, List.cons_append, List.append_assoc]
    rfl
  · have bound := length_le_flatMap ascii s.toList
    rw [string?_written]
    · rw [List.reverse_nil, List.nil_append, String.ofList_toList]
    · rw [List.length_append]
      omega

theorem length_written_lt (ascii pretty : Bool) (depth : Nat) (f : String × Json) :
    (written ascii pretty depth f.2).length < (writtenField ascii pretty depth f).length := by
  simp only [writtenField, List.length_append, List.length_cons]
  omega

theorem skip_writtenField (ascii pretty : Bool) (depth : Nat) (f : String × Json) (rest : List Char) :
    skip (writtenField ascii pretty depth f ++ rest) = writtenField ascii pretty depth f ++ rest := by
  rw [writtenField, toList_string]
  exact skip_cons (by decide) _

theorem fields_step {depth fuel : Nat} {f : String × Json} {rest : List Char}
    (back : ReadsBack ascii pretty f.2) (stops : Stops rest)
    (enough : 2 * (written ascii pretty depth f.2).length ≤ fuel) (read : List (String × Json)) :
    fields (fuel + 1) read (writtenField ascii pretty depth f ++ rest) =
      match skip rest with
      | '\x7d' :: after => .ok (.object (addField read f.1 f.2), after)
      | ',' :: more => fields fuel (addField read f.1 f.2) (skip more)
      | _ => .error .malformed := by
  obtain ⟨cs, quoted, name⟩ := string?_string ascii f.1
    (':' :: ' ' :: (written ascii pretty depth f.2 ++ rest))
  have shape : writtenField ascii pretty depth f ++ rest = '"' :: cs := by
    rw [← quoted, writtenField, List.append_assoc, List.cons_append, List.cons_append]
  have space : skip (' ' :: (written ascii pretty depth f.2 ++ rest)) =
      written ascii pretty depth f.2 ++ rest :=
    (skip_append (fun c => isSpace_of_mem_single) _).trans (skip_written ascii pretty depth f.2 rest)
  have item : value fuel (written ascii pretty depth f.2 ++ rest) = .ok (f.2, rest) :=
    back depth fuel rest stops enough
  rw [shape]
  simp only [fields, name, skip_cons (c := ':') (by decide), space, item, bind, Except.bind]
  rfl

/-- Fields are read back up to the brace that closes them, if they give each name once. -/
theorem fields_written {depth : Nat} {closing rest : List Char}
    (blank : ∀ c ∈ closing, isSpace c = true) (stops : Stops (closing ++ '\x7d' :: rest))
    {f : String × Json} {fs : List (String × Json)}
    (all : ∀ g ∈ f :: fs, ReadsBack ascii pretty g.2) {fuel : Nat} {read : List (String × Json)}
    (distinct : ((read ++ f :: fs).map Prod.fst).Nodup)
    (enough : 2 * (writtenField ascii pretty depth f ++
      writtenFields ascii pretty depth fs).length < fuel) :
    fields fuel read (writtenField ascii pretty depth f ++ (writtenFields ascii pretty depth fs ++
      (closing ++ '\x7d' :: rest))) = .ok (.object (read ++ f :: fs), rest) := by
  -- As the names read so far are no later name, every field is added behind those before it.
  induction fs generalizing f fuel read with
  | nil =>
    have inner := length_written_lt ascii pretty depth f
    rw [List.length_append] at enough
    obtain ⟨fuel, rfl⟩ : ∃ k, fuel = k + 1 := ⟨fuel - 1, by omega⟩
    have close : skip (closing ++ '\x7d' :: rest) = '\x7d' :: rest := by
      rw [skip_append blank, skip_cons (by decide)]
    show fields (fuel + 1) read (writtenField ascii pretty depth f ++ (closing ++ '\x7d' :: rest)) = _
    rw [fields_step (all f List.mem_cons_self) stops (by omega), close,
      addField_of_notMem (fresh_of_nodup distinct)]
    rfl
  | cons g fs ih =>
    have inner := length_written_lt ascii pretty depth f
    obtain ⟨gap, space, shape⟩ := exists_writtenFields ascii pretty depth g fs
    have size := congrArg List.length (shape [])
    simp only [List.append_nil, List.length_cons, List.length_append] at size enough
    obtain ⟨fuel, rfl⟩ : ∃ k, fuel = k + 1 := ⟨fuel - 1, by omega⟩
    rw [shape, fields_step (all f List.mem_cons_self) (stops_cons (by decide) _) (by omega),
      skip_cons (by decide), addField_of_notMem (fresh_of_nodup distinct)]
    show fields fuel (read ++ [f]) (skip (gap ++ _)) = _
    rw [skip_append space, skip_writtenField,
      ih (fun i among => all i (List.mem_cons_of_mem f among)) (by rwa [List.append_assoc])
        (by rw [List.length_append]; omega), List.append_assoc]
    rfl

/-! ### Whole values -/

theorem value_bracket (fuel : Nat) (cs : List Char) :
    value (fuel + 1) ('[' :: cs) =
      match skip cs with
      | ']' :: after => .ok (.list [], after)
      | body => items fuel [] body :=
  rfl

theorem value_brace (fuel : Nat) (cs : List Char) :
    value (fuel + 1) ('\x7b' :: cs) =
      match skip cs with
      | '\x7d' :: after => .ok (.object [], after)
      | body => fields fuel [] body :=
  rfl

theorem readsBack_of_scalar {j : Json} (cs : List Char)
    (shape : ∀ depth, written ascii pretty depth j = cs)
    (opens : ∀ tail, ∃ c more, cs ++ tail = c :: more ∧ Bare c)
    (back : ∀ rest, Stops rest → scalar (cs ++ rest) = .ok (j, rest)) :
    ReadsBack ascii pretty j := by
  intro depth fuel rest stops enough
  obtain ⟨c, more, front, bare⟩ := opens rest
  obtain ⟨d, ds, nonempty, -, -⟩ := exists_written ascii pretty depth j
  rw [nonempty, List.length_cons] at enough
  obtain ⟨fuel, rfl⟩ : ∃ k, fuel = k + 1 := ⟨fuel - 1, by omega⟩
  rw [shape, ← back rest stops, front, value_of_bare bare]

theorem written_list (ascii pretty : Bool) (depth : Nat) (j : Json) (js : List Json) (rest : List Char) :
    written ascii pretty depth (.list (j :: js)) ++ rest =
      '[' :: ((Writer.lineBreak pretty (depth + 1)).toList ++
        (written ascii pretty (depth + 1) j ++ (writtenItems ascii pretty (depth + 1) js ++
          ((Writer.lineBreak pretty depth).toList ++ ']' :: rest)))) := by
  have opening : "[".toList = ['['] := rfl
  have closing : "]".toList = [']'] := rfl
  simp only [written, writtenItems, Writer.value, String.toList_append, List.append_assoc, opening,
    closing, List.cons_append, List.nil_append]

theorem readsBack_list {js : List Json} (all : ∀ j ∈ js, ReadsBack ascii pretty j) :
    ReadsBack ascii pretty (.list js) := by
  intro depth fuel rest stops enough
  cases js with
  | nil =>
    have shape : written ascii pretty depth (.list []) = ['[', ']'] := by
      rw [written, Writer.value]
      rfl
    rw [shape, List.length_cons] at enough
    obtain ⟨fuel, rfl⟩ : ∃ k, fuel = k + 1 := ⟨fuel - 1, by omega⟩
    rw [shape]
    rfl
  | cons j js =>
    have size := congrArg List.length (written_list ascii pretty depth j js [])
    simp only [List.append_nil, List.length_cons, List.length_append, List.length_nil] at size
    obtain ⟨fuel, rfl⟩ : ∃ k, fuel = k + 1 := ⟨fuel - 1, by omega⟩
    obtain ⟨c, cs, opens, solid, other⟩ :=
      exists_written ascii pretty (depth + 1) j
    rw [written_list, value_bracket, skip_append fun c => isSpace_of_mem_lineBreak, skip_written]
    split
    · rename_i same
      rw [opens] at same
      exact absurd (List.cons.inj same).1 other
    · exact items_written (fun c => isSpace_of_mem_lineBreak)
        (stops_closing pretty depth (by decide) rest) all []
        (by rw [List.length_append]; omega)

theorem written_object (ascii pretty : Bool) (depth : Nat) (f : String × Json)
    (fs : List (String × Json)) (rest : List Char) :
    written ascii pretty depth (.object (f :: fs)) ++ rest =
      '\x7b' :: ((Writer.lineBreak pretty (depth + 1)).toList ++
        (writtenField ascii pretty (depth + 1) f ++ (writtenFields ascii pretty (depth + 1) fs ++
          ((Writer.lineBreak pretty depth).toList ++ '\x7d' :: rest)))) := by
  have opening : "\x7b".toList = ['\x7b'] := rfl
  have closing : "\x7d".toList = ['\x7d'] := rfl
  have colon : ": ".toList = [':', ' '] := rfl
  simp only [written, writtenField, writtenFields, Writer.value, String.toList_append,
    List.append_assoc, opening, closing, colon, List.cons_append, List.nil_append]

theorem readsBack_object {fs : List (String × Json)} (distinct : (fs.map Prod.fst).Nodup)
    (all : ∀ f ∈ fs, ReadsBack ascii pretty f.2) : ReadsBack ascii pretty (.object fs) := by
  intro depth fuel rest stops enough
  cases fs with
  | nil =>
    have shape : written ascii pretty depth (.object []) = ['\x7b', '\x7d'] := by
      rw [written, Writer.value]
      rfl
    rw [shape, List.length_cons] at enough
    obtain ⟨fuel, rfl⟩ : ∃ k, fuel = k + 1 := ⟨fuel - 1, by omega⟩
    rw [shape]
    rfl
  | cons f fs =>
    have size := congrArg List.length (written_object ascii pretty depth f fs [])
    simp only [List.append_nil, List.length_cons, List.length_append, List.length_nil] at size
    obtain ⟨fuel, rfl⟩ : ∃ k, fuel = k + 1 := ⟨fuel - 1, by omega⟩
    rw [written_object, value_brace, skip_append fun c => isSpace_of_mem_lineBreak, skip_writtenField]
    split
    · rename_i same
      rw [writtenField, toList_string] at same
      exact absurd (List.cons.inj same).1 (by decide)
    · exact fields_written (fun c => isSpace_of_mem_lineBreak)
        (stops_closing pretty depth (by decide) rest) all distinct
        (by rw [List.length_append]; omega)

theorem readsBack_text (s : String) : ReadsBack ascii pretty (.text s) := by
  intro depth fuel rest stops enough
  obtain ⟨c, cs, opens, -, -⟩ := exists_written ascii pretty depth (.text s)
  rw [opens, List.length_cons] at enough
  obtain ⟨fuel, rfl⟩ : ∃ k, fuel = k + 1 := ⟨fuel - 1, by omega⟩
  obtain ⟨cs, quoted, back⟩ := string?_string ascii s rest
  rw [written, Writer.value, quoted]
  simp only [value, back]

theorem readsBack {j : Json} (faithful : Faithful j) : ReadsBack ascii pretty j := by
  induction faithful with
  | null =>
    refine readsBack_of_scalar "null".toList (fun depth => ?_) (fun tail => ?_) fun _ _ => rfl
    · rw [written, Writer.value]
    · exact ⟨'n', _, rfl, by decide⟩
  | bool b =>
    refine readsBack_of_scalar (if b then "true" else "false").toList (fun depth => ?_)
      (fun tail => ?_) fun _ _ => ?_
    · rw [written, Writer.value]
    · cases b with
      | true => exact ⟨'t', _, rfl, by decide⟩
      | false => exact ⟨'f', _, rfl, by decide⟩
    · cases b <;> rfl
  | @int n short =>
    refine readsBack_of_scalar _ (fun depth => ?_) (exists_int n) fun _ => scalar_int short
    rw [written, Writer.value]
  | real r =>
    refine readsBack_of_scalar _ (fun depth => ?_) (exists_real r) fun _ => scalar_real r
    rw [written, Writer.value]
  | text s => exact readsBack_text s
  | list items ih => exact readsBack_list ih
  | object distinct values ih => exact readsBack_object distinct ih

end

/-- What is written, on one line or over several, is read as it was. -/
theorem read_value (ascii pretty : Bool) {j : Json} (faithful : Faithful j) :
    Json.read (Writer.value ascii pretty 0 j) = .ok j := by
  have whole := (readsBack faithful : ReadsBack ascii pretty j) 0
    (2 * (Writer.value ascii pretty 0 j).length + 2) [] (fun c front => nomatch front) ?_
  · have start := skip_written ascii pretty 0 j []
    rw [List.append_nil] at whole start
    unfold Json.read
    rw [show (Writer.value ascii pretty 0 j).toList = written ascii pretty 0 j from rfl, start, whole]
    rfl
  · rw [written, String.length_toList]
    omega

end FormGate.Json
