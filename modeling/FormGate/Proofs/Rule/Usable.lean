import FormGate.Proofs.Rule.Grammar

/-!
# Parameters that a rule can use

The parameter of a rule is looked at twice: its shape when the rule is read, and its content when the
rule is applied. The two agree on every parameter of a built-in rule but one kind: a whole number is
accepted however many digits it has, and read only up to so many. So a rule that was read can be applied
exactly if it does not carry such a number (`Catalog.applies_iff`), and a rule that does is dropped only
when it is applied, and nothing is reported of it when it is read (`Catalog.overlong_accepted`).
-/

namespace FormGate

namespace Text.Numeral

/-! ## Digits -/

theorem toNat_of_isAsciiDigit {c : Char} (digit : isAsciiDigit c = true) :
    0x30 ≤ c.toNat ∧ c.toNat ≤ 0x39 := by
  have le {a b : Char} : a ≤ b ↔ a.toNat ≤ b.toNat := Iff.rfl
  simpa only [isAsciiDigit, Bool.and_eq_true, decide_eq_true_eq, le, Char.reduceToNat] using digit

theorem exists_digitValue? {c : Char} (digit : isAsciiDigit c = true) :
    ∃ n, digitValue? c = some n := by
  have ranges := toNat_of_isAsciiDigit digit
  have script : (digitZeros.find? fun z => z ≤ c.toNat && c.toNat ≤ z + 9).isSome = true :=
    List.find?_isSome.2 ⟨0x30, by decide, by simp [ranges]⟩
  obtain ⟨z, found⟩ := Option.isSome_iff_exists.1 script
  exact ⟨c.toNat - z, by rw [digitValue?, found, Option.map_some]⟩

theorem ne_of_isAsciiDigit {c d : Char} (digit : isAsciiDigit c = true)
    (other : isAsciiDigit d = false) : c ≠ d := by
  rintro rfl
  rw [digit] at other
  cases other

theorem isMargin_of_isAsciiDigit {c : Char} (digit : isAsciiDigit c = true) : isMargin c = false := by
  have ranges := toNat_of_isAsciiDigit digit
  cases blank : isBlank c with
  | false => rw [isMargin, blank, Bool.false_and]
  | true =>
    have := toNat_of_isBlank blank
    omega

theorem exists_groupedDigits? {cs : List Char} (some' : cs ≠ [])
    (digits : ∀ c ∈ cs, isAsciiDigit c = true) :
    ∃ ds, groupedDigits? cs = some ds ∧ ds.length = cs.length := by
  induction cs with
  | nil => exact absurd rfl some'
  | cons c cs ih =>
    obtain ⟨own, others⟩ := List.forall_mem_cons.1 digits
    cases cs with
    | nil =>
      obtain ⟨n, value⟩ := exists_digitValue? own
      exact ⟨[n], by rw [groupedDigits?, value, Option.map_some], rfl⟩
    | cons d cs =>
      obtain ⟨n, value⟩ := exists_digitValue? own
      have next : d ≠ '_' := ne_of_isAsciiDigit (others d List.mem_cons_self) (by decide)
      obtain ⟨ds, later, length⟩ := ih (List.cons_ne_nil _ _) others
      refine ⟨n :: ds, ?_, congrArg (· + 1) length⟩
      rw [groupedDigits?, value, later]
      · rfl
      · exact fun none => absurd none (List.cons_ne_nil _ _)
      · exact fun rest same => next (List.cons.inj same).1

theorem withoutMargins_of_digits {cs : List Char} (digits : ∀ c ∈ cs, isAsciiDigit c = true) :
    withoutMargins cs = cs := by
  have kept (cs : List Char) (digits : ∀ c ∈ cs, isAsciiDigit c = true) : cs.dropWhile isMargin = cs := by
    cases cs with
    | nil => rfl
    | cons c cs =>
      exact List.dropWhile_cons_of_neg (by simp [isMargin_of_isAsciiDigit (digits c List.mem_cons_self)])
  rw [withoutMargins, kept cs digits, kept cs.reverse fun c hc => digits c (List.mem_reverse.1 hc),
    List.reverse_reverse]

theorem splitSign_of_digits {cs : List Char} (digits : ∀ c ∈ cs, isAsciiDigit c = true) :
    splitSign cs = (false, cs) := by
  cases cs with
  | nil => rfl
  | cons c cs =>
    have own := digits c List.mem_cons_self
    unfold splitSign
    split
    · rename_i same
      exact absurd (List.cons.inj same).1 (ne_of_isAsciiDigit own (by decide))
    · rename_i same
      exact absurd (List.cons.inj same).1 (ne_of_isAsciiDigit own (by decide))
    · rfl

/-- A row of digits spells a number unless there are too many of them. -/
theorem isSome_integer?_iff {s : String} (some' : s.toList ≠ [])
    (digits : ∀ c ∈ s.toList, isAsciiDigit c = true) :
    (integer? s).isSome = true ↔ s.length ≤ maxDigits := by
  obtain ⟨ds, grouped, length⟩ := exists_groupedDigits? some' digits
  unfold integer?
  rw [withoutMargins_of_digits digits, splitSign_of_digits digits]
  dsimp only
  rw [grouped]
  dsimp only
  rw [length, String.length_toList]
  split_ifs with short
  · exact ⟨fun _ => short, fun _ => rfl⟩
  · exact ⟨fun impossible => absurd impossible Bool.false_ne_true, fun able => absurd able short⟩

end Text.Numeral

namespace Rule

/-- A rule of a number that has more digits than are read. -/
def Overlong (r : Rule) : Prop :=
  r.name ∈ [Builtin.minLength.name, Builtin.maxLength.name] ∧
    ∃ p, r.parameter = some p ∧ Text.Numeral.maxDigits < p.length

end Rule

/-! ## Applying a rule that was read -/

namespace Builtin

variable {lookup : String → Except Fault Referenced}

theorem settleWith_check (holds : Bool) (rest : String) : ∃ v, (check holds rest).settleWith lookup = .ok v :=
  ⟨_, rfl⟩

section Number

variable {name p : String} (some' : p.toList ≠ [])
  (digits : ∀ c ∈ p.toList, Text.isAsciiDigit c = true) {next : Int → Judgement}
include some' digits

theorem settleWith_withNumber (short : p.length ≤ Text.Numeral.maxDigits)
    (goes : ∀ n, ∃ v, (next n).settleWith lookup = .ok v) :
    ∃ v, (withNumber name (some p) next).settleWith lookup = .ok v := by
  obtain ⟨n, value⟩ :=
    Option.isSome_iff_exists.1 ((Text.Numeral.isSome_integer?_iff some' digits).2 short)
  obtain ⟨v, found⟩ := goes n
  refine ⟨v, ?_⟩
  rw [withNumber, Option.bind_some, value]
  exact found

/-- A rule of a number that has too many digits is dropped. -/
theorem settleWith_withNumber_overlong (long : Text.Numeral.maxDigits < p.length) :
    (withNumber name (some p) next).settleWith lookup =
      .error (RuleFault.unusableNumber name (some p)).toFault := by
  have unread : Text.Numeral.integer? p = none := by
    rw [← Option.not_isSome_iff_eq_none, Text.Numeral.isSome_integer?_iff some' digits]
    omega
  rw [withNumber, Option.bind_some, unread]
  rfl

end Number

theorem judge_matching {q : Question} {reference : String} (parameter : q.parameter = some reference)
    (given : reference ≠ "") :
    matching.judge q = .consult reference fun
      | .ok other =>
        check (q.value == other.value)
          (" must match " ++ Field.displayName (some other.name) ++ ".")
      | .error f => .fault f := by
  obtain ⟨value, kind, _, checked⟩ := q
  obtain rfl := parameter
  exact if_neg (by rwa [String.isEmpty_iff])

end Builtin

namespace Catalog

variable {c : Catalog} {raw : String} {r : Rule}

/-- A rule that was read names one of the catalog, and has a parameter of the shape that goes with it,
without outer blanks. -/
theorem shapes_of_mem_rules (read : r ∈ c.rules raw) :
    ∃ d, c.get? r.name = some d ∧
      match d.parameter with
      | .none => r.parameter = none
      | .integer => ∃ p, r.parameter = some p ∧ p.toList ≠ [] ∧
          ∀ ch ∈ p.toList, Text.isAsciiDigit ch = true
      | .reference => ∃ p, r.parameter = some p ∧ p.toList ≠ [] := by
  have accepted := (spelt_of_mem_rules read).2
  unfold accept at accepted
  cases found : c.get? r.name with
  | none =>
    rw [found] at accepted
    cases accepted
  | some d =>
    rw [found] at accepted
    refine ⟨d, rfl, ?_⟩
    dsimp only at accepted
    cases kind : d.parameter with
    | none =>
      rw [kind] at accepted
      cases parameter : r.parameter with
      | none => rfl
      | some p =>
        rw [parameter] at accepted
        cases accepted
    | integer =>
      rw [kind] at accepted
      dsimp only at accepted ⊢
      split_ifs at accepted with whole
      have trimmed := congrArg Rule.parameter (Except.ok.inj accepted)
      exact ⟨_, trimmed.symm, isWholeNumber_iff.1 whole⟩
    | reference =>
      rw [kind] at accepted
      dsimp only at accepted ⊢
      split_ifs at accepted with empty
      have trimmed := congrArg Rule.parameter (Except.ok.inj accepted)
      refine ⟨_, trimmed.symm, ?_⟩
      rwa [ne_eq, String.toList_eq_nil_iff, ← String.isEmpty_iff]

theorem name_of_get? {name : String} {d : Definition} (found : c.get? name = some d) :
    d ∈ c.definitions ∧ d.name = name :=
  ⟨List.mem_of_find?_eq_some found, by simpa using List.find?_some found⟩

section Default

variable {q : Question} {lookup : String → Except Fault Referenced}

/-- Whether a rule of a definition can be applied: exactly if it is not overlong, and if it is it is
dropped for its parameter. -/
def Applies (d : Definition) (r : Rule) (q : Question) (lookup : String → Except Fault Referenced) :
    Prop :=
  ((∃ v, (d.judge q).settleWith lookup = .ok v) ↔ ¬ r.Overlong) ∧
    (r.Overlong → (d.judge q).settleWith lookup =
      .error (RuleFault.unusableNumber r.name r.parameter).toFault)

theorem Applies.of_verdict {d : Definition} (name : d.name = r.name)
    (other : d.name ∉ [Builtin.minLength.name, Builtin.maxLength.name])
    (goes : ∃ v, (d.judge q).settleWith lookup = .ok v) : Applies d r q lookup := by
  have short : ¬ r.Overlong := fun long => other (name ▸ long.1)
  exact ⟨⟨fun _ => short, fun _ => goes⟩, fun long => absurd long short⟩

theorem Applies.of_number {d : Definition} (name : d.name = r.name)
    (listed : d.name ∈ [Builtin.minLength.name, Builtin.maxLength.name])
    {p : String} (parameter : r.parameter = some p) (some' : p.toList ≠ [])
    (digits : ∀ ch ∈ p.toList, Text.isAsciiDigit ch = true) {next : Int → Judgement}
    (judge : d.judge q = Builtin.withNumber d.name (some p) next)
    (goes : ∀ n, ∃ v, (next n).settleWith lookup = .ok v) : Applies d r q lookup := by
  have overlong : r.Overlong ↔ Text.Numeral.maxDigits < p.length := by
    constructor
    · rintro ⟨-, p', given, long⟩
      rw [parameter] at given
      cases given
      exact long
    · exact fun long => ⟨name ▸ listed, p, parameter, long⟩
  unfold Applies
  rw [overlong, judge, ← name, parameter]
  refine ⟨⟨?_, fun short => Builtin.settleWith_withNumber some' digits (Nat.le_of_not_lt short) goes⟩,
    Builtin.settleWith_withNumber_overlong some' digits⟩
  rintro ⟨v, found⟩ long
  rw [Builtin.settleWith_withNumber_overlong some' digits long] at found
  cases found

/-- A rule that was read by the built-in catalog is registered there. Applied to any value of any field,
with a look-up that finds the field to which it refers, it comes to a verdict exactly if it carries no
number with too many digits, and otherwise it is dropped for its parameter. -/
theorem applies_iff (read : r ∈ default.rules raw) :
    ∃ d, default.get? r.name = some d ∧
      ∀ (q : Question) (lookup : String → Except Fault Referenced), q.parameter = r.parameter →
        (∀ reference, r.parameter = some reference → ∃ other, lookup reference = .ok other) →
        ((∃ v, (d.judge q).settleWith lookup = .ok v) ↔ ¬ r.Overlong) ∧
        (r.Overlong → (d.judge q).settleWith lookup =
          .error (RuleFault.unusableNumber r.name r.parameter).toFault) := by
  obtain ⟨d, found, shape⟩ := shapes_of_mem_rules read
  obtain ⟨member, name⟩ := name_of_get? found
  refine ⟨d, found, fun q lookup given leads => ?_⟩
  show Applies d r q lookup
  simp only [default, List.mem_cons, List.not_mem_nil, or_false] at member
  rcases member with rfl | rfl | rfl | rfl | rfl | rfl | rfl
  · exact .of_verdict name (by decide) ⟨_, rfl⟩
  · exact .of_verdict name (by decide) (Builtin.settleWith_check _ _)
  · exact .of_verdict name (by decide) (Builtin.settleWith_check _ _)
  · exact .of_verdict name (by decide) (Builtin.settleWith_check _ _)
  · obtain ⟨p, parameter, some', digits⟩ := shape
    obtain ⟨value, kind, _, checked⟩ := q
    obtain rfl := given.trans parameter
    exact .of_number name (by decide) parameter some' digits rfl fun n => Builtin.settleWith_check _ _
  · obtain ⟨p, parameter, some', digits⟩ := shape
    obtain ⟨value, kind, _, checked⟩ := q
    obtain rfl := given.trans parameter
    exact .of_number name (by decide) parameter some' digits rfl fun n => Builtin.settleWith_check _ _
  · obtain ⟨reference, parameter, some'⟩ := shape
    obtain ⟨other, led⟩ := leads reference parameter
    refine .of_verdict name (by decide) ?_
    show ∃ v, (Builtin.matching.judge q).settleWith lookup = .ok v
    rw [Builtin.judge_matching (given.trans parameter) (by rwa [ne_eq, ← String.toList_eq_nil_iff]),
      Judgement.settleWith_consult, led]
    exact ⟨_, rfl⟩

theorem applies_to_reference :
    let r : Rule := ⟨"matches", some "#pw"⟩
    let lookup : String → Except Fault Referenced := fun _ => .ok ⟨"pw", "x"⟩
    r ∈ default.rules "trim|matches[ #pw ]|min_length[5" ∧ (∀ reference, r.parameter = some reference →
      ∃ other, lookup reference = .ok other) ∧
    ∃ d, default.get? "matches" = some d ∧
      ∃ v, (d.judge ⟨"y", .text, some "#pw", false⟩).settleWith lookup = .ok v := by
  intro r lookup
  have read : r ∈ default.rules "trim|matches[ #pw ]|min_length[5" := by decide +kernel
  have leads : ∀ reference, r.parameter = some reference → ∃ other, lookup reference = .ok other :=
    fun _ _ => ⟨_, rfl⟩
  have short : ¬ r.Overlong := fun long => absurd long.1 (by decide)
  obtain ⟨d, found, applies⟩ := applies_iff read
  exact ⟨read, leads, d, found, (applies _ lookup rfl leads).1.2 short⟩

end Default

/-! ## A number with too many digits -/

/-- A rule of a minimum with so many ones in it. -/
def ones (n : Nat) : Rule :=
  ⟨"min_length", some (.ofList (List.replicate n '1'))⟩

theorem digit_of_mem_ones {n : Nat} {ch : Char}
    (member : ch ∈ (String.ofList (List.replicate n '1')).toList) : ch = '1' := by
  rw [String.toList_ofList] at member
  exact List.eq_of_mem_replicate member

theorem isAsciiDigit_of_mem_ones {n : Nat} :
    ∀ ch ∈ (String.ofList (List.replicate n '1')).toList, Text.isAsciiDigit ch = true :=
  fun ch member => by
    rw [digit_of_mem_ones member]
    decide

theorem spelt_ones (n : Nat) : (ones n).Spelt where
  name := by
    show Rule.isName "min_length".toList = true
    decide
  closed p given := by
    have unopened (k depth : Nat) : Rule.nesting depth (List.replicate k '1') = some depth := by
      induction k with
      | zero => rfl
      | succ k ih => exact ih
    obtain rfl := Option.some.inj given
    rw [String.toList_ofList, unopened]
  whole p given := by
    obtain rfl := Option.some.inj given
    exact fun bar => absurd (digit_of_mem_ones bar) (by decide)

theorem readToken_ones (n : Nat) : default.readToken (ones (n + 1)).text = .ok (ones (n + 1)) := by
  let p : String := .ofList (List.replicate (n + 1) '1')
  have solid : ∀ ch ∈ p.toList, Text.isBlank ch = false := fun ch member => by
    rw [digit_of_mem_ones member]
    decide
  have trimmed : Text.trim p = p := by
    rw [Text.trim, Text.trimChars_eq_self, String.ofList_toList]
    · exact fun ch first => solid ch (List.mem_of_mem_head? first)
    · exact fun ch last => solid ch (List.mem_of_getLast? last)
  have whole : isWholeNumber p = true :=
    isWholeNumber_iff.2 ⟨by simp [p], isAsciiDigit_of_mem_ones⟩
  have found : default.get? (ones (n + 1)).name =
      some (builtin .minLength .integer "Value must have at least N characters") := rfl
  rw [readToken, (spelt_ones _).ofToken_text]
  dsimp only
  rw [accept, found]
  show (if isWholeNumber (Text.trim p) then _ else _) = _
  rw [trimmed, if_pos whole]
  show Except.ok (⟨"min_length", some (Text.trim p)⟩ : Rule) = _
  rw [trimmed]
  rfl

theorem rules_ones (n : Nat) :
    default.rules (ones (n + 1)).text = [ones (n + 1)] ∧ default.faults (ones (n + 1)).text = [] := by
  rw [rules, faults, (spelt_ones (n + 1)).tokens_text, List.filterMap_cons, List.filterMap_cons,
    readToken_ones]
  exact ⟨rfl, rfl⟩

theorem settleWith_ones {n : Nat} (long : Text.Numeral.maxDigits < n) (value : String) (kind : FieldKind)
    (checked : Bool) (lookup : String → Except Fault Referenced) :
    (Builtin.minLength.judge ⟨value, kind, (ones n).parameter, checked⟩).settleWith lookup =
      .error (RuleFault.unusableNumber "min_length" (ones n).parameter).toFault := by
  have length : (String.ofList (List.replicate n '1')).length = n := by
    rw [String.length_ofList, List.length_replicate]
  refine Builtin.settleWith_withNumber_overlong ?_ isAsciiDigit_of_mem_ones (length.symm ▸ long)
  rw [String.toList_ofList, ne_eq, List.replicate_eq_nil_iff]
  omega

/-- A minimum with too many digits is read as a rule and nothing is reported of it, but whenever it is
applied it is dropped for its parameter. -/
theorem accepted_of_long {n : Nat} (long : Text.Numeral.maxDigits < n) :
    default.rules (ones n).text = [ones n] ∧ default.faults (ones n).text = [] ∧
      ∃ d, default.get? (ones n).name = some d ∧ ∀ value kind checked lookup,
        (d.judge ⟨value, kind, (ones n).parameter, checked⟩).settleWith lookup =
          (.error (RuleFault.unusableNumber "min_length" (ones n).parameter).toFault :
            Except Fault Verdict) := by
  obtain ⟨n, rfl⟩ := Nat.exists_eq_add_one_of_ne_zero (Nat.ne_zero_of_lt long)
  obtain ⟨read, silent⟩ := rules_ones n
  exact ⟨read, silent, builtin .minLength .integer "Value must have at least N characters", rfl,
    settleWith_ones long⟩

theorem overlong_accepted :
    default.rules (ones 4301).text = [ones 4301] ∧ default.faults (ones 4301).text = [] ∧
      ∃ d, default.get? (ones 4301).name = some d ∧ ∀ value kind checked lookup,
        (d.judge ⟨value, kind, (ones 4301).parameter, checked⟩).settleWith lookup =
          (.error (RuleFault.unusableNumber "min_length" (ones 4301).parameter).toFault :
            Except Fault Verdict) :=
  accepted_of_long (by decide)

end Catalog

end FormGate
