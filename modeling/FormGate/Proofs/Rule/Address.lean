import FormGate.Proofs.Rule.Token
import Mathlib.Computability.Language

/-!
# What counts as an address

An address is a local part and a domain with an `@` between them. A quoted local part may hold an
`@` itself, but a domain never does (`Email.Domain.unmarked`), so only the last `@` can be the one
between the two. The grammar is stated on the parts of the text (`Builtin.email_judges`), and once
more as the language of a regular expression, where any way to match counts
(`Email.isAddress_iff_mem_pattern`).
-/

namespace FormGate

namespace Email

/-! ## The grammar -/

/-- At least one character, and each one of the class. -/
structure Run (p : Char → Prop) (cs : List Char) : Prop where
  nonempty : cs ≠ []
  each : ∀ c ∈ cs, p c

/-- Neither blank nor one of the characters that have a meaning of their own in an address. -/
def AtomChar (c : Char) : Prop :=
  c ∉ ['<', '>', '(', ')', '[', ']', '\\', '.', ',', ';', ':', '@', '"'] ∧ Text.isBlank c = false

/-- An ASCII letter, an ASCII digit or a hyphen. -/
def LabelChar (c : Char) : Prop :=
  c.isAlphanum = true ∨ c = '-'

/-- At least one atom, with dots between them. -/
def DotAtom (cs : List Char) : Prop :=
  ∃ atoms, atoms ≠ [] ∧ (∀ a ∈ atoms, Run AtomChar a) ∧ cs = ['.'].intercalate atoms

/-- Double quotes around at least one character, and no line feed between them. -/
def Quoted (cs : List Char) : Prop :=
  ∃ inside, Run (· ≠ '\n') inside ∧ cs = '"' :: (inside ++ ['"'])

/-- One to three ASCII digits. -/
structure Group (cs : List Char) : Prop extends Run (·.isDigit = true) cs where
  short : cs.length ≤ 3

/-- Brackets around four groups of digits, with dots between them. -/
def Literal (cs : List Char) : Prop :=
  ∃ groups, groups.length = 4 ∧ (∀ g ∈ groups, Group g) ∧
    cs = '[' :: (['.'].intercalate groups ++ [']'])

/-- At least two ASCII letters. -/
structure TopLevel (cs : List Char) : Prop where
  letters : ∀ c ∈ cs, c.isAlpha = true
  long : 2 ≤ cs.length

/-- At least one label, each with a dot behind it, and then at least two letters. -/
def HostName (cs : List Char) : Prop :=
  ∃ labels top, labels ≠ [] ∧ (∀ l ∈ labels, Run LabelChar l) ∧ TopLevel top ∧
    cs = labels.flatMap (· ++ ['.']) ++ top

/-- What may stand in front of the `@`. -/
def LocalPart (cs : List Char) : Prop :=
  DotAtom cs ∨ Quoted cs

/-- What may stand behind the `@`. -/
def Domain (cs : List Char) : Prop :=
  Literal cs ∨ HostName cs

/-- The text is cut at its last `@`. -/
structure SplitsAtLast (cs front behind : List Char) : Prop where
  parts : cs = front ++ '@' :: behind
  last : '@' ∉ behind

/-! ## Runs -/

theorem isRun_iff {p : Char → Bool} {q : Char → Prop} (same : ∀ c, p c = true ↔ q c)
    {cs : List Char} : isRun p cs = true ↔ Run q cs := by
  simp only [isRun, Bool.and_eq_true, Bool.not_eq_true', List.isEmpty_eq_false_iff,
    List.all_eq_true, same]
  exact ⟨fun ⟨nonempty, each⟩ => ⟨nonempty, each⟩, fun h => ⟨h.nonempty, h.each⟩⟩

theorem Run.reverse {p : Char → Prop} {cs : List Char} (h : Run p cs) : Run p cs.reverse :=
  ⟨by simpa using h.nonempty, by simpa using h.each⟩

theorem Run.not_mem {p : Char → Prop} {cs : List Char} {c : Char} (h : Run p cs)
    (other : ¬ p c) : c ∉ cs :=
  fun member => other (h.each c member)

theorem TopLevel.not_mem {cs : List Char} {c : Char} (h : TopLevel cs)
    (other : ¬ c.isAlpha = true) : c ∉ cs :=
  fun member => other (h.letters c member)

theorem isLetter_iff {c : Char} : isLetter c = true ↔ c.isAlpha = true := by
  rw [isLetter, Rule.letters_eq_isAlpha]

theorem isDigit_iff {c : Char} : isDigit c = true ↔ c.isDigit = true := by
  have digit : ('0' ≤ c && c ≤ '9') = c.isDigit := rfl
  rw [isDigit, digit]

theorem isLabelChar_iff {c : Char} : isLabelChar c = true ↔ LabelChar c := by
  have alphanum : c.isAlphanum = (c.isAlpha || c.isDigit) := rfl
  simp only [isLabelChar, LabelChar, Bool.or_eq_true, beq_iff_eq, isLetter_iff, isDigit_iff,
    alphanum]

theorem isAtomChar_iff {c : Char} : isAtomChar c = true ↔ AtomChar c := by
  have meaning : "<>()[]\\.,;:@\"".toList =
      ['<', '>', '(', ')', '[', ']', '\\', '.', ',', ';', ':', '@', '"'] := by decide
  simp only [isAtomChar, AtomChar, meaning, Bool.and_eq_true, Bool.not_eq_true',
    List.contains_eq_mem, decide_eq_false_iff_not]

theorem isGroup_iff {cs : List Char} : (isRun isDigit cs && cs.length ≤ 3) = true ↔ Group cs := by
  rw [Bool.and_eq_true, isRun_iff fun _ => isDigit_iff, decide_eq_true_eq]
  exact ⟨fun ⟨run, short⟩ => ⟨run, short⟩, fun h => ⟨h.toRun, h.short⟩⟩

theorem Group.reverse {cs : List Char} (h : Group cs) : Group cs.reverse :=
  ⟨h.toRun.reverse, by simpa using h.short⟩

/-! ## Rows with dots -/

theorem intercalate_cons (g : List Char) (gs : List (List Char)) :
    ['.'].intercalate (g :: gs) = g ++ gs.flatMap ('.' :: ·) := by
  induction gs generalizing g with
  | nil => simp
  | cons h gs ih =>
    rw [List.intercalate_cons_of_ne_nil (List.cons_ne_nil h gs), ih, List.flatMap_cons]
    simp

theorem intercalate_concat (gs : List (List Char)) (g : List Char) :
    ['.'].intercalate (gs ++ [g]) = gs.flatMap (· ++ ['.']) ++ g := by
  induction gs with
  | nil => simp
  | cons h gs ih =>
    have more : gs ++ [g] ≠ [] := by simp
    rw [List.cons_append, List.intercalate_cons_of_ne_nil more, ih, List.flatMap_cons,
      List.append_assoc (h ++ ['.'])]

theorem reverse_intercalate (gs : List (List Char)) :
    (['.'].intercalate gs).reverse = ['.'].intercalate (gs.map List.reverse).reverse := by
  cases gs with
  | nil => rfl
  | cons g gs =>
    rw [intercalate_cons, List.map_cons, List.reverse_cons, intercalate_concat, List.reverse_append,
      List.reverse_flatMap, ← List.map_reverse, List.flatMap_map]
    simp [Function.comp_def]

/-- The pieces between the dots are the one row of pieces without a dot that spells the text. -/
theorem splitOn_dot_eq_iff {cs : List Char} {pieces : List (List Char)} :
    cs.splitOn '.' = pieces ↔
      pieces ≠ [] ∧ (∀ p ∈ pieces, '.' ∉ p) ∧ cs = ['.'].intercalate pieces := by
  constructor
  · rintro rfl
    refine ⟨List.splitOn_ne_nil _ _, fun p member dot => ?_, (List.intercalate_splitOn _).symm⟩
    have := Text.not_of_mem_splitOnP p member '.' dot
    cases this
  · rintro ⟨some, undotted, rfl⟩
    exact List.splitOn_intercalate '.' undotted some

theorem not_atomChar_dot : ¬ AtomChar '.' :=
  fun h => h.1 (by decide)

theorem not_labelChar_dot : ¬ LabelChar '.' :=
  fun h => absurd (isLabelChar_iff.2 h) (by decide)

theorem not_labelChar_mark : ¬ LabelChar '@' :=
  fun h => absurd (isLabelChar_iff.2 h) (by decide)

theorem isDotAtom_iff {cs : List Char} : isDotAtom cs = true ↔ DotAtom cs := by
  simp only [isDotAtom, List.all_eq_true, isRun_iff fun _ => isAtomChar_iff]
  constructor
  · intro atoms
    obtain ⟨some, -, spelt⟩ := splitOn_dot_eq_iff.1 (rfl : cs.splitOn '.' = _)
    exact ⟨_, some, atoms, spelt⟩
  · rintro ⟨atoms, some, runs, spelt⟩
    have undotted : ∀ a ∈ atoms, '.' ∉ a := fun a member => (runs a member).not_mem not_atomChar_dot
    rwa [splitOn_dot_eq_iff.2 ⟨some, undotted, spelt⟩]

theorem isHostName_iff {cs : List Char} : isHostName cs = true ↔ HostName cs := by
  constructor
  · intro host
    obtain ⟨-, -, spelt⟩ := splitOn_dot_eq_iff.1 (rfl : cs.splitOn '.' = _)
    rw [isHostName] at host
    rcases reversed : (cs.splitOn '.').reverse with _ | ⟨top, _ | ⟨label, before⟩⟩
    · simp [reversed] at host
    · simp [reversed] at host
    · rw [List.reverse_eq_cons_iff] at reversed
      rw [reversed, intercalate_concat] at spelt
      simp only [reversed, List.reverse_append, List.reverse_reverse, List.reverse_cons,
        List.reverse_nil, List.nil_append, List.cons_append, Bool.and_eq_true, List.all_eq_true,
        decide_eq_true_eq, isLetter_iff, isRun_iff fun _ => isLabelChar_iff] at host
      obtain ⟨⟨letters, long⟩, labels⟩ := host
      exact ⟨(label :: before).reverse, top, by simp,
        fun l member => labels l (List.mem_reverse.1 member), ⟨letters, long⟩, spelt⟩
  · rintro ⟨labels, top, some, runs, word, spelt⟩
    have undotted : ∀ l ∈ labels ++ [top], '.' ∉ l := by
      intro l member
      rcases List.mem_append.1 member with member | member
      · exact (runs l member).not_mem not_labelChar_dot
      · rw [List.mem_singleton.1 member]
        exact word.not_mem (by decide)
    have pieces : cs.splitOn '.' = labels ++ [top] :=
      splitOn_dot_eq_iff.2 ⟨by simp, undotted, by rw [intercalate_concat, spelt]⟩
    rw [isHostName, pieces, List.reverse_append, List.reverse_singleton, List.singleton_append]
    rcases reversed : labels.reverse with _ | ⟨label, before⟩
    · exact absurd (List.reverse_eq_nil_iff.1 reversed) some
    · simp only [Bool.and_eq_true, List.all_eq_true, decide_eq_true_eq, isLetter_iff,
        isRun_iff fun _ => isLabelChar_iff]
      refine ⟨⟨word.letters, word.long⟩, fun l member => runs l ?_⟩
      rwa [← reversed, List.mem_reverse] at member

/-! ## Quotes and brackets -/

theorem isQuotedName_iff {cs : List Char} : isQuotedName cs = true ↔ Quoted cs := by
  have inner {inside : List Char} : isRun (· != '\n') inside = true ↔ Run (· ≠ '\n') inside :=
    isRun_iff fun _ => bne_iff_ne
  constructor
  · intro quoted
    unfold isQuotedName at quoted
    split at quoted
    · split at quoted
      case h_1 rest inside reversed =>
        rw [List.reverse_eq_cons_iff.1 reversed]
        exact ⟨inside.reverse, (inner.1 quoted).reverse, rfl⟩
      case h_2 => cases quoted
    · cases quoted
  · rintro ⟨inside, run, rfl⟩
    simp only [isQuotedName, List.reverse_append, List.reverse_singleton, List.singleton_append]
    exact inner.2 run.reverse

theorem isAddressLiteral_iff {cs : List Char} : isAddressLiteral cs = true ↔ Literal cs := by
  constructor
  · intro literal
    unfold isAddressLiteral at literal
    split at literal
    · split at literal
      case h_1 rest inside reversed =>
        simp only [Bool.and_eq_true, beq_iff_eq, List.all_eq_true] at literal
        obtain ⟨four, each⟩ := literal
        obtain ⟨-, -, spelt⟩ := splitOn_dot_eq_iff.1 (rfl : inside.splitOn '.' = _)
        rw [List.reverse_eq_cons_iff.1 reversed, spelt, reverse_intercalate]
        refine ⟨_, ?_, fun g member => ?_, rfl⟩
        · rw [List.length_reverse, List.length_map, four]
        · obtain ⟨mirrored, found, rfl⟩ := List.mem_map.1 (List.mem_reverse.1 member)
          have group := each mirrored found
          rw [← Bool.and_eq_true, isGroup_iff] at group
          exact group.reverse
      case h_2 => cases literal
    · cases literal
  · rintro ⟨groups, four, each, rfl⟩
    have mirrored : ∀ g ∈ (groups.map List.reverse).reverse, Group g := by
      intro g member
      obtain ⟨group, found, rfl⟩ := List.mem_map.1 (List.mem_reverse.1 member)
      exact (each group found).reverse
    have undotted : ∀ g ∈ (groups.map List.reverse).reverse, '.' ∉ g := fun g member =>
      (mirrored g member).not_mem (by decide)
    have some : (groups.map List.reverse).reverse ≠ [] := by
      rintro none
      have := congrArg List.length none
      rw [List.length_reverse, List.length_map, four] at this
      cases this
    simp only [isAddressLiteral, List.reverse_append, List.reverse_singleton, List.singleton_append]
    rw [splitOn_dot_eq_iff.2 ⟨some, undotted, reverse_intercalate groups⟩]
    simp only [Bool.and_eq_true, beq_iff_eq, List.all_eq_true]
    refine ⟨?_, fun g member => ?_⟩
    · rw [List.length_reverse, List.length_map, four]
    · rw [← Bool.and_eq_true]
      exact isGroup_iff.2 (mirrored g member)

/-! ## The last cut -/

theorem mem_cuts {cs front behind : List Char} :
    (front, behind) ∈ cuts cs ↔ cs = front ++ '@' :: behind := by
  induction cs generalizing front with
  | nil => simp [cuts]
  | cons c cs ih =>
    cases front with
    | nil => by_cases marked : c = '@' <;> simp [cuts, marked, eq_comm]
    | cons d front => by_cases marked : c = '@' <;> simp [cuts, marked, ih, eq_comm, and_comm]

theorem isAddress_iff {cs : List Char} :
    isAddress cs = true ↔ ∃ front behind, cs = front ++ '@' :: behind ∧
      LocalPart front ∧ Domain behind := by
  simp only [isAddress, isLocalPart, isDomain, List.any_eq_true, Prod.exists, mem_cuts,
    Bool.and_eq_true, Bool.or_eq_true, isDotAtom_iff, isQuotedName_iff, isAddressLiteral_iff,
    isHostName_iff, LocalPart, Domain]

theorem Literal.unmarked {cs : List Char} (h : Literal cs) : '@' ∉ cs := by
  obtain ⟨groups, four, each, rfl⟩ := h
  have digits : ∀ g ∈ groups, '@' ∉ g := fun g member => (each g member).not_mem (by decide)
  obtain ⟨a, b, c, d, rfl⟩ := List.length_eq_four.1 four
  simp only [List.forall_mem_cons] at digits
  simp [digits]

theorem HostName.unmarked {cs : List Char} (h : HostName cs) : '@' ∉ cs := by
  obtain ⟨labels, top, -, runs, word, rfl⟩ := h
  intro mark
  rcases List.mem_append.1 mark with mark | mark
  · obtain ⟨l, member, mark⟩ := List.mem_flatMap.1 mark
    rcases List.mem_append.1 mark with mark | mark
    · exact (runs l member).not_mem not_labelChar_mark mark
    · exact absurd mark (by decide)
  · exact word.not_mem (by decide) mark

theorem Domain.unmarked {cs : List Char} (h : Domain cs) : '@' ∉ cs :=
  h.elim Literal.unmarked HostName.unmarked

/-- Whatever cut shows that a text is an address is the cut at the last `@`. -/
theorem isAddress_iff_last {cs : List Char} :
    isAddress cs = true ↔ ∃ front behind, SplitsAtLast cs front behind ∧
      LocalPart front ∧ Domain behind := by
  rw [isAddress_iff]
  constructor
  · rintro ⟨front, behind, parts, localPart, domain⟩
    exact ⟨front, behind, ⟨parts, domain.unmarked⟩, localPart, domain⟩
  · rintro ⟨front, behind, cut, localPart, domain⟩
    exact ⟨front, behind, cut.parts, localPart, domain⟩

/-! ## The pattern -/

/-- The texts of one character of the class. -/
def oneOf (p : Char → Prop) : Language Char :=
  {cs | ∃ c, p c ∧ cs = [c]}

/-- The text of this one character. -/
def mark (c : Char) : Language Char :=
  oneOf (· = c)

/-- The texts of as many members in a row as the set allows. -/
def times (count : Set ℕ) (l : Language Char) : Language Char :=
  {cs | ∃ n ∈ count, cs ∈ l ^ n}

/-- The pattern of a dotted local part. -/
def dotAtomPattern : Language Char :=
  times (.Ici 1) (oneOf AtomChar) * times .univ (mark '.' * times (.Ici 1) (oneOf AtomChar))

def quotedPattern : Language Char :=
  mark '"' * times (.Ici 1) (oneOf (· ≠ '\n')) * mark '"'

def groupPattern : Language Char :=
  times (.Icc 1 3) (oneOf (·.isDigit = true))

def literalPattern : Language Char :=
  mark '[' * groupPattern * mark '.' * groupPattern * mark '.' * groupPattern * mark '.' *
    groupPattern * mark ']'

def hostNamePattern : Language Char :=
  times (.Ici 1) (times (.Ici 1) (oneOf LabelChar) * mark '.') *
    times (.Ici 2) (oneOf (·.isAlpha = true))

def pattern : Language Char :=
  (dotAtomPattern + quotedPattern) * mark '@' * (literalPattern + hostNamePattern)

/-- If the members of the language are spelt by some things, its repetitions are spelt by rows of
them. -/
theorem mem_times {α : Type} {count : Set ℕ} {l : Language Char} {R : α → Prop} {f : α → List Char}
    (spelt : ∀ r, r ∈ l ↔ ∃ a, R a ∧ r = f a) {cs : List Char} :
    cs ∈ times count l ↔
      ∃ as : List α, as.length ∈ count ∧ (∀ a ∈ as, R a) ∧ cs = as.flatMap f := by
  have spell (rows : List (List Char)) (members : ∀ r ∈ rows, r ∈ l) :
      ∃ as : List α, rows = as.map f ∧ ∀ a ∈ as, R a := by
    induction rows with
    | nil => exact ⟨[], rfl, by simp⟩
    | cons r rows ih =>
      rw [List.forall_mem_cons, spelt] at members
      obtain ⟨⟨a, holds, rfl⟩, more⟩ := members
      obtain ⟨as, rfl, each⟩ := ih more
      exact ⟨a :: as, rfl, List.forall_mem_cons.2 ⟨holds, each⟩⟩
  constructor
  · rintro ⟨n, allowed, power⟩
    obtain ⟨rows, rfl, rfl, members⟩ := Language.mem_pow.1 power
    obtain ⟨as, rfl, each⟩ := spell rows members
    exact ⟨as, by rwa [List.length_map] at allowed, each, (List.flatMap_def ..).symm⟩
  · rintro ⟨as, allowed, each, rfl⟩
    refine ⟨as.length, allowed, Language.mem_pow.2 ⟨as.map f, List.flatMap_def .., ?_, ?_⟩⟩
    · exact List.length_map f
    · intro r member
      obtain ⟨a, found, rfl⟩ := List.mem_map.1 member
      exact (spelt _).2 ⟨a, each a found, rfl⟩

theorem mem_times_oneOf {count : Set ℕ} {p : Char → Prop} {cs : List Char} :
    cs ∈ times count (oneOf p) ↔ cs.length ∈ count ∧ ∀ c ∈ cs, p c := by
  have spelt : ∀ r, r ∈ oneOf p ↔ ∃ c, p c ∧ r = [c] := fun _ => Iff.rfl
  simp only [mem_times spelt, List.flatMap_singleton']
  constructor
  · rintro ⟨_, allowed, each, rfl⟩
    exact ⟨allowed, each⟩
  · rintro ⟨allowed, each⟩
    exact ⟨cs, allowed, each, rfl⟩

theorem mem_mark_mul {c : Char} {l : Language Char} {cs : List Char} :
    cs ∈ mark c * l ↔ ∃ rest ∈ l, cs = c :: rest := by
  rw [Language.mem_mul]
  constructor
  · rintro ⟨_, ⟨_, rfl, rfl⟩, rest, member, rfl⟩
    exact ⟨rest, member, rfl⟩
  · rintro ⟨rest, member, rfl⟩
    exact ⟨[c], ⟨c, rfl, rfl⟩, rest, member, rfl⟩

theorem mem_mul_mark {c : Char} {l : Language Char} {cs : List Char} :
    cs ∈ l * mark c ↔ ∃ front ∈ l, cs = front ++ [c] := by
  rw [Language.mem_mul]
  constructor
  · rintro ⟨front, member, _, ⟨_, rfl, rfl⟩, rfl⟩
    exact ⟨front, member, rfl⟩
  · rintro ⟨front, member, rfl⟩
    exact ⟨front, member, [c], ⟨c, rfl, rfl⟩, rfl⟩

theorem mem_run {p : Char → Prop} {cs : List Char} : cs ∈ times (.Ici 1) (oneOf p) ↔ Run p cs := by
  rw [mem_times_oneOf, Set.mem_Ici, Nat.succ_le_iff, List.length_pos_iff]
  exact ⟨fun ⟨nonempty, each⟩ => ⟨nonempty, each⟩, fun h => ⟨h.nonempty, h.each⟩⟩

/-- A piece, and then pieces that each have a dot in front, are a row of pieces with dots between
them. -/
theorem mem_dotted {count : Set ℕ} {piece : Language Char} {cs : List Char} :
    cs ∈ piece * times count (mark '.' * piece) ↔ ∃ first more, more.length ∈ count ∧
      (∀ a ∈ first :: more, a ∈ piece) ∧ cs = ['.'].intercalate (first :: more) := by
  simp only [Language.mem_mul (l := piece), mem_times fun _ => mem_mark_mul]
  constructor
  · rintro ⟨first, member, _, ⟨more, allowed, members, rfl⟩, rfl⟩
    exact ⟨first, more, allowed, List.forall_mem_cons.2 ⟨member, members⟩,
      (intercalate_cons first more).symm⟩
  · rintro ⟨first, more, allowed, members, rfl⟩
    obtain ⟨member, members⟩ := List.forall_mem_cons.1 members
    exact ⟨first, member, _, ⟨more, allowed, members, rfl⟩, (intercalate_cons first more).symm⟩

theorem mem_dotAtomPattern {cs : List Char} : cs ∈ dotAtomPattern ↔ DotAtom cs := by
  simp only [dotAtomPattern, mem_dotted, mem_run]
  constructor
  · rintro ⟨first, more, -, runs, spelt⟩
    exact ⟨first :: more, List.cons_ne_nil first more, runs, spelt⟩
  · rintro ⟨_ | ⟨first, more⟩, some, runs, spelt⟩
    · exact absurd rfl some
    · exact ⟨first, more, trivial, runs, spelt⟩

theorem mem_quotedPattern {cs : List Char} : cs ∈ quotedPattern ↔ Quoted cs := by
  rw [quotedPattern, mul_assoc, mem_mark_mul]
  simp only [mem_mul_mark, mem_run]
  constructor
  · rintro ⟨_, ⟨inside, run, rfl⟩, rfl⟩
    exact ⟨inside, run, rfl⟩
  · rintro ⟨inside, run, rfl⟩
    exact ⟨_, ⟨inside, run, rfl⟩, rfl⟩

theorem mem_groupPattern {cs : List Char} : cs ∈ groupPattern ↔ Group cs := by
  rw [groupPattern, mem_times_oneOf, Set.mem_Icc, Nat.succ_le_iff, List.length_pos_iff]
  exact ⟨fun ⟨⟨nonempty, short⟩, each⟩ => ⟨⟨nonempty, each⟩, short⟩,
    fun h => ⟨⟨h.nonempty, h.short⟩, h.each⟩⟩

theorem times_singleton {n : ℕ} {l : Language Char} : times {n} l = l ^ n := by
  ext cs
  exact ⟨fun ⟨_, same, member⟩ => same ▸ member, fun member => ⟨n, rfl, member⟩⟩

theorem mem_literalPattern {cs : List Char} : cs ∈ literalPattern ↔ Literal cs := by
  have row : literalPattern =
      mark '[' * (groupPattern * times {3} (mark '.' * groupPattern) * mark ']') := by
    simp only [literalPattern, times_singleton, pow_succ, pow_zero, one_mul, mul_assoc]
  rw [row, mem_mark_mul]
  simp only [mem_mul_mark, mem_dotted, mem_groupPattern]
  constructor
  · rintro ⟨_, ⟨_, ⟨first, more, three, each, rfl⟩, rfl⟩, rfl⟩
    exact ⟨first :: more, congrArg (· + 1) three, each, rfl⟩
  · rintro ⟨_ | ⟨first, more⟩, four, each, rfl⟩
    · cases four
    · exact ⟨_, ⟨_, ⟨first, more, Nat.succ.inj four, each, rfl⟩, rfl⟩, rfl⟩

theorem mem_hostNamePattern {cs : List Char} : cs ∈ hostNamePattern ↔ HostName cs := by
  have some {labels : List (List Char)} : labels.length ∈ Set.Ici 1 ↔ labels ≠ [] := by
    rw [Set.mem_Ici, Nat.succ_le_iff, List.length_pos_iff]
  rw [hostNamePattern, Language.mem_mul]
  simp only [mem_times fun _ => mem_mul_mark, mem_run, some]
  constructor
  · rintro ⟨_, ⟨labels, some, runs, rfl⟩, top, word, rfl⟩
    obtain ⟨long, letters⟩ := mem_times_oneOf.1 word
    exact ⟨labels, top, some, runs, ⟨letters, long⟩, rfl⟩
  · rintro ⟨labels, top, some, runs, word, rfl⟩
    exact ⟨_, ⟨labels, some, runs, rfl⟩, top, mem_times_oneOf.2 ⟨word.long, word.letters⟩, rfl⟩

/-- The characters are an address exactly if the pattern matches all of them in some way. -/
theorem isAddress_iff_mem_pattern {cs : List Char} : isAddress cs = true ↔ cs ∈ pattern := by
  rw [isAddress_iff, pattern, mul_assoc, Language.mem_mul]
  simp only [mem_mark_mul, Language.mem_add, mem_dotAtomPattern, mem_quotedPattern,
    mem_literalPattern, mem_hostNamePattern]
  constructor
  · rintro ⟨front, behind, rfl, localPart, domain⟩
    exact ⟨front, localPart, _, ⟨behind, domain, rfl⟩, rfl⟩
  · rintro ⟨front, localPart, _, ⟨behind, domain, rfl⟩, rfl⟩
    exact ⟨front, behind, rfl, localPart, domain⟩

end Email

namespace Builtin

open Email

/-- The rule always comes to a verdict, and is satisfied exactly by the texts whose cut at the last
`@` gives a local part and a domain. -/
theorem email_judges (q : Question) :
    ∃ v, email.judge q = .verdict v ∧
      (v.valid = true ↔ ∃ front behind, SplitsAtLast q.value.toList front behind ∧
        (DotAtom front ∨ Quoted front) ∧ (Literal behind ∨ HostName behind)) := by
  refine ⟨_, rfl, ?_⟩
  refine Iff.trans ?_ isAddress_iff_last
  cases isAddress q.value.toList <;> simp [Verdict.passed, Verdict.failed]

/-- The quoted part may hold an `@`, and the last one is the one that counts. -/
example : isAddress "\"a@b.cd\"@e.fg".toList = true := by decide

end Builtin

end FormGate
