import FormGate.Proofs.Rule.Spelling

/-!
# The grammar of rule texts

A token is read as a rule exactly if it spells the rule by the grammar (`Rule.ofChars_eq_ok_iff`), and
the rule is accepted exactly if the catalog knows its name and it carries a parameter of the shape that
goes with the name. A rule text is clean if it is not blank and this holds of all its tokens that are
not blank: exactly then nothing is reported of it (`Catalog.clean_iff`).
-/

namespace FormGate

theorem Text.trimChars_eq_nil {cs : List Char} : trimChars cs = [] ↔ ∀ c ∈ cs, isBlank c = true := by
  unfold trimChars
  rw [List.reverse_eq_nil_iff, List.dropWhile_eq_nil_iff]
  constructor
  · intro h c hc
    rw [← List.takeWhile_append_dropWhile (p := isBlank) (l := cs), List.mem_append] at hc
    exact hc.elim List.mem_takeWhile_imp fun later => h c (List.mem_reverse.2 later)
  · exact fun h c hc => h c ((List.dropWhile_sublist _).subset (List.mem_reverse.1 hc))

theorem Text.isEmpty_trim {s : String} : (trim s).isEmpty = true ↔ trimChars s.toList = [] := by
  rw [String.isEmpty_iff, ← String.toList_eq_nil_iff, toList_trim]

namespace Rule

/-! ## Tokens -/

/-- No bracket is closed that was not opened before, and in the end all are closed. -/
structure Balanced (p : List Char) : Prop where
  never : ∀ q, q <+: p → q.count ']' ≤ q.count '['
  total : p.count ']' = p.count '['

/-- A token spells a rule by the grammar: a name, or a name and a parameter in brackets. Blanks may
surround the name. -/
inductive Spells : List Char → Rule → Prop
  | bare {t : List Char} (unopened : '[' ∉ t) (unclosed : ']' ∉ t)
      (name : isName (Text.trimChars t) = true) : Spells t ⟨.ofList (Text.trimChars t), none⟩
  | bracketed {u p : List Char} (unopened : '[' ∉ u) (name : isName (Text.trimChars u) = true)
      (balanced : Balanced p) :
      Spells (u ++ '[' :: (p ++ [']'])) ⟨.ofList (Text.trimChars u), some (.ofList p)⟩

/-- How deep brackets are nested after characters is told by their counts. -/
theorem nesting_eq_some {depth k : Nat} {cs : List Char} :
    nesting depth cs = some k ↔
      (∀ q, q <+: cs → q.count ']' ≤ depth + q.count '[') ∧
        k + cs.count ']' = depth + cs.count '[' := by
  induction cs generalizing depth with
  | nil => simp [nesting, eq_comm]
  | cons c cs ih =>
    have prefixes (P : List Char → Prop) :
        (∀ q, q <+: c :: cs → P q) ↔ P [] ∧ ∀ q, q <+: cs → P (c :: q) := by
      simp only [List.prefix_cons_iff]
      grind
    rw [nesting_cons, prefixes, bracket]
    by_cases closing : c = ']'
    · subst closing
      rw [if_pos rfl]
      cases depth with
      | zero =>
        refine iff_of_false (by simp) ?_
        rintro ⟨⟨-, never⟩, -⟩
        exact absurd (never [] List.nil_prefix) (by decide)
      | succ depth =>
        rw [if_neg (Nat.succ_ne_zero _), Option.bind_some, Nat.add_sub_cancel, ih]
        simp only [List.count_cons_self, List.count_cons_of_ne (by decide : ']' ≠ '['),
          List.count_nil]
        grind
    · rw [if_neg closing, Option.bind_some, ih]
      by_cases opening : c = '['
      · subst opening
        rw [if_pos rfl]
        simp only [List.count_cons_self, List.count_cons_of_ne closing, List.count_nil]
        grind
      · rw [if_neg opening]
        simp only [List.count_cons_of_ne closing, List.count_cons_of_ne opening, List.count_nil]
        grind

theorem balanced_iff {p : List Char} : Balanced p ↔ nesting 0 p = some 0 := by
  rw [nesting_eq_some]
  simp only [Nat.zero_add]
  exact ⟨fun h => ⟨h.never, h.total⟩, fun h => ⟨h.1, h.2⟩⟩

theorem named_eq_ok {name : List Char} {parameter : Option (List Char)} {r : Rule} :
    named name parameter = .ok r ↔
      isName (Text.trimChars name) = true ∧
        r = ⟨.ofList (Text.trimChars name), parameter.map .ofList⟩ := by
  unfold named
  dsimp only
  split_ifs with h
  · rw [Except.ok.injEq, eq_comm, and_iff_right h]
  · simp [h]

theorem dropWhile_of_not_mem {u : List Char} (h : '[' ∉ u) (rest : List Char) :
    (u ++ rest).dropWhile (· != '[') = rest.dropWhile (· != '[') :=
  List.dropWhile_append_of_pos fun c hc => by
    rw [bne_iff_ne]
    rintro rfl
    exact h hc

theorem ofChars_eq_ok_iff {cs : List Char} {r : Rule} : ofChars cs = .ok r ↔ Spells cs r := by
  constructor
  · intro read
    unfold ofChars at read
    split at read
    · rename_i unopened
      split_ifs at read with closes
      obtain ⟨name, rfl⟩ := named_eq_ok.1 read
      refine .bare (fun opens => ?_) (by simpa using closes) name
      simpa using List.dropWhile_eq_nil_iff.1 unopened '[' opens
    · rename_i first inside opened
      split at read
      · cases read
      · cases read
      · rename_i p closed
        obtain ⟨name, rfl⟩ := named_eq_ok.1 read
        obtain ⟨rfl, balanced⟩ := untilClosing_eq_some.1 closed
        have parts : cs = cs.takeWhile (· != '[') ++ '[' :: (p ++ [']']) := by
          have bracket := List.head?_dropWhile_not (· != '[') cs
          rw [opened] at bracket
          obtain rfl : first = '[' := by simpa using bracket
          rw [← opened, List.takeWhile_append_dropWhile]
        have unopened : '[' ∉ cs.takeWhile (· != '[') := fun opens => by
          simpa using List.mem_takeWhile_imp opens
        have spells := Spells.bracketed unopened name (balanced_iff.2 balanced)
        rwa [← parts] at spells
  · intro spells
    cases spells with
    | bare unopened unclosed name =>
      have whole : cs.dropWhile (· != '[') = [] := by
        simpa using dropWhile_of_not_mem unopened []
      unfold ofChars
      rw [whole]
      dsimp only
      rw [if_neg (by simpa using unclosed)]
      exact named_eq_ok.2 ⟨name, rfl⟩
    | @bracketed u p unopened name balanced =>
      have front : (u ++ '[' :: (p ++ [']'])).takeWhile (· != '[') = u := by
        rw [List.takeWhile_append_of_pos, List.takeWhile_cons_of_neg (by decide), List.append_nil]
        intro c hc
        rw [bne_iff_ne]
        rintro rfl
        exact unopened hc
      have inside : untilClosing 0 (p ++ [']']) = some (p, []) :=
        untilClosing_eq_some.2 ⟨rfl, balanced_iff.1 balanced⟩
      unfold ofChars
      rw [dropWhile_of_not_mem unopened, List.dropWhile_cons_of_neg (by decide), front]
      dsimp only
      rw [inside]
      exact named_eq_ok.2 ⟨name, rfl⟩

end Rule

/-! ## Parameters -/

/-- The shape of the parameter that goes with a kind: none at all, a whole number in ASCII digits, or
anything that is not blank. Blanks around it do not count. -/
def ParameterKind.Shapes : ParameterKind → Option String → Prop
  | none, p => p = .none
  | integer, p => ∃ s, p = some s ∧ Text.trimChars s.toList ≠ [] ∧
      ∀ c ∈ Text.trimChars s.toList, Text.isAsciiDigit c = true
  | reference, p => ∃ s, p = some s ∧ Text.trimChars s.toList ≠ []

namespace Catalog

variable {c : Catalog}

/-- A rule names one of the catalog and carries a parameter of the declared shape. -/
def Takes (c : Catalog) (r : Rule) : Prop :=
  ∃ d, c.get? r.name = some d ∧ d.parameter.Shapes r.parameter

theorem isWholeNumber_iff {s : String} :
    isWholeNumber s = true ↔ s.toList ≠ [] ∧ ∀ c ∈ s.toList, Text.isAsciiDigit c = true := by
  unfold isWholeNumber
  rw [Bool.and_eq_true, List.all_eq_true, Bool.not_eq_true', ← Bool.not_eq_true, String.isEmpty_iff,
    ne_eq, String.toList_eq_nil_iff]

section Ite

variable {ε α : Type} {P : Prop} [Decidable P] {a : α} {e : ε}

theorem exists_ite_eq_ok : (∃ b, (if P then .ok a else .error e : Except ε α) = .ok b) ↔ P := by
  split_ifs with h <;> simp [h]

theorem exists_ite_eq_ok' : (∃ b, (if P then .error e else .ok a : Except ε α) = .ok b) ↔ ¬ P := by
  split_ifs with h <;> simp [h]

end Ite

theorem exists_accept_iff {r : Rule} : (∃ r', c.accept r = .ok r') ↔ c.Takes r := by
  unfold accept Takes
  cases found : c.get? r.name with
  | none => simp
  | some d =>
    simp only [Option.some.injEq, exists_eq_left']
    cases kind : d.parameter with
    | none => cases r.parameter <;> simp [ParameterKind.Shapes]
    | integer =>
      dsimp only
      rw [exists_ite_eq_ok, isWholeNumber_iff, Text.toList_trim, ParameterKind.Shapes]
      cases r.parameter with
      | none => exact iff_of_false (fun h => h.1 rfl) (by simp)
      | some s => simp
    | reference =>
      dsimp only
      rw [exists_ite_eq_ok', Text.isEmpty_trim, ParameterKind.Shapes]
      cases r.parameter with
      | none => exact iff_of_false (fun h => h rfl) (by simp)
      | some s => simp

/-- A rule text that is not blank and all of whose tokens that are not blank spell rules that the
catalog takes. -/
structure Clean (c : Catalog) (raw : String) : Prop where
  visible : ∃ ch ∈ raw.toList, Text.isBlank ch = false
  tokens : ∀ t ∈ raw.toList.splitOn '|', (∃ ch ∈ t, Text.isBlank ch = false) →
    ∃ r, Rule.Spells (Text.trimChars t) r ∧ c.Takes r

theorem faults_eq_nil {raw : String} :
    c.faults raw = [] ↔ ∀ t ∈ Rule.tokens raw, ∃ r, c.readToken t = .ok r := by
  unfold faults
  rw [List.filterMap_eq_nil_iff]
  refine forall₂_congr fun t _ => ?_
  cases c.readToken t <;> simp

theorem exists_readToken_iff {t : List Char} :
    (∃ r, c.readToken (.ofList t) = .ok r) ↔ ∃ r, Rule.Spells t r ∧ c.Takes r := by
  unfold readToken Rule.ofToken
  rw [String.toList_ofList]
  constructor
  · rintro ⟨r, read⟩
    cases spelt : Rule.ofChars t with
    | error why =>
      rw [spelt] at read
      cases read
    | ok r₀ =>
      rw [spelt] at read
      exact ⟨r₀, Rule.ofChars_eq_ok_iff.1 spelt, exists_accept_iff.1 ⟨r, read⟩⟩
  · rintro ⟨r, spells, takes⟩
    rw [Rule.ofChars_eq_ok_iff.2 spells]
    exact exists_accept_iff.2 takes

theorem clean_iff {raw : String} :
    c.Clean raw ↔ (Text.trim raw).isEmpty = false ∧ c.faults raw = [] := by
  have seen (cs : List Char) : (∃ ch ∈ cs, Text.isBlank ch = false) ↔ Text.trimChars cs ≠ [] := by
    rw [ne_eq, Text.trimChars_eq_nil]
    simp
  have tokens : (∀ t ∈ Rule.tokens raw, ∃ r, c.readToken t = .ok r) ↔
      ∀ t ∈ raw.toList.splitOn '|', Text.trimChars t ≠ [] →
        ∃ r, c.readToken (.ofList (Text.trimChars t)) = .ok r := by
    unfold Rule.tokens
    simp only [List.mem_filter, List.mem_map, and_imp, forall_exists_index, forall_apply_eq_imp_iff₂,
      Bool.not_eq_true', ← Bool.not_eq_true, String.isEmpty_iff, String.ofList_eq_empty_iff, ne_eq]
  rw [faults_eq_nil, tokens, ← Bool.not_eq_true, Text.isEmpty_trim, ← ne_eq, ← seen]
  simp only [exists_readToken_iff, ← seen]
  exact ⟨fun h => ⟨h.visible, h.tokens⟩, fun h => ⟨h.1, h.2⟩⟩

end Catalog

end FormGate
