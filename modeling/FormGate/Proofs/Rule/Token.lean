import FormGate.Proofs.Rule.Grammar

/-!
# What a token spells

A token spells a rule without a parameter if it is a name, and one with a parameter if it is a name
and the parameter in brackets. There is at most one way to cut a token like this, since the brackets
begin at the first one that opens (`Rule.eq_of_bracketed`). A token that can be cut in neither way is
malformed, and is itself named in the fault (`Rule.ofToken_grammar`).
-/

namespace FormGate

namespace Rule

/-! ## Names -/

/-- A letter or an underscore, and then any number of letters, digits and underscores, all of them
ASCII. -/
def Name (n : String) : Prop :=
  ∃ first rest, n.toList = first :: rest ∧ (first.isAlpha = true ∨ first = '_') ∧
    ∀ c ∈ rest, c.isAlphanum = true ∨ c = '_'

/-- The two ranges of ASCII letters are those of `Char.isAlpha`. -/
theorem letters_eq_isAlpha (c : Char) :
    (('a' ≤ c && c ≤ 'z') || ('A' ≤ c && c ≤ 'Z')) = c.isAlpha := by
  have upper : ('A' ≤ c && c ≤ 'Z') = c.isUpper := (Bool.decide_and _ _).symm
  have lower : ('a' ≤ c && c ≤ 'z') = c.isLower := rfl
  have alpha : c.isAlpha = (c.isUpper || c.isLower) := rfl
  rw [lower, upper, Bool.or_comm, ← alpha]

theorem isNameStart_iff {c : Char} : isNameStart c = true ↔ c.isAlpha = true ∨ c = '_' := by
  rw [isNameStart, letters_eq_isAlpha, Bool.or_eq_true, beq_iff_eq]

theorem isNameChar_iff {c : Char} : isNameChar c = true ↔ c.isAlphanum = true ∨ c = '_' := by
  have digit : ('0' ≤ c && c ≤ '9') = c.isDigit := rfl
  have alphanum : c.isAlphanum = (c.isAlpha || c.isDigit) := rfl
  rw [isNameChar, digit, Bool.or_eq_true, isNameStart_iff, alphanum, Bool.or_eq_true]
  exact or_right_comm

theorem isName_iff {n : String} : isName n.toList = true ↔ Name n := by
  unfold Name
  cases n.toList with
  | nil => simp [isName]
  | cons first rest =>
    rw [isName, Bool.and_eq_true, List.all_eq_true, isNameStart_iff]
    simp only [isNameChar_iff]
    constructor
    · rintro ⟨start, more⟩
      exact ⟨first, rest, rfl, start, more⟩
    · rintro ⟨_, _, same, start, more⟩
      obtain ⟨rfl, rfl⟩ := List.cons.inj same
      exact ⟨start, more⟩

/-! ## The two ways to cut a token -/

/-- The token is a name and no more, but for outer blanks. -/
structure Bare (t : String) : Prop where
  unopened : '[' ∉ t.toList
  unclosed : ']' ∉ t.toList
  name : Name (Text.trim t)

/-- The token is a name, which outer blanks may surround, and a parameter in brackets. -/
structure Bracketed (t u p : String) : Prop where
  parts : t = u ++ "[" ++ p ++ "]"
  unopened : '[' ∉ u.toList
  name : Name (Text.trim u)
  balanced : Balanced p.toList

theorem isName_trimChars {s : String} :
    isName (Text.trimChars s.toList) = true ↔ Name (Text.trim s) := by
  rw [← isName_iff, Text.toList_trim]

theorem toList_bracketed (u p : String) :
    (u ++ "[" ++ p ++ "]").toList = u.toList ++ '[' :: (p.toList ++ [']']) := by
  simp

/-- What stands in front of the first bracket that opens, and what stands inside, are determined. -/
theorem eq_of_bracketed {u p u' p' : String} (h : u ++ "[" ++ p ++ "]" = u' ++ "[" ++ p' ++ "]")
    (unopened : '[' ∉ u.toList) (unopened' : '[' ∉ u'.toList) : u = u' ∧ p = p' := by
  have chars := congrArg String.toList h
  rw [toList_bracketed, toList_bracketed] at chars
  -- dropping up to the bracket leaves the brackets on both sides
  have inside := congrArg (List.dropWhile (· != '[')) chars
  rw [dropWhile_of_not_mem unopened, dropWhile_of_not_mem unopened',
    List.dropWhile_cons_of_neg (by decide), List.dropWhile_cons_of_neg (by decide)] at inside
  obtain rfl : p = p' := String.toList_inj.1 (List.append_cancel_right (List.cons.inj inside).2)
  exact ⟨String.toList_inj.1 (List.append_cancel_right chars), rfl⟩

theorem ofToken_eq_bare_iff {t n : String} :
    ofToken t = .ok ⟨n, none⟩ ↔ Bare t ∧ Text.trim t = n := by
  rw [ofToken, ofChars_eq_ok_iff]
  constructor
  · intro spells
    generalize rule : (⟨n, none⟩ : Rule) = r at spells
    generalize chars : t.toList = cs at spells
    cases spells with
    | bare unopened unclosed name =>
      cases rule
      subst chars
      exact ⟨⟨unopened, unclosed, isName_trimChars.1 name⟩, rfl⟩
    | bracketed => cases rule
  · rintro ⟨bare, rfl⟩
    exact .bare bare.unopened bare.unclosed (isName_trimChars.2 bare.name)

theorem ofToken_eq_bracketed_iff {t n p : String} :
    ofToken t = .ok ⟨n, some p⟩ ↔ ∃ u, Bracketed t u p ∧ Text.trim u = n := by
  rw [ofToken, ofChars_eq_ok_iff]
  constructor
  · intro spells
    generalize rule : (⟨n, some p⟩ : Rule) = r at spells
    generalize chars : t.toList = cs at spells
    cases spells with
    | bare => cases rule
    | @bracketed front inside unopened name balanced =>
      cases rule
      have parts : t = .ofList front ++ "[" ++ .ofList inside ++ "]" := by
        rw [← String.toList_inj, toList_bracketed, chars, String.toList_ofList, String.toList_ofList]
      have trimmed : Text.trim (.ofList front) = .ofList (Text.trimChars front) := by
        rw [Text.trim, String.toList_ofList]
      refine ⟨.ofList front, ⟨parts, ?_, ?_, ?_⟩, trimmed⟩
      · rwa [String.toList_ofList]
      · rwa [← isName_trimChars, String.toList_ofList]
      · rwa [String.toList_ofList]
  · rintro ⟨u, cut, rfl⟩
    have spells := Spells.bracketed cut.unopened (isName_trimChars.2 cut.name) cut.balanced
    rw [cut.parts, toList_bracketed]
    rwa [String.ofList_toList] at spells

/-- A token that can be cut in neither way spells no rule. -/
theorem exists_ofToken_eq_error {t : String} (bare : ¬ Bare t)
    (bracketed : ∀ u p, ¬ Bracketed t u p) : ∃ why, ofToken t = .error why := by
  cases read : ofToken t with
  | error why => exact ⟨why, rfl⟩
  | ok r =>
    obtain ⟨n, _ | p⟩ := r
    · exact absurd (ofToken_eq_bare_iff.1 read).1 bare
    · obtain ⟨u, cut, -⟩ := ofToken_eq_bracketed_iff.1 read
      exact absurd cut (bracketed u p)

/-- A token spells a name without a parameter exactly if it is that name, and a name with a parameter
exactly if it is cut into the two. There is at most one such cut. Every token that cannot be cut is
malformed, under every catalog, and the fault names the token as its rule. -/
theorem ofToken_grammar (t : String) :
    (∀ n, ofToken t = .ok ⟨n, none⟩ ↔ Bare t ∧ Text.trim t = n) ∧
    (∀ n p, ofToken t = .ok ⟨n, some p⟩ ↔ ∃ u, Bracketed t u p ∧ Text.trim u = n) ∧
    (¬ Bare t → (∀ u p, ¬ Bracketed t u p) → ∃ why, ofToken t = .error why ∧
      (RuleFault.malformed t why).toFault =
        { kind := .malformedRule, message := why.message t, rule := some t } ∧
      ∀ c : Catalog, c.readToken t = .error (.malformed t why)) ∧
    ∀ u p u' p', t = u ++ "[" ++ p ++ "]" → '[' ∉ u.toList →
      t = u' ++ "[" ++ p' ++ "]" → '[' ∉ u'.toList → u = u' ∧ p = p' := by
  refine ⟨fun n => ofToken_eq_bare_iff, fun n p => ofToken_eq_bracketed_iff, ?_, ?_⟩
  · intro bare bracketed
    obtain ⟨why, read⟩ := exists_ofToken_eq_error bare bracketed
    refine ⟨why, read, rfl, fun c => ?_⟩
    rw [Catalog.readToken, read]
  · rintro u p u' p' rfl unopened parts' unopened'
    exact eq_of_bracketed parts' unopened unopened'

/-- Brackets may nest inside the parameter, and blanks may stand in front of it; but what is closed
twice is malformed, whatever stands inside. -/
theorem ofToken_nested :
    ofToken "matches [[name=x]]" = .ok ⟨"matches", some "[name=x]"⟩ ∧
      ∃ why, ofToken "matches[a]]" = .error why := by
  have name : Name "matches" := isName_iff.1 (by decide)
  constructor
  · refine ((ofToken_grammar _).2.1 _ _).2 ⟨"matches ", ⟨rfl, by decide, ?_, ?_⟩, by decide⟩
    · rwa [show Text.trim "matches " = "matches" by decide]
    · exact balanced_iff.2 (by decide)
  · obtain ⟨why, read, -⟩ := (ofToken_grammar "matches[a]]").2.2.1
      (fun bare => bare.unclosed (by decide)) fun u p cut => by
        obtain ⟨rfl, rfl⟩ := eq_of_bracketed (u := "matches") (p := "a]") cut.parts (by decide)
          cut.unopened
        exact absurd (balanced_iff.1 cut.balanced) (by decide)
    exact ⟨why, read⟩

end Rule

end FormGate
