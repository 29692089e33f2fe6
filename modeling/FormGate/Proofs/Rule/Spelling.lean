import FormGate.Proofs.Document.Classes
import FormGate.Proofs.Rule.Normal
import FormGate.Rule.Reader

/-!
# Rules that are written and read again

The rules that were read from a text are read again from the text in which they are written out
(`Catalog.rules_join`), and nothing is dropped the second time (`Catalog.faults_join`). A name is
written without blanks, and a parameter is trimmed when it is read, so that nothing is lost.
-/

namespace FormGate

namespace Text

theorem trimChars_sublist (cs : List Char) : (trimChars cs).Sublist cs :=
  ((List.rdropWhile_prefix isBlank (cs.dropWhile isBlank)).sublist).trans
    (List.dropWhile_suffix isBlank).sublist

theorem exists_trimChars (cs : List Char) : ∃ front back, cs = front ++ trimChars cs ++ back ∧
    (∀ c ∈ front, isBlank c = true) ∧ ∀ c ∈ back, isBlank c = true := by
  refine ⟨cs.takeWhile isBlank, (cs.dropWhile isBlank).rtakeWhile isBlank, ?_, ?_, ?_⟩
  · have back : trimChars cs ++ (cs.dropWhile isBlank).rtakeWhile isBlank = cs.dropWhile isBlank :=
      List.rdropWhile_append_rtakeWhile
    rw [List.append_assoc, back, List.takeWhile_append_dropWhile]
  · exact fun c hc => List.mem_takeWhile_imp hc
  · exact fun c hc => List.mem_rtakeWhile_imp hc

theorem trimChars_eq_self {cs : List Char} (front : ∀ c, cs.head? = some c → isBlank c = false)
    (back : ∀ c, cs.getLast? = some c → isBlank c = false) : trimChars cs = cs := by
  have first : cs.dropWhile isBlank = cs := by
    cases cs with
    | nil => rfl
    | cons c cs => rw [List.dropWhile_cons, if_neg (by simp [front c rfl])]
  have last : cs.reverse.dropWhile isBlank = cs.reverse := by
    cases reversed : cs.reverse with
    | nil => rfl
    | cons c rest =>
      have ending : cs.getLast? = some c := by rw [← List.head?_reverse, reversed]; rfl
      rw [List.dropWhile_cons, if_neg (by simp [back c ending])]
  rw [trimChars, first, last, List.reverse_reverse]

theorem toNat_of_isBlank {c : Char} (h : isBlank c = true) : c.toNat ≤ 0x20 ∨ 0x85 ≤ c.toNat := by
  simp only [isBlank, blankRanges, List.any_cons, List.any_nil, Bool.or_false, Bool.or_eq_true,
    Bool.and_eq_true, decide_eq_true_eq] at h
  omega

end Text

namespace Rule

/-! ## Names -/

theorem toNat_of_isNameChar {c : Char} (h : isNameChar c = true) :
    0x30 ≤ c.toNat ∧ c.toNat ≤ 0x7A := by
  have le {a b : Char} : a ≤ b ↔ a.toNat ≤ b.toNat := Iff.rfl
  simp only [isNameChar, isNameStart, Bool.or_eq_true, Bool.and_eq_true, decide_eq_true_eq,
    beq_iff_eq, le] at h
  rcases h with ((lower | upper) | rfl) | digit
  · simp only [Char.reduceToNat] at lower
    omega
  · simp only [Char.reduceToNat] at upper
    omega
  · decide
  · simp only [Char.reduceToNat] at digit
    omega

theorem isBlank_of_isNameChar {c : Char} (h : isNameChar c = true) : Text.isBlank c = false := by
  have name := toNat_of_isNameChar h
  cases blank : Text.isBlank c with
  | false => rfl
  | true =>
    have := Text.toNat_of_isBlank blank
    omega

theorem isNameChar_of_isName {cs : List Char} (h : isName cs = true) :
    ∀ c ∈ cs, isNameChar c = true := by
  cases cs with
  | nil => exact fun c hc => absurd hc List.not_mem_nil
  | cons first rest =>
    rw [isName, Bool.and_eq_true, List.all_eq_true] at h
    rw [List.forall_mem_cons]
    refine ⟨?_, h.2⟩
    rw [isNameChar, h.1, Bool.true_or]

theorem ne_of_isNameChar {c d : Char} (h : isNameChar c = true) (hd : isNameChar d = false) :
    c ≠ d := by
  rintro rfl
  rw [h] at hd
  cases hd

theorem trimChars_of_isName {cs : List Char} (h : isName cs = true) : Text.trimChars cs = cs := by
  refine Text.trimChars_eq_self (fun c hc => ?_) fun c hc => ?_
  · exact isBlank_of_isNameChar (isNameChar_of_isName h c (List.mem_of_mem_head? hc))
  · exact isBlank_of_isNameChar (isNameChar_of_isName h c (List.mem_of_getLast? hc))

/-! ## Brackets -/

/-- How many brackets are open after a character, where `depth` are open before it, unless it closes
one that is not open. -/
def bracket (depth : Nat) (c : Char) : Option Nat :=
  if c = ']' then if depth = 0 then none else some (depth - 1)
  else some (if c = '[' then depth + 1 else depth)

/-- How many brackets are open after characters, unless one is closed that is not open. -/
def nesting (depth : Nat) (cs : List Char) : Option Nat :=
  cs.foldlM bracket depth

theorem nesting_append (depth : Nat) (cs cs' : List Char) :
    nesting depth (cs ++ cs') = (nesting depth cs).bind fun d => nesting d cs' :=
  List.foldlM_append

theorem nesting_cons (depth : Nat) (c : Char) (cs : List Char) :
    nesting depth (c :: cs) = (bracket depth c).bind fun d => nesting d cs :=
  List.foldlM_cons

theorem nesting_of_isBlank {cs : List Char} (h : ∀ c ∈ cs, Text.isBlank c = true) (depth : Nat) :
    nesting depth cs = some depth := by
  induction cs with
  | nil => rfl
  | cons c cs ih =>
    rw [List.forall_mem_cons] at h
    have opening : c ≠ '[' := by rintro rfl; exact absurd h.1 (by decide)
    have closing : c ≠ ']' := by rintro rfl; exact absurd h.1 (by decide)
    rw [nesting_cons, bracket, if_neg closing, if_neg opening]
    exact ih h.2

theorem nesting_trimChars (depth : Nat) (cs : List Char) :
    nesting depth (Text.trimChars cs) = nesting depth cs := by
  obtain ⟨front, back, parts, blank, blank'⟩ := Text.exists_trimChars cs
  conv_rhs => rw [parts, nesting_append, nesting_append, nesting_of_isBlank blank]
  rw [Option.bind_some]
  cases nesting depth (Text.trimChars cs) with
  | none => rfl
  | some d => rw [Option.bind_some, nesting_of_isBlank blank']

theorem untilClosing_cons (depth : Nat) (c : Char) (cs : List Char) :
    untilClosing depth (c :: cs) =
      match bracket depth c with
      | none => some ([], cs)
      | some d => (untilClosing d cs).map fun p => (c :: p.1, p.2) := by
  unfold bracket
  by_cases closing : c = ']'
  · rw [if_pos closing]
    cases depth <;> simp [untilClosing, closing]
  · rw [if_neg closing]
    simp [untilClosing, closing]

theorem eq_of_bracket_eq_none {depth : Nat} {c : Char} (h : bracket depth c = none) : c = ']' := by
  unfold bracket at h
  split_ifs at h with closing
  exact closing

theorem bracket_closing_eq_none {depth : Nat} : bracket depth ']' = none ↔ depth = 0 := by
  unfold bracket
  rw [if_pos rfl]
  split_ifs with zero <;> simp [zero]

/-- The closing bracket is the first one before which every inner bracket was closed. -/
theorem untilClosing_eq_some {depth : Nat} {cs inside rest : List Char} :
    untilClosing depth cs = some (inside, rest) ↔
      cs = inside ++ ']' :: rest ∧ nesting depth inside = some 0 := by
  induction cs generalizing depth inside with
  | nil => simp [untilClosing]
  | cons c cs ih =>
    rw [untilClosing_cons]
    cases step : bracket depth c with
    | none =>
      obtain rfl := eq_of_bracket_eq_none step
      obtain rfl := bracket_closing_eq_none.1 step
      cases inside with
      | nil => simp [nesting, eq_comm]
      | cons c' inside =>
        simp only [Option.some.injEq, Prod.mk.injEq, reduceCtorEq, false_and, false_iff, not_and,
          List.cons_append, List.cons.injEq]
        rintro ⟨rfl, -⟩
        simp [nesting_cons, step]
    | some d =>
      cases inside with
      | nil =>
        simp only [Option.map_eq_some_iff, Prod.mk.injEq, reduceCtorEq, false_and, and_false,
          exists_false, List.nil_append, List.cons.injEq, false_iff, not_and]
        rintro ⟨rfl, -⟩ closed
        obtain rfl : depth = 0 := Option.some.inj closed
        rw [bracket_closing_eq_none.2 rfl] at step
        cases step
      | cons c' inside =>
        dsimp only
        rw [nesting_cons]
        constructor
        · intro found
          obtain ⟨⟨inside', rest'⟩, later, same⟩ := Option.map_eq_some_iff.1 found
          cases same
          obtain ⟨rfl, closed⟩ := ih.1 later
          rw [step]
          exact ⟨rfl, closed⟩
        · rintro ⟨same, closed⟩
          obtain ⟨rfl, rfl⟩ := List.cons.inj same
          rw [step] at closed
          rw [ih.2 ⟨rfl, closed⟩, Option.map_some]

/-! ## Rules as they are written -/

/-- A rule that can be written: its name is one, and its parameter closes the brackets that it opens
and holds no bar. -/
structure Spelt (r : Rule) : Prop where
  name : isName r.name.toList = true
  closed : ∀ p, r.parameter = some p → nesting 0 p.toList = some 0
  whole : ∀ p, r.parameter = some p → '|' ∉ p.toList

theorem dropWhile_name {cs : List Char} (h : isName cs = true) (rest : List Char) :
    (cs ++ rest).dropWhile (· != '[') = rest.dropWhile (· != '[') := by
  refine List.dropWhile_append_of_pos fun c hc => ?_
  simpa using ne_of_isNameChar (isNameChar_of_isName h c hc) (by decide : isNameChar '[' = false)

theorem takeWhile_name {cs : List Char} (h : isName cs = true) (rest : List Char) :
    (cs ++ '[' :: rest).takeWhile (· != '[') = cs := by
  rw [List.takeWhile_append_of_pos, List.takeWhile_cons_of_neg (by decide), List.append_nil]
  intro c hc
  simpa using ne_of_isNameChar (isNameChar_of_isName h c hc) (by decide : isNameChar '[' = false)

theorem named_name {name : String} (h : isName name.toList = true) (parameter : Option (List Char)) :
    named name.toList parameter = .ok ⟨name, parameter.map .ofList⟩ := by
  unfold named
  dsimp only
  rw [trimChars_of_isName h, if_pos h, String.ofList_toList]

namespace Spelt

variable {r : Rule} (h : r.Spelt)
include h

theorem ofToken_text : ofToken r.text = .ok r := by
  obtain ⟨name, parameter⟩ := r
  have nameOk : isName name.toList = true := h.name
  unfold ofToken text
  cases parameter with
  | none =>
    dsimp only
    have none' : name.toList.dropWhile (· != '[') = [] := by
      simpa using dropWhile_name nameOk []
    have open' : name.toList.contains ']' = false := by
      rw [List.contains_eq_mem, decide_eq_false_iff_not]
      intro closing
      exact absurd (isNameChar_of_isName nameOk _ closing) (by decide)
    unfold ofChars
    rw [none']
    dsimp only
    rw [open', if_neg Bool.false_ne_true, named_name nameOk]
    rfl
  | some p =>
    have chars : (name ++ "[" ++ p ++ "]").toList = name.toList ++ '[' :: (p.toList ++ [']']) := by
      simp
    have inside : untilClosing 0 (p.toList ++ [']']) = some (p.toList, []) :=
      untilClosing_eq_some.2 ⟨rfl, h.closed p rfl⟩
    dsimp only
    unfold ofChars
    rw [chars, dropWhile_name nameOk, List.dropWhile_cons_of_neg (by decide), takeWhile_name nameOk]
    dsimp only
    rw [inside]
    dsimp only
    rw [named_name nameOk, Option.map_some, String.ofList_toList]

theorem bar_not_mem_text : '|' ∉ r.text.toList := by
  obtain ⟨name, parameter⟩ := r
  have bare : '|' ∉ name.toList := fun bar =>
    absurd (isNameChar_of_isName h.name _ bar) (by decide)
  unfold text
  cases parameter with
  | none => exact bare
  | some p =>
    have whole := h.whole p rfl
    simp [bare, whole]

theorem text_ne_nil : r.text.toList ≠ [] := by
  obtain ⟨name, parameter⟩ := r
  have some' : name.toList ≠ [] := by
    intro nothing
    have nameOk : isName name.toList = true := h.name
    rw [nothing] at nameOk
    cases nameOk
  unfold text
  cases parameter with
  | none => exact some'
  | some p => simp

/-- A token in which a rule is written begins and ends without a blank. -/
theorem trimChars_text : Text.trimChars r.text.toList = r.text.toList := by
  obtain ⟨name, parameter⟩ := r
  have nameOk : isName name.toList = true := h.name
  unfold text
  cases parameter with
  | none => exact trimChars_of_isName nameOk
  | some p =>
    have chars : (name ++ "[" ++ p ++ "]").toList = name.toList ++ '[' :: (p.toList ++ [']']) := by
      simp
    dsimp only
    rw [chars]
    refine Text.trimChars_eq_self (fun c hc => ?_) fun c hc => ?_
    · cases letters : name.toList with
      | nil => rw [letters] at nameOk; cases nameOk
      | cons first rest =>
        rw [letters, List.cons_append, List.head?_cons, Option.some.injEq] at hc
        have member : c ∈ name.toList := by rw [letters, hc]; exact List.mem_cons_self
        exact isBlank_of_isNameChar (isNameChar_of_isName nameOk c member)
    · have last : (name.toList ++ '[' :: (p.toList ++ [']'])).getLast? = some ']' := by
        rw [← List.cons_append, ← List.append_assoc, List.getLast?_concat]
      rw [last, Option.some.injEq] at hc
      rw [← hc]
      decide

end Spelt

theorem tokens_join {rules : List Rule} (h : ∀ r ∈ rules, r.Spelt) :
    tokens (join rules) = rules.map text := by
  by_cases none : rules = []
  · subst none
    decide
  · have chars : (join rules).toList = ['|'].intercalate (rules.map fun r => r.text.toList) := by
      rw [join, String.toList_intercalate, List.map_map]
      rfl
    have apart : ∀ cs ∈ rules.map (fun r => r.text.toList), '|' ∉ cs := by
      intro cs hcs
      obtain ⟨r, hr, rfl⟩ := List.mem_map.1 hcs
      exact (h r hr).bar_not_mem_text
    rw [tokens, chars, List.splitOn_intercalate '|' apart (by simpa using none), List.map_map]
    have each : ∀ r ∈ rules, String.ofList (Text.trimChars r.text.toList) = r.text := by
      intro r hr
      rw [(h r hr).trimChars_text, String.ofList_toList]
    have texts : rules.map ((fun cs => String.ofList (Text.trimChars cs)) ∘ fun r => r.text.toList) =
        rules.map text := List.map_congr_left each
    rw [texts, List.filter_eq_self]
    intro token ht
    obtain ⟨r, hr, rfl⟩ := List.mem_map.1 ht
    have some' := (h r hr).text_ne_nil
    rw [ne_eq, String.toList_eq_nil_iff] at some'
    simpa using some'

theorem Spelt.tokens_text {r : Rule} (h : r.Spelt) : tokens r.text = [r.text] := by
  have single : join [r] = r.text := rfl
  rw [← single, tokens_join (List.forall_mem_singleton.2 h), List.map_singleton, single]

/-! ## Rules that were read -/

theorem spelt_of_ofChars {cs : List Char} {r : Rule} (bar : '|' ∉ cs) (read : ofChars cs = .ok r) :
    r.Spelt := by
  have nameOk {name : List Char} {parameter : Option (List Char)} (h : named name parameter = .ok r) :
      isName r.name.toList = true ∧ r.parameter = parameter.map .ofList := by
    unfold named at h
    dsimp only at h
    split_ifs at h with isName'
    cases h
    exact ⟨by rwa [String.toList_ofList], rfl⟩
  unfold ofChars at read
  split at read
  · split_ifs at read
    obtain ⟨name, parameter⟩ := nameOk read
    exact ⟨name, fun p some' => by simp [parameter] at some', fun p some' => by simp [parameter] at some'⟩
  · rename_i first inside opened
    split at read
    · cases read
    · cases read
    · rename_i parameter closed
      obtain ⟨name, given⟩ := nameOk read
      obtain ⟨parts, balanced⟩ := untilClosing_eq_some.1 closed
      have spelt : ∀ p, r.parameter = some p → p = .ofList parameter := by
        intro p some'
        rw [given, Option.map_some, Option.some.injEq] at some'
        exact some'.symm
      refine ⟨name, fun p some' => ?_, fun p some' => ?_⟩
      · rw [spelt p some', String.toList_ofList]
        exact balanced
      · rw [spelt p some', String.toList_ofList]
        intro bar'
        have rest : '|' ∈ cs.dropWhile (· != '[') := by
          rw [opened, parts]
          simp [bar']
        exact bar ((List.dropWhile_sublist _).subset rest)

end Rule

namespace Catalog

variable {c : Catalog}

/-- A rule that is held against its definition keeps its name and its parameter but for outer
blanks. -/
theorem eq_of_accept {r r' : Rule} (h : c.accept r = .ok r') :
    r'.name = r.name ∧ (r' = r ∨ r'.parameter = some (Text.trim (r.parameter.getD ""))) := by
  unfold accept at h
  split at h
  · cases h
  · dsimp only at h
    split at h
    · split at h
      · cases h
        exact ⟨rfl, .inl rfl⟩
      · cases h
    · split_ifs at h
      cases h
      exact ⟨rfl, .inr rfl⟩
    · split_ifs at h
      cases h
      exact ⟨rfl, .inr rfl⟩

theorem accept_of_accept {r r' : Rule} (h : c.accept r = .ok r') : c.accept r' = .ok r' := by
  unfold accept at h ⊢
  cases found : c.get? r.name with
  | none =>
    rw [found] at h
    cases h
  | some d =>
    rw [found] at h
    dsimp only at h
    cases kind : d.parameter with
    | none =>
      rw [kind] at h
      cases parameter : r.parameter with
      | none =>
        rw [parameter] at h
        cases h
        rw [found]
        dsimp only
        rw [kind, parameter]
      | some p =>
        rw [parameter] at h
        cases h
    | integer =>
      rw [kind] at h
      dsimp only at h
      split_ifs at h with number
      cases h
      dsimp only
      rw [found]
      dsimp only
      rw [kind]
      dsimp only
      rw [Option.getD_some, Text.trim_trim, if_pos number]
    | reference =>
      rw [kind] at h
      dsimp only at h
      split_ifs at h with empty
      cases h
      dsimp only
      rw [found]
      dsimp only
      rw [kind]
      dsimp only
      rw [Option.getD_some, Text.trim_trim, if_neg empty]

theorem spelt_of_accept {r r' : Rule} (spelt : r.Spelt) (h : c.accept r = .ok r') : r'.Spelt := by
  obtain ⟨name, same | trimmed⟩ := eq_of_accept h
  · rwa [same]
  · have inner : Rule.nesting 0 (r.parameter.getD "").toList = some 0 ∧
        '|' ∉ (r.parameter.getD "").toList := by
      cases parameter : r.parameter with
      | none => exact ⟨rfl, by simp⟩
      | some p => exact ⟨spelt.closed p parameter, spelt.whole p parameter⟩
    refine ⟨?_, fun p some' => ?_, fun p some' => ?_⟩
    · rw [name]
      exact spelt.name
    · rw [trimmed, Option.some.injEq] at some'
      rw [← some', Text.toList_trim, Rule.nesting_trimChars]
      exact inner.1
    · rw [trimmed, Option.some.injEq] at some'
      rw [← some', Text.toList_trim]
      exact fun bar => inner.2 ((Text.trimChars_sublist _).subset bar)

/-- A rule that was read from a text can be written, and is accepted as it is. -/
theorem spelt_of_mem_rules {raw : String} {r : Rule} (h : r ∈ c.rules raw) :
    r.Spelt ∧ c.accept r = .ok r := by
  obtain ⟨token, member, read⟩ := List.mem_filterMap.1 h
  have bar : '|' ∉ token.toList := by
    obtain ⟨cs, piece, rfl⟩ := List.mem_map.1 (List.mem_filter.1 member).1
    rw [String.toList_ofList]
    intro bar
    have apart := Text.not_of_mem_splitOnP cs piece '|' ((Text.trimChars_sublist cs).subset bar)
    cases apart
  unfold readToken at read
  split at read
  · cases read
  · rename_i r₀ spells
    cases accepted : c.accept r₀ with
    | error f =>
      rw [accepted] at read
      cases read
    | ok r₁ =>
      rw [accepted] at read
      cases read
      exact ⟨spelt_of_accept (Rule.spelt_of_ofChars bar spells) accepted, accept_of_accept accepted⟩

theorem readToken_text {raw : String} {r : Rule} (h : r ∈ c.rules raw) :
    c.readToken r.text = .ok r := by
  obtain ⟨spelt, accepted⟩ := spelt_of_mem_rules h
  rw [readToken, spelt.ofToken_text]
  exact accepted

section Join

variable {raw : String} {rules : List Rule} (h : ∀ r ∈ rules, r ∈ c.rules raw)
include h

/-- Rules that were read from a text are read again from the text in which they are written out. -/
theorem rules_join : c.rules (Rule.join rules) = rules := by
  have again : ∀ r ∈ rules, (c.readToken r.text).toOption = some r := by
    intro r hr
    rw [readToken_text (h r hr)]
    rfl
  rw [Catalog.rules, Rule.tokens_join fun r hr => (spelt_of_mem_rules (h r hr)).1,
    List.filterMap_map]
  exact (List.filterMap_congr again).trans List.filterMap_some

/-- Nothing is dropped from the text in which rules that were read are written out. -/
theorem faults_join : c.faults (Rule.join rules) = [] := by
  rw [faults, Rule.tokens_join fun r hr => (spelt_of_mem_rules (h r hr)).1,
    List.filterMap_eq_nil_iff, List.forall_mem_map]
  intro r hr
  rw [readToken_text (h r hr)]

end Join

end Catalog

end FormGate
