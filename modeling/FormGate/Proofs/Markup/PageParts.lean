import FormGate.Proofs.Document.Reading
import FormGate.Proofs.Markup.Parts

/-!
# The parts of a page

A page without a document type is read exactly if it is an element, in front of which a declaration may
stand and comments and instructions around it, and the parts of the element make up a forest
(`Page.exists_parts?`, `Page.forest_of_made?`). Once names were replaced it has the same parts, but for the
texts of the marked sections (`Page.parts?_replaceNames`).
-/

namespace FormGate.Markup

open Page

namespace Page

/-! ## Around the element -/

variable {cs rest : List Char}

theorem afterMisc?_succ (fuel : Nat) (cs : List Char) :
    afterMisc? (fuel + 1) cs =
      (after? "<!--" (skipSpace cs)).elim
        ((after? "<?" (skipSpace cs)).elim (some (skipSpace cs)) fun body =>
          (afterInstruction? body).bind (afterMisc? fuel))
        fun body => (afterComment? body).bind (afterMisc? fuel) := by
  rw [afterMisc?]
  split
  · rename_i same
    rw [same]
    rfl
  · rename_i same
    rw [same]
    rfl
  · rename_i comment instruction
    rw [after?_eq_none_of_ne comment, after?_eq_none_of_ne instruction]
    rfl

theorem afterMisc?_replaceNames {fuel : Nat} (h : afterMisc? fuel cs = some rest) {fuel' : Nat}
    (enough : (replaceNames 0 cs).length < fuel') :
    afterMisc? fuel' (replaceNames 0 cs) = some (replaceNames 0 rest) := by
  induction fuel generalizing cs fuel' with
  | zero => cases h
  | succ fuel ih =>
    obtain ⟨fuel', rfl⟩ := Nat.exists_eq_succ_of_ne_zero (Nat.ne_of_gt (Nat.zero_lt_of_lt enough))
    have skipped := length_skipSpace_le (replaceNames 0 cs)
    have comment := after?_replaceNames (show '&' ∉ "<!--".toList by decide) (skipSpace cs)
    have instruction := after?_replaceNames (show '&' ∉ "<?".toList by decide) (skipSpace cs)
    rw [afterMisc?_succ] at h ⊢
    rw [skipSpace_replaceNames] at skipped ⊢
    cases opened : after? "<!--" (skipSpace cs) with
    | some body =>
      rw [opened] at h comment
      obtain ⟨mid, closed, later⟩ := Option.bind_eq_some_iff.1 h
      have closed' := afterComment?_replaceNames closed
      have shorter := length_after?_lt (by decide) comment
      have shorter' := length_afterComment?_le closed'
      rw [comment, Option.map_some, Option.elim_some, closed', Option.bind_some, ih later (by omega)]
    | none =>
      rw [opened, Option.elim_none] at h
      rw [opened] at comment
      rw [comment, Option.map_none, Option.elim_none]
      cases opened' : after? "<?" (skipSpace cs) with
      | some body =>
        rw [opened'] at h instruction
        obtain ⟨mid, closed, later⟩ := Option.bind_eq_some_iff.1 h
        have closed' := afterInstruction?_replaceNames closed
        have shorter := length_after?_lt (by decide) instruction
        have shorter' := length_afterInstruction?_le closed'
        rw [instruction, Option.map_some, Option.elim_some, closed', Option.bind_some, ih later (by omega)]
      | none =>
        rw [opened'] at h instruction
        cases h
        rw [instruction]
        rfl

/-- A page without the byte order mark in front of it. -/
def unmarked : List Char → List Char
  | '\uFEFF' :: rest => rest
  | cs => cs

/-- What a page declares, and what starts with its element or document type. -/
def front? (cs : List Char) : Option (Declarations × List Char) :=
  (declaration? (unmarked cs)).bind fun p => (afterMisc? p.2.length.succ p.2).map fun rest => (p.1, rest)

/-- No document type stands in front of the element of a page. -/
def Untyped (cs : List Char) : Prop :=
  ∀ d rest, front? cs = some (d, rest) → after? "<!" rest = none

theorem untyped_of_front? {d : Declarations} (h : front? cs = some (d, rest))
    (bare : after? "<!" rest = none) : Untyped cs := fun d' rest' h' => by
  cases h.symm.trans h'
  exact bare

/-- What a page without a document type declares, and the parts of its element. -/
def parts? (cs : List Char) : Option (Declarations × List Part) :=
  (front? cs).bind fun p =>
    ((after? "<" p.2).bind Part.element?).bind fun q =>
      if afterMisc? q.2.length.succ q.2 = some [] then some (p.1, q.1) else none

/-! ## The opening declaration -/

theorem amp_mem_dropWhile {p : Char → Bool} (stop : p '&' = false) (inside : '&' ∈ cs) :
    '&' ∈ cs.dropWhile p := by
  rw [← List.takeWhile_append_dropWhile (p := p) (l := cs), List.mem_append] at inside
  refine inside.resolve_left fun taken => ?_
  rw [List.mem_takeWhile_imp taken] at stop
  cases stop

theorem amp_mem_skipSpace (inside : '&' ∈ cs) : '&' ∈ skipSpace cs :=
  amp_mem_dropWhile (by decide) inside

theorem amp_of_setting? {name value : List Char} (h : setting? cs = some ((name, value), rest))
    (inside : '&' ∈ cs) : '&' ∈ name ∨ '&' ∈ rest := by
  unfold setting? at h
  have body := amp_mem_skipSpace inside
  split at h
  · cases h
  · rename_i c more
    split_ifs at h
    dsimp only at h
    split at h
    · rename_i more' equals
      split at h
      · rename_i quote more'' opened
        split at h
        · split at h
          · rename_i quoted _ close after closed
            rw [Option.ite_none_right_eq_some] at h
            obtain ⟨whole, same⟩ := h
            cases same
            have quoted : quote = '"' ∨ quote = '\'' := by simpa using quoted
            have plain : '&' ≠ quote := by rcases quoted with rfl | rfl <;> decide
            have closing : close = quote := by simpa using (Bool.and_eq_true_iff.1 whole).1
            rw [← List.takeWhile_append_dropWhile (p := fun x => !(x == '=' || isSpace x))
              (l := skipSpace (c :: more)), List.mem_append] at body
            refine body.imp_right fun behind => ?_
            have sign := amp_mem_skipSpace behind
            rw [equals, List.mem_cons] at sign
            have mark := amp_mem_skipSpace (sign.resolve_left (by decide))
            rw [opened, List.mem_cons] at mark
            have last := amp_mem_dropWhile (p := isSettingChar) (by decide) (mark.resolve_left plain)
            rw [closed, List.mem_cons] at last
            exact last.resolve_left (closing ▸ plain)
          · cases h
        · cases h
      · cases h
    · cases h

/-- Only in the name of a setting can an ampersand stand in the opening declaration. -/
theorem amp_of_settings? {fuel : Nat} {ss : List (List Char × List Char)} (h : settings? fuel cs = some ss)
    (inside : '&' ∈ cs) : ∃ s ∈ ss, '&' ∈ s.1 := by
  induction fuel generalizing cs ss with
  | zero => cases h
  | succ fuel ih =>
    rw [settings?] at h
    split_ifs at h with empty
    · have body := amp_mem_skipSpace inside
      rw [List.isEmpty_iff.1 empty] at body
      cases body
    · cases first : setting? cs with
      | none =>
        rw [first] at h
        cases h
      | some p =>
        obtain ⟨⟨name, value⟩, rest⟩ := p
        rw [first] at h
        obtain ⟨ss, later, rfl⟩ := Option.map_eq_some_iff.1 h
        rcases amp_of_setting? first inside with named | behind
        · exact ⟨_, List.mem_cons_self, named⟩
        · obtain ⟨s, listed, named⟩ := ih later behind
          exact ⟨s, List.mem_cons_of_mem _ listed, named⟩

theorem name_of_standaloneOf? {ss : List (List Char × List Char)} {b : Bool}
    (h : standaloneOf? ss = some b) {s : List Char × List Char} (listed : s ∈ ss) :
    s.1 ∈ ["version".toList, "encoding".toList, "standalone".toList] := by
  have encoding {e : List Char × List Char} (known : isEncoding e = true) : e.1 = "encoding".toList :=
    beq_iff_eq.1 (Bool.and_eq_true_iff.1 known).1
  have standalone {e : List Char × List Char} {b : Bool} (known : standalone? e = some b) :
      e.1 = "standalone".toList := by
    unfold standalone? at known
    by_contra other
    rw [if_pos (by simpa using other)] at known
    cases known
  unfold standaloneOf? at h
  split at h
  · rename_i version more
    rw [Option.ite_none_left_eq_some] at h
    obtain ⟨first, h⟩ := h
    have first : version.1 = "version".toList := by simpa using first
    split at h
    · obtain rfl := List.mem_singleton.1 listed
      simp [first]
    · rename_i e
      rcases List.mem_cons.1 listed with rfl | listed
      · simp [first]
      obtain rfl := List.mem_singleton.1 listed
      split_ifs at h with known
      · simp [encoding known]
      · simp [standalone h]
    · rename_i e e'
      rw [Option.ite_none_right_eq_some] at h
      rcases List.mem_cons.1 listed with rfl | listed
      · simp [first]
      rcases List.mem_cons.1 listed with rfl | listed
      · simp [encoding h.1]
      obtain rfl := List.mem_singleton.1 listed
      simp [standalone h.2]
    · cases h
  · cases h

theorem replaceNames_settings {fuel : Nat} {ss : List (List Char × List Char)} {b : Bool}
    (read : settings? fuel cs = some ss) (known : standaloneOf? ss = some b) : replaceNames 0 cs = cs := by
  have plain : '&' ∉ cs := fun amp => by
    obtain ⟨s, listed, named⟩ := amp_of_settings? read amp
    have listed := name_of_standaloneOf? known listed
    simp only [List.mem_cons, List.not_mem_nil, or_false] at listed
    rcases listed with name | name | name <;> rw [name] at named <;> revert named <;> decide
  have whole := replaceNames_append plain []
  rwa [List.append_nil, replaceNames, List.append_nil] at whole

theorem declaration?_replaceNames {d : Declarations} (h : declaration? cs = some (d, rest)) :
    declaration? (replaceNames 0 cs) = some (d, replaceNames 0 rest) := by
  unfold declaration? at h ⊢
  rw [after?_replaceNames (by decide)]
  cases opens : after? "<?xml" cs with
  | none =>
    rw [opens] at h
    cases h
    rfl
  | some body =>
    rw [opens] at h
    cases body with
    | nil => cases h
    | cons c body =>
      dsimp only at h
      rw [Option.map_some]
      obtain ⟨more, same⟩ := exists_replaceNames_cons c body
      by_cases longer : (isNameChar c || c == ':') = true
      · rw [if_pos longer] at h
        cases h
        rw [same]
        dsimp only
        rw [if_pos longer]
      · rw [if_neg longer] at h
        rw [same]
        dsimp only
        rw [if_neg longer, ← same]
        cases ended : upTo? '?' '>' (c :: body) with
        | none =>
          rw [ended] at h
          cases h
        | some p =>
          obtain ⟨inside, after⟩ := p
          rw [ended] at h
          rw [upTo?_replaceNames (.of_all rfl) ended]
          dsimp only at h ⊢
          obtain ⟨ss, read, h⟩ := Option.bind_eq_some_iff.1 h
          obtain ⟨standalone, known, h⟩ := Option.bind_eq_some_iff.1 h
          cases h
          rw [replaceNames_settings read known, read]
          dsimp only [bind, Option.bind]
          rw [known]
          rfl

/-! ## The whole page -/

theorem unmarked_cons {c : Char} (other : c ≠ '\uFEFF') (rest : List Char) :
    unmarked (c :: rest) = c :: rest := by
  unfold unmarked
  split
  · rename_i same
    exact absurd (List.cons.inj same).1 other
  · rfl

theorem unmarked_replaceNames (cs : List Char) :
    unmarked (replaceNames 0 cs) = replaceNames 0 (unmarked cs) := by
  cases cs with
  | nil => rfl
  | cons c cs =>
    by_cases mark : c = '\uFEFF'
    · rw [mark, replaceNames_cons (by decide)]
      rfl
    · obtain ⟨more, same⟩ := exists_replaceNames_cons c cs
      rw [unmarked_cons mark, same, unmarked_cons mark]

theorem front?_replaceNames {d : Declarations} (h : front? cs = some (d, rest)) :
    front? (replaceNames 0 cs) = some (d, replaceNames 0 rest) := by
  obtain ⟨⟨d, mid⟩, declared, h⟩ := Option.bind_eq_some_iff.1 h
  obtain ⟨rest, around, same⟩ := Option.map_eq_some_iff.1 h
  cases same
  rw [front?, unmarked_replaceNames, declaration?_replaceNames declared, Option.bind_some,
    afterMisc?_replaceNames around (Nat.lt_succ_self _)]
  rfl

/-- What a page of parts is made of: an element in front of which no document type stands, and nothing
of importance around it. -/
theorem parts?_eq_some_iff {d : Declarations} {ps : List Part} :
    parts? cs = some (d, ps) ↔ ∃ rest body behind, front? cs = some (d, rest) ∧ after? "<" rest = some body ∧
      Part.element? body = some (ps, behind) ∧ afterMisc? behind.length.succ behind = some [] := by
  constructor
  · intro h
    obtain ⟨⟨d, rest⟩, found, h⟩ := Option.bind_eq_some_iff.1 h
    obtain ⟨⟨ps, behind⟩, element, h⟩ := Option.bind_eq_some_iff.1 h
    rw [Option.ite_none_right_eq_some] at h
    obtain ⟨ends, same⟩ := h
    cases same
    obtain ⟨body, angle, element⟩ := Option.bind_eq_some_iff.1 element
    exact ⟨rest, body, behind, found, angle, element, ends⟩
  · rintro ⟨rest, body, behind, found, angle, element, ends⟩
    rw [parts?, found, Option.bind_some]
    dsimp only
    rw [angle, Option.bind_some, element, Option.bind_some]
    exact if_pos ends

/-- Once names were replaced a page has the same parts, up to the texts of its marked sections. -/
theorem parts?_replaceNames {d : Declarations} {ps : List Part} (h : parts? cs = some (d, ps)) :
    parts? (replaceNames 0 cs) = some (d, ps.map Part.replaced) := by
  obtain ⟨rest, body, behind, found, angle, element, ends⟩ := parts?_eq_some_iff.1 h
  refine parts?_eq_some_iff.2 ⟨_, _, _, front?_replaceNames found, ?_, Part.element?_replaceNames element,
    afterMisc?_replaceNames ends (Nat.lt_succ_self _)⟩
  rw [after?_replaceNames (by decide), angle, Option.map_some]

/-! ## The forest of a page -/

/-- The forest that parts make up. -/
def made? (d : Declarations) (ps : List Part) : Option Forest :=
  (Mark.ofTokens? d .initial [] 0 (ps.flatMap Part.tokens)).map fun marks => (Forest.ofMarks marks).2

variable {d : Declarations} {ps : List Part} {f : Forest}

/-- Without a document type nothing is declared but whether the page stands alone. -/
theorem lenient_of_front? (h : front? cs = some (d, rest)) : d.lenient = false := by
  obtain ⟨⟨d, mid⟩, declared, h⟩ := Option.bind_eq_some_iff.1 h
  obtain ⟨rest, around, same⟩ := Option.map_eq_some_iff.1 h
  cases same
  unfold declaration? at declared
  split at declared
  · split_ifs at declared
    · cases declared
      rfl
    · split at declared
      · cases declared
      · obtain ⟨ss, -, declared⟩ := Option.bind_eq_some_iff.1 declared
        obtain ⟨standalone, -, declared⟩ := Option.bind_eq_some_iff.1 declared
        cases declared
        rfl
  · cases declared
  · cases declared
    rfl

theorem prolog_eq (h : front? cs = some (d, rest)) (untyped : after? "<!" rest = none) :
    prolog (unmarked cs) = .ok (d, rest) := by
  obtain ⟨⟨d, mid⟩, declared, h⟩ := Option.bind_eq_some_iff.1 h
  obtain ⟨rest, around, same⟩ := Option.map_eq_some_iff.1 h
  cases same
  unfold prolog
  rw [declared]
  simp only [Doctype.need, bind, Except.bind, around, untyped]
  rfl

theorem forest_eq (cs : List Char) :
    forest cs = (do
      let (d, rest) ← prolog (unmarked cs)
      let body ← Doctype.need (after? "<" rest)
      let (tokens, rest) ← Doctype.need (Token.element? d.lenient body)
      let marks ← Doctype.need (Mark.ofTokens? d .initial [] 0 tokens)
      let rest ← Doctype.need (afterMisc? rest.length.succ rest)
      if rest.isEmpty then return (Forest.ofMarks marks).2
      else throw .malformed) := by
  cases cs with
  | nil => rfl
  | cons c cs =>
    by_cases mark : c = '\uFEFF'
    · rw [mark]
      rfl
    · rw [unmarked_cons mark]
      unfold forest
      dsimp only
      split
      · rename_i same
        exact absurd (List.cons.inj same).1 mark
      · rfl

theorem untyped_of_element? {body behind : List Char} (angle : after? "<" rest = some body)
    (element : Part.element? body = some (ps, behind)) : after? "<!" rest = none := by
  obtain ⟨⟨ts, mid⟩, tag, -⟩ := Option.bind_eq_some_iff.1 element
  obtain ⟨c, more, rfl, start⟩ := Part.start_of_openingTag? tag
  obtain rfl := eq_of_after? angle
  refine after?_eq_none fun front => (marks_of_start start).2.2.2.1 ?_
  exact (List.cons_prefix_cons.1 (List.cons_prefix_cons.1 front).2).1.symm

theorem forest_of_made? (h : parts? cs = some (d, ps)) (made : made? d ps = some f) :
    forest cs = .ok f := by
  obtain ⟨rest, body, behind, found, angle, element, ends⟩ := parts?_eq_some_iff.1 h
  obtain ⟨marks, read, rfl⟩ := Option.map_eq_some_iff.1 made
  have tokens := Part.element?_tokens body
  rw [element, Option.map_some] at tokens
  rw [forest_eq, prolog_eq found (untyped_of_element? angle element)]
  simp only [bind, Except.bind, angle, Doctype.need, lenient_of_front? found, tokens, read, ends]
  rfl

/-- Only a page with a document type is read without being a row of parts. -/
theorem exists_parts? (untyped : Untyped cs) (h : forest cs = .ok f) :
    ∃ d ps, parts? cs = some (d, ps) ∧ made? d ps = some f := by
  rw [forest_eq] at h
  obtain ⟨⟨d, rest⟩, opened, h⟩ := bind_ok h
  obtain ⟨body, angle, h⟩ := bind_ok h
  obtain ⟨⟨tokens, behind⟩, element, h⟩ := bind_ok h
  obtain ⟨marks, made, h⟩ := bind_ok h
  obtain ⟨after, ends, h⟩ := bind_ok h
  split_ifs at h with empty
  cases h
  have found : front? cs = some (d, rest) := by
    unfold prolog at opened
    obtain ⟨⟨d', mid⟩, declared, opened⟩ := bind_ok opened
    obtain ⟨rest', around, opened⟩ := bind_ok opened
    have found : front? cs = some (d', rest') := by
      rw [front?, need_ok declared, Option.bind_some, need_ok around]
      rfl
    rw [untyped d' rest' found] at opened
    cases opened
    exact found
  rw [lenient_of_front? found] at element
  have tokens' := (Part.element?_tokens body).symm.trans (need_ok element)
  obtain ⟨⟨ps, behind'⟩, parts, same⟩ := Option.map_eq_some_iff.1 tokens'
  cases same
  refine ⟨d, ps, ?_, ?_⟩
  · refine parts?_eq_some_iff.2 ⟨rest, body, behind', found, need_ok angle, parts, ?_⟩
    rw [need_ok ends, List.isEmpty_iff.1 empty]
  · rw [made?, need_ok made]
    rfl

end Page

end FormGate.Markup
