import FormGate.Proofs.Markup.Written

/-!
# In front of the element

White space, comments and instructions may stand in front of the element of a page. They do so too once
names were replaced, and what ends them ends them then. Where a declaration other than a document type,
a reference to declarations or a closing bracket comes next, there is no page to be read, whatever
follows (`Page.forest_of_unrooted`).
-/

namespace FormGate.Markup

namespace Page

/-! ## Characters once names were replaced -/

theorem head?_replaceNames (cs : List Char) : (replaceNames 0 cs).head? = cs.head? := by
  cases cs with
  | nil => rfl
  | cons c cs =>
    rw [replaceNames]
    split_ifs with amp
    · cases word : namedReference? cs with
      | none => rfl
      | some written =>
        unfold namedReference? at word
        split at word
        · obtain ⟨n, -, rfl⟩ := Option.map_eq_some_iff.1 word
          rw [amp]
          rfl
        · cases word
    · rfl

theorem exists_replaceNames_cons (c : Char) (cs : List Char) :
    ∃ more, replaceNames 0 (c :: cs) = c :: more :=
  List.head?_eq_some_iff.1 (head?_replaceNames (c :: cs))

theorem replaceNames_cons {c : Char} (other : c ≠ '&') (cs : List Char) :
    replaceNames 0 (c :: cs) = c :: replaceNames 0 cs := by
  rw [replaceNames, if_neg other]

theorem not_mem_namedReference? {a : Char} (digit : a.isDigit = false) (amp : a ≠ '&') (hash : a ≠ '#')
    {cs written : List Char} (h : namedReference? cs = some written) : a ∉ written := by
  unfold namedReference? at h
  split at h
  · obtain ⟨n, -, rfl⟩ := Option.map_eq_some_iff.1 h
    simp only [List.mem_cons, not_or]
    refine ⟨amp, hash, fun inside => ?_⟩
    rw [Nat.isDigit_of_mem_toDigits (by decide) (by decide) inside] at digit
    cases digit
  · cases h

theorem length_takeWhile_append_le {p : Char → Bool} {a : Char} (stop : p a = false)
    (cs rest : List Char) : ((cs ++ a :: rest).takeWhile p).length ≤ cs.length := by
  rw [List.takeWhile_append, List.takeWhile_cons_of_neg (by simp [stop]), List.append_nil]
  split_ifs
  · exact Nat.le_refl _
  · exact (List.takeWhile_prefix p).length_le

/-! ## Closing marks -/

section UpTo

variable {a b : Char}

/-- A closing mark is not found before its first character occurs. -/
theorem upTo?_append {w cs : List Char} (absent : a ∉ w) {p : List Char × List Char}
    (h : upTo? a b (w ++ cs) = some p) : ∃ q, upTo? a b cs = some q ∧ p.2 = q.2 := by
  induction w generalizing p with
  | nil => exact ⟨p, h, rfl⟩
  | cons c w ih =>
    rw [List.mem_cons, not_or] at absent
    rw [List.cons_append, upTo?, if_neg (by simp [Ne.symm absent.1])] at h
    split_ifs at h
    obtain ⟨q, later, rfl⟩ := Option.map_eq_some_iff.1 h
    exact ih (p := q) absent.2 later

theorem upTo?_of_front {w cs : List Char} (plain : ∀ c ∈ w, c ≠ a ∧ isLegal c = true)
    {p : List Char × List Char} (h : upTo? a b cs = some p) :
    upTo? a b (w ++ cs) = some (w ++ p.1, p.2) := by
  induction w with
  | nil => exact h
  | cons c w ih =>
    obtain ⟨⟨other, legal⟩, more⟩ := List.forall_mem_cons.1 plain
    rw [List.cons_append, upTo?, if_neg (by simp [other]), if_pos legal, ih more]
    rfl

/-- A character in front of the first closing mark does not start one. -/
theorem not_closing_cons {c : Char} {text : List Char} (absent : ¬ [a, b] <:+: c :: text ++ [a])
    (rest : List Char) : ¬ (c = a ∧ (text ++ a :: rest).head? = some b) := by
  rintro ⟨rfl, next⟩
  refine absent (List.IsPrefix.isInfix ?_)
  cases text with
  | nil =>
    obtain rfl : c = b := by simpa using next
    exact List.prefix_rfl
  | cons d text =>
    obtain rfl : d = b := by simpa using next
    exact ⟨text ++ [c], rfl⟩

/-- A closing mark is found where it was before names were replaced, unless a character in front of it is
not legal. `skip` characters of a name that was replaced are left out at the front. -/
theorem upTo?_replaced (name : isCharacterName a = false) (digit : a.isDigit = false)
    (marks : a ≠ '&' ∧ a ≠ '#' ∧ b ≠ '&') {text : List Char} (absent : ¬ [a, b] <:+: text ++ [a])
    (rest : List Char) {skip : Nat} (short : skip ≤ text.length) {p : List Char × List Char}
    (h : upTo? a b (replaceNames skip (text ++ a :: b :: rest)) = some p) :
    p.2 = replaceNames 0 rest := by
  induction text generalizing skip p with
  | nil =>
    obtain rfl := Nat.le_zero.1 short
    rw [List.nil_append, replaceNames_cons marks.1, replaceNames_cons marks.2.2, upTo?,
      if_pos (by simp)] at h
    cases h
    rfl
  | cons c text ih =>
    have later : ¬ [a, b] <:+: text ++ [a] := fun inside => absent (List.infix_cons inside)
    cases skip with
    | succ skip => exact ih later (Nat.le_of_succ_le_succ short) h
    | zero =>
      rw [List.cons_append, replaceNames] at h
      have plain (h : upTo? a b (c :: replaceNames 0 (text ++ a :: b :: rest)) = some p) :
          p.2 = replaceNames 0 rest := by
        rw [upTo?, head?_replaceNames] at h
        split_ifs at h with closing legal
        · exact absurd (by simpa using closing) (not_closing_cons absent (b :: rest))
        · obtain ⟨q, found, rfl⟩ := Option.map_eq_some_iff.1 h
          exact ih (p := q) later (Nat.zero_le _) found
      split_ifs at h with amp
      · cases word : namedReference? (text ++ a :: b :: rest) with
        | none =>
          rw [word] at h
          exact plain h
        | some written =>
          -- The code point in place of the name has no part of the mark, and the name that is left out
          -- ends before the mark does.
          rw [word] at h
          obtain ⟨q, found, same⟩ := upTo?_append
            (not_mem_namedReference? digit marks.1 marks.2.1 word) h
          rw [same]
          exact ih later (length_takeWhile_append_le name text _) found
      · exact plain h

end UpTo

variable {text rest r : List Char}

theorem afterComment?_replaced (closed : ¬ ['-', '-'] <:+: text ++ ['-'])
    (h : afterComment? (replaceNames 0 (text ++ '-' :: '-' :: '>' :: rest)) = some r) :
    r = replaceNames 0 rest := by
  unfold afterComment? at h
  split at h
  · rename_i found
    cases h
    have ends := upTo?_replaced (by decide) (by decide) (by decide) closed _ (Nat.zero_le _) found
    rw [replaceNames_cons (by decide)] at ends
    exact (List.cons.inj ends).2
  · cases h

theorem isLegal_of_isNameChar {c : Char} (h : isNameChar c = true) : isLegal c = true := by
  have ranges : ∀ r ∈ nameStartRanges ++ nameExtraRanges, 0x20 ≤ r.1 ∧ r.2 < 0xFFFE := by decide +kernel
  obtain ⟨r, listed, inside⟩ :
      ∃ r ∈ nameStartRanges ++ nameExtraRanges, (r.1 ≤ c.toNat && c.toNat ≤ r.2) = true := by
    unfold isNameChar isNameStart at h
    rwa [← List.any_append, List.any_eq_true] at h
  obtain ⟨low, high⟩ := ranges r listed
  obtain ⟨above, below⟩ : r.1 ≤ c.toNat ∧ c.toNat ≤ r.2 := by simpa using inside
  have plain : 0x20 ≤ c.toNat ∧ c.toNat ≠ 0xFFFE ∧ c.toNat ≠ 0xFFFF := by omega
  simp [isLegal, plain]

theorem legal_of_isSpace {c : Char} (h : isSpace c = true) : c ≠ '?' ∧ isLegal c = true := by
  simp only [isSpace, Bool.or_eq_true, beq_iff_eq] at h
  rcases h with ((rfl | rfl) | rfl) | rfl <;> decide

theorem plainName?_split {cs name : List Char} (h : plainName? cs = some (name, r)) :
    cs = name ++ r ∧ ∀ c ∈ name, isNameChar c = true := by
  cases cs with
  | nil => cases h
  | cons c cs =>
    rw [plainName?] at h
    split_ifs at h with start
    cases h
    refine ⟨by simp, List.forall_mem_cons.2 ⟨?_, fun d inside => List.mem_takeWhile_imp inside⟩⟩
    rw [isNameChar, start]
    rfl

theorem upTo?_of_instruction? {cs target : List Char} (h : instruction? cs = some (target, r)) :
    ∃ inside, upTo? '?' '>' cs = some (inside, r) := by
  unfold instruction? at h
  cases named : plainName? cs with
  | none =>
    rw [named] at h
    cases h
  | some p =>
    obtain ⟨name, rest⟩ := p
    rw [named] at h
    obtain ⟨rfl, chars⟩ := plainName?_split named
    have plain : ∀ c ∈ name, c ≠ '?' ∧ isLegal c = true := fun c inside =>
      ⟨fun same => absurd (same ▸ chars c inside) (by decide), isLegal_of_isNameChar (chars c inside)⟩
    dsimp only at h
    split at h
    · cases h
      exact ⟨_, upTo?_of_front plain (p := ([], _)) rfl⟩
    · rename_i c body _
      split_ifs at h with space
      obtain ⟨q, found, same⟩ := Option.map_eq_some_iff.1 h
      cases same
      have front : upTo? '?' '>' ([c] ++ body) = some ([c] ++ q.1, q.2) :=
        upTo?_of_front (List.forall_mem_singleton.2 (legal_of_isSpace space)) found
      exact ⟨_, upTo?_of_front (p := (c :: q.1, q.2)) plain front⟩
    · cases h

theorem afterInstruction?_replaced (closed : ¬ ['?', '>'] <:+: text ++ ['?'])
    (h : afterInstruction? (replaceNames 0 (text ++ '?' :: '>' :: rest)) = some r) :
    r = replaceNames 0 rest := by
  unfold afterInstruction? at h
  split at h
  · rename_i given
    split_ifs at h
    cases h
    obtain ⟨inside, found⟩ := upTo?_of_instruction? given
    exact upTo?_replaced (by decide) (by decide) (by decide) closed _ (Nat.zero_le _) found
  · cases h

/-! ## Where no element can come -/

/-- Characters that cannot go on with an element: in front of any element or document type stands a
character that opens neither, or another declaration. -/
inductive Unrooted : List Char → Prop
  | blank {c : Char} {cs : List Char} (space : isSpace c = true) (later : Unrooted cs) : Unrooted (c :: cs)
  | comment {text cs : List Char} (closed : ¬ ['-', '-'] <:+: text ++ ['-']) (later : Unrooted cs) :
      Unrooted ('<' :: '!' :: '-' :: '-' :: (text ++ '-' :: '-' :: '>' :: cs))
  | instruction {text cs : List Char} (closed : ¬ ['?', '>'] <:+: text ++ ['?']) (later : Unrooted cs) :
      Unrooted ('<' :: '?' :: (text ++ '?' :: '>' :: cs))
  | mark {c : Char} (cs : List Char) (other : c ∉ ['<', '\uFEFF']) (solid : isSpace c = false) :
      Unrooted (c :: cs)
  | declaration {c : Char} (cs : List Char) (other : c ∉ ['-', 'D']) : Unrooted ('<' :: '!' :: c :: cs)

/-- Neither an element nor a document type stands at the front. -/
def Stuck (cs : List Char) : Prop :=
  after? "<" cs = none ∨ ∃ inside, after? "<!" cs = some inside ∧ Doctype.keyword? "DOCTYPE" inside = none

theorem skipSpace_cons {c : Char} (solid : isSpace c = false) (cs : List Char) :
    skipSpace (c :: cs) = c :: cs :=
  List.dropWhile_cons_of_neg (by simp [solid])

/-- Where a character stands that opens nothing, no element follows. -/
theorem stuck_of_mark {c : Char} (angle : c ≠ '<') (solid : isSpace c = false) {cs : List Char}
    {fuel : Nat} (found : afterMisc? fuel (c :: cs) = some r) : Stuck r := by
  cases fuel with
  | zero => cases found
  | succ fuel =>
    rw [afterMisc?, skipSpace_cons solid] at found
    split at found
    · rename_i same
      exact absurd (List.cons.inj same).1 angle
    · rename_i same
      exact absurd (List.cons.inj same).1 angle
    · cases found
      refine .inl (after?_eq_none fun front => angle ?_)
      exact (List.cons_prefix_cons.1 front).1.symm

/-- Where a declaration opens that is neither a comment nor a document type, no element follows. -/
theorem stuck_of_declaration {c : Char} (dash : c ≠ '-') (letter : c ≠ 'D') {cs : List Char}
    {fuel : Nat} (found : afterMisc? fuel ('<' :: '!' :: c :: cs) = some r) : Stuck r := by
  cases fuel with
  | zero => cases found
  | succ fuel =>
    rw [afterMisc?, skipSpace_cons (by decide)] at found
    split at found
    · rename_i same
      exact absurd (List.cons.inj (List.cons.inj (List.cons.inj same).2).2).1 dash
    · rename_i same
      exact absurd (List.cons.inj (List.cons.inj same).2).1 (by decide)
    · cases found
      refine .inr ⟨c :: cs, rfl, ?_⟩
      have unlike : ¬ "DOCTYPE".toList <+: c :: cs := fun front =>
        letter (List.cons_prefix_cons.1 front).1.symm
      unfold Doctype.keyword?
      rw [after?_eq_none unlike]

theorem Unrooted.stuck {cs : List Char} (h : Unrooted cs) {fuel : Nat}
    (found : afterMisc? fuel (replaceNames 0 cs) = some r) : Stuck r := by
  induction h generalizing fuel with
  | blank space later ih =>
    rename_i c cs
    have other : c ≠ '&' := fun same => absurd (same ▸ space) (by decide)
    rw [replaceNames_cons other] at found
    cases fuel with
    | zero => cases found
    | succ fuel =>
      have skipped : skipSpace (c :: replaceNames 0 cs) = skipSpace (replaceNames 0 cs) :=
        List.dropWhile_cons_of_pos space
      rw [afterMisc?, skipped] at found
      exact ih (show afterMisc? fuel.succ _ = _ from found)
  | comment closed later ih =>
    rename_i text cs
    cases fuel with
    | zero => cases found
    | succ fuel =>
      obtain ⟨rest, ended, found⟩ := Option.bind_eq_some_iff.1 found
      rw [afterComment?_replaced closed ended] at found
      exact ih found
  | instruction closed later ih =>
    cases fuel with
    | zero => cases found
    | succ fuel =>
      obtain ⟨rest, ended, found⟩ := Option.bind_eq_some_iff.1 found
      rw [afterInstruction?_replaced closed ended] at found
      exact ih found
  | mark cs other solid =>
    rename_i c
    obtain ⟨angle, -⟩ : c ≠ '<' ∧ c ≠ '\uFEFF' := by simpa using other
    obtain ⟨more, same⟩ := exists_replaceNames_cons c cs
    rw [same] at found
    exact stuck_of_mark angle solid found
  | declaration cs other =>
    rename_i c
    obtain ⟨dash, letter⟩ : c ≠ '-' ∧ c ≠ 'D' := by simpa using other
    obtain ⟨more, same⟩ := exists_replaceNames_cons c cs
    rw [replaceNames_cons (by decide), replaceNames_cons (by decide), same] at found
    exact stuck_of_declaration dash letter found

theorem eq_of_after? {word : String} {cs : List Char} (h : after? word cs = some r) :
    cs = word.toList ++ r := by
  unfold after? at h
  split_ifs at h with front
  cases h
  obtain ⟨later, rfl⟩ := List.isPrefixOf_iff_prefix.1 front
  rw [← String.length_toList, List.drop_left]

/-- Of what no element goes on with, only an instruction opens as the declaration of a page does. -/
theorem Unrooted.instruction_of_opens {cs body : List Char} (h : Unrooted cs)
    (opens : replaceNames 0 cs = '<' :: '?' :: body) :
    ∃ text later, ¬ ['?', '>'] <:+: text ++ ['?'] ∧ Unrooted later ∧
      body = replaceNames 0 (text ++ '?' :: '>' :: later) := by
  cases h with
  | blank space later =>
    rename_i c cs
    have other : c ≠ '&' := fun same => absurd (same ▸ space) (by decide)
    rw [replaceNames_cons other] at opens
    rw [(List.cons.inj opens).1] at space
    cases space
  | comment closed later =>
    cases (List.cons.inj (List.cons.inj opens).2).1
  | instruction closed later =>
    exact ⟨_, _, closed, later, (List.cons.inj (List.cons.inj opens).2).2.symm⟩
  | mark cs other solid =>
    rename_i c
    obtain ⟨angle, -⟩ : c ≠ '<' ∧ c ≠ '\uFEFF' := by simpa using other
    obtain ⟨more, same⟩ := exists_replaceNames_cons c cs
    rw [same] at opens
    exact absurd (List.cons.inj opens).1 angle
  | declaration cs other =>
    cases (List.cons.inj (List.cons.inj opens).2).1

/-- The declaration that opens a page is an instruction like another to what follows it. -/
theorem Unrooted.declared {cs : List Char} (h : Unrooted cs) {d : Declarations}
    (found : declaration? (replaceNames 0 cs) = some (d, r)) :
    ∃ later, Unrooted later ∧ r = replaceNames 0 later := by
  unfold declaration? at found
  split at found
  · rename_i c body opens
    split_ifs at found with longer
    · cases found
      exact ⟨cs, h, rfl⟩
    · obtain ⟨text, later, closed, unrooted, same⟩ := h.instruction_of_opens (eq_of_after? opens)
      refine ⟨later, unrooted, ?_⟩
      cases ended : upTo? '?' '>' (c :: body) with
      | none =>
        rw [ended] at found
        cases found
      | some p =>
        rw [ended] at found
        have plain : ∀ d ∈ ['x', 'm', 'l'], d ≠ '?' ∧ isLegal d = true := by
          simp only [List.forall_mem_cons, List.not_mem_nil, false_imp_iff, implies_true, and_true]
          decide
        have front : upTo? '?' '>' (['x', 'm', 'l'] ++ c :: body) = some (['x', 'm', 'l'] ++ p.1, p.2) :=
          upTo?_of_front plain ended
        have rest : p.2 = replaceNames 0 later := by
          refine upTo?_replaced (by decide) (by decide) (by decide) closed _ (Nat.zero_le _)
            (p := (['x', 'm', 'l'] ++ p.1, p.2)) ?_
          rw [← same]
          exact front
        rw [← rest]
        obtain ⟨settings, -, found⟩ := Option.bind_eq_some_iff.1 found
        obtain ⟨standalone, -, found⟩ := Option.bind_eq_some_iff.1 found
        cases found
        rfl
  · cases found
  · cases found
    exact ⟨cs, h, rfl⟩

theorem Unrooted.unmarked {cs : List Char} (h : Unrooted cs) (rest : List Char) :
    replaceNames 0 cs ≠ '\uFEFF' :: rest := by
  intro same
  have first : cs.head? = some '\uFEFF' := by rw [← head?_replaceNames, same]; rfl
  cases h with
  | blank space later =>
    rw [Option.some.inj first] at space
    cases space
  | comment closed later => cases first
  | instruction closed later => cases first
  | mark cs other solid =>
    rw [Option.some.inj first] at other
    exact other (by decide)
  | declaration cs other => cases first

theorem after?_of_longer {cs : List Char} (h : after? "<" cs = none) : after? "<!" cs = none := by
  refine after?_eq_none fun front => ?_
  have shorter : "<".toList <+: cs := List.IsPrefix.trans ⟨['!'], rfl⟩ front
  unfold after? at h
  rw [if_pos (List.isPrefixOf_iff_prefix.2 shorter)] at h
  cases h

theorem Unrooted.prolog {cs : List Char} (h : Unrooted cs) :
    prolog (replaceNames 0 cs) = .error .malformed ∨
      ∃ d rest, prolog (replaceNames 0 cs) = .ok (d, rest) ∧ after? "<" rest = none := by
  unfold Page.prolog
  cases opens : declaration? (replaceNames 0 cs) with
  | none => exact .inl rfl
  | some p =>
    obtain ⟨d, rest⟩ := p
    obtain ⟨later, unrooted, same⟩ := h.declared opens
    cases around : afterMisc? rest.length.succ rest with
    | none =>
      left
      simp only [Doctype.need, bind, Except.bind, around]
    | some body =>
      simp only [Doctype.need, bind, Except.bind, around]
      rcases unrooted.stuck (same ▸ around) with unopened | ⟨inside, typed, other⟩
      · right
        rw [after?_of_longer unopened]
        exact ⟨d, body, rfl, unopened⟩
      · left
        rw [typed]
        simp only [other]

/-- Where no element can come, no page is read. -/
theorem forest_of_unrooted {cs : List Char} (h : Unrooted cs) :
    forest (replaceNames 0 cs) = .error .malformed := by
  unfold forest
  dsimp only
  split
  · rename_i same
    exact absurd same (h.unmarked _)
  rcases h.prolog with failed | ⟨d, rest, passed, unopened⟩
  · rw [failed]
    rfl
  · rw [passed]
    simp only [bind, Except.bind, unopened, Doctype.need]

end Page

end FormGate.Markup
