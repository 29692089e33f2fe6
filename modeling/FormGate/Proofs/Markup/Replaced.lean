import FormGate.Proofs.Markup.Misc

/-!
# Reading markup in which names were replaced

The search for named characters goes over a page before anything is known of its tags. Whatever is read
of the page is read of the result of the search too, and what follows it there is the result of the search
in what followed it. Only the text of a marked section may be another one.
-/

namespace FormGate.Markup

open Page

/-! ## Characters and names -/

section Front

variable {cs word : List Char}

theorem replaceNames_append (plain : '&' ∉ word) (rest : List Char) :
    replaceNames 0 (word ++ rest) = word ++ replaceNames 0 rest :=
  Inert.of_not_mem plain rest

theorem prefix_replaceNames_iff (plain : '&' ∉ word) : word <+: replaceNames 0 cs ↔ word <+: cs := by
  constructor
  · intro front
    induction word generalizing cs with
    | nil => exact List.nil_prefix
    | cons c word ih =>
      rw [List.mem_cons, not_or] at plain
      cases cs with
      | nil => exact absurd front (by simp [replaceNames])
      | cons d cs =>
        obtain ⟨more, same⟩ := exists_replaceNames_cons d cs
        obtain ⟨rfl, -⟩ := List.cons_prefix_cons.1 (same ▸ front)
        rw [replaceNames_cons (Ne.symm plain.1), List.cons_prefix_cons] at front
        exact List.cons_prefix_cons.2 ⟨rfl, ih plain.2 front.2⟩
  · rintro ⟨rest, rfl⟩
    exact ⟨replaceNames 0 rest, (replaceNames_append plain rest).symm⟩

theorem after?_append (word : String) (rest : List Char) : after? word (word.toList ++ rest) = some rest := by
  rw [after?, if_pos (List.isPrefixOf_iff_prefix.2 (List.prefix_append _ _)), ← String.length_toList,
    List.drop_left]

/-- A word is not found where nothing can follow it. -/
theorem after?_eq_none_of_ne {word : String} (h : ∀ rest, cs = word.toList ++ rest → False) :
    after? word cs = none := by
  refine after?_eq_none ?_
  rintro ⟨rest, same⟩
  exact h rest same.symm

theorem after?_replaceNames {word : String} (plain : '&' ∉ word.toList) (cs : List Char) :
    after? word (replaceNames 0 cs) = (after? word cs).map (replaceNames 0) := by
  by_cases front : word.toList <+: cs
  · obtain ⟨rest, rfl⟩ := front
    rw [replaceNames_append plain, after?_append, after?_append, Option.map_some]
  · rw [after?_eq_none front, after?_eq_none fun front' => front ((prefix_replaceNames_iff plain).1 front'),
      Option.map_none]

variable {p : Char → Bool} (stop : p '&' = false)
include stop

theorem takeWhile_replaceNames (cs : List Char) : (replaceNames 0 cs).takeWhile p = cs.takeWhile p := by
  induction cs with
  | nil => rfl
  | cons c cs ih =>
    by_cases goes : p c = true
    · have other : c ≠ '&' := fun same => by rw [same, stop] at goes; cases goes
      rw [replaceNames_cons other, List.takeWhile_cons_of_pos goes, List.takeWhile_cons_of_pos goes, ih]
    · obtain ⟨more, same⟩ := exists_replaceNames_cons c cs
      rw [same, List.takeWhile_cons_of_neg goes, List.takeWhile_cons_of_neg goes]

theorem dropWhile_replaceNames (cs : List Char) :
    (replaceNames 0 cs).dropWhile p = replaceNames 0 (cs.dropWhile p) := by
  induction cs with
  | nil => rfl
  | cons c cs ih =>
    by_cases goes : p c = true
    · have other : c ≠ '&' := fun same => by rw [same, stop] at goes; cases goes
      rw [replaceNames_cons other, List.dropWhile_cons_of_pos goes, List.dropWhile_cons_of_pos goes, ih]
    · obtain ⟨more, same⟩ := exists_replaceNames_cons c cs
      rw [List.dropWhile_cons_of_neg goes, same, List.dropWhile_cons_of_neg goes]

end Front

theorem skipSpace_replaceNames (cs : List Char) :
    skipSpace (replaceNames 0 cs) = replaceNames 0 (skipSpace cs) :=
  dropWhile_replaceNames (by decide) cs

theorem plainName?_replaceNames (cs : List Char) :
    plainName? (replaceNames 0 cs) = (plainName? cs).map (Prod.map id (replaceNames 0)) := by
  cases cs with
  | nil => rfl
  | cons c cs =>
    by_cases start : isNameStart c = true
    · have other : c ≠ '&' := fun same => absurd (same ▸ start) (by decide)
      have inside : isNameChar '&' = false := by decide
      rw [replaceNames_cons other, plainName?, plainName?, if_pos start, if_pos start,
        takeWhile_replaceNames inside, dropWhile_replaceNames inside]
      rfl
    · obtain ⟨more, same⟩ := exists_replaceNames_cons c cs
      rw [same, plainName?, plainName?, if_neg start, if_neg start, Option.map_none]

theorem qualifiedName?_eq (cs : List Char) :
    qualifiedName? cs = (plainName? cs).bind fun p =>
      if p.2.head? = some ':' then
        (plainName? (p.2.drop 1)).bind fun q =>
          if q.2.head? = some ':' then none else some (p.1 ++ ':' :: q.1, q.2)
      else some p := by
  unfold qualifiedName?
  cases plainName? cs with
  | none => rfl
  | some p =>
    obtain ⟨front, rest⟩ := p
    rw [Option.bind_some]
    dsimp only
    split
    · rename_i colon
      cases colon
      rw [List.head?_cons, if_pos rfl, List.drop_one, List.tail_cons]
      split
      · rename_i same
        rw [same]
        rfl
      · rename_i other same
        rw [same, Option.bind_some, if_neg]
        intro again
        obtain ⟨after, rfl⟩ := List.head?_eq_some_iff.1 again
        exact other _ rfl
      · rename_i same
        rw [same]
        rfl
    · rename_i other
      rw [if_neg]
      intro colon
      obtain ⟨rest, rfl⟩ := List.head?_eq_some_iff.1 colon
      exact other _ _ rfl

theorem qualifiedName?_replaceNames (cs : List Char) :
    qualifiedName? (replaceNames 0 cs) = (qualifiedName? cs).map (Prod.map id (replaceNames 0)) := by
  rw [qualifiedName?_eq, qualifiedName?_eq, plainName?_replaceNames]
  cases plainName? cs with
  | none => rfl
  | some p =>
    obtain ⟨front, rest⟩ := p
    simp only [Option.map_some, Option.bind_some, Prod.map, id_eq, head?_replaceNames]
    split_ifs with colon
    · obtain ⟨rest, rfl⟩ := List.head?_eq_some_iff.1 colon
      rw [replaceNames_cons (by decide), List.drop_one, List.tail_cons, List.drop_one, List.tail_cons,
        plainName?_replaceNames]
      cases plainName? rest with
      | none => rfl
      | some q =>
        simp only [Option.map_some, Option.bind_some, Prod.map, id_eq, head?_replaceNames]
        split_ifs <;> rfl
    · rfl

/-! ## Closing marks -/

/-- The characters in front of the first closing mark, which have to be legal, and what follows it. -/
def cutAt? (mark : List Char) : List Char → Option (List Char × List Char)
  | [] => none
  | c :: rest =>
    if mark <+: c :: rest then some ([], (c :: rest).drop mark.length)
    else if isLegal c then (cutAt? mark rest).map fun p => (c :: p.1, p.2)
    else none

theorem upTo?_eq_cutAt? (a b : Char) (cs : List Char) : upTo? a b cs = cutAt? [a, b] cs := by
  induction cs with
  | nil => rfl
  | cons c rest ih =>
    have mark : (c = a && rest.head? == some b) = true ↔ [a, b] <+: c :: rest := by
      rw [Bool.and_eq_true, decide_eq_true_eq, beq_iff_eq, List.cons_prefix_cons, eq_comm (a := a),
        List.head?_eq_some_iff]
      exact and_congr_right fun _ => ⟨fun ⟨more, same⟩ => ⟨more, same.symm⟩, fun ⟨more, same⟩ => ⟨more, same.symm⟩⟩
    rw [upTo?, cutAt?, ih]
    by_cases closing : [a, b] <+: c :: rest
    · rw [if_pos (mark.2 closing), if_pos closing]
      rfl
    · rw [if_neg (mt mark.1 closing), if_neg closing]

theorem section?_eq_cutAt? (cs : List Char) : Token.section? cs = cutAt? [']', ']', '>'] cs := by
  induction cs using Token.section?.induct with
  | case1 rest =>
    rw [Token.section?, cutAt?, if_pos ⟨rest, rfl⟩]
    rfl
  | case2 c rest other legal ih =>
    have open' : ¬ [']', ']', '>'] <+: c :: rest := by
      rintro ⟨after, same⟩
      cases same
      exact other after rfl rfl
    rw [Token.section?, cutAt?, if_neg open', ih]
    exact other
  | case3 c rest other illegal =>
    have open' : ¬ [']', ']', '>'] <+: c :: rest := by
      rintro ⟨after, same⟩
      cases same
      exact other after rfl rfl
    rw [Token.section?, cutAt?, if_neg open', if_neg illegal, if_neg illegal]
    exact other
  | case4 => rfl

/-- Legal characters that are not the first one of the mark are passed over. -/
theorem cutAt?_append {m : Char} {mark w cs : List Char} (plain : ∀ c ∈ w, isLegal c = true ∧ c ≠ m) :
    cutAt? (m :: mark) (w ++ cs) = (cutAt? (m :: mark) cs).map fun p => (w ++ p.1, p.2) := by
  induction w with
  | nil => simp
  | cons c w ih =>
    obtain ⟨⟨legal, other⟩, more⟩ := List.forall_mem_cons.1 plain
    have open' : ¬ m :: mark <+: c :: (w ++ cs) := fun front =>
      other (List.cons_prefix_cons.1 front).1.symm
    rw [List.cons_append, cutAt?, if_neg open', if_pos legal, ih more, Option.map_map]
    rfl

theorem cutAt?_mark (m : Char) (mark rest : List Char) :
    cutAt? (m :: mark) (m :: mark ++ rest) = some ([], rest) := by
  rw [List.cons_append, cutAt?, if_pos ⟨rest, rfl⟩, ← List.cons_append, List.drop_left]

theorem cutAt?_split {mark cs text rest : List Char} (h : cutAt? mark cs = some (text, rest)) :
    cs = text ++ mark ++ rest := by
  induction cs generalizing text with
  | nil => cases h
  | cons c cs ih =>
    rw [cutAt?] at h
    split_ifs at h with closing legal
    · cases h
      obtain ⟨after, same⟩ := closing
      rw [← same, List.drop_left, List.nil_append]
    · obtain ⟨p, found, same⟩ := Option.map_eq_some_iff.1 h
      cases same
      rw [ih found, List.cons_append, List.cons_append]

theorem takeWhile_stop {p : Char → Bool} {m : Char} (stop : p m = false) (text rest : List Char) :
    (text ++ m :: rest).takeWhile p = text.takeWhile p := by
  rw [List.takeWhile_append, List.takeWhile_cons_of_neg (by simp [stop]), List.append_nil]
  split_ifs with whole
  · exact ((List.takeWhile_prefix _).eq_of_length whole).symm
  · rfl

theorem namedReference?_eq (cs : List Char) :
    namedReference? cs = if (cs.dropWhile isCharacterName).head? = some ';' then
      (namedCharacters.lookup (.ofList (cs.takeWhile isCharacterName))).map fun n =>
        '&' :: '#' :: Nat.toDigits 10 n
    else none := by
  unfold namedReference?
  split
  · rename_i same
    rw [same, List.head?_cons, if_pos rfl]
  · rename_i other
    rw [if_neg fun semicolon => ?_]
    obtain ⟨rest, same⟩ := List.head?_eq_some_iff.1 semicolon
    exact other rest same

/-- No name goes on behind a character that ends names. -/
theorem namedReference?_append {m : Char} (ends : isCharacterName m = false) (other : m ≠ ';')
    (text rest : List Char) : namedReference? (text ++ m :: rest) = namedReference? text := by
  have dropped : ((text ++ m :: rest).dropWhile isCharacterName).head? = some ';' ↔
      (text.dropWhile isCharacterName).head? = some ';' := by
    rw [List.dropWhile_append, List.dropWhile_cons_of_neg (by simp [ends])]
    cases text.dropWhile isCharacterName with
    | nil => exact iff_of_false (fun same => other (Option.some.inj same)) (by simp)
    | cons c cs => rfl
  simp only [namedReference?_eq, takeWhile_stop ends, dropped]

/-- A mark with no part of a reference in it. -/
def Seals (mark : List Char) : Prop :=
  ∀ c ∈ mark, isCharacterName c = false ∧ c ∉ ['&', '#', ';']

theorem Seals.of_all {mark : List Char}
    (h : (mark.all fun c => !isCharacterName c && !(['&', '#', ';'].contains c)) = true) : Seals mark :=
  fun c inside => by simpa using List.all_eq_true.1 h c inside

theorem isLegal_of_isDigit {c : Char} (digit : c.isDigit = true) : isLegal c = true := by
  have low : 0x30 ≤ c.toNat := UInt32.le_iff_toNat_le.1 (of_decide_eq_true (Bool.and_eq_true_iff.1 digit).1)
  have high : c.toNat ≤ 0x39 := UInt32.le_iff_toNat_le.1 (of_decide_eq_true (Bool.and_eq_true_iff.1 digit).2)
  have plain : 0x20 ≤ c.toNat ∧ c.toNat ≠ 0xFFFE ∧ c.toNat ≠ 0xFFFF := by omega
  simp [isLegal, plain]

theorem isDigit_of_ends {c : Char} (ends : isCharacterName c = false) : c.isDigit = false := by
  unfold isCharacterName at ends
  exact (Bool.or_eq_false_iff.1 ends).2

theorem legal_of_namedReference? {cs written : List Char} (h : namedReference? cs = some written) :
    ∀ c ∈ written, isLegal c = true := by
  rw [namedReference?_eq] at h
  split_ifs at h
  obtain ⟨n, -, rfl⟩ := Option.map_eq_some_iff.1 h
  refine List.forall_mem_cons.2 ⟨by decide, List.forall_mem_cons.2 ⟨by decide, fun c inside => ?_⟩⟩
  exact isLegal_of_isDigit (Nat.isDigit_of_mem_toDigits (by decide) (by decide) inside)

/-- No closing mark starts in the number that stands for a name. -/
theorem cutAt?_written {m : Char} {mark name code : List Char} (seals : Seals (m :: mark))
    (written : namedReference? name = some code) (cs : List Char) :
    cutAt? (m :: mark) (code ++ cs) = (cutAt? (m :: mark) cs).map fun p => (code ++ p.1, p.2) := by
  obtain ⟨ends, other⟩ := seals m List.mem_cons_self
  refine cutAt?_append fun d inside => ⟨legal_of_namedReference? written d inside, ?_⟩
  rintro rfl
  exact not_mem_namedReference? (isDigit_of_ends ends) (fun same => other (by simp [same]))
    (fun same => other (by simp [same])) written inside

/-- A closing mark is found where it was, and the text in front of it is what was made of that text.
`skip` characters of a name that was replaced are left out at the front. -/
theorem cutAt?_replaceNames {m : Char} {mark cs text rest : List Char} (seals : Seals (m :: mark))
    (h : cutAt? (m :: mark) cs = some (text, rest)) {skip : Nat} (short : skip ≤ text.length) :
    cutAt? (m :: mark) (replaceNames skip cs) = some (replaceNames skip text, replaceNames 0 rest) := by
  have plain : '&' ∉ m :: mark := fun amp => (seals _ amp).2 (by decide)
  obtain ⟨ends, other⟩ := seals m List.mem_cons_self
  induction cs generalizing text skip with
  | nil => cases h
  | cons c cs ih =>
    rw [cutAt?] at h
    split_ifs at h with closing legal
    · cases h
      obtain rfl := Nat.le_zero.1 short
      obtain ⟨after, same⟩ := closing
      rw [← same, List.drop_left, replaceNames_append plain, cutAt?_mark]
      rfl
    · obtain ⟨⟨text, rest⟩, found, same⟩ := Option.map_eq_some_iff.1 h
      cases same
      cases skip with
      | succ skip => exact ih found (Nat.le_of_succ_le_succ short)
      | zero =>
        have split : cs = text ++ m :: (mark ++ rest) := by
          rw [cutAt?_split found, List.append_assoc, List.cons_append]
        have word : namedReference? cs = namedReference? text := by
          rw [split]
          exact namedReference?_append ends (fun same => other (by simp [same])) _ _
        have kept (whole : replaceNames 0 (c :: cs) = c :: replaceNames 0 cs)
            (front : replaceNames 0 (c :: text) = c :: replaceNames 0 text) :
            cutAt? (m :: mark) (replaceNames 0 (c :: cs)) =
              some (replaceNames 0 (c :: text), replaceNames 0 rest) := by
          have open' : ¬ m :: mark <+: c :: replaceNames 0 cs := fun inside =>
            closing ((prefix_replaceNames_iff plain).1 (whole ▸ inside))
          rw [whole, front, cutAt?, if_neg open', if_pos legal, ih found (Nat.zero_le _)]
          rfl
        by_cases amp : c = '&'
        · cases written : namedReference? text with
          | none =>
            refine kept ?_ ?_
            · rw [replaceNames, if_pos amp, word, written]
            · rw [replaceNames, if_pos amp, written]
          | some code =>
            -- the name that is left out ends in front of the mark
            have taken : cs.takeWhile isCharacterName = text.takeWhile isCharacterName := by
              rw [split, takeWhile_stop ends]
            have later := ih found (List.takeWhile_prefix isCharacterName).length_le
            rw [replaceNames, if_pos amp, word, written, replaceNames, if_pos amp, written, taken]
            dsimp only
            rw [cutAt?_written seals written, later]
            rfl
        · exact kept (replaceNames_cons amp cs) (replaceNames_cons amp text)

/-! ## Comments, instructions and marked sections -/

section Forward

variable {cs text rest : List Char}

theorem upTo?_replaceNames {a b : Char} (seals : Seals [a, b]) (h : upTo? a b cs = some (text, rest)) :
    upTo? a b (replaceNames 0 cs) = some (replaceNames 0 text, replaceNames 0 rest) := by
  rw [upTo?_eq_cutAt?] at h ⊢
  exact cutAt?_replaceNames seals h (Nat.zero_le _)

theorem section?_replaceNames (h : Token.section? cs = some (text, rest)) :
    Token.section? (replaceNames 0 cs) = some (replaceNames 0 text, replaceNames 0 rest) := by
  rw [section?_eq_cutAt?] at h ⊢
  exact cutAt?_replaceNames (.of_all rfl) h (Nat.zero_le _)

theorem afterComment?_replaceNames (h : afterComment? cs = some rest) :
    afterComment? (replaceNames 0 cs) = some (replaceNames 0 rest) := by
  unfold afterComment? at h
  split at h
  · rename_i found
    cases h
    unfold afterComment?
    rw [upTo?_replaceNames (.of_all rfl) found, replaceNames_cons (by decide)]
    rfl
  · cases h

theorem instruction?_replaceNames {target : List Char} (h : instruction? cs = some (target, rest)) :
    instruction? (replaceNames 0 cs) = some (target, replaceNames 0 rest) := by
  unfold instruction? at h ⊢
  rw [plainName?_replaceNames]
  cases named : plainName? cs with
  | none =>
    rw [named] at h
    cases h
  | some p =>
    rw [named] at h
    obtain ⟨name, body⟩ := p
    rw [Option.map_some]
    dsimp only [Prod.map, id] at h ⊢
    split at h
    · cases h
      rw [replaceNames_cons (by decide), replaceNames_cons (by decide)]
      rfl
    · rename_i c body other
      split_ifs at h with space
      obtain ⟨⟨text, after⟩, found, same⟩ := Option.map_eq_some_iff.1 h
      cases same
      have plain : c ≠ '&' := fun same => absurd (same ▸ space) (by decide)
      have unlike : c ≠ '?' := (legal_of_isSpace space).1
      rw [replaceNames_cons plain]
      split
      · rename_i same
        exact absurd (List.cons.inj same).1 unlike
      · rename_i same
        cases same
        rw [if_pos space, upTo?_replaceNames (.of_all rfl) found]
        rfl
      · rename_i same
        cases same
    · cases h

theorem afterInstruction?_replaceNames (h : afterInstruction? cs = some rest) :
    afterInstruction? (replaceNames 0 cs) = some (replaceNames 0 rest) := by
  unfold afterInstruction? at h
  split at h
  · rename_i given
    split_ifs at h with reserved
    cases h
    unfold afterInstruction?
    rw [instruction?_replaceNames given]
    exact if_neg reserved
  · cases h

end Forward

/-! ## References -/

theorem drop_one_replaceNames {c : Char} {cs : List Char} (first : cs.head? = some c) (plain : c ≠ '&') :
    (replaceNames 0 cs).drop 1 = replaceNames 0 (cs.drop 1) := by
  obtain ⟨cs, rfl⟩ := List.head?_eq_some_iff.1 first
  rw [replaceNames_cons plain]
  rfl

/-- The digits of a base at the front, and what follows the semicolon behind them. -/
def digits? (base : Nat) (cs : List Char) : Option (List Char × List Char) :=
  let isDigit (c : Char) : Bool := (digitIn? base c).isSome
  if cs.takeWhile isDigit ≠ [] ∧ (cs.dropWhile isDigit).head? = some ';' then
    some (cs.takeWhile isDigit, (cs.dropWhile isDigit).drop 1)
  else none

theorem digits?_replaceNames (base : Nat) (cs : List Char) :
    digits? base (replaceNames 0 cs) = (digits? base cs).map (Prod.map id (replaceNames 0)) := by
  have stop : (fun c => (digitIn? base c).isSome) '&' = false := rfl
  unfold digits?
  dsimp only
  rw [takeWhile_replaceNames stop, dropWhile_replaceNames stop, head?_replaceNames]
  split_ifs with found
  · rw [drop_one_replaceNames found.2 (by decide)]
    rfl
  · rfl

theorem charReference?_eq (cs : List Char) :
    charReference? cs =
      let base := if cs.head? = some 'x' then 16 else 10
      (digits? base (if cs.head? = some 'x' then cs.drop 1 else cs)).bind fun p =>
        (codePoint? (numberIn base p.1)).map fun c => (c, p.2) := by
  unfold charReference?
  split
  rename_i base body front
  have known : base = (if cs.head? = some 'x' then 16 else 10) ∧
      body = if cs.head? = some 'x' then cs.drop 1 else cs := by
    split at front
    · cases front
      exact ⟨rfl, rfl⟩
    · rename_i other
      have decimal : cs.head? ≠ some 'x' := fun hex => by
        obtain ⟨rest, same⟩ := List.head?_eq_some_iff.1 hex
        exact other rest same
      cases front
      rw [if_neg decimal, if_neg decimal]
      exact ⟨rfl, rfl⟩
  rw [← known.1, ← known.2]
  unfold digits?
  dsimp only
  split
  · rename_i same
    rw [if_neg fun found => found.1 same]
    rfl
  · rename_i same some'
    rw [same, if_pos ⟨some', rfl⟩]
    rfl
  · rename_i other
    rw [if_neg]
    · rfl
    · rintro ⟨-, semicolon⟩
      obtain ⟨rest, same⟩ := List.head?_eq_some_iff.1 semicolon
      exact other rest same

theorem charReference?_replaceNames (cs : List Char) :
    charReference? (replaceNames 0 cs) = (charReference? cs).map (Prod.map id (replaceNames 0)) := by
  have body : (if (replaceNames 0 cs).head? = some 'x' then (replaceNames 0 cs).drop 1
      else replaceNames 0 cs) = replaceNames 0 (if cs.head? = some 'x' then cs.drop 1 else cs) := by
    rw [head?_replaceNames]
    split_ifs with hex
    · exact drop_one_replaceNames hex (by decide)
    · rfl
  rw [charReference?_eq, charReference?_eq, body, head?_replaceNames]
  dsimp only
  rw [digits?_replaceNames]
  cases digits? (if cs.head? = some 'x' then 16 else 10) (if cs.head? = some 'x' then cs.drop 1 else cs) with
  | none => rfl
  | some p =>
    simp only [Option.map_some, Option.bind_some, Prod.map, id_eq, Option.map_map]
    rfl

theorem entityName?_eq (cs : List Char) :
    entityName? cs = (plainName? cs).bind fun p =>
      if p.2.head? = some ';' then some (p.1, p.2.drop 1) else none := by
  unfold entityName?
  split
  · rename_i same
    rw [same]
    rfl
  · rename_i other
    cases named : plainName? cs with
    | none => rfl
    | some p =>
      rw [Option.bind_some, if_neg]
      intro semicolon
      obtain ⟨rest, same⟩ := List.head?_eq_some_iff.1 semicolon
      exact other p.1 rest (named.trans (by rw [← same]))

theorem entityName?_replaceNames (cs : List Char) :
    entityName? (replaceNames 0 cs) = (entityName? cs).map (Prod.map id (replaceNames 0)) := by
  rw [entityName?_eq, entityName?_eq, plainName?_replaceNames]
  cases plainName? cs with
  | none => rfl
  | some p =>
    simp only [Option.map_some, Option.bind_some, Prod.map, id_eq, head?_replaceNames]
    split_ifs with semicolon
    · rw [drop_one_replaceNames semicolon (by decide)]
      rfl
    · rfl

theorem reference?_eq (cs : List Char) :
    reference? cs =
      if cs.head? = some '#' then (charReference? (cs.drop 1)).map fun p => (.char p.1, p.2)
      else (entityName? cs).map fun p => (((knownEntity? p.1).map .char).getD (.unknown p.1), p.2) := by
  unfold reference?
  split
  · rfl
  · rename_i other
    rw [if_neg]
    · cases entityName? cs with
      | none => rfl
      | some p =>
        dsimp only [Option.map_some]
        cases knownEntity? p.1 <;> rfl
    · intro hash
      obtain ⟨rest, same⟩ := List.head?_eq_some_iff.1 hash
      exact other rest same

theorem reference?_replaceNames (cs : List Char) :
    reference? (replaceNames 0 cs) = (reference? cs).map (Prod.map id (replaceNames 0)) := by
  rw [reference?_eq, reference?_eq, head?_replaceNames]
  split_ifs with hash
  · rw [drop_one_replaceNames hash (by decide), charReference?_replaceNames, Option.map_map, Option.map_map]
    rfl
  · rw [entityName?_replaceNames, Option.map_map, Option.map_map]
    rfl

theorem unlisted_of_knownEntity? {name : List Char} {c : Char} (known : knownEntity? name = some c) :
    name.all isCharacterName = true ∧ namedCharacters.lookup (.ofList name) = none := by
  have names : ∀ name ∈ ["amp", "lt", "gt", "quot", "apos"], name.toList.all isCharacterName = true ∧
      namedCharacters.lookup name = none := by
    decide +kernel
  have listed : .ofList name ∈ ["amp", "lt", "gt", "quot", "apos"] := by
    unfold knownEntity? at known
    split at known
    · exact .head _
    · exact .tail _ (.head _)
    · exact .tail _ (.tail _ (.head _))
    · exact .tail _ (.tail _ (.tail _ (.head _)))
    · exact .tail _ (.tail _ (.tail _ (.tail _ (.head _))))
    · cases known
  simpa using names (.ofList name) listed

theorem replaceNames_reference {cs rest : List Char} {c : Char}
    (h : reference? cs = some (.char c, rest)) :
    replaceNames 0 ('&' :: cs) = '&' :: replaceNames 0 cs := by
  rw [reference?_eq] at h
  split_ifs at h with hash
  · obtain ⟨body, rfl⟩ := List.head?_eq_some_iff.1 hash
    have unnamed : namedReference? ('#' :: body) = none := by
      rw [namedReference?_eq, List.dropWhile_cons_of_neg (by decide), if_neg (by simp)]
    rw [replaceNames, if_pos rfl, unnamed]
  · obtain ⟨⟨name, after⟩, found, same⟩ := Option.map_eq_some_iff.1 h
    rw [entityName?_eq] at found
    obtain ⟨⟨name', tail⟩, named, found⟩ := Option.bind_eq_some_iff.1 found
    split_ifs at found with semicolon
    cases found
    obtain ⟨tail, rfl⟩ := List.head?_eq_some_iff.1 semicolon
    obtain ⟨rfl, chars⟩ := plainName?_split named
    cases known : knownEntity? name' with
    | none =>
      rw [known] at same
      cases same
    | some d =>
      obtain ⟨all, unlisted⟩ := unlisted_of_knownEntity? known
      have plain : '&' ∉ name' ++ [';'] := by
        rw [List.mem_append, not_or]
        exact ⟨fun amp => absurd (chars _ amp) (by decide), by decide⟩
      rw [List.append_cons, replaceNames_append plain]
      exact Inert.reference name' all unlisted tail

end FormGate.Markup
