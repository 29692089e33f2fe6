import FormGate.Proofs.Markup.Replaced

/-!
# Tags in markup in which names were replaced

An ampersand in a tag stands in a value of an attribute, where it opens a reference that is kept. So the
tag is read as it was, and what follows it is the result of the search in what followed it
(`Token.openingTag?_replaceNames`).
-/

namespace FormGate.Markup

open Page

/-! ## Attributes -/

theorem length_skipSpace_le (cs : List Char) : (skipSpace cs).length ≤ cs.length :=
  (List.dropWhile_suffix isSpace).length_le

theorem length_plainName?_lt {cs name rest : List Char} (h : plainName? cs = some (name, rest)) :
    rest.length < cs.length := by
  cases cs with
  | nil => cases h
  | cons c cs =>
    rw [plainName?] at h
    split_ifs at h
    cases h
    exact Nat.lt_succ_of_le (List.dropWhile_suffix isNameChar).length_le

theorem length_qualifiedName?_lt {cs name rest : List Char} (h : qualifiedName? cs = some (name, rest)) :
    rest.length < cs.length := by
  rw [qualifiedName?_eq] at h
  obtain ⟨⟨front, behind⟩, first, h⟩ := Option.bind_eq_some_iff.1 h
  have shorter := length_plainName?_lt first
  dsimp only at h
  split_ifs at h with colon
  · obtain ⟨⟨back, after⟩, second, h⟩ := Option.bind_eq_some_iff.1 h
    have shorter' := length_plainName?_lt second
    rw [List.length_drop] at shorter'
    dsimp only at h
    split_ifs at h
    cases h
    omega
  · cases h
    exact shorter

theorem length_digits?_lt {base : Nat} {cs digits rest : List Char}
    (h : digits? base cs = some (digits, rest)) : rest.length < cs.length := by
  unfold digits? at h
  dsimp only at h
  split_ifs at h with found
  cases h
  obtain ⟨after, semicolon⟩ := List.head?_eq_some_iff.1 found.2
  have shorter := (List.dropWhile_suffix (l := cs) fun c => (digitIn? base c).isSome).length_le
  rw [semicolon] at shorter ⊢
  exact shorter

theorem length_reference?_lt {cs rest : List Char} {r : Referent} (h : reference? cs = some (r, rest)) :
    rest.length < cs.length := by
  rw [reference?_eq] at h
  split_ifs at h with hash
  · obtain ⟨⟨c, after⟩, found, same⟩ := Option.map_eq_some_iff.1 h
    obtain rfl : after = rest := (Prod.mk.inj same).2
    obtain ⟨body, rfl⟩ := List.head?_eq_some_iff.1 hash
    rw [charReference?_eq] at found
    obtain ⟨⟨digits, after'⟩, given, found⟩ := Option.bind_eq_some_iff.1 found
    obtain ⟨d, -, same⟩ := Option.map_eq_some_iff.1 found
    obtain rfl : after' = after := (Prod.mk.inj same).2
    have shorter := length_digits?_lt given
    simp only [List.drop_one, List.tail_cons] at shorter
    rw [List.length_cons]
    split_ifs at shorter
    · rw [List.length_tail] at shorter
      omega
    · omega
  · obtain ⟨⟨name, after⟩, found, same⟩ := Option.map_eq_some_iff.1 h
    obtain rfl : after = rest := (Prod.mk.inj same).2
    rw [entityName?_eq] at found
    obtain ⟨⟨name', tail⟩, named, found⟩ := Option.bind_eq_some_iff.1 found
    have shorter := length_plainName?_lt named
    split_ifs at found
    obtain rfl : tail.drop 1 = after := (Prod.mk.inj (Option.some.inj found)).2
    rw [List.length_drop]
    omega

/-- What a reference adds to a value if it stands for a character, and what follows it. -/
def referredPart? : Option (Referent × List Char) → Option (List Char × List Char)
  | some (.char d, after) => some ([d], after)
  | _ => none

/-- What a character that opens no reference adds to a value, and what follows it. -/
def plainPart? (c : Char) (rest : List Char) : Option (List Char × List Char) :=
  if c = '<' || !isLegal c then none
  else some (if c = '\r' && rest.head? == some '\n' then [] else [if isSpace c then ' ' else c], rest)

/-- What one character or reference at the front adds to a value, and what follows it. -/
def valuePart? (c : Char) (rest : List Char) : Option (List Char × List Char) :=
  if c = '&' then referredPart? (reference? rest) else plainPart? c rest

theorem attributeValue?_succ (quote : Char) (fuel : Nat) (c : Char) (rest : List Char) :
    attributeValue? false quote (fuel + 1) (c :: rest) =
      if c = quote then some ([], rest)
      else (valuePart? c rest).bind fun p =>
        (attributeValue? false quote fuel p.2).map fun q => (p.1 ++ q.1, q.2) := by
  rw [attributeValue?, valuePart?]
  by_cases closing : c = quote
  · rw [if_pos closing, if_pos closing]
  rw [if_neg closing, if_neg closing]
  by_cases amp : c = '&'
  · rw [if_pos amp, if_pos amp]
    rcases reference? rest with _ | ⟨_ | _, after⟩
    · rfl
    · rfl
    · rfl
  rw [if_neg amp, if_neg amp, plainPart?]
  by_cases bad : (c = '<' || !isLegal c) = true
  · rw [if_pos bad, if_pos bad]
    rfl
  rw [if_neg bad, if_neg bad, Option.bind_some]
  by_cases split : (c = '\r' && rest.head? == some '\n') = true
  · rw [if_pos split, if_pos split]
    exact Option.map_id'.symm
  · rw [if_neg split, if_neg split]
    rfl

theorem length_valuePart?_le {c : Char} {cs part rest : List Char}
    (h : valuePart? c cs = some (part, rest)) : rest.length ≤ cs.length := by
  rw [valuePart?] at h
  by_cases amp : c = '&'
  · rw [if_pos amp, referredPart?.eq_def] at h
    split at h
    · rename_i given
      cases h
      exact Nat.le_of_lt (length_reference?_lt given)
    · cases h
  · rw [if_neg amp, plainPart?, Option.ite_none_left_eq_some] at h
    cases h.2
    exact Nat.le_refl _

/-- Where no unknown entity is left out, no name is replaced. -/
theorem valuePart?_replaceNames {c : Char} {cs part rest : List Char}
    (h : valuePart? c cs = some (part, rest)) :
    replaceNames 0 (c :: cs) = c :: replaceNames 0 cs ∧
      valuePart? c (replaceNames 0 cs) = some (part, replaceNames 0 rest) := by
  rw [valuePart?] at h ⊢
  by_cases amp : c = '&'
  · rw [if_pos amp, referredPart?.eq_def] at h
    rw [if_pos amp]
    split at h
    · rename_i given
      cases h
      refine ⟨amp ▸ replaceNames_reference given, ?_⟩
      rw [reference?_replaceNames, given]
      rfl
    · cases h
  · rw [if_neg amp, plainPart?, Option.ite_none_left_eq_some] at h
    obtain ⟨good, same⟩ := h
    cases same
    rw [if_neg amp, plainPart?, if_neg good, head?_replaceNames]
    exact ⟨replaceNames_cons amp cs, rfl⟩

theorem length_attributeValue?_lt {quote : Char} {fuel : Nat} {cs value rest : List Char}
    (h : attributeValue? false quote fuel cs = some (value, rest)) : rest.length < cs.length := by
  induction fuel generalizing cs value with
  | zero => cases h
  | succ fuel ih =>
    cases cs with
    | nil => cases h
    | cons c cs =>
      rw [attributeValue?_succ] at h
      rw [List.length_cons]
      by_cases closing : c = quote
      · rw [if_pos closing] at h
        cases h
        exact Nat.lt_succ_self _
      · rw [if_neg closing] at h
        obtain ⟨⟨part, after⟩, first, h⟩ := Option.bind_eq_some_iff.1 h
        obtain ⟨⟨value, rest⟩, later, same⟩ := Option.map_eq_some_iff.1 h
        cases same
        exact Nat.lt_succ_of_lt (Nat.lt_of_lt_of_le (ih later) (length_valuePart?_le first))

theorem attributeValue?_replaceNames {quote : Char} (plain : quote ≠ '&') {fuel : Nat}
    {cs value rest : List Char} (h : attributeValue? false quote fuel cs = some (value, rest))
    {fuel' : Nat} (enough : (replaceNames 0 cs).length < fuel') :
    attributeValue? false quote fuel' (replaceNames 0 cs) = some (value, replaceNames 0 rest) := by
  induction fuel generalizing cs value fuel' with
  | zero => cases h
  | succ fuel ih =>
    obtain ⟨fuel', rfl⟩ := Nat.exists_eq_succ_of_ne_zero (Nat.ne_of_gt (Nat.zero_lt_of_lt enough))
    cases cs with
    | nil => cases h
    | cons c cs =>
      rw [attributeValue?_succ] at h
      by_cases closing : c = quote
      · rw [if_pos closing] at h
        cases h
        rw [closing, replaceNames_cons plain, attributeValue?_succ, if_pos rfl]
      · rw [if_neg closing] at h
        obtain ⟨⟨part, after⟩, first, h⟩ := Option.bind_eq_some_iff.1 h
        obtain ⟨⟨value, rest⟩, later, same⟩ := Option.map_eq_some_iff.1 h
        cases same
        obtain ⟨kept, first'⟩ := valuePart?_replaceNames first
        have shorter := length_valuePart?_le first'
        rw [kept] at enough ⊢
        rw [attributeValue?_succ, if_neg closing, first', Option.bind_some,
          ih later (Nat.lt_of_le_of_lt shorter (Nat.lt_of_succ_lt_succ enough))]
        rfl

/-- The end of an opening tag: whether it closes its element, and what follows the tag. -/
def tagEnd? (cs : List Char) : Option (Bool × List Char) :=
  ((after? ">" cs).map (false, ·)).or ((after? "/>" cs).map (true, ·))

/-- The quote that opens a value behind an equals sign, and what follows it. -/
def assigned? (cs : List Char) : Option (Char × List Char) :=
  (after? "=" (skipSpace cs)).bind fun rest =>
    ((after? "\"" (skipSpace rest)).map ('"', ·)).or ((after? "'" (skipSpace rest)).map ('\'', ·))

/-- An attribute behind the white space that it needs, and what follows it. -/
def nextAttribute? (cs : List Char) : Option (RawAttribute × List Char) :=
  if cs.head?.map isSpace = some true then
    (qualifiedName? (skipSpace cs)).bind fun p =>
      (assigned? p.2).bind fun q =>
        (attributeValue? false q.1 (q.2.length + 1) q.2).map fun v => ((p.1, v.1), v.2)
  else none

theorem attributes?_succ (fuel : Nat) (cs : List Char) :
    attributes? false (fuel + 1) cs =
      ((tagEnd? (skipSpace cs)).map fun p => ([], p)).or ((nextAttribute? cs).bind fun p =>
        (attributes? false fuel p.2).map fun q => (p.1 :: q.1, q.2)) := by
  have angle (rest : List Char) : tagEnd? ('>' :: rest) = some (false, rest) := rfl
  have slash (rest : List Char) : tagEnd? ('/' :: '>' :: rest) = some (true, rest) := rfl
  rw [attributes?]
  split
  · rename_i rest same
    rw [same, angle]
    rfl
  · rename_i rest same
    rw [same, slash]
    rfl
  · rename_i angle slash
    have inside : tagEnd? (skipSpace cs) = none := by
      rw [tagEnd?, after?_eq_none_of_ne angle, after?_eq_none_of_ne slash]
      rfl
    rw [inside, nextAttribute?, Option.map_none, Option.none_or]
    by_cases space : cs.head?.map isSpace = some true
    · rw [if_pos space, if_neg (by simp [space])]
      cases qualifiedName? (skipSpace cs) with
      | none => rfl
      | some p =>
        obtain ⟨name, rest⟩ := p
        dsimp only [Option.bind_some]
        unfold assigned?
        split
        · rename_i after equals
          rw [equals, show after? "=" ('=' :: after) = some after from rfl, Option.bind_some]
          split
          · rename_i quote after opened
            rw [opened]
            by_cases double : quote = '"'
            · rw [double, if_pos (by decide)]
              show _ = (((attributeValue? false '"' (after.length + 1) after).map _).bind _)
              cases attributeValue? false '"' (after.length + 1) after <;> rfl
            by_cases single : quote = '\''
            · rw [single, if_pos (by decide)]
              show _ = (((attributeValue? false '\'' (after.length + 1) after).map _).bind _)
              cases attributeValue? false '\'' (after.length + 1) after <;> rfl
            · rw [if_neg (by simp [double, single]),
                after?_eq_none_of_ne fun rest same => double (List.cons.inj same).1,
                after?_eq_none_of_ne fun rest same => single (List.cons.inj same).1]
              rfl
          · rename_i opened
            rw [opened]
            rfl
        · rename_i other
          rw [after?_eq_none_of_ne other]
          rfl
    · rw [if_neg space, if_pos (by simpa using space)]
      rfl

theorem tagEnd?_replaceNames (cs : List Char) :
    tagEnd? (replaceNames 0 cs) = (tagEnd? cs).map (Prod.map id (replaceNames 0)) := by
  rw [tagEnd?, tagEnd?, after?_replaceNames (by decide), after?_replaceNames (by decide), Option.map_or]
  simp only [Option.map_map]
  rfl

theorem assigned?_replaceNames (cs : List Char) :
    assigned? (replaceNames 0 cs) = (assigned? cs).map (Prod.map id (replaceNames 0)) := by
  rw [assigned?, assigned?, skipSpace_replaceNames, after?_replaceNames (by decide)]
  cases after? "=" (skipSpace cs) with
  | none => rfl
  | some rest =>
    rw [Option.map_some, Option.bind_some, Option.bind_some, skipSpace_replaceNames,
      after?_replaceNames (by decide), after?_replaceNames (by decide), Option.map_or]
    simp only [Option.map_map]
    rfl

theorem length_after?_le {word : String} {cs rest : List Char} (h : after? word cs = some rest) :
    rest.length ≤ cs.length := by
  rw [eq_of_after? h, List.length_append]
  exact Nat.le_add_left _ _

theorem length_after?_lt {word : String} (some' : 0 < word.toList.length) {cs rest : List Char}
    (h : after? word cs = some rest) : rest.length < cs.length := by
  rw [eq_of_after? h, List.length_append]
  exact Nat.lt_add_of_pos_left some'

theorem quote_of_assigned? {cs rest : List Char} {quote : Char} (h : assigned? cs = some (quote, rest)) :
    quote ≠ '&' ∧ rest.length ≤ cs.length := by
  obtain ⟨after, equals, h⟩ := Option.bind_eq_some_iff.1 h
  have shorter := (length_after?_le equals).trans (length_skipSpace_le cs)
  rcases Option.or_eq_some_iff.1 h with double | ⟨-, single⟩
  · obtain ⟨rest, opened, same⟩ := Option.map_eq_some_iff.1 double
    cases same
    exact ⟨by decide, (length_after?_le opened).trans ((length_skipSpace_le after).trans shorter)⟩
  · obtain ⟨rest, opened, same⟩ := Option.map_eq_some_iff.1 single
    cases same
    exact ⟨by decide, (length_after?_le opened).trans ((length_skipSpace_le after).trans shorter)⟩

theorem nextAttribute?_replaceNames {cs rest : List Char} {a : RawAttribute}
    (h : nextAttribute? cs = some (a, rest)) :
    nextAttribute? (replaceNames 0 cs) = some (a, replaceNames 0 rest) := by
  rw [nextAttribute?, Option.ite_none_right_eq_some] at h
  obtain ⟨space, h⟩ := h
  obtain ⟨⟨name, after⟩, named, h⟩ := Option.bind_eq_some_iff.1 h
  obtain ⟨⟨quote, body⟩, opened, h⟩ := Option.bind_eq_some_iff.1 h
  obtain ⟨⟨value, rest'⟩, valued, same⟩ := Option.map_eq_some_iff.1 h
  cases same
  have plain := (quote_of_assigned? opened).1
  rw [nextAttribute?, head?_replaceNames, if_pos space, skipSpace_replaceNames,
    qualifiedName?_replaceNames, named, Option.map_some, Option.bind_some]
  dsimp only [Prod.map]
  rw [assigned?_replaceNames, opened, Option.map_some, Option.bind_some]
  dsimp only [Prod.map, id]
  rw [attributeValue?_replaceNames plain valued (Nat.lt_succ_self _)]
  rfl

theorem length_nextAttribute?_lt {cs rest : List Char} {a : RawAttribute}
    (h : nextAttribute? cs = some (a, rest)) : rest.length < cs.length := by
  rw [nextAttribute?, Option.ite_none_right_eq_some] at h
  obtain ⟨⟨name, after⟩, named, h⟩ := Option.bind_eq_some_iff.1 h.2
  obtain ⟨⟨quote, body⟩, opened, h⟩ := Option.bind_eq_some_iff.1 h
  obtain ⟨⟨value, rest'⟩, valued, same⟩ := Option.map_eq_some_iff.1 h
  cases same
  calc rest'.length < body.length := length_attributeValue?_lt valued
    _ ≤ after.length := (quote_of_assigned? opened).2
    _ ≤ (skipSpace cs).length := Nat.le_of_lt (length_qualifiedName?_lt named)
    _ ≤ cs.length := length_skipSpace_le cs

theorem attributes?_replaceNames {fuel : Nat} {cs rest : List Char} {attributes : List RawAttribute}
    {closed : Bool} (h : attributes? false fuel cs = some (attributes, closed, rest))
    {fuel' : Nat} (enough : (replaceNames 0 cs).length < fuel') :
    attributes? false fuel' (replaceNames 0 cs) = some (attributes, closed, replaceNames 0 rest) := by
  induction fuel generalizing cs attributes fuel' with
  | zero => cases h
  | succ fuel ih =>
    obtain ⟨fuel', rfl⟩ := Nat.exists_eq_succ_of_ne_zero (Nat.ne_of_gt (Nat.zero_lt_of_lt enough))
    rw [attributes?_succ] at h ⊢
    rw [skipSpace_replaceNames, tagEnd?_replaceNames]
    cases ends : tagEnd? (skipSpace cs) with
    | some p =>
      rw [ends] at h
      cases h
      rfl
    | none =>
      rw [ends, Option.map_none, Option.none_or] at h
      obtain ⟨⟨a, after⟩, first, h⟩ := Option.bind_eq_some_iff.1 h
      obtain ⟨⟨as, closed', rest'⟩, later, same⟩ := Option.map_eq_some_iff.1 h
      cases same
      have first' := nextAttribute?_replaceNames first
      have shorter := length_nextAttribute?_lt first'
      rw [Option.map_none, Option.map_none, Option.none_or, first', Option.bind_some,
        ih later (Nat.lt_of_lt_of_le shorter (Nat.le_of_lt_succ enough))]
      rfl

/-! ## Tags and content -/

namespace Token

theorem openingTag?_replaceNames {cs rest : List Char} {ts : List Token}
    (h : openingTag? false cs = some (ts, rest)) :
    openingTag? false (replaceNames 0 cs) = some (ts, replaceNames 0 rest) := by
  unfold openingTag? at h ⊢
  rw [qualifiedName?_replaceNames]
  cases named : qualifiedName? cs with
  | none =>
    rw [named] at h
    cases h
  | some p =>
    obtain ⟨name, body⟩ := p
    rw [named] at h
    rw [Option.map_some]
    dsimp only [Prod.map, id] at h ⊢
    cases given : attributes? false body.length.succ body with
    | none =>
      rw [given] at h
      cases h
    | some p =>
      obtain ⟨attributes, closed, after⟩ := p
      rw [given] at h
      cases h
      rw [attributes?_replaceNames given (Nat.lt_succ_self _)]

theorem closingTag?_replaceNames {cs rest : List Char} {ts : List Token}
    (h : closingTag? cs = some (ts, rest)) :
    closingTag? (replaceNames 0 cs) = some (ts, replaceNames 0 rest) := by
  have stop : (isNameChar '&' || '&' == ':') = false := by decide
  unfold closingTag? at h ⊢
  dsimp only at h ⊢
  rw [takeWhile_replaceNames stop, dropWhile_replaceNames stop, skipSpace_replaceNames]
  split at h
  · rename_i after same
    cases h
    rw [same, replaceNames_cons (by decide)]
    rfl
  · cases h

end Token

end FormGate.Markup
