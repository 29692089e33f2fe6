import FormGate.Proofs.Markup.ReplacedTags

/-!
# The parts of an element

The content of an element is a row of parts: the text of a marked section, or the tokens of anything
else. Once names were replaced the parts are the same, but for the texts of the marked sections, in which
names were replaced too (`Part.element?_replaceNames`).
-/

namespace FormGate.Markup

open Page

/-! ## What is taken off the content -/

section Length

variable {mark cs rest text : List Char}

theorem length_cutAt?_le (h : cutAt? mark cs = some (text, rest)) : rest.length ≤ cs.length := by
  rw [cutAt?_split h, List.length_append]
  exact Nat.le_add_left _ _

theorem length_upTo?_le {a b : Char} (h : upTo? a b cs = some (text, rest)) : rest.length ≤ cs.length := by
  rw [upTo?_eq_cutAt?] at h
  exact length_cutAt?_le h

theorem length_afterComment?_le (h : afterComment? cs = some rest) : rest.length ≤ cs.length := by
  unfold afterComment? at h
  split at h
  · rename_i found
    cases h
    exact (Nat.le_succ _).trans (length_upTo?_le found)
  · cases h

theorem length_afterInstruction?_le (h : afterInstruction? cs = some rest) : rest.length ≤ cs.length := by
  unfold afterInstruction? at h
  split at h
  · rename_i given
    split_ifs at h
    cases h
    obtain ⟨inside, found⟩ := upTo?_of_instruction? given
    exact length_upTo?_le found
  · cases h

theorem length_attributes?_le {fuel : Nat} {attributes : List RawAttribute} {closed : Bool}
    (h : attributes? false fuel cs = some (attributes, closed, rest)) : rest.length ≤ cs.length := by
  induction fuel generalizing cs attributes with
  | zero => cases h
  | succ fuel ih =>
    rw [attributes?_succ] at h
    rcases Option.or_eq_some_iff.1 h with ended | ⟨-, h⟩
    · obtain ⟨p, ends, same⟩ := Option.map_eq_some_iff.1 ended
      cases same
      refine le_trans ?_ (length_skipSpace_le cs)
      rcases Option.or_eq_some_iff.1 ends with angle | ⟨-, slash⟩
      · obtain ⟨after, found, same⟩ := Option.map_eq_some_iff.1 angle
        cases same
        exact length_after?_le found
      · obtain ⟨after, found, same⟩ := Option.map_eq_some_iff.1 slash
        cases same
        exact length_after?_le found
    · obtain ⟨⟨a, after⟩, first, h⟩ := Option.bind_eq_some_iff.1 h
      obtain ⟨⟨as, closed', rest'⟩, later, same⟩ := Option.map_eq_some_iff.1 h
      cases same
      exact (ih later).trans (Nat.le_of_lt (length_nextAttribute?_lt first))

namespace Token

variable {ts : List Token}

theorem length_openingTag?_le (h : openingTag? false cs = some (ts, rest)) : rest.length ≤ cs.length := by
  unfold openingTag? at h
  cases named : qualifiedName? cs with
  | none =>
    rw [named] at h
    cases h
  | some p =>
    obtain ⟨name, body⟩ := p
    rw [named] at h
    dsimp only at h
    cases given : attributes? false body.length.succ body with
    | none =>
      rw [given] at h
      cases h
    | some p =>
      obtain ⟨attributes, closed, after⟩ := p
      rw [given] at h
      cases h
      exact (length_attributes?_le given).trans (Nat.le_of_lt (length_qualifiedName?_lt named))

theorem length_closingTag?_le (h : closingTag? cs = some (ts, rest)) : rest.length ≤ cs.length := by
  unfold closingTag? at h
  dsimp only at h
  split at h
  · rename_i after same
    cases h
    have shorter := length_skipSpace_le (cs.dropWhile fun c => isNameChar c || c == ':')
    rw [same, List.length_cons] at shorter
    have := (List.dropWhile_suffix (l := cs) fun c => isNameChar c || c == ':').length_le
    omega
  · cases h

end Token

end Length

/-! ## One part after the other -/

/-- A part of content: the text of a marked section, or the tokens of anything else. -/
inductive Part
  | marked (text : List Char)
  | plain (tokens : List Token)
  deriving DecidableEq, Repr

namespace Part

def tokens : Part → List Token
  | marked text => (Token.unifyBreaks text).map .char
  | plain ts => ts

/-- A part of a page in which names were replaced. -/
def replaced : Part → Part
  | marked text => marked (replaceNames 0 text)
  | plain ts => plain ts

/-- The part that comes next in content, and what follows it. -/
def next? (cs : List Char) : Option (Part × List Char) :=
  match (after? "<![CDATA[" cs).bind Token.section? with
  | some (text, rest) => some (marked text, rest)
  | none => (Token.next? false cs).map fun p => (plain p.1, p.2)

theorem next?_tokens (cs : List Char) :
    Token.next? false cs = (next? cs).map fun p => (p.1.tokens, p.2) := by
  unfold next?
  cases opened : (after? "<![CDATA[" cs).bind Token.section? with
  | none => simp [Option.map_map, Function.comp_def, tokens]
  | some p =>
    obtain ⟨body, after, closed⟩ := Option.bind_eq_some_iff.1 opened
    rw [eq_of_after? after]
    show (Token.section? body).map _ = _
    rw [closed]
    rfl

/-- What a part can be, and what follows it. -/
inductive Takes : List Char → Part → List Char → Prop
  | marked {cs text rest : List Char} (closed : Token.section? cs = some (text, rest)) :
      Takes ("<![CDATA[".toList ++ cs) (.marked text) rest
  | comment {cs rest : List Char} (closed : afterComment? cs = some rest) :
      Takes ('<' :: '!' :: '-' :: '-' :: cs) (.plain []) rest
  | instruction {cs rest : List Char} (closed : afterInstruction? cs = some rest) :
      Takes ('<' :: '?' :: cs) (.plain []) rest
  | closing {cs rest : List Char} {ts : List Token} (tag : Token.closingTag? cs = some (ts, rest)) :
      Takes ('<' :: '/' :: cs) (.plain ts) rest
  | opening {cs rest : List Char} {ts : List Token} (tag : Token.openingTag? false cs = some (ts, rest)) :
      Takes ('<' :: cs) (.plain ts) rest
  | reference {cs rest : List Char} {c : Char} (refers : reference? cs = some (.char c, rest)) :
      Takes ('&' :: cs) (.plain [.char c]) rest
  | lines (cs : List Char) : Takes ('\r' :: '\n' :: cs) (.plain [.char '\n']) cs
  | line {cs : List Char} (single : cs.head? ≠ some '\n') : Takes ('\r' :: cs) (.plain [.char '\n']) cs
  | character {c : Char} {cs : List Char} (other : c ∉ ['<', '&', '\r'])
      (unclosed : ¬ [']', ']', '>'] <+: c :: cs) (legal : isLegal c = true) :
      Takes (c :: cs) (.plain [.char c]) cs

variable {cs rest : List Char} {p : Part}

theorem takes_of_next? (h : next? cs = some (p, rest)) : Takes cs p rest := by
  unfold next? at h
  cases opened : (after? "<![CDATA[" cs).bind Token.section? with
  | some q =>
    rw [opened] at h
    cases h
    obtain ⟨body, after, closed⟩ := Option.bind_eq_some_iff.1 opened
    rw [eq_of_after? after]
    exact .marked closed
  | none =>
    rw [opened] at h
    obtain ⟨⟨ts, rest⟩, found, same⟩ := Option.map_eq_some_iff.1 h
    cases same
    unfold Token.next? at found
    split at found
    · cases found
    · obtain ⟨after, closed, same⟩ := Option.map_eq_some_iff.1 found
      cases same
      exact .comment closed
    · rename_i after _
      cases word : after? "[CDATA[" after with
      | none =>
        rw [word] at found
        cases found
      | some body =>
        obtain rfl := eq_of_after? word
        have open' : Token.section? body = none := opened
        rw [word] at found
        dsimp only at found
        rw [open'] at found
        cases found
    · obtain ⟨after, closed, same⟩ := Option.map_eq_some_iff.1 found
      cases same
      exact .instruction closed
    · exact .closing found
    · exact .opening found
    · unfold Token.reference? at found
      split at found
      · rename_i refers
        cases found
        exact .reference refers
      · cases found
    · cases found
    · cases found
      exact .lines _
    · rename_i other
      cases found
      refine .line fun next => ?_
      obtain ⟨more, same⟩ := List.head?_eq_some_iff.1 next
      exact other more same
    · rename_i c body _ _ _ _ angle amp bracket _ return'
      rw [Option.ite_none_right_eq_some] at found
      obtain ⟨legal, same⟩ := found
      cases same
      refine .character ?_ ?_ legal
      · simp only [List.mem_cons, List.not_mem_nil, or_false, not_or]
        exact ⟨angle, amp, return'⟩
      · rintro ⟨more, same⟩
        cases same
        exact bracket more rfl rfl

theorem start_of_openingTag? {ts : List Token} (tag : Token.openingTag? false cs = some (ts, rest)) :
    ∃ c more, cs = c :: more ∧ isNameStart c = true := by
  unfold Token.openingTag? at tag
  cases named : qualifiedName? cs with
  | none =>
    rw [named] at tag
    cases tag
  | some q =>
    rw [qualifiedName?_eq] at named
    obtain ⟨front, plain, -⟩ := Option.bind_eq_some_iff.1 named
    cases cs with
    | nil => cases plain
    | cons c more =>
      rw [plainName?, Option.ite_none_right_eq_some] at plain
      exact ⟨c, more, rfl, plain.1⟩

theorem next?_of_takes (h : Takes cs p rest) : next? cs = some (p, rest) := by
  -- only a marked section opens as one
  have unmarked {cs : List Char} {ts : List Token} (open' : after? "<![CDATA[" cs = none)
      (found : Token.next? false cs = some (ts, rest)) : next? cs = some (plain ts, rest) := by
    unfold next?
    rw [open', found]
    rfl
  cases h with
  | marked closed =>
    unfold next?
    rw [after?_append, Option.bind_some, closed]
  | comment closed =>
    refine unmarked rfl ?_
    show (afterComment? _).map _ = _
    rw [closed]
    rfl
  | instruction closed =>
    refine unmarked rfl ?_
    show (afterInstruction? _).map _ = _
    rw [closed]
    rfl
  | closing tag => exact unmarked rfl tag
  | opening tag =>
    obtain ⟨c, more, rfl, start⟩ := start_of_openingTag? tag
    have name : IsPlainName [c] :=
      ⟨⟨c, [], rfl, start⟩, List.forall_mem_singleton.2 (by rw [isNameChar, start, Bool.true_or])⟩
    refine unmarked (after?_eq_none fun front => ?_) ((Token.next?_opening false name more).trans tag)
    exact (marks_of_start start).2.2.2.1 (List.cons_prefix_cons.1 (List.cons_prefix_cons.1 front).2).1.symm
  | reference refers =>
    refine unmarked rfl ?_
    show Token.reference? _ = _
    rw [Token.reference?, refers]
  | lines => exact unmarked rfl rfl
  | line single =>
    refine unmarked rfl ?_
    unfold Token.next?
    split <;> try simp_all
    rename_i other same
    exact absurd same.1.symm other
  | character other unclosed legal =>
    rename_i c
    simp only [List.mem_cons, List.not_mem_nil, or_false, not_or] at other
    refine unmarked (after?_eq_none fun front => other.1 (List.cons_prefix_cons.1 front).1.symm) ?_
    unfold Token.next?
    split <;> simp_all

theorem length_lt_of_takes (h : Takes cs p rest) : rest.length < cs.length := by
  cases h with
  | marked closed =>
    rw [section?_eq_cutAt?] at closed
    have := length_cutAt?_le closed
    rw [List.length_append]
    exact Nat.lt_of_le_of_lt this (Nat.lt_add_of_pos_left (by decide))
  | comment closed =>
    have := length_afterComment?_le closed
    simp only [List.length_cons]
    omega
  | instruction closed =>
    have := length_afterInstruction?_le closed
    simp only [List.length_cons]
    omega
  | closing tag =>
    have := Token.length_closingTag?_le tag
    simp only [List.length_cons]
    omega
  | opening tag => exact Nat.lt_succ_of_le (Token.length_openingTag?_le tag)
  | reference refers => exact Nat.lt_succ_of_lt (length_reference?_lt refers)
  | lines => exact Nat.lt_succ_of_lt (Nat.lt_succ_self _)
  | line => exact Nat.lt_succ_self _
  | character => exact Nat.lt_succ_self _

/-- Once names were replaced the same part comes next, up to the text of a marked section. -/
theorem Takes.replaceNames (h : Takes cs p rest) :
    Takes (replaceNames 0 cs) p.replaced (replaceNames 0 rest) := by
  cases h with
  | marked closed =>
    rw [replaceNames_append (by decide)]
    exact .marked (section?_replaceNames closed)
  | comment closed =>
    rw [replaceNames_cons (by decide), replaceNames_cons (by decide), replaceNames_cons (by decide),
      replaceNames_cons (by decide)]
    exact .comment (afterComment?_replaceNames closed)
  | instruction closed =>
    rw [replaceNames_cons (by decide), replaceNames_cons (by decide)]
    exact .instruction (afterInstruction?_replaceNames closed)
  | closing tag =>
    rw [replaceNames_cons (by decide), replaceNames_cons (by decide)]
    exact .closing (Token.closingTag?_replaceNames tag)
  | opening tag =>
    rw [replaceNames_cons (by decide)]
    exact .opening (Token.openingTag?_replaceNames tag)
  | reference refers =>
    rw [replaceNames_reference refers]
    refine .reference ?_
    rw [reference?_replaceNames, refers]
    rfl
  | lines =>
    rw [replaceNames_cons (by decide), replaceNames_cons (by decide)]
    exact .lines _
  | line single =>
    rw [replaceNames_cons (by decide)]
    exact .line (by rwa [head?_replaceNames])
  | character other unclosed legal =>
    rename_i c
    have plain : c ≠ '&' := fun same => other (by simp [same])
    have still : ¬ [']', ']', '>'] <+: Page.replaceNames 0 (c :: rest) :=
      mt (prefix_replaceNames_iff (by decide)).1 unclosed
    rw [replaceNames_cons plain] at still ⊢
    exact .character other still legal

theorem next?_replaceNames (h : next? cs = some (p, rest)) :
    next? (replaceNames 0 cs) = some (p.replaced, replaceNames 0 rest) :=
  next?_of_takes (takes_of_next? h).replaceNames

theorem length_next?_lt (h : next? cs = some (p, rest)) : rest.length < cs.length :=
  length_lt_of_takes (takes_of_next? h)

/-! ## Content -/

/-- How many elements are open after a part. -/
def depthAfter (depth : Nat) (p : Part) : Nat :=
  p.tokens.foldl Token.depthAfter depth

theorem depthAfter_replaced (depth : Nat) (p : Part) : p.replaced.depthAfter depth = p.depthAfter depth := by
  have kept (text : List Char) : (text.map Token.char).foldl Token.depthAfter depth = depth := by
    induction text with
    | nil => rfl
    | cons c text ih => exact ih
  cases p with
  | marked text => exact (kept _).trans (kept _).symm
  | plain ts => rfl

/-- The parts up to the closing tag of the outermost of the open elements, and what follows. -/
def content? : (fuel : Nat) → (depth : Nat) → List Char → Option (List Part × List Char)
  | _, 0, cs => some ([], cs)
  | 0, _ + 1, _ => none
  | fuel + 1, depth + 1, cs =>
    (next? cs).bind fun p =>
      (content? fuel (p.1.depthAfter (depth + 1)) p.2).map fun q => (p.1 :: q.1, q.2)

theorem content?_tokens (fuel depth : Nat) (cs : List Char) :
    Token.content? false fuel depth cs =
      (content? fuel depth cs).map fun p => (p.1.flatMap tokens, p.2) := by
  induction fuel generalizing depth cs with
  | zero => cases depth <;> rfl
  | succ fuel ih =>
    cases depth with
    | zero => rfl
    | succ depth =>
      rw [Token.content?, content?, next?_tokens]
      cases next? cs with
      | none => rfl
      | some p =>
        rw [Option.map_some, Option.bind_some]
        dsimp only
        rw [ih, Option.map_map, Option.map_map]
        rfl

theorem content?_replaceNames {fuel depth : Nat} {ps : List Part}
    (h : content? fuel depth cs = some (ps, rest)) {fuel' : Nat}
    (enough : (replaceNames 0 cs).length < fuel') :
    content? fuel' depth (replaceNames 0 cs) = some (ps.map replaced, replaceNames 0 rest) := by
  induction fuel generalizing depth cs ps fuel' with
  | zero =>
    cases depth with
    | zero =>
      cases h
      cases fuel' <;> rfl
    | succ depth => cases h
  | succ fuel ih =>
    obtain ⟨fuel', rfl⟩ := Nat.exists_eq_succ_of_ne_zero (Nat.ne_of_gt (Nat.zero_lt_of_lt enough))
    cases depth with
    | zero =>
      cases h
      rfl
    | succ depth =>
      obtain ⟨⟨p, mid⟩, first, h⟩ := Option.bind_eq_some_iff.1 h
      obtain ⟨⟨ps, rest⟩, later, same⟩ := Option.map_eq_some_iff.1 h
      cases same
      have first' := next?_replaceNames first
      have shorter := length_next?_lt first'
      rw [content?, first', Option.bind_some, depthAfter_replaced,
        ih later (Nat.lt_of_lt_of_le shorter (Nat.le_of_lt_succ enough))]
      rfl

/-- The parts of one element after its `<`, and what follows it. -/
def element? (cs : List Char) : Option (List Part × List Char) :=
  (Token.openingTag? false cs).bind fun p =>
    (content? p.2.length.succ ((plain p.1).depthAfter 0) p.2).map fun q => (plain p.1 :: q.1, q.2)

theorem element?_tokens (cs : List Char) :
    Token.element? false cs = (element? cs).map fun p => (p.1.flatMap tokens, p.2) := by
  unfold Token.element? element?
  cases Token.openingTag? false cs with
  | none => rfl
  | some p =>
    rw [Option.bind_some]
    dsimp only
    rw [content?_tokens, Option.map_map, Option.map_map]
    rfl

theorem element?_replaceNames {ps : List Part} (h : element? cs = some (ps, rest)) :
    element? (replaceNames 0 cs) = some (ps.map replaced, replaceNames 0 rest) := by
  obtain ⟨⟨ts, mid⟩, opened, h⟩ := Option.bind_eq_some_iff.1 h
  obtain ⟨⟨ps, rest⟩, later, same⟩ := Option.map_eq_some_iff.1 h
  cases same
  rw [element?, Token.openingTag?_replaceNames opened, Option.bind_some,
    content?_replaceNames later (Nat.lt_succ_self _)]
  rfl

end Part

end FormGate.Markup
