import FormGate.Proofs.Markup.Tagged
import FormGate.Proofs.Markup.Untyped

/-!
# Named characters in marked sections

A page without a document type that is well-formed as it stands is read as the same elements with the same
attributes, and no text of it changes for the references, comments and instructions that are in it.
The search for named characters knows nothing of marked sections, though: a name between ampersand and
semicolon in one of them is replaced as well. So the page is read as it stands exactly if there is none
(`Page.read_untyped`, `Page.section_rewritten`).
-/

namespace FormGate.Markup

open Page

/-! ## What is replaced in a marked section -/

/-- Where names were replaced the sign of a number stands for the first letter of the first name. -/
theorem exists_name_of_replaced {t : List Char} (changed : replaceNames 0 t ≠ t) :
    ∃ front c name code, t = front ++ '&' :: c :: name ∧ isCharacterName c = true ∧
      replaceNames 0 t = front ++ '&' :: '#' :: code := by
  induction t with
  | nil => exact absurd rfl changed
  | cons c t ih =>
    have later (kept : replaceNames 0 (c :: t) = c :: replaceNames 0 t) :
        ∃ front d name code, c :: t = front ++ '&' :: d :: name ∧ isCharacterName d = true ∧
          replaceNames 0 (c :: t) = front ++ '&' :: '#' :: code := by
      rw [kept] at changed ⊢
      obtain ⟨front, d, name, code, text, letter, written⟩ := ih fun same => changed (by rw [same])
      exact ⟨c :: front, d, name, code, by rw [text, List.cons_append], letter, by
        rw [written, List.cons_append]⟩
    by_cases amp : c = '&'
    · cases word : namedReference? t with
      | none => exact later (by rw [replaceNames, if_pos amp, word])
      | some written =>
        have replaced : replaceNames 0 (c :: t) =
            written ++ replaceNames (t.takeWhile isCharacterName).length t := by
          rw [replaceNames, if_pos amp, word]
        rw [namedReference?_eq] at word
        split_ifs at word
        obtain ⟨n, listed, rfl⟩ := Option.map_eq_some_iff.1 word
        have unnamed : namedCharacters.lookup (.ofList []) = none := by decide +kernel
        cases t with
        | nil => cases unnamed.symm.trans listed
        | cons d name =>
          by_cases letter : isCharacterName d = true
          · exact ⟨[], d, name, _, by rw [amp, List.nil_append], letter, replaced⟩
          · rw [List.takeWhile_cons_of_neg letter] at listed
            cases unnamed.symm.trans listed
    · exact later (replaceNames_cons amp t)

namespace Token

/-- A line end does not go on into what is no line feed. -/
theorem unifyBreaks_append (front : List Char) {c : Char} (other : c ≠ '\n') (rest : List Char) :
    unifyBreaks (front ++ c :: rest) = unifyBreaks front ++ unifyBreaks (c :: rest) := by
  fun_induction unifyBreaks front with
  | case1 front ih => exact congrArg ('\n' :: ·) ih
  | case2 d front single ih =>
    rw [List.cons_append, unifyBreaks, ih, List.cons_append]
    intro more carriage line
    cases front with
    | nil => exact other (List.cons.inj line).1
    | cons e front => exact single front carriage (by rw [(List.cons.inj line).1])
  | case3 => rfl

/-- What is made of a text in which names are replaced is another text, whatever follows. -/
theorem unifyBreaks_ne {t : List Char} (changed : replaceNames 0 t ≠ t) (rest rest' : List Char) :
    unifyBreaks (replaceNames 0 t) ++ rest ≠ unifyBreaks t ++ rest' := by
  obtain ⟨front, c, name, code, text, letter, written⟩ := exists_name_of_replaced changed
  have kept {d : Char} (other : d ≠ '\r') (cs : List Char) : unifyBreaks (d :: cs) = d :: unifyBreaks cs := by
    rw [unifyBreaks, if_neg other]
    exact fun more same => absurd same other
  have solid : c ≠ '\r' := fun same => absurd (same ▸ letter) (by decide)
  rw [written, text, unifyBreaks_append _ (by decide), unifyBreaks_append _ (by decide), kept (by decide),
    kept (by decide), kept (by decide), kept solid, List.append_assoc, List.append_assoc]
  intro same
  have sign := (List.cons.inj (List.cons.inj (List.append_cancel_left same)).2).1
  exact absurd (sign ▸ letter) (by decide)

end Token

namespace Part

def chars (p : Part) : List Char :=
  p.tokens.filterMap Token.char?

theorem chars_marked (text : List Char) : (marked text).chars = Token.unifyBreaks text := by
  rw [chars, tokens, List.filterMap_map]
  exact List.filterMap_some

theorem tags_flatMap_replaced (ps : List Part) :
    Token.tags ((ps.map replaced).flatMap tokens) = Token.tags (ps.flatMap tokens) := by
  have none' (text : List Char) : Token.tags (text.map .char) = [] :=
    List.filter_eq_nil_iff.2 fun t inside => by
      obtain ⟨c, -, rfl⟩ := List.mem_map.1 inside
      exact Bool.false_ne_true
  induction ps with
  | nil => rfl
  | cons p ps ih =>
    rw [List.map_cons, List.flatMap_cons, List.flatMap_cons, Token.tags_append, Token.tags_append, ih]
    cases p with
    | marked text => rw [replaced, tokens, tokens, none', none']
    | plain ts => rfl

theorem kept_of_chars {ps : List Part} (same : (ps.map replaced).flatMap chars = ps.flatMap chars) :
    ∀ t, marked t ∈ ps → replaceNames 0 t = t := by
  induction ps with
  | nil => exact fun t inside => (List.not_mem_nil inside).elim
  | cons p ps ih =>
    rw [List.map_cons, List.flatMap_cons, List.flatMap_cons] at same
    intro t inside
    cases p with
    | plain ts =>
      exact ih (List.append_cancel_left same) t ((List.mem_cons.1 inside).resolve_left (by simp))
    | marked text =>
      have kept : replaceNames 0 text = text := by
        by_contra changed
        rw [replaced, chars_marked, chars_marked] at same
        exact Token.unifyBreaks_ne changed _ _ same
      rw [replaced, kept] at same
      rcases List.mem_cons.1 inside with own | inside
      · cases own
        exact kept
      · exact ih (List.append_cancel_left same) t inside

theorem replaced_eq_self {ps : List Part} (kept : ∀ t, marked t ∈ ps → replaceNames 0 t = t) :
    ps.map replaced = ps := by
  have each : ∀ p ∈ ps, p.replaced = p := fun p inside => by
    cases p with
    | marked text => exact congrArg marked (kept text inside)
    | plain ts => rfl
  exact (List.map_congr_left each).trans (List.map_id ps)

end Part

/-! ## The whole page -/

/-- The tags of a forest from left to right: where elements open, with their labels, and where they
close. -/
def Forest.tags (f : Forest) : List Mark :=
  Mark.tags f.marks

namespace Page

variable {cs : List Char} {d : Declarations} {ps : List Part} {f : Forest}

theorem exists_opening_of_parts? (h : parts? cs = some (d, ps)) :
    ∃ name attributes ts, ps.flatMap Part.tokens = .opening name attributes :: ts := by
  obtain ⟨rest, body, behind, -, -, element, -⟩ := parts?_eq_some_iff.1 h
  obtain ⟨⟨ts, mid⟩, opened, h⟩ := Option.bind_eq_some_iff.1 element
  obtain ⟨⟨ps, behind⟩, -, same⟩ := Option.map_eq_some_iff.1 h
  cases same
  unfold Token.openingTag? at opened
  split at opened
  · cases opened
  · split at opened
    · cases opened
    · cases opened
      exact ⟨_, _, _, rfl⟩

/-- Once names were replaced the parts make up a forest with the same tags, and with the same texts only
if there was no name in a marked section. -/
theorem exists_made?_replaced (h : parts? cs = some (d, ps)) (made : made? d ps = some f) :
    ∃ f', made? d (ps.map Part.replaced) = some f' ∧ f'.tags = f.tags ∧
      (f' = f ↔ ∀ t, .marked t ∈ ps → replaceNames 0 t = t) := by
  obtain ⟨name, attributes, ts, opens⟩ := exists_opening_of_parts? h
  obtain ⟨name', attributes', ts', opens'⟩ := exists_opening_of_parts? (parts?_replaceNames h)
  obtain ⟨marks, read, rfl⟩ := Option.map_eq_some_iff.1 made
  have tags := Mark.tags_of_ofTokens? d .initial [] 0 ((ps.map Part.replaced).flatMap Part.tokens)
  rw [Part.tags_flatMap_replaced, ← Mark.tags_of_ofTokens?, read] at tags
  obtain ⟨marks', read', tags⟩ := Option.map_eq_some_iff.1 tags
  have whole : (Forest.ofMarks marks).2.marks = marks := Mark.marks_of_opening (opens ▸ read)
  have whole' : (Forest.ofMarks marks').2.marks = marks' := Mark.marks_of_opening (opens' ▸ read')
  refine ⟨(Forest.ofMarks marks').2, by rw [made?, read', Option.map_some], ?_, ?_⟩
  · rw [Forest.tags, Forest.tags, whole, whole', tags]
  · constructor
    · intro same
      have chars := Mark.chars_of_ofTokens? read
      have chars' := Mark.chars_of_ofTokens? read'
      rw [← whole', same, whole, chars, List.filterMap_flatMap, List.filterMap_flatMap] at chars'
      exact Part.kept_of_chars chars'.symm
    · intro kept
      rw [Part.replaced_eq_self kept, read] at read'
      rw [Option.some.inj read']

/-- A page without a document type that is well-formed as it stands is read with the tags that it has, and
as it stands exactly if nothing in its marked sections looks like a named character. -/
theorem read_untyped {text : String} (untyped : Untyped text.toList) (formed : forest text.toList = .ok f) :
    ∃ d ps f', parts? text.toList = some (d, ps) ∧ made? d ps = some f ∧
      made? d (ps.map Part.replaced) = some f' ∧ read text = .ok (none, f') ∧ f'.tags = f.tags ∧
      (f' = f ↔ ∀ t, .marked t ∈ ps → replaceNames 0 t = t) := by
  obtain ⟨d, ps, parts, made⟩ := exists_parts? untyped formed
  obtain ⟨f', made', tags, same⟩ := exists_made?_replaced parts made
  refine ⟨d, ps, f', parts, made, made', ?_, tags, same⟩
  unfold read
  rw [splitDoctype_of_parts? parts]
  simp only [bind, Except.bind, forest_of_made? (parts?_replaceNames parts) made']
  rfl

/-- A page with references and a comment around a marked section without names. -/
def referring : String :=
  "<a b=\"&amp;nbsp;\">&#38;<![CDATA[x & y]]><!-- &nbsp; --></a>"

/-- What stands in it. -/
def referred : Forest :=
  .cons ⟨0, .element "a", [("b", "&nbsp;")]⟩ "&x & y" .nil "" .nil

/-- It is read as it stands. -/
theorem read_untyped_referring :
    Untyped referring.toList ∧ forest referring.toList = .ok referred ∧
      read referring = .ok (none, referred) := by
  have untyped : Untyped referring.toList :=
    untyped_of_front? (show front? referring.toList = some ({}, referring.toList) by decide +kernel)
      (by decide +kernel)
  have formed : forest referring.toList = .ok referred := by decide +kernel
  have known : parts? referring.toList = some ({}, [.plain [.opening ['a'] [(['b'], "&nbsp;".toList)]],
      .plain [.char '&'], .marked "x & y".toList, .plain [], .plain [.closing ['a']]]) := by
    decide +kernel
  obtain ⟨d, ps, f', parts, -, -, page, -, same⟩ := read_untyped untyped formed
  cases known.symm.trans parts
  have kept := same.2 fun t inside => by
    obtain rfl : t = "x & y".toList := by simpa using inside
    decide +kernel
  exact ⟨untyped, formed, kept ▸ page⟩

/-- In a marked section a name between ampersand and semicolon is text like other text, and yet it is read
as a number. -/
theorem section_rewritten :
    Untyped "<a><![CDATA[&nbsp;]]></a>".toList ∧
      forest "<a><![CDATA[&nbsp;]]></a>".toList = .ok (.cons ⟨0, .element "a", []⟩ "&nbsp;" .nil "" .nil) ∧
      read "<a><![CDATA[&nbsp;]]></a>" = .ok (none, .cons ⟨0, .element "a", []⟩ "&#160;" .nil "" .nil) := by
  have front : front? "<a><![CDATA[&nbsp;]]></a>".toList = some ({}, "<a><![CDATA[&nbsp;]]></a>".toList) := by
    decide +kernel
  exact ⟨untyped_of_front? front (by decide +kernel), by decide +kernel, by decide +kernel⟩

end Page

end FormGate.Markup
