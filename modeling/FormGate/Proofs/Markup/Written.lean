import FormGate.Proofs.Markup.Marks

/-!
# A page that was written

What the writer makes of a forest is read back as that forest: the search for named characters changes
nothing in it, no document type is found in front of it, and one that is put there is set aside as it is
(`Page.read_written`).
-/

namespace FormGate.Markup

open Page

/-! ## Named characters -/

/-- Characters in which no name is replaced, whatever follows them. -/
def Inert (cs : List Char) : Prop :=
  ∀ rest, replaceNames 0 (cs ++ rest) = cs ++ replaceNames 0 rest

namespace Inert

theorem nil : Inert [] := fun _ => rfl

theorem append {cs cs' : List Char} (h : Inert cs) (h' : Inert cs') : Inert (cs ++ cs') := fun rest => by
  rw [List.append_assoc, h, h', List.append_assoc]

theorem cons {c : Char} {cs : List Char} (other : c ≠ '&') (h : Inert cs) : Inert (c :: cs) :=
  fun rest => by
    rw [List.cons_append, replaceNames, if_neg other, h]
    rfl

theorem of_not_mem {cs : List Char} (h : '&' ∉ cs) : Inert cs := by
  induction cs with
  | nil => exact nil
  | cons c cs ih =>
    rw [List.mem_cons, not_or] at h
    exact cons (fun same => h.1 same.symm) (ih h.2)

theorem flatMap {α : Type} {f : α → List Char} {xs : List α} (h : ∀ x ∈ xs, Inert (f x)) :
    Inert (xs.flatMap f) := by
  induction xs with
  | nil => exact nil
  | cons x xs ih =>
    rw [List.forall_mem_cons] at h
    exact h.1.append (ih h.2)

/-- An entity that is known everywhere is not among the named characters. -/
theorem reference (name : List Char) (named : name.all isCharacterName = true)
    (unlisted : namedCharacters.lookup (.ofList name) = none) : Inert ('&' :: (name ++ [';'])) := by
  intro rest
  have chars := List.all_eq_true.1 named
  have word : namedReference? (name ++ ';' :: rest) = none := by
    unfold namedReference?
    rw [List.dropWhile_append_of_pos chars, List.dropWhile_cons_of_neg (by decide),
      List.takeWhile_append_of_pos chars, List.takeWhile_cons_of_neg (by decide), List.append_nil]
    show (namedCharacters.lookup (.ofList name)).map _ = none
    rw [unlisted]
    rfl
  have plain : Inert (name ++ [';']) := of_not_mem fun amp => by
    rcases List.mem_append.1 amp with inside | last
    · exact absurd (chars _ inside) (by decide)
    · simp at last
  rw [List.cons_append, replaceNames, if_pos rfl, List.append_assoc, List.singleton_append, word]
  dsimp only
  have later := plain rest
  rw [List.append_assoc, List.singleton_append] at later
  rw [later]
  rfl

theorem escapeText (c : Char) : Inert (Writer.escapeText c) := by
  unfold Writer.escapeText
  split_ifs with amp
  · exact reference "amp".toList (by decide) (by decide +kernel)
  · exact reference "lt".toList (by decide) (by decide +kernel)
  · exact reference "gt".toList (by decide) (by decide +kernel)
  · exact cons amp nil

theorem escapeValue (c : Char) : Inert (Writer.escapeValue c) := by
  unfold Writer.escapeValue
  split_ifs
  · exact reference "quot".toList (by decide) (by decide +kernel)
  · exact fun _ => rfl
  · exact fun _ => rfl
  · exact fun _ => rfl
  · exact escapeText c

theorem of_plain {name : List Char} (plain : IsPlainName name) : Inert name :=
  of_not_mem fun amp => by
    have inside := plain.chars _ amp
    revert inside
    decide

theorem attributes {as : List (String × String)} (plain : ∀ a ∈ as, IsPlainAttribute a) :
    Inert (writtenAttributes as) := by
  refine flatMap fun a ha => ?_
  have value : Inert (a.2.toList.flatMap Writer.escapeValue) := flatMap fun c _ => escapeValue c
  have named := cons (c := ' ') (by decide) (of_plain (plain a ha).name)
  have valued := named.append (cons (c := '=') (by decide) (cons (c := '"') (by decide) value))
  exact valued.append (cons (by decide) nil)

theorem write {written : String → String} {f : Forest} (spelt : f.Spelt written)
    {first : List (String × String)} (plain : ∀ a ∈ first, IsPlainAttribute a) :
    Inert (Writer.write written (writtenAttributes first) f) := by
  induction f generalizing first with
  | nil => exact nil
  | cons l t c tail next ihc ih =>
    obtain ⟨own, inside, after⟩ := Forest.spelt_cons.1 spelt
    obtain ⟨name, tagged, named⟩ := own.tag
    have tag := of_plain named
    have text (t : String) : Inert (t.toList.flatMap Writer.escapeText) :=
      flatMap fun c _ => escapeText c
    have given := attributes (List.forall_mem_append.2
      ⟨plain, fun a ha => (own.attributes a ha).2⟩ : ∀ a ∈ first ++ l.attributes, IsPlainAttribute a)
    have behind := (text tail).append (ih after plain)
    have ends (closed : Bool) : Inert (tagEnd closed) := of_not_mem (by cases closed <;> decide)
    rw [Forest.write_cons own tagged]
    refine cons (by decide) (tag.append (given.append ?_))
    split_ifs
    · exact (ends true).append behind
    · have within : Inert (Writer.write written (writtenAttributes []) c) :=
        ihc inside fun a none => (List.not_mem_nil none).elim
      refine (ends false).append ((text t).append (within.append ?_))
      exact cons (by decide) (cons (by decide) (tag.append (cons (by decide) behind)))

end Inert

/-! ## Around the element -/

namespace Page

theorem after?_eq_none {word : String} {cs : List Char} (h : ¬ word.toList <+: cs) :
    after? word cs = none :=
  if_neg fun front => h (List.isPrefixOf_iff_prefix.1 front)

variable {name rest lead : List Char}

/-- Neither an instruction nor a declaration starts with an angle and a name. -/
theorem not_prefix_tag (plain : IsPlainName name) {c : Char} {word : List Char}
    (mark : isNameStart c = false) : ¬ '<' :: c :: word <+: '<' :: (name ++ rest) := by
  obtain ⟨d, back, rfl, start⟩ := plain.start
  rw [List.cons_append, List.cons_prefix_cons, List.cons_prefix_cons]
  rintro ⟨-, rfl, -⟩
  rw [mark] at start
  cases start

theorem skipSpace_lead (blank : ∀ c ∈ lead, isSpace c = true) (rest : List Char) :
    skipSpace (lead ++ '<' :: rest) = '<' :: rest := by
  unfold skipSpace
  rw [List.dropWhile_append_of_pos blank, List.dropWhile_cons_of_neg (by decide)]

/-- Nothing stands in front of the element but white space. -/
theorem prolog_written (plain : IsPlainName name) (blank : ∀ c ∈ lead, isSpace c = true) :
    prolog (lead ++ '<' :: (name ++ rest)) = .ok ({}, '<' :: (name ++ rest)) := by
  have undeclared : after? "<?xml" (lead ++ '<' :: (name ++ rest)) = none := by
    refine after?_eq_none ?_
    cases lead with
    | nil => exact not_prefix_tag plain (by decide)
    | cons c lead =>
      rw [List.cons_append]
      show ¬ '<' :: _ <+: _
      rw [List.cons_prefix_cons]
      rintro ⟨rfl, -⟩
      exact absurd (blank _ List.mem_cons_self) (by decide)
  have unlike (c : Char) (mark : isNameStart c = false) : ¬ ['<', c] <+: '<' :: (name ++ rest) :=
    not_prefix_tag plain mark
  have misc (fuel : Nat) :
      afterMisc? fuel.succ (lead ++ '<' :: (name ++ rest)) = some ('<' :: (name ++ rest)) := by
    rw [afterMisc?, skipSpace_lead blank]
    split
    · rename_i same
      exact absurd ⟨_, same.symm⟩ (unlike '!' (by decide))
    · rename_i same
      exact absurd ⟨_, same.symm⟩ (unlike '?' (by decide))
    · rfl
  have untyped : after? "<!" ('<' :: (name ++ rest)) = none :=
    after?_eq_none (not_prefix_tag plain (by decide))
  unfold prolog declaration?
  rw [undeclared]
  simp only [Doctype.need, bind, Except.bind, misc, untyped]
  rfl

/-- What a written element can be read back with: the attributes that bind its namespace, and the
bindings that they make. -/
structure Restores (written : String → String) (first : List (String × String)) (inner : Bindings)
    (f : Forest) : Prop where
  single : ∃ l t c, f = .cons l t c "" .nil ∧ ((first ++ l.attributes).map (·.1)).Nodup
  spelt : f.Spelt written
  plain : ∀ a ∈ first, IsPlainAttribute a
  binds : ∀ a ∈ first, (boundPrefix? a.1.toList).isSome = true
  extended : Bindings.initial.extend? (rawAttributes first) = some inner
  kept : ∀ l ∈ f.labels, l.Kept written inner

variable {written : String → String} {first : List (String × String)} {inner : Bindings} {f : Forest}

/-- A written element is read back with white space in front, its elements numbered from zero on. -/
theorem forest_written (h : Restores written first inner f) {lead : List Char}
    (blank : ∀ c ∈ lead, isSpace c = true) :
    forest (replaceNames 0 (lead ++ Writer.write written (writtenAttributes first) f)) =
      .ok (f.numbered 0) := by
  have inert : Inert lead := .of_not_mem fun amp => absurd (blank _ amp) (by decide)
  have untouched := (inert.append (.write h.spelt h.plain)) []
  rw [List.append_nil] at untouched
  rw [untouched, replaceNames, List.append_nil]
  obtain ⟨l, t, c, rfl, distinct⟩ := h.single
  obtain ⟨name, body, plain, text, tokens⟩ := Token.element?_written false h.spelt h.plain
  have unmarked (rest : List Char) : lead ++ '<' :: (name ++ body) ≠ '\uFEFF' :: rest := by
    cases lead with
    | nil => simp
    | cons c lead =>
      intro same
      obtain rfl := (List.cons.inj same).1
      exact absurd (blank _ List.mem_cons_self) (by decide)
  have opens : after? "<" ('<' :: (name ++ body)) = some (name ++ body) := rfl
  have marks := Mark.ofTokens?_root h.spelt h.kept distinct h.binds h.extended
  rw [text]
  unfold forest
  dsimp only
  split
  · rename_i same
    exact absurd same (unmarked _)
  rw [prolog_written plain blank]
  have lenient : ({} : Declarations).lenient = false := rfl
  have ends : afterMisc? ([] : List Char).length.succ [] = some [] := rfl
  simp only [bind, Except.bind, opens, Doctype.need, lenient, tokens, marks, ends, Forest.ofMarks_marks]
  rfl

/-! ## The document type -/

/-- A document type as it is set aside: it ends with its only angle. -/
def IsDoctype (cs : List Char) : Prop :=
  ∃ word more, cs = word ++ more ++ ['>'] ∧ word.map Char.toLower = "<!doctype".toList ∧ '>' ∉ more

/-- Only a letter becomes another character in lower case. -/
theorem eq_of_toLower {c d : Char} (mark : d.isLower = false) (h : c.toLower = d) : c = d := by
  unfold Char.toLower at h
  split_ifs at h with upper
  · exfalso
    subst h
    obtain ⟨low, high⟩ := upper
    unfold Char.isLower at mark
    simp only [ge_iff_le, Bool.and_eq_false_iff, decide_eq_false_iff_not,
      UInt32.le_iff_toNat_le, UInt32.toNat_add] at mark low high
    simp at mark low high
    omega
  · exact h

theorem angle_not_mem {word : List Char} {known : String} (same : word.map Char.toLower = known.toList)
    (open' : '>' ∉ known.toList) : '>' ∉ word :=
  fun angle => open' (same ▸ List.mem_map_of_mem (f := Char.toLower) angle)

theorem isDoctype_of_parts {body after doctype rest : List Char}
    (typed : afterAnyCase? "<!doctype" body = some after)
    (through : throughAngle? body = some (doctype, rest)) : IsDoctype doctype := by
  unfold afterAnyCase? at typed
  unfold throughAngle? at through
  split_ifs at typed with word
  have solid := angle_not_mem word (by decide)
  have parts : body = body.take "<!doctype".length ++ body.drop "<!doctype".length :=
    (List.take_append_drop _ body).symm
  split at through
  · rename_i angle rest ends
    cases through
    have closing := List.head?_dropWhile_not (· != '>') body
    rw [ends] at closing
    obtain rfl : angle = '>' := by simpa using closing
    refine ⟨body.take "<!doctype".length, (body.drop "<!doctype".length).takeWhile (· != '>'), ?_, word,
      fun inside => by simpa using List.mem_takeWhile_imp inside⟩
    have inside : ∀ c ∈ body.take "<!doctype".length, (c != '>') = true := fun c hc => by
      rw [bne_iff_ne]
      rintro rfl
      exact solid hc
    conv_lhs => rw [parts]
    rw [List.takeWhile_append_of_pos inside]
  · cases through

theorem isDoctype_of_splitDoctype {cs doctype rest : List Char}
    (h : splitDoctype cs = (some doctype, rest)) : IsDoctype doctype := by
  unfold splitDoctype at h
  dsimp only at h
  split at h
  · rename_i typed through
    cases h
    exact isDoctype_of_parts typed through
  · cases h

theorem afterAnyCase?_tag {c d : Char} {cs : List Char} {word : String} {more : List Char}
    (known : word.toList = '<' :: d :: more) (mark : d.isLower = false) (other : c ≠ d) :
    afterAnyCase? word ('<' :: c :: cs) = none := by
  refine if_neg fun same => other (eq_of_toLower mark ?_)
  rw [← String.length_toList, known, List.length_cons, List.length_cons, List.take_succ_cons,
    List.take_succ_cons, List.map_cons, List.map_cons] at same
  exact (List.cons.inj (List.cons.inj same).2).1

theorem exists_marks {word known : List Char} {d : Char} (mark : d.isLower = false)
    (same : word.map Char.toLower = '<' :: d :: known) : ∃ back, word = '<' :: d :: back := by
  rcases word with _ | ⟨c, _ | ⟨e, back⟩⟩
  · cases same
  · cases (List.cons.inj same).2
  · obtain ⟨first, more⟩ := List.cons.inj same
    exact ⟨back, by rw [eq_of_toLower (by decide) first, eq_of_toLower mark (List.cons.inj more).1]⟩

theorem afterAnyCase?_append {word : List Char} {known : String}
    (same : word.map Char.toLower = known.toList) (rest : List Char) :
    afterAnyCase? known (word ++ rest) = some rest := by
  have length : word.length = known.length := by
    rw [← List.length_map Char.toLower, same, String.length_toList]
  unfold afterAnyCase?
  rw [List.take_left' length, List.drop_left' length, if_pos same]

theorem throughAngle?_append {front : List Char} (solid : '>' ∉ front) (rest : List Char) :
    throughAngle? (front ++ '>' :: rest) = some (front ++ ['>'], rest) := by
  have inside : ∀ c ∈ front, (c != '>') = true := fun c hc => bne_iff_ne.2 fun same => solid (same ▸ hc)
  unfold throughAngle?
  rw [List.dropWhile_append_of_pos inside, List.takeWhile_append_of_pos inside]
  simp

theorem span_blanks {lead : List Char} (blank : ∀ c ∈ lead, Text.isBlank c = true) (rest : List Char) :
    (lead ++ '<' :: rest).takeWhile Text.isBlank = lead ∧
      (lead ++ '<' :: rest).dropWhile Text.isBlank = '<' :: rest := by
  rw [List.takeWhile_append_of_pos blank, List.dropWhile_append_of_pos blank,
    List.takeWhile_cons_of_neg (by decide), List.dropWhile_cons_of_neg (by decide), List.append_nil]
  exact ⟨rfl, rfl⟩

/-- A declaration that opens a page, with the blanks after it, as the search for a document type passes
over it. -/
def IsOpening (cs : List Char) : Prop :=
  ∃ word inside blanks, cs = word ++ inside ++ ['?', '>'] ++ blanks ∧
    word.map Char.toLower = "<?xml".toList ∧ '>' ∉ inside ∧ ∀ c ∈ blanks, Text.isBlank c = true

/-- What may stand in front of the document type of a page: blanks, and perhaps a declaration. -/
structure IsFront (lead opening : List Char) : Prop where
  blank : ∀ c ∈ lead, Text.isBlank c = true
  opens : opening = [] ∨ IsOpening opening

theorem IsFront.bare : IsFront [] [] :=
  ⟨fun _ none => (List.not_mem_nil none).elim, .inl rfl⟩

theorem IsFront.angle {lead opening : List Char} (front : IsFront lead opening) (rest : List Char) :
    ∃ inside, opening ++ '<' :: rest = '<' :: inside := by
  rcases front.opens with rfl | ⟨word, inside, blanks, rfl, known, -⟩
  · exact ⟨_, rfl⟩
  · obtain ⟨back, rfl⟩ := exists_marks (d := '?') (by decide) known
    exact ⟨_, rfl⟩

theorem opening?_append {opening : List Char} (opens : opening = [] ∨ IsOpening opening)
    (more : List Char) :
    (opening? (opening ++ '<' :: '!' :: more)).getD ([], opening ++ '<' :: '!' :: more) =
      (opening, '<' :: '!' :: more) := by
  rcases opens with rfl | ⟨word, inside, blanks, rfl, known, solid, blank⟩
  · rw [List.nil_append]
    unfold opening?
    rw [afterAnyCase?_tag rfl (by decide) (by decide)]
    rfl
  · have closed : '>' ∉ word ++ inside ++ ['?'] := by
      simp [angle_not_mem known (by decide), solid]
    have parts : word ++ inside ++ ['?', '>'] ++ blanks ++ '<' :: '!' :: more =
        (word ++ inside ++ ['?']) ++ '>' :: (blanks ++ '<' :: '!' :: more) := by simp
    have named : afterAnyCase? "<?xml" (word ++ inside ++ ['?', '>'] ++ blanks ++ '<' :: '!' :: more) =
        some (inside ++ ['?', '>'] ++ blanks ++ '<' :: '!' :: more) := by
      simp only [List.append_assoc]
      exact afterAnyCase?_append known _
    have ends : ['?', '>'].isSuffixOf (word ++ inside ++ ['?'] ++ ['>']) = true :=
      List.isSuffixOf_iff_suffix.2 ⟨word ++ inside, by simp⟩
    obtain ⟨before, behind⟩ := span_blanks blank ('!' :: more)
    unfold opening?
    rw [named, parts, throughAngle?_append closed]
    dsimp only
    rw [if_pos ends, before, behind, Option.getD_some]
    simp

/-- A document type is set aside again where it stands in front. -/
theorem splitDoctype_append {lead opening doctype : List Char} (front : IsFront lead opening)
    (typed : IsDoctype doctype) (rest : List Char) :
    splitDoctype (lead ++ opening ++ doctype ++ rest) = (some doctype, lead ++ opening ++ rest) := by
  obtain ⟨word, more, rfl, known, solid⟩ := typed
  have closed : '>' ∉ word ++ more := by
    rw [List.mem_append, not_or]
    exact ⟨angle_not_mem known (by decide), solid⟩
  have word? : afterAnyCase? "<!doctype" (word ++ more ++ ['>'] ++ rest) =
      some (more ++ ['>'] ++ rest) := by
    simp only [List.append_assoc]
    exact afterAnyCase?_append known _
  have through : throughAngle? (word ++ more ++ ['>'] ++ rest) = some (word ++ more ++ ['>'], rest) := by
    rw [List.append_assoc _ ['>'], List.singleton_append, throughAngle?_append closed]
  obtain ⟨tail, opens⟩ : ∃ tail, word ++ more ++ ['>'] ++ rest = '<' :: '!' :: tail := by
    obtain ⟨back, rfl⟩ := exists_marks (d := '!') (by decide) known
    exact ⟨_, rfl⟩
  obtain ⟨inside, angle⟩ := front.angle ('!' :: tail)
  obtain ⟨before, behind⟩ := span_blanks front.blank inside
  rw [List.append_assoc _ _ rest, List.append_assoc, opens, angle]
  unfold splitDoctype
  dsimp only
  rw [before, behind, ← angle, opening?_append front.opens, ← opens]
  dsimp only
  rw [word?, through]

theorem splitDoctype_written {name : List Char} (plain : IsPlainName name) (body : List Char) :
    splitDoctype ('<' :: (name ++ body)) = (none, '<' :: (name ++ body)) := by
  obtain ⟨c, back, rfl, start⟩ := plain.start
  obtain ⟨-, -, -, bang, question⟩ := marks_of_start start
  have undeclared (cs : List Char) : opening? ('<' :: c :: cs) = none := by
    unfold opening?
    rw [afterAnyCase?_tag rfl (by decide) question]
  unfold splitDoctype
  dsimp only
  rw [List.cons_append, List.takeWhile_cons_of_neg (by decide), List.dropWhile_cons_of_neg (by decide),
    undeclared]
  dsimp only [Option.getD_none]
  rw [afterAnyCase?_tag rfl (by decide) bang]

/-! ## The whole page -/

variable {written : String → String} {first : List (String × String)} {inner : Bindings} {f : Forest}

/-- A written element with a document type on the line in front of it, where there is one. -/
def withDoctype : Option String → List Char → String
  | none, body => .ofList body
  | some doctype, body => doctype ++ "\n" ++ .ofList body

/-- A written element is read back together with the document type in front of it. -/
theorem read_written (h : Restores written first inner f) {doctype : Option String}
    (typed : ∀ s ∈ doctype, IsDoctype s.toList) :
    read (withDoctype doctype (Writer.write written (writtenAttributes first) f)) =
      .ok (doctype, f.numbered 0) := by
  unfold read withDoctype
  cases doctype with
  | none =>
    obtain ⟨l, t, c, rfl, -⟩ := h.single
    obtain ⟨name, body, plain, text, -⟩ := Token.element?_written false h.spelt h.plain
    have bare : ∀ c ∈ ([] : List Char), isSpace c = true := fun c none => (List.not_mem_nil none).elim
    have made := forest_written h bare
    rw [List.nil_append, text] at made
    dsimp only
    rw [String.toList_ofList, text, splitDoctype_written plain]
    simp only [bind, Except.bind, made]
    rfl
  | some doctype =>
    have made := forest_written h (List.forall_mem_singleton.2 rfl : ∀ c ∈ ['\n'], isSpace c = true)
    have line : "\n".toList = ['\n'] := rfl
    have split := splitDoctype_append .bare (typed doctype rfl)
    simp only [List.nil_append] at split
    dsimp only
    rw [String.append_assoc, String.toList_append, split, String.toList_append, line]
    simp only [String.toList_ofList, bind, Except.bind, made, Option.map_some, String.ofList_toList]
    rfl

end Page

end FormGate.Markup
