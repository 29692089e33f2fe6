import FormGate.Proofs.Markup.PageParts

/-!
# Pages without a document type

The search for a document type looks behind blanks and the declaration that opens a page. Where it finds
one, or only a declaration of another kind, no element can come, so on a page of parts it finds none
(`Page.splitDoctype_of_parts?`).
-/

namespace FormGate.Markup

namespace Page

/-- An element stands at the front, and no document type. -/
def Rooted (cs : List Char) : Prop :=
  after? "<" cs ≠ none ∧ after? "<!" cs = none

variable {cs rest : List Char}

theorem after?_of_first {word : String} {c d : Char} {more : List Char} (known : word.toList = d :: more)
    (other : c ≠ d) : after? word (c :: cs) = none :=
  after?_eq_none fun front => other (List.cons_prefix_cons.1 (known ▸ front)).1.symm

/-- Blanks that are no white space stand in front of no element. -/
theorem afterMisc?_blanks {lead : List Char} (blank : ∀ c ∈ lead, Text.isBlank c = true) {fuel : Nat}
    (h : afterMisc? fuel (lead ++ '<' :: cs) = some rest) (rooted : Rooted rest) :
    afterMisc? fuel ('<' :: cs) = some rest := by
  induction lead with
  | nil => exact h
  | cons c lead ih =>
    obtain ⟨own, others⟩ := List.forall_mem_cons.1 blank
    obtain ⟨fuel, rfl⟩ : ∃ n, fuel = n + 1 := by
      cases fuel with
      | zero => cases h
      | succ fuel => exact ⟨fuel, rfl⟩
    by_cases space : isSpace c = true
    · refine ih others ?_
      rw [List.cons_append, afterMisc?_succ] at h
      rw [afterMisc?_succ]
      rwa [show skipSpace (c :: (lead ++ '<' :: cs)) = skipSpace (lead ++ '<' :: cs) from
        List.dropWhile_cons_of_pos space] at h
    · have other : c ≠ '<' := fun same => absurd (same ▸ own) (by decide)
      rw [List.cons_append, afterMisc?_succ, skipSpace_cons (by simpa using space),
        after?_of_first rfl other, after?_of_first rfl other] at h
      cases h
      exact absurd (after?_of_first rfl other) rooted.1

theorem not_rooted_of_declaration {c : Char} (other : c ≠ '-') {fuel : Nat}
    (h : afterMisc? fuel ('<' :: '!' :: c :: cs) = some rest) : ¬ Rooted rest := by
  cases fuel with
  | zero => cases h
  | succ fuel =>
    have comment : after? "<!--" ('<' :: '!' :: c :: cs) = none := after?_eq_none fun front =>
      other (List.cons_prefix_cons.1 (List.cons_prefix_cons.1 (List.cons_prefix_cons.1 front).2).2).1.symm
    have instruction : after? "<?" ('<' :: '!' :: c :: cs) = none := rfl
    rw [afterMisc?_succ, skipSpace_cons (by decide), comment, instruction] at h
    cases h
    exact fun rooted => absurd rooted.2 (Option.some_ne_none (c :: cs))

/-- An instruction ends with the first angle, if a question mark stands in front of it. -/
theorem upTo?_angle {inside : List Char} (solid : '>' ∉ inside) {text after : List Char}
    (h : upTo? '?' '>' (inside ++ '?' :: '>' :: rest) = some (text, after)) : after = rest := by
  induction inside generalizing text with
  | nil =>
    cases h
    rfl
  | cons c inside ih =>
    rw [List.mem_cons, not_or] at solid
    have other : (inside ++ '?' :: '>' :: rest).head? ≠ some '>' := by
      cases inside with
      | nil => exact fun same => absurd (Option.some.inj same) (by decide)
      | cons d inside => exact fun same => solid.2 (Option.some.inj same ▸ List.mem_cons_self)
    rw [List.cons_append, upTo?, if_neg fun closing => other (beq_iff_eq.1 (Bool.and_eq_true_iff.1 closing).2)]
      at h
    split_ifs at h
    obtain ⟨⟨text, after⟩, later, same⟩ := Option.map_eq_some_iff.1 h
    cases same
    exact ih solid.2 later

theorem afterMisc?_instruction {inside : List Char} (solid : '>' ∉ inside) {fuel : Nat} {after : List Char}
    (h : afterMisc? fuel ('<' :: '?' :: (inside ++ '?' :: '>' :: rest)) = some after) :
    ∃ fuel', afterMisc? fuel' rest = some after := by
  cases fuel with
  | zero => cases h
  | succ fuel =>
    rw [afterMisc?_succ, skipSpace_cons (by decide)] at h
    obtain ⟨mid, closed, later⟩ := Option.bind_eq_some_iff.1 h
    unfold afterInstruction? at closed
    split at closed
    · rename_i given
      split_ifs at closed
      cases closed
      obtain ⟨text, found⟩ := upTo?_of_instruction? given
      rw [upTo?_angle solid found] at later
      exact ⟨fuel, later⟩
    · cases closed

theorem instruction_of_declaration? {d : Declarations} (h : declaration? cs = some (d, rest)) :
    rest = cs ∨ ∃ body inside, cs = '<' :: '?' :: body ∧ upTo? '?' '>' body = some (inside, rest) := by
  unfold declaration? at h
  split at h
  · rename_i c body opens
    split_ifs at h with longer
    · cases h
      exact .inl rfl
    · split at h
      · cases h
      · rename_i inside after ended
        obtain ⟨ss, -, h⟩ := Option.bind_eq_some_iff.1 h
        obtain ⟨standalone, -, h⟩ := Option.bind_eq_some_iff.1 h
        cases h
        refine .inr ⟨_, 'x' :: 'm' :: 'l' :: inside, eq_of_after? opens, ?_⟩
        have plain : ∀ d ∈ ['x', 'm', 'l'], d ≠ '?' ∧ isLegal d = true := by
          simp only [List.forall_mem_cons, List.not_mem_nil, false_imp_iff, implies_true, and_true]
          decide
        exact upTo?_of_front plain ended
  · cases h
  · cases h
    exact .inl rfl

theorem not_rooted_of_blanks {blanks : List Char} (blank : ∀ c ∈ blanks, Text.isBlank c = true) {c : Char}
    (other : c ≠ '-') {fuel : Nat} (h : afterMisc? fuel (blanks ++ '<' :: '!' :: c :: cs) = some rest) :
    ¬ Rooted rest :=
  fun rooted => not_rooted_of_declaration other (afterMisc?_blanks blank h rooted) rooted

/-- The declaration that the search for a document type passes over is an instruction. -/
theorem IsOpening.instruction {opening : List Char} (opens : IsOpening opening) :
    ∃ inside blanks, opening = '<' :: '?' :: (inside ++ '?' :: '>' :: blanks) ∧ '>' ∉ inside ∧
      ∀ c ∈ blanks, Text.isBlank c = true := by
  obtain ⟨word, inside, blanks, rfl, known, solid, blank⟩ := opens
  have open' := angle_not_mem known (by decide)
  obtain ⟨back, rfl⟩ := exists_marks (d := '?') (by decide) known
  simp only [List.mem_cons, not_or] at open'
  exact ⟨back ++ inside, blanks, by simp, by simp [open'.2.2, solid], blank⟩

/-- Behind what may stand in front of a document type comes no element but one with a document type. -/
theorem not_rooted_of_front {lead opening : List Char} (front : IsFront lead opening) {c : Char}
    (other : c ≠ '-') {d : Declarations}
    (h : front? (lead ++ opening ++ '<' :: '!' :: c :: cs) = some (d, rest)) : ¬ Rooted rest := by
  obtain ⟨more, angle⟩ := front.angle ('!' :: c :: cs)
  have whole : unmarked (lead ++ opening ++ '<' :: '!' :: c :: cs) = lead ++ '<' :: more := by
    rw [List.append_assoc, angle]
    cases lead with
    | nil => rfl
    | cons b lead =>
      have blank := front.blank b List.mem_cons_self
      exact unmarked_cons (fun same => absurd (same ▸ blank) (by decide)) _
  unfold front? at h
  rw [whole] at h
  obtain ⟨⟨d, mid⟩, declared, h⟩ := Option.bind_eq_some_iff.1 h
  obtain ⟨rest, around, same⟩ := Option.map_eq_some_iff.1 h
  cases same
  intro rooted
  rcases instruction_of_declaration? declared with rfl | ⟨body, inside, opened, ended⟩
  · have around := afterMisc?_blanks front.blank around rooted
    rw [← angle] at around
    rcases front.opens with rfl | opens
    · exact not_rooted_of_declaration other around rooted
    · obtain ⟨inside, blanks, rfl, solid, blank⟩ := opens.instruction
      simp only [List.cons_append, List.append_assoc] at around
      obtain ⟨fuel, later⟩ := afterMisc?_instruction solid around
      exact not_rooted_of_blanks blank other later rooted
  · obtain rfl : lead = [] := by
      cases lead with
      | nil => rfl
      | cons b lead =>
        have blank := front.blank b List.mem_cons_self
        exact absurd ((List.cons.inj opened).1 ▸ blank) (by decide)
    rw [List.nil_append, ← angle] at opened
    rcases front.opens with rfl | opens
    · exact absurd (List.cons.inj (List.cons.inj opened).2).1 (by decide)
    · obtain ⟨inside, blanks, rfl, solid, blank⟩ := opens.instruction
      simp only [List.cons_append, List.append_assoc, List.cons.injEq, true_and] at opened
      rw [← opened] at ended
      obtain rfl := upTo?_angle solid ended
      exact not_rooted_of_blanks blank other around rooted

/-- The front of a page that is compared with a word is as long as the word and equal to it up to case. -/
theorem word_of_afterAnyCase? {word : String} (h : afterAnyCase? word cs = some rest) :
    ∃ front, cs = front ++ rest ∧ front.map Char.toLower = word.toList := by
  unfold afterAnyCase? at h
  rw [Option.ite_none_right_eq_some] at h
  obtain ⟨known, same⟩ := h
  cases same
  exact ⟨_, (List.take_append_drop _ _).symm, known⟩

/-- The question mark in front of the angle that closes a declaration stands behind its word. -/
theorem exists_of_closes {word more : List Char} (known : word.map Char.toLower = "<?xml".toList)
    (closes : ['?', '>'] <:+ word ++ more ++ ['>']) : ∃ inside, more = inside ++ ['?'] := by
  obtain ⟨front, same⟩ := closes
  have ends : front ++ ['?'] = word ++ more := by
    have whole : front ++ ['?'] ++ ['>'] = word ++ more ++ ['>'] := by simpa using same
    exact List.append_cancel_right whole
  rcases List.eq_nil_or_concat more with rfl | ⟨inside, c, rfl⟩
  · rw [List.append_nil] at ends
    rw [← ends, List.map_append] at known
    have last := congrArg List.getLast? known
    rw [List.getLast?_append] at last
    exact absurd (Option.some.inj last) (by decide)
  · rw [List.concat_eq_append, ← List.append_assoc] at ends
    obtain ⟨-, last⟩ := List.append_inj' ends rfl
    exact ⟨inside, by rw [List.concat_eq_append, last]⟩

theorem parts_of_throughAngle? {front : List Char} (h : throughAngle? cs = some (front, rest)) :
    ∃ inside, front = inside ++ ['>'] ∧ cs = inside ++ '>' :: rest ∧ '>' ∉ inside := by
  unfold throughAngle? at h
  split at h
  · rename_i angle behind ends
    cases h
    have closing := List.head?_dropWhile_not (· != '>') cs
    rw [ends] at closing
    obtain rfl : angle = '>' := by simpa using closing
    have whole := List.takeWhile_append_dropWhile (p := (· != '>')) (l := cs)
    rw [ends] at whole
    exact ⟨_, rfl, whole.symm, fun inside => by simpa using List.mem_takeWhile_imp inside⟩
  · cases h

/-- A word without the mark that ends a front stands in the front. -/
theorem exists_of_append_mark {word inside after : List Char} {m : Char} (absent : m ∉ word)
    (h : word ++ after = inside ++ m :: rest) : ∃ more, inside = word ++ more := by
  rcases List.append_eq_append_iff.1 h with ⟨more, same, -⟩ | ⟨more, same, ends⟩
  · exact ⟨more, same⟩
  · cases more with
    | nil => exact ⟨[], by rw [same, List.append_nil, List.append_nil]⟩
    | cons d more =>
      obtain rfl := (List.cons.inj ends).1
      exact absurd (same ▸ List.mem_append_right inside List.mem_cons_self) absent

theorem isOpening_of_opening? {opening : List Char} (h : opening? cs = some (opening, rest)) :
    cs = opening ++ rest ∧ IsOpening opening := by
  unfold opening? at h
  split at h
  · rename_i after front behind named through
    rw [Option.ite_none_right_eq_some] at h
    obtain ⟨closes, same⟩ := h
    cases same
    obtain ⟨word, rfl, known⟩ := word_of_afterAnyCase? named
    obtain ⟨inside, rfl, whole, solid⟩ := parts_of_throughAngle? through
    obtain ⟨more, rfl⟩ := exists_of_append_mark (angle_not_mem known (by decide)) whole
    obtain ⟨inside, rfl⟩ := exists_of_closes known (List.isSuffixOf_iff_suffix.1 closes)
    have solid : '>' ∉ inside := fun angle => solid (by simp [angle])
    refine ⟨?_, word, inside, behind.takeWhile Text.isBlank, by simp, known, solid,
      fun c => List.mem_takeWhile_imp⟩
    rw [whole, ← List.takeWhile_append_dropWhile (p := Text.isBlank) (l := behind)]
    simp
  · cases h

theorem splitDoctype_cases (cs : List Char) :
    splitDoctype cs = (none, cs) ∨ ∃ lead opening c more, IsFront lead opening ∧ c ≠ '-' ∧
      cs = lead ++ opening ++ '<' :: '!' :: c :: more := by
  have parts : cs = cs.takeWhile Text.isBlank ++ cs.dropWhile Text.isBlank :=
    (List.takeWhile_append_dropWhile ..).symm
  obtain ⟨opening, body, found, front, whole⟩ : ∃ opening body,
      (opening? (cs.dropWhile Text.isBlank)).getD ([], cs.dropWhile Text.isBlank) = (opening, body) ∧
        IsFront (cs.takeWhile Text.isBlank) opening ∧ cs.dropWhile Text.isBlank = opening ++ body := by
    have blank : ∀ c ∈ cs.takeWhile Text.isBlank, Text.isBlank c = true := fun c => List.mem_takeWhile_imp
    cases opens : opening? (cs.dropWhile Text.isBlank) with
    | none => exact ⟨[], _, rfl, ⟨blank, .inl rfl⟩, rfl⟩
    | some p =>
      obtain ⟨whole, opens⟩ := isOpening_of_opening? opens
      exact ⟨p.1, p.2, rfl, ⟨blank, .inr opens⟩, whole⟩
  unfold splitDoctype
  dsimp only
  rw [found]
  dsimp only
  cases typed : afterAnyCase? "<!doctype" body with
  | none => exact .inl rfl
  | some after =>
    right
    obtain ⟨word, rfl, known⟩ := word_of_afterAnyCase? typed
    obtain ⟨back, rfl⟩ := exists_marks (d := '!') (by decide) known
    rw [whole] at parts
    cases back with
    | nil => cases known
    | cons c back =>
      refine ⟨_, opening, c, back ++ after, front, ?_, by simpa using parts⟩
      rintro rfl
      cases known

/-- No document type is found in front of a page of parts. -/
theorem splitDoctype_of_parts? {d : Declarations} {ps : List Part} (h : parts? cs = some (d, ps)) :
    splitDoctype cs = (none, cs) := by
  obtain ⟨rest, body, behind, found, angle, element, -⟩ := parts?_eq_some_iff.1 h
  refine (splitDoctype_cases cs).resolve_right ?_
  rintro ⟨lead, opening, c, more, front, other, rfl⟩
  exact not_rooted_of_front front other found ⟨by simp [angle], untyped_of_element? angle element⟩

end Page

end FormGate.Markup
