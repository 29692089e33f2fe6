import FormGate.Proofs.Pass.Applicable
import FormGate.Proofs.Pass.WriteBack
import FormGate.Proofs.Rule.Usable

/-!
# The message about a field that differs

A rule that compares a field with another one fails with a message in which a placeholder stands for the
label of the field, and in which the label of the other one is already spelt out. The placeholder is
filled in wherever it occurs, so also in the label of the other field. Each of the two labels is told as
it is if and only if the other field's declared name does not contain the placeholder, or the field's own
label is the placeholder (`Setup.mismatch_told`, `Setup.mismatch_garbled`).
-/

namespace FormGate

open Document Pass

namespace Verdict

/-! ## Filling in a label -/

variable {label cs : List Char} {c : Char}

theorem fill_placeholder (label rest : List Char) :
    fill label (placeholder.toList ++ rest) = label ++ fill label rest :=
  rfl

theorem fill_cons (other : ¬ placeholder.toList <+: c :: cs) :
    fill label (c :: cs) = c :: fill label cs := by
  rw [fill]
  rintro rest rfl rfl
  exact other ⟨rest, rfl⟩

/-- A text is the placeholder and more, or it goes on behind its first character. -/
theorem fill_cases {motive : List Char → Prop} (nil : motive [])
    (held : ∀ rest, motive rest → motive (placeholder.toList ++ rest))
    (cons : ∀ c cs, ¬ placeholder.toList <+: c :: cs → motive cs → motive (c :: cs))
    (cs : List Char) : motive cs := by
  induction cs using fill.induct with
  | case1 rest ih => exact held rest ih
  | case2 c cs other ih =>
    refine cons c cs ?_ ih
    rintro ⟨rest, same⟩
    obtain ⟨rfl, rfl⟩ := List.cons.inj same
    exact other rest rfl rfl
  | case3 => exact nil

theorem fill_append {xs : List Char} (none : '{' ∉ xs) (cs : List Char) :
    fill label (xs ++ cs) = xs ++ fill label cs := by
  induction xs with
  | nil => rfl
  | cons x xs ih =>
    rw [List.mem_cons, not_or] at none
    have other : ¬ placeholder.toList <+: x :: (xs ++ cs) :=
      fun ⟨rest, same⟩ => none.1 (List.cons.inj same).1
    rw [List.cons_append, fill_cons other, ih none.2, List.cons_append]

theorem fill_concat (foreign : c ∉ placeholder.toList) :
    fill label (cs ++ [c]) = fill label cs ++ [c] := by
  induction cs using fill_cases with
  | nil =>
    refine fill_cons fun ⟨rest, same⟩ => foreign ?_
    rw [← (List.cons.inj same).1]
    decide
  | held rest ih => rw [List.append_assoc, fill_placeholder, fill_placeholder, ih, List.append_assoc]
  | cons d cs other ih =>
    have still : ¬ placeholder.toList <+: d :: (cs ++ [c]) := by
      rw [← List.cons_append, List.prefix_concat_iff]
      rintro (whole | earlier)
      · exact foreign (whole ▸ by simp)
      · exact other earlier
    rw [List.cons_append, fill_cons still, fill_cons other, ih, List.cons_append]

theorem le_length_fill (long : placeholder.length ≤ label.length) (cs : List Char) :
    cs.length ≤ (fill label cs).length := by
  have six : placeholder.length = placeholder.toList.length := rfl
  induction cs using fill_cases with
  | nil => exact Nat.zero_le _
  | held rest ih =>
    rw [fill_placeholder, List.length_append, List.length_append]
    omega
  | cons c cs other ih =>
    rw [fill_cons other, List.length_cons, List.length_cons]
    omega

theorem length_fill_le (short : label.length ≤ placeholder.length) (cs : List Char) :
    (fill label cs).length ≤ cs.length := by
  have six : placeholder.length = placeholder.toList.length := rfl
  induction cs using fill_cases with
  | nil => exact Nat.le_refl _
  | held rest ih =>
    rw [fill_placeholder, List.length_append, List.length_append]
    omega
  | cons c cs other ih =>
    rw [fill_cons other, List.length_cons, List.length_cons]
    omega

theorem eq_placeholder_of_fill_eq {rest : List Char}
    (same : fill label (placeholder.toList ++ rest) = placeholder.toList ++ rest) :
    label = placeholder.toList := by
  have six : placeholder.length = placeholder.toList.length := rfl
  rw [fill_placeholder] at same
  have lengths := congrArg List.length same
  rw [List.length_append, List.length_append] at lengths
  have length : label.length = placeholder.toList.length := by
    rcases Nat.le_total label.length placeholder.length with short | long
    · have := length_fill_le short rest
      omega
    · have := le_length_fill long rest
      omega
  exact List.append_inj_left same length

theorem fill_self (cs : List Char) : fill placeholder.toList cs = cs := by
  induction cs using fill_cases with
  | nil => rfl
  | held rest ih => rw [fill_placeholder, ih]
  | cons c cs other ih => rw [fill_cons other, ih]

/-- A text is untouched by a label exactly if it holds no placeholder, or if the label is one. -/
theorem fill_eq_self_iff :
    fill label cs = cs ↔ ¬ placeholder.toList <:+: cs ∨ label = placeholder.toList := by
  by_cases same : label = placeholder.toList
  · rw [same, fill_self]
    exact iff_of_true rfl (.inr rfl)
  · rw [or_iff_left same]
    induction cs using fill_cases with
    | nil => exact iff_of_true rfl (by decide)
    | held rest ih =>
      refine iff_of_false (fun unchanged => same (eq_placeholder_of_fill_eq unchanged)) ?_
      exact not_not_intro (List.prefix_append _ _).isInfix
    | cons c cs other ih =>
      rw [fill_cons other, List.cons_inj_right, ih, List.infix_cons_iff, or_iff_right other]

end Verdict

/-! ## Labels -/

namespace Text

theorem eq_of_ofNat_eq_brace {n : Nat} (same : Char.ofNat n = '{') : n = 0x7B := by
  by_cases valid : n.isValidChar
  · rw [show Char.ofNat n = Char.ofNatAux n valid from dif_pos valid] at same
    exact congrArg Char.toNat same
  · rw [show Char.ofNat n = ⟨0, .inl (by decide)⟩ from dif_neg valid] at same
    exact absurd same (by decide)

theorem brace_not_mem_upperChar {c : Char} (other : c ≠ '{') : '{' ∉ LetterCase.upperChar c := by
  have letters : ∀ n < 0x80, (Char.ofNat n).toUpper = '{' → Char.ofNat n = '{' := by decide +kernel
  have runs : ∀ r ∈ LetterCase.upperRuns, 0x7B - r.shift < r.low ∨ r.high < 0x7B - r.shift := by
    decide +kernel
  have expansions : ∀ p ∈ LetterCase.upperExpansions, 0x7B ∉ p.2 := by decide +kernel
  intro member
  unfold LetterCase.upperChar at member
  split_ifs at member with ascii
  · have same := letters c.toNat ascii
    rw [Char.ofNat_toNat] at same
    exact other (same (List.mem_singleton.1 member).symm)
  · split at member
    · rename_i ns found
      obtain ⟨n, listed, same⟩ := List.mem_map.1 member
      obtain ⟨before, after, split, -⟩ := List.lookup_eq_some_iff.1 found
      exact expansions (c.toNat, ns) (by simp [split]) (eq_of_ofNat_eq_brace same ▸ listed)
    · have shifted := (List.mem_singleton.1 member).symm
      unfold LetterCase.shifted at shifted
      split at shifted
      · rename_i r found
        have code := eq_of_ofNat_eq_brace shifted
        have covered := List.find?_some found
        have apart := runs r (List.mem_of_find?_eq_some found)
        simp only [LetterCase.Run.covers, Bool.and_eq_true, decide_eq_true_eq] at covered
        omega
      · exact other shifted

end Text

namespace Verdict

theorem placeholder_infix_append {xs : List Char} (none : '{' ∉ xs) (cs : List Char) :
    placeholder.toList <:+: xs ++ cs ↔ placeholder.toList <:+: cs := by
  induction xs with
  | nil => rfl
  | cons x xs ih =>
    rw [List.mem_cons, not_or] at none
    have later : ¬ placeholder.toList <+: x :: (xs ++ cs) :=
      fun ⟨rest, same⟩ => none.1 (List.cons.inj same).1
    rw [List.cons_append, List.infix_cons_iff, or_iff_right later, ih none.2]

theorem placeholder_infix_upperChar (c : Char) (cs : List Char) :
    placeholder.toList <:+: Text.LetterCase.upperChar c ++ cs ↔ placeholder.toList <:+: c :: cs := by
  by_cases brace : c = '{'
  · rw [brace]
    rfl
  · have alone : '{' ∉ [c] := fun member => brace (List.mem_singleton.1 member).symm
    rw [placeholder_infix_append (Text.brace_not_mem_upperChar brace), ← List.singleton_append,
      placeholder_infix_append alone]

theorem placeholder_infix_map (cs : List Char) :
    placeholder.toList <:+: cs.map (fun c => if c = '_' then ' ' else c) ↔
      placeholder.toList <:+: cs := by
  rw [List.infix_map_iff]
  constructor
  · rintro ⟨part, inside, same⟩
    have kept : part.map (fun c => if c = '_' then ' ' else c) = part := by
      refine (List.map_congr_left fun c hc => ?_).trans (List.map_id part)
      refine if_neg fun underscore => ?_
      have blank : ' ' ∈ placeholder.toList := same ▸ List.mem_map.2 ⟨c, hc, if_pos underscore⟩
      exact absurd blank (by decide)
    rw [same, kept]
    exact inside
  · exact fun inside => ⟨_, inside, by decide⟩

end Verdict

namespace Field

open Verdict

theorem placeholder_infix_displayName {name : String} (named : name ≠ "") :
    placeholder.toList <:+: (displayName (some name)).toList ↔ placeholder.toList <:+: name.toList := by
  have label : displayName (some name) = Text.capitalised (name.map fun c => if c = '_' then ' ' else c) :=
    if_neg (by rwa [String.isEmpty_iff])
  rw [label, ← placeholder_infix_map name.toList, Text.capitalised, String.toList_map]
  cases name.toList.map fun c => if c = '_' then ' ' else c with
  | nil => rfl
  | cons c cs => rw [String.toList_ofList, placeholder_infix_upperChar]

end Field

namespace Setup

variable (s : Setup)

/-! ## The message -/

section Fold

variable (f : Descriptor) (checked : Bool) (scope : Option Element) (d : Document)

/-- The messages so far are kept, and say nothing to the rules that follow. -/
theorem foldl_advance (rules : List Rule) (value : String) (errors : List String) :
    rules.foldl (s.advance f checked scope d) ⟨value, errors⟩ =
      ⟨(rules.foldl (s.advance f checked scope d) ⟨value, []⟩).value,
        errors ++ (rules.foldl (s.advance f checked scope d) ⟨value, []⟩).errors⟩ := by
  have step (value : String) (errors : List String) (r : Rule) :
      s.advance f checked scope d ⟨value, errors⟩ r =
        ⟨(s.advance f checked scope d ⟨value, []⟩ r).value,
          errors ++ (s.advance f checked scope d ⟨value, []⟩ r).errors⟩ := by
    rw [advance_eq, advance_eq]
    dsimp only
    cases s.foundOn d scope r ⟨value, f.kind, r.parameter, checked⟩ with
    | error e => exact congrArg (Progress.mk _) (List.append_nil _).symm
    | ok v => rfl
  induction rules generalizing value errors with
  | nil => exact congrArg (Progress.mk _) (List.append_nil _).symm
  | cons r rules ih =>
    rw [List.foldl_cons, List.foldl_cons, step, ih, step value [], ih _ ([] ++ _), List.nil_append,
      List.append_assoc]

end Fold

/-- A reference that leads to one field with a name leads to its name and the value that its own rules
make of it. -/
theorem referredOn_of_leads {d : Document} {scope : Option Element} {reference : String}
    {other : Element} (leads : d.resolve reference scope = [other]) {name : String}
    (declared : d.attribute? other "name" = some name) (named : name ≠ "") :
    s.referredOn d scope reference = .ok ⟨name, s.settledOn d other⟩ := by
  rw [referredOn, leads]
  dsimp only
  rw [declared]
  exact if_neg (by rwa [String.isEmpty_iff])

/-- How far some rules of a field come from what was found before. -/
def reached (f : Descriptor) (scope : Option Element) (d : Document) (p : Progress) (rules : List Rule) :
    Progress :=
  rules.foldl
    (s.advance f (d.ticked f.element f.kind) (scope.or (d.closestForm? f.element)) d) p

/-- What is said of a field that differs from another one. -/
def mismatch (label other : String) : String :=
  label ++ " must match " ++ other ++ "."

theorem fillMessage_mismatch (label other : String) :
    Verdict.fillMessage label (Verdict.placeholder ++ (" must match " ++ other ++ ".")) =
      mismatch label (Verdict.fillMessage label other) := by
  rw [← String.toList_inj, mismatch, Verdict.fillMessage, Verdict.fillMessage]
  have chars : (Verdict.placeholder ++ (" must match " ++ other ++ ".")).toList =
      Verdict.placeholder.toList ++ (" must match ".toList ++ (other.toList ++ ['.'])) := by
    simp
  rw [String.toList_ofList, chars, Verdict.fill_placeholder, Verdict.fill_append (by decide),
    Verdict.fill_concat (by decide)]
  simp

/-- What a rule that compares a value with another field finds. -/
theorem foundOn_matching {d : Document} {scope : Option Element} {r : Rule} {q : Question}
    {c : Definition} (registered : s.catalog.get? r.name = some c)
    (compares : c.judge = Builtin.matching.judge) {reference : String}
    (parameter : q.parameter = some reference) (given : reference ≠ "") {other : Element}
    (leads : d.resolve reference scope = [other]) {name : String}
    (declared : d.attribute? other "name" = some name) (named : name ≠ "") :
    s.foundOn d scope r q =
      .ok (if q.value = s.settledOn d other then .passed
        else .failed (Verdict.placeholder ++ (" must match " ++ Field.displayName (some name) ++ "."))) := by
  rw [foundOn, registered]
  dsimp only
  rw [compares, Builtin.judge_matching parameter given, Judgement.settleWith_consult,
    s.referredOn_of_leads leads declared named]
  simp only [← beq_iff_eq (a := q.value)]
  rfl

/-- A field is judged by all its rules. One of them that compares it with another field fails exactly if
the value to which the rules before it have led is not the one of the other field, and it adds one message
to those of the rules before it and behind it. The message names both fields, but in the label of the other
one the placeholder is filled in too. So it has the two labels as they are exactly if the other field's
declared name does not contain the placeholder, or the label of the field is the placeholder. -/
theorem mismatch_told {f : Descriptor} {scope : Option Element} {d : Document} {before after : List Rule}
    {r : Rule} (rules : f.rules = before ++ r :: after) {c : Definition}
    (registered : s.catalog.get? r.name = some c) (compares : c.judge = Builtin.matching.judge)
    {reference : String} (parameter : r.parameter = some reference) (given : reference ≠ "")
    {other : Element} (leads : d.resolve reference (scope.or (d.closestForm? f.element)) = [other])
    {name : String} (declared : d.attribute? other "name" = some name) (named : name ≠ "") :
    let p := s.reached f scope d ⟨d.value f.element, []⟩ before
    let label := s.labelOf f
    let message := mismatch label (Verdict.fillMessage label (Field.displayName (some name)))
    (∃ o d', (s.evaluate f scope).Yields d o d' ∧
      o.errors = p.errors ++ (if p.value = s.settledOn d other then [] else [message]) ++
        (s.reached f scope d ⟨p.value, []⟩ after).errors) ∧
    (message = mismatch label (Field.displayName (some name)) ↔
      ¬ Verdict.placeholder.toList <:+: name.toList ∨ label = Verdict.placeholder) := by
  intro p label message
  constructor
  · obtain ⟨ts, applied⟩ := s.exists_foldl_advance f (d.ticked f.element f.kind)
      (scope.or (d.closestForm? f.element)) d f.rules ⟨d.value f.element, []⟩
    refine ⟨_, _, s.yields_evaluate applied.yields, ?_⟩
    -- the rule leaves the running value as it is, so that those behind it go on from there
    have own : s.advance f (d.ticked f.element f.kind) (scope.or (d.closestForm? f.element)) d p r =
        ⟨p.value, p.errors ++ if p.value = s.settledOn d other then [] else [message]⟩ := by
      rw [advance_eq, s.foundOn_matching registered compares parameter given leads declared named]
      split_ifs
      · rfl
      · exact congrArg (fun m => Progress.mk p.value (p.errors ++ [m])) (fillMessage_mismatch _ _)
    rw [rules, List.foldl_append, List.foldl_cons]
    show (after.foldl _ (s.advance _ _ _ _ p r)).errors = _
    rw [own, foldl_advance]
    rfl
  · have labels : message = mismatch label (Field.displayName (some name)) ↔
        Verdict.fillMessage label (Field.displayName (some name)) = Field.displayName (some name) := by
      refine ⟨fun same => ?_, congrArg (mismatch label)⟩
      simpa [message, mismatch] using same
    rw [labels, ← Field.placeholder_infix_displayName named, Verdict.fillMessage,
      ← String.toList_inj, String.toList_ofList, Verdict.fill_eq_self_iff, String.toList_inj]

/-! ## A name with a placeholder -/

/-- A field that is compared with one of the given name and another value. -/
def compared (name : String) : Document where
  tree := .cons ⟨0, .element "form", []⟩ ""
    (.cons ⟨1, .element "input",
        [("name", "a"), ("value", "x"), ("data-validate-validation", "required|matches[#b]")]⟩ "" .nil ""
      (.cons ⟨2, .element "input", [("id", "b"), ("name", name), ("value", "y")]⟩ "" .nil "" .nil)) "" .nil
  fresh := 3

theorem mismatch_told_plainly :
    let d := compared "repeat_it"
    ∃ o d', (evaluate {} (descriptor {} d 1) none).Yields d o d' ∧ o.errors = ["A must match Repeat it."] := by
  intro d
  have rules : (descriptor {} d 1).rules = [⟨"required", none⟩] ++ ⟨"matches", some "#b"⟩ :: [] := by
    decide +kernel
  have leads : d.resolve "#b" ((none : Option Element).or (d.closestForm? 1)) = [2] := by decide +kernel
  have declared : d.attribute? 2 "name" = some "repeat_it" := rfl
  obtain ⟨⟨o, d', evaluated, errors⟩, -⟩ :=
    mismatch_told {} rules rfl rfl rfl (by decide) leads declared (by decide)
  refine ⟨o, d', evaluated, errors.trans ?_⟩
  decide +kernel

/-- Where the other field's name contains the placeholder, the message has the label of the field in the
label of the other one. -/
theorem mismatch_garbled :
    let d := compared "b\x7bname\x7d"
    ∃ o d', (evaluate {} (descriptor {} d 1) none).Yields d o d' ∧ o.errors = ["A must match BA."] ∧
      mismatch (labelOf {} (descriptor {} d 1)) (Field.displayName (some "b\x7bname\x7d")) =
        "A must match B\x7bname\x7d." := by
  intro d
  have applied : (applying {} (descriptor {} d 1) none d).Yields d ⟨"x", ["A must match BA."]⟩ d := by
    unfold Yields
    decide +kernel
  exact ⟨_, _, yields_evaluate {} applied, rfl, by decide +kernel⟩

end Setup

end FormGate
