import FormGate.Proofs.Document.Reading

/-!
# The element that a page is read as

What is read of a page is one element with all that it holds: the tokens end with the one that closes
it. The tag of each element is a name, with the namespace in braces in front of it where it has one.
-/

namespace FormGate

open Markup

namespace Markup

namespace Token

/-- The name in an opening tag starts as a name does. -/
def Named : Token → Prop
  | opening (c :: _) _ => isNameStart c = true
  | opening [] _ => False
  | _ => True

/-- Tokens of which the last one closes the outermost of so many open elements. -/
inductive Closing : Nat → List Token → Prop
  | done : Closing 0 []
  | step {k : Nat} {t : Token} {ts : List Token} (named : t.Named)
      (later : Closing (depthAfter (k + 1) t) ts) : Closing (k + 1) (t :: ts)

theorem depth_chars (k : Nat) (cs : List Char) : (cs.map char).foldl depthAfter k = k := by
  induction cs with
  | nil => rfl
  | cons c cs ih => exact ih

theorem Closing.chars {k : Nat} {ts : List Token} (closing : Closing (k + 1) ts) (cs : List Char) :
    Closing (k + 1) (cs.map char ++ ts) := by
  induction cs with
  | nil => exact closing
  | cons c cs ih => exact .step trivial ih

theorem named_of_plainName? {cs name rest : List Char} (h : plainName? cs = some (name, rest)) :
    ∃ c back, name = c :: back ∧ isNameStart c = true := by
  cases cs with
  | nil => cases h
  | cons c cs =>
    rw [plainName?] at h
    split_ifs at h with start
    cases h
    exact ⟨c, _, rfl, start⟩

theorem named_of_qualifiedName? {cs name rest : List Char}
    (h : qualifiedName? cs = some (name, rest)) : ∃ c back, name = c :: back ∧ isNameStart c = true := by
  unfold qualifiedName? at h
  split at h
  · rename_i front rest' plain
    obtain ⟨c, back, rfl, start⟩ := named_of_plainName? plain
    split at h
    · cases h
    · cases h
      exact ⟨c, _, rfl, start⟩
    · cases h
  · exact named_of_plainName? h

theorem closing_of_openingTag? {lenient : Bool} {cs rest : List Char} {ts ts' : List Token}
    (h : openingTag? lenient cs = some (ts, rest)) {k : Nat}
    (later : Closing (ts.foldl depthAfter k) ts') :
    ∃ name attributes more, ts ++ ts' = opening name attributes :: more ∧
      (opening name attributes).Named ∧ Closing (k + 1) more := by
  unfold openingTag? at h
  split at h
  · cases h
  · rename_i name rest' qualified
    obtain ⟨c, back, rfl, start⟩ := named_of_qualifiedName? qualified
    split at h
    · cases h
    · rename_i attributes closed rest'' given
      cases h
      refine ⟨_, _, _, rfl, start, ?_⟩
      cases closed with
      | false => exact later
      | true => exact .step trivial later

theorem closing_of_next? {lenient : Bool} {cs rest : List Char} {ts ts' : List Token}
    (h : next? lenient cs = some (ts, rest)) {k : Nat}
    (later : Closing (ts.foldl depthAfter (k + 1)) ts') : Closing (k + 1) (ts ++ ts') := by
  -- all but tags are characters, if anything
  have chars (cs : List Char) (same : ts = cs.map char) : Closing (k + 1) (ts ++ ts') := by
    rw [same, depth_chars] at later
    rw [same]
    exact later.chars cs
  unfold next? at h
  split at h
  · cases h
  · obtain ⟨after, -, same⟩ := Option.map_eq_some_iff.1 h
    exact chars [] (congrArg Prod.fst same).symm
  · split at h
    · obtain ⟨p, -, same⟩ := Option.map_eq_some_iff.1 h
      exact chars _ (congrArg Prod.fst same).symm
    · cases h
  · obtain ⟨after, -, same⟩ := Option.map_eq_some_iff.1 h
    exact chars [] (congrArg Prod.fst same).symm
  · unfold closingTag? at h
    dsimp only at h
    split at h
    · cases h
      exact .step trivial later
    · cases h
  · obtain ⟨name, attributes, more, same, named, closing⟩ := closing_of_openingTag? h later
    rw [same]
    exact .step named closing
  · unfold reference? at h
    split at h
    · cases h
      exact .step trivial later
    · cases h
  · cases h
  · cases h
    exact .step trivial later
  · cases h
    exact .step trivial later
  · split_ifs at h
    cases h
    exact .step trivial later

theorem closing_of_content? {lenient : Bool} {fuel depth : Nat} {cs rest : List Char}
    {ts : List Token} (h : content? lenient fuel depth cs = some (ts, rest)) : Closing depth ts := by
  induction fuel generalizing depth cs rest ts with
  | zero =>
    cases depth with
    | zero =>
      cases h
      exact .done
    | succ depth => cases h
  | succ fuel ih =>
    cases depth with
    | zero =>
      cases h
      exact .done
    | succ depth =>
      rw [content?] at h
      split at h
      · cases h
      · rename_i ts₁ rest₁ first
        obtain ⟨p, later, same⟩ := Option.map_eq_some_iff.1 h
        cases same
        exact closing_of_next? first (ih later)

theorem closing_of_element? {lenient : Bool} {cs rest : List Char} {ts : List Token}
    (h : element? lenient cs = some (ts, rest)) :
    ∃ name attributes more, ts = opening name attributes :: more ∧
      (opening name attributes).Named ∧ Closing 1 more := by
  unfold element? at h
  split at h
  · cases h
  · rename_i ts₁ rest₁ first
    obtain ⟨p, later, same⟩ := Option.map_eq_some_iff.1 h
    cases same
    exact closing_of_openingTag? first (closing_of_content? later)

end Token

/-! ## Tags -/

theorem space_of_braces (space name : List Char) :
    ∃ s, (Tag.element (.ofList ('\x7b' :: space ++ '\x7d' :: name))).space = .ok s := by
  unfold Tag.space
  dsimp only
  rw [String.toList_ofList]
  dsimp only [List.cons_append]
  rw [if_pos (by simp)]
  exact ⟨_, rfl⟩

/-- A name that starts as a name does is a tag without a namespace. -/
theorem space_of_named {c : Char} {name : List Char} (start : isNameStart c = true) :
    ∃ s, (Tag.element (.ofList (c :: name))).space = .ok s := by
  have other : c ≠ '\x7b' := by
    rintro rfl
    revert start
    decide
  unfold Tag.space
  dsimp only
  rw [String.toList_ofList]
  split
  · rename_i cs same
    exact absurd (List.cons.inj same).1 other
  · exact ⟨"", rfl⟩

theorem splitPrefix_of_bare {c : Char} {name : List Char} (start : isNameStart c = true)
    (bare : (splitPrefix (c :: name)).1.isEmpty = true) : (splitPrefix (c :: name)).2 = c :: name := by
  have other : (c != ':') = true := by
    rw [bne_iff_ne]
    rintro rfl
    revert start
    decide
  unfold splitPrefix at bare ⊢
  split at bare
  · rw [List.takeWhile_cons_of_pos (p := fun x => x != ':') other] at bare
    cases bare
  · rfl

/-- An element whose name starts as a name does has a well-formed tag. -/
theorem space_of_label? {d : Declarations} {b inner : Bindings} {id : Nat} {name : List Char}
    {given : List RawAttribute} {l : Label} (named : (Token.opening name given).Named)
    (h : label? d b id name given = some (l, inner)) : ∃ s, l.tag.space = .ok s := by
  cases name with
  | nil => exact named.elim
  | cons c name =>
    unfold label? at h
    obtain ⟨-, -, h⟩ := Option.bind_eq_some_iff.1 h
    obtain ⟨inside, -, h⟩ := Option.bind_eq_some_iff.1 h
    obtain ⟨attributes, -, h⟩ := Option.bind_eq_some_iff.1 h
    obtain ⟨-, -, h⟩ := Option.bind_eq_some_iff.1 h
    obtain ⟨tag, made, h⟩ := Option.bind_eq_some_iff.1 h
    cases h
    have made : inner.expand? (splitPrefix (c :: name)).1 (splitPrefix (c :: name)).2 = some tag := made
    unfold Bindings.expand? at made
    split at made
    · split_ifs at made with bound bare
      · cases made
        exact space_of_braces _ _
      · cases made
        rw [splitPrefix_of_bare named bare]
        exact space_of_named named
    · split_ifs at made with bare
      cases made
      rw [splitPrefix_of_bare named bare]
      exact space_of_named named

/-! ## Marks -/

namespace Mark

/-- Marks made of tokens that close the outermost element in the end leave one run for each element
that is open, and nothing around them. -/
theorem runs_of_closing {d : Declarations} {k : Nat} {ts : List Token} (closing : Token.Closing k ts) :
    ∀ {inside : Bindings} {opened : List Opened} {next : Nat} {marks : List Mark},
      ofTokens? d inside opened next ts = some marks →
      ∃ runs, marks.foldr push [([], .nil)] = runs ++ [([], .nil)] ∧ runs.length = k ∧
        ∀ run ∈ runs, ∀ l ∈ run.2.labels, ∃ s, l.tag.space = .ok s := by
  induction closing with
  | done =>
    intro inside opened next marks h
    rw [ofTokens?] at h
    split_ifs at h
    cases h
    exact ⟨[], rfl, rfl, fun _ none => absurd none List.not_mem_nil⟩
  | @step k t ts named later ih =>
    intro inside opened next marks h
    cases t with
    | char c =>
      rw [ofTokens?] at h
      obtain ⟨marks, rest, rfl⟩ := Option.map_eq_some_iff.1 h
      obtain ⟨runs, made, length, tags⟩ := ih rest
      obtain ⟨⟨text, f⟩, runs, rfl⟩ := List.exists_cons_of_length_eq_add_one length
      rw [List.foldr_cons, made]
      exact ⟨(c :: text, f) :: runs, rfl, length,
        List.forall_mem_cons.2 (List.forall_mem_cons.1 tags)⟩
    | opening name attributes =>
      rw [ofTokens?] at h
      split at h
      · cases h
      · rename_i label inner labelled
        obtain ⟨marks, rest, rfl⟩ := Option.map_eq_some_iff.1 h
        obtain ⟨runs, made, length, tags⟩ := ih rest
        obtain ⟨⟨text, children⟩, runs, rfl⟩ := List.exists_cons_of_length_eq_add_one length
        obtain ⟨⟨tail, behind⟩, runs, rfl⟩ :=
          List.exists_cons_of_length_eq_add_one (Nat.succ.inj length)
        rw [List.forall_mem_cons, List.forall_mem_cons] at tags
        obtain ⟨inside, after, tags⟩ := tags
        rw [List.foldr_cons, made]
        refine ⟨([], .cons label (.ofList text) children (.ofList tail) behind) :: runs, rfl,
          Nat.succ.inj length, List.forall_mem_cons.2 ⟨?_, tags⟩⟩
        rw [Forest.labels, List.forall_mem_cons, List.forall_mem_append]
        exact ⟨space_of_label? named labelled, inside, after⟩
    | closing name =>
      cases opened with
      | nil => cases h
      | cons o opened =>
        rw [ofTokens?] at h
        split_ifs at h with same
        obtain ⟨marks, rest, rfl⟩ := Option.map_eq_some_iff.1 h
        obtain ⟨runs, made, length, tags⟩ := ih rest
        rw [List.foldr_cons, made]
        exact ⟨([], .nil) :: runs, rfl, congrArg (· + 1) length,
          List.forall_mem_cons.2 ⟨fun _ none => absurd none List.not_mem_nil, tags⟩⟩

/-- Tokens of one element make up a forest of one element. -/
theorem exists_root {d : Declarations} {inside : Bindings} {name : List Char}
    {attributes : List RawAttribute} {ts : List Token} {marks : List Mark}
    (named : (Token.opening name attributes).Named) (closing : Token.Closing 1 ts)
    (h : ofTokens? d inside [] 0 (.opening name attributes :: ts) = some marks) :
    ∃ l t c, (Forest.ofMarks marks).2 = .cons l t c "" .nil ∧
      ∀ l ∈ (Forest.ofMarks marks).2.labels, ∃ s, l.tag.space = .ok s := by
  rw [ofTokens?] at h
  split at h
  · cases h
  · rename_i label inner labelled
    obtain ⟨marks, rest, rfl⟩ := Option.map_eq_some_iff.1 h
    obtain ⟨runs, made, length, tags⟩ := runs_of_closing closing rest
    obtain ⟨⟨text, children⟩, rfl⟩ := List.length_eq_one_iff.1 length
    have root : (Forest.ofMarks (.opening label :: marks)).2 =
        .cons label (.ofList text) children "" .nil := by
      rw [Forest.ofMarks, List.foldr_cons, made]
      rfl
    rw [root]
    refine ⟨label, _, children, rfl, ?_⟩
    rw [Forest.labels, List.forall_mem_cons, List.forall_mem_append]
    exact ⟨space_of_label? named labelled, tags _ List.mem_cons_self,
      fun _ none => absurd none List.not_mem_nil⟩

end Mark

namespace Page

theorem root_of_forest {cs : List Char} {f : Forest} (h : Page.forest cs = .ok f) :
    ∃ l t c, f = .cons l t c "" .nil ∧ ∀ l ∈ f.labels, ∃ s, l.tag.space = .ok s := by
  unfold Page.forest at h
  obtain ⟨⟨d, rest⟩, -, h⟩ := bind_ok h
  obtain ⟨body, -, h⟩ := bind_ok h
  obtain ⟨⟨tokens, rest⟩, element, h⟩ := bind_ok h
  obtain ⟨marks, made, h⟩ := bind_ok h
  obtain ⟨rest, -, h⟩ := bind_ok h
  obtain ⟨name, attributes, ts, same, named, closing⟩ := Token.closing_of_element? (need_ok element)
  rw [same] at made
  split at h
  · cases h
    exact Mark.exists_root named closing (need_ok made)
  · cases h

end Page

end Markup

/-- A page that is read is one element, and all its tags are well formed. -/
theorem Document.root_of_ofText {text : String} {d : Document} (h : Document.ofText text = .ok d) :
    ∃ l t c, d.tree = .cons l t c "" .nil ∧ ∀ l ∈ d.tree.labels, ∃ s, l.tag.space = .ok s := by
  unfold ofText at h
  cases read : Page.read text with
  | error e =>
    rw [read] at h
    cases h
  | ok p =>
    rw [read] at h
    cases h
    unfold Page.read at read
    obtain ⟨f, made, read⟩ := Page.bind_ok read
    cases read
    exact Page.root_of_forest made

end FormGate
