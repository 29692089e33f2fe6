import FormGate.Proofs.Document.Root
import Mathlib.Data.Option.Basic

/-!
# Where the names on a page come from

Every tag and every attribute of a page that is read was written with a name that starts as names do,
or is declared with such a name. A namespace in front of it was bound to its prefix, and nothing can
be bound to the namespace of the binding attributes (`Document.sourced_ofText`).
-/

namespace FormGate

open Markup

theorem toOption_eq_some {ε α : Type} {x : Except ε α} {a : α} (h : x.toOption = some a) : x = .ok a := by
  cases x with
  | error e => cases h
  | ok b =>
    cases h
    rfl

namespace Markup

/-- Characters that start as a name does. -/
def StartsName (cs : List Char) : Prop :=
  ∃ c back, cs = c :: back ∧ isNameStart c = true

/-- A name behind a namespace in braces. -/
def InBraces (cs : List Char) : Prop :=
  ∃ space back, cs = '\x7b' :: space ++ '\x7d' :: back ∧ space ≠ [] ∧ space ≠ bindingNamespace ∧
    '\x7d' ∉ space

/-- A name as it is kept: as it was written, or behind its namespace. -/
def Expanded (cs : List Char) : Prop :=
  StartsName cs ∨ InBraces cs

/-- A label that was made of an opening tag. -/
structure Label.Sourced (l : Label) : Prop where
  tag : ∃ name, l.tag = .element (.ofList name) ∧ Expanded name
  nodup : (l.attributes.map (·.1)).Nodup
  attributes : ∀ a ∈ l.attributes, a.1 ≠ "xmlns" ∧ Expanded a.1.toList

/-! ## What is written in tags -/

namespace Token

/-- The names in an opening tag start as names do. -/
def Proper : Token → Prop
  | opening name attributes => StartsName name ∧ ∀ a ∈ attributes, StartsName a.1
  | _ => True

theorem startsName_of_attributes? {lenient closed : Bool} {fuel : Nat} {cs rest : List Char}
    {given : List RawAttribute} (h : attributes? lenient fuel cs = some (given, closed, rest)) :
    ∀ a ∈ given, StartsName a.1 := by
  induction fuel generalizing cs given with
  | zero => cases h
  | succ fuel ih =>
    rw [attributes?] at h
    split at h
    · cases h
      simp
    · cases h
      simp
    · split at h
      · cases h
      · split at h
        · cases h
        · rename_i name after qualified
          split at h
          · split at h
            · split at h
              · split at h
                · cases h
                · obtain ⟨⟨given', closed', rest'⟩, later, same⟩ := Option.map_eq_some_iff.1 h
                  cases same
                  exact List.forall_mem_cons.2 ⟨named_of_qualifiedName? qualified, ih later⟩
              · cases h
            · cases h
          · cases h

theorem proper_of_openingTag? {lenient : Bool} {cs rest : List Char} {ts : List Token}
    (h : openingTag? lenient cs = some (ts, rest)) : ∀ t ∈ ts, t.Proper := by
  unfold openingTag? at h
  split at h
  · cases h
  · rename_i name after qualified
    split at h
    · cases h
    · rename_i attributes closed after' given
      cases h
      refine List.forall_mem_cons.2
        ⟨⟨named_of_qualifiedName? qualified, startsName_of_attributes? given⟩, ?_⟩
      cases closed with
      | false => exact fun t none => (List.not_mem_nil none).elim
      | true => exact List.forall_mem_cons.2 ⟨trivial, fun t none => (List.not_mem_nil none).elim⟩

theorem proper_of_next? {lenient : Bool} {cs rest : List Char} {ts : List Token}
    (h : next? lenient cs = some (ts, rest)) : ∀ t ∈ ts, t.Proper := by
  have single (t : Token) (proper : t.Proper) (same : ts = [t]) : ∀ t ∈ ts, t.Proper := by
    rw [same]
    exact List.forall_mem_cons.2 ⟨proper, fun t none => (List.not_mem_nil none).elim⟩
  unfold next? at h
  split at h
  · cases h
  · obtain ⟨after, -, same⟩ := Option.map_eq_some_iff.1 h
    cases same
    exact fun t none => (List.not_mem_nil none).elim
  · split at h
    · obtain ⟨p, -, same⟩ := Option.map_eq_some_iff.1 h
      cases same
      intro t ht
      obtain ⟨c, -, rfl⟩ := List.mem_map.1 ht
      trivial
    · cases h
  · obtain ⟨after, -, same⟩ := Option.map_eq_some_iff.1 h
    cases same
    exact fun t none => (List.not_mem_nil none).elim
  · unfold closingTag? at h
    dsimp only at h
    split at h
    · cases h
      exact single (closing _) trivial rfl
    · cases h
  · exact proper_of_openingTag? h
  · unfold reference? at h
    split at h
    · cases h
      exact single (char _) trivial rfl
    · cases h
  · cases h
  · cases h
    exact single (char _) trivial rfl
  · cases h
    exact single (char _) trivial rfl
  · split_ifs at h
    cases h
    exact single (char _) trivial rfl

theorem proper_of_content? {lenient : Bool} {fuel depth : Nat} {cs rest : List Char}
    {ts : List Token} (h : content? lenient fuel depth cs = some (ts, rest)) : ∀ t ∈ ts, t.Proper := by
  induction fuel generalizing depth cs rest ts with
  | zero =>
    cases depth with
    | zero =>
      cases h
      exact fun t none => (List.not_mem_nil none).elim
    | succ depth => cases h
  | succ fuel ih =>
    cases depth with
    | zero =>
      cases h
      exact fun t none => (List.not_mem_nil none).elim
    | succ depth =>
      rw [content?] at h
      split at h
      · cases h
      · rename_i ts₁ rest₁ first
        obtain ⟨p, later, same⟩ := Option.map_eq_some_iff.1 h
        cases same
        exact List.forall_mem_append.2 ⟨proper_of_next? first, ih later⟩

theorem proper_of_element? {lenient : Bool} {cs rest : List Char} {ts : List Token}
    (h : element? lenient cs = some (ts, rest)) : ∀ t ∈ ts, t.Proper := by
  unfold element? at h
  split at h
  · cases h
  · rename_i ts₁ rest₁ first
    obtain ⟨p, later, same⟩ := Option.map_eq_some_iff.1 h
    cases same
    exact List.forall_mem_append.2 ⟨proper_of_openingTag? first, proper_of_content? later⟩

end Token

/-! ## What is declared -/

/-- All attributes are declared with names that start as names do. -/
def Declarations.Proper (d : Declarations) : Prop :=
  ∀ p ∈ d.attributes, StartsName p.2.name

namespace Declarations.Proper

variable {d d' : Declarations}

theorem of_attributes (proper : d.Proper) (same : d'.attributes = d.attributes) : d'.Proper := by
  unfold Declarations.Proper
  rwa [same]

theorem ofElement (proper : d.Proper) (element : List Char) :
    ∀ t ∈ d.ofElement element, StartsName t.name := by
  intro t ht
  obtain ⟨p, hp, rfl⟩ := List.mem_map.1 ht
  exact proper p (List.mem_filter.1 hp).1

theorem add (proper : d.Proper) (element : List Char) {a : DeclaredAttribute} (named : StartsName a.name)
    (identifier : Bool) : (d.add element a identifier).Proper := by
  unfold Declarations.add
  split_ifs
  · exact proper
  · exact proper
  · exact List.forall_mem_append.2 ⟨proper, by simpa using named⟩

end Declarations.Proper

namespace Doctype

variable {d d' : Declarations} {cs rest : List Char}

theorem startsName_of_name? {w : List Char} (h : name? [.plain, .prefixed] cs = some (w, rest)) :
    StartsName w := by
  unfold name? at h
  split at h
  · split_ifs at h with kind
    cases h
    rename_i found
    cases w with
    | nil => simp [wordKind] at kind
    | cons c back =>
      cases start : isNameStart c with
      | true => exact ⟨c, back, rfl, start⟩
      | false => simp [wordKind, start] at kind
  · cases h

theorem proper_of_attributeList? {element : List Char} {fuel : Nat} (proper : d.Proper)
    (h : attributeList? element fuel d cs = some (d', rest)) : d'.Proper := by
  induction fuel generalizing d cs with
  | zero => cases h
  | succ fuel ih =>
    rw [attributeList?] at h
    split at h
    · cases h
      exact proper
    · obtain ⟨⟨name, rest₁⟩, named, h⟩ := Option.bind_eq_some_iff.1 h
      obtain ⟨⟨plain, identifier, rest₂⟩, -, h⟩ := Option.bind_eq_some_iff.1 h
      obtain ⟨⟨value, rest₃⟩, -, h⟩ := Option.bind_eq_some_iff.1 h
      exact ih (proper.add element (startsName_of_name? named) identifier) h

theorem map_ok {α β : Type} {x : Except MarkupFault α} {f : α → β} {b : β} (h : x.map f = .ok b) :
    ∃ a, x = .ok a ∧ f a = b := by
  cases x with
  | error e => cases h
  | ok a =>
    cases h
    exact ⟨a, rfl, rfl⟩

theorem proper_of_declaration (proper : d.Proper) (h : declaration d cs = .ok (d', rest)) :
    d'.Proper := by
  have same {x : Except MarkupFault (List Char)} (h : x.map (d, ·) = .ok (d', rest)) : d'.Proper := by
    obtain ⟨a, -, same⟩ := map_ok h
    cases same
    exact proper
  unfold declaration at h
  split at h
  · exact same h
  · split at h
    · exact same h
    · split at h
      · exact proper_of_attributeList? proper (Page.need_ok h)
      · cases h
    · exact same h
    · exact same h
    · cases h

theorem proper_of_subset {fuel : Nat} (proper : d.Proper) (h : subset fuel d cs = .ok (d', rest)) :
    d'.Proper := by
  induction fuel generalizing d cs with
  | zero => cases h
  | succ fuel ih =>
    rw [subset] at h
    split at h
    · cases h
      exact proper
    · split at h
      · have same : { d with outside := true, keep := d.keep && d.standalone }.attributes = d.attributes :=
          rfl
        exact ih (proper.of_attributes same) h
      · cases h
    · split at h
      · exact ih proper h
      · cases h
    · split at h
      · rename_i declared
        exact ih (proper_of_declaration proper declared) h
      · cases h
    · cases h

theorem proper_of_read (proper : d.Proper) (h : Doctype.read d cs = .ok (d', rest)) : d'.Proper := by
  unfold Doctype.read at h
  obtain ⟨⟨name, rest₁⟩, -, h⟩ := Page.bind_ok h
  obtain ⟨⟨outside, rest₂⟩, -, h⟩ := Page.bind_ok h
  have outer : ({ d with outside } : Declarations).Proper := proper.of_attributes rfl
  dsimp only at h
  split at h
  · obtain ⟨⟨d₁, rest₃⟩, inside, h⟩ := Page.bind_ok h
    obtain ⟨rest₄, -, h⟩ := Page.bind_ok h
    cases h
    exact proper_of_subset outer inside
  · obtain ⟨⟨d₁, rest₃⟩, inside, h⟩ := Page.bind_ok h
    obtain ⟨rest₄, -, h⟩ := Page.bind_ok h
    cases h
    cases inside
    exact outer

end Doctype

theorem Page.proper_of_prolog {cs rest : List Char} {d : Declarations}
    (h : Page.prolog cs = .ok (d, rest)) : d.Proper := by
  unfold Page.prolog at h
  obtain ⟨⟨d₀, rest₁⟩, opened, h⟩ := Page.bind_ok h
  have none_yet : d₀.Proper := by
    have opened := Page.need_ok opened
    unfold declaration? at opened
    split at opened
    · split_ifs at opened
      · cases opened
        exact fun p none => (List.not_mem_nil none).elim
      · split at opened
        · cases opened
        · obtain ⟨settings, -, opened⟩ := Option.bind_eq_some_iff.1 opened
          obtain ⟨standalone, -, opened⟩ := Option.bind_eq_some_iff.1 opened
          cases opened
          exact fun p none => (List.not_mem_nil none).elim
    · cases opened
    · cases opened
      exact fun p none => (List.not_mem_nil none).elim
  obtain ⟨rest₂, -, h⟩ := Page.bind_ok h
  split at h
  · cases h
    exact none_yet
  · obtain ⟨rest₃, -, h⟩ := Page.bind_ok h
    obtain ⟨⟨d₁, rest₄⟩, read, h⟩ := Page.bind_ok h
    obtain ⟨rest₅, -, h⟩ := Page.bind_ok h
    cases h
    exact Doctype.proper_of_read none_yet read

/-! ## What is bound -/

/-- No prefix stands for the namespace of the binding attributes, and no namespace ends early. -/
def Bindings.Sound (b : Bindings) : Prop :=
  ∀ p ∈ b, p.2 ≠ bindingNamespace ∧ '\x7d' ∉ p.2

namespace Bindings

variable {b b' : Bindings}

theorem sound_initial : Sound initial := by
  unfold Sound initial
  decide

theorem Sound.bind? (sound : b.Sound) {pre space : List Char} (h : b.bind? pre space = some b') :
    b'.Sound := by
  unfold Bindings.bind? at h
  split_ifs at h with _ reserved _ closes
  cases h
  refine List.forall_mem_cons.2 ⟨⟨fun same => reserved ?_, fun member => closes ?_⟩, sound⟩
  · rw [show space = bindingNamespace from same, beq_self_eq_true, Bool.or_true]
  · simpa using member

theorem Sound.extend? (sound : b.Sound) {attributes : List RawAttribute}
    (h : b.extend? attributes = some b') : b'.Sound := by
  unfold Bindings.extend? at h
  induction attributes generalizing b with
  | nil =>
    cases h
    exact sound
  | cons a attributes ih =>
    rw [List.foldlM_cons] at h
    obtain ⟨b₁, first, later⟩ := Option.bind_eq_some_iff.1 h
    refine ih ?_ later
    split at first
    · exact sound.bind? first
    · cases first
      exact sound

theorem mem_of_lookup {pre space : List Char} (h : b.lookup pre = some space) : ∃ p ∈ b, p.2 = space := by
  induction b with
  | nil => cases h
  | cons p b ih =>
    rw [List.lookup_cons] at h
    split at h
    · cases h
      exact ⟨p, List.mem_cons_self, rfl⟩
    · obtain ⟨q, hq, rfl⟩ := ih h
      exact ⟨q, List.mem_cons_of_mem _ hq, rfl⟩

/-- A name is put behind the namespace of its prefix, or has none. -/
theorem Sound.expand? (sound : b.Sound) {pre back name : List Char}
    (h : b.expand? pre back = some name) : (pre = [] ∧ name = back) ∨ InBraces name := by
  unfold Bindings.expand? at h
  split at h
  · rename_i space found
    obtain ⟨p, hp, rfl⟩ := mem_of_lookup found
    split_ifs at h with given bare
    · cases h
      exact .inr ⟨p.2, back, rfl, by simpa using given, (sound p hp).1, (sound p hp).2⟩
    · cases h
      exact .inl ⟨List.isEmpty_iff.1 bare, rfl⟩
  · split_ifs at h with bare
    cases h
    exact .inl ⟨List.isEmpty_iff.1 bare, rfl⟩

theorem Sound.attributeName? (sound : b.Sound) {written name : List Char} (starts : StartsName written)
    (free : boundPrefix? written = none) (h : b.attributeName? written = some name) :
    Expanded name ∧ name ≠ "xmlns".toList := by
  unfold Bindings.attributeName? at h
  split at h
  · rename_i back split
    cases h
    refine ⟨.inl starts, ?_⟩
    rintro rfl
    revert free
    decide
  · rename_i front back other split
    rcases sound.expand? h with ⟨rfl, -⟩ | braces
    · exact (other rfl).elim
    · refine ⟨.inr braces, ?_⟩
      obtain ⟨space, name, rfl, -⟩ := braces
      rintro ⟨⟩

end Bindings

/-! ## Labels -/

theorem exists_of_mem_mapM {α β : Type} {f : α → Option β} {xs : List α} {ys : List β}
    (h : xs.mapM f = some ys) {y : β} (hy : y ∈ ys) : ∃ x ∈ xs, f x = some y := by
  induction xs generalizing ys with
  | nil =>
    cases h
    exact (List.not_mem_nil hy).elim
  | cons x xs ih =>
    rw [List.mapM_cons] at h
    obtain ⟨z, first, h⟩ := Option.bind_eq_some_iff.1 h
    obtain ⟨zs, later, h⟩ := Option.bind_eq_some_iff.1 h
    cases h
    rcases List.mem_cons.1 hy with rfl | hy
    · exact ⟨x, List.mem_cons_self, first⟩
    · obtain ⟨x', hx', made⟩ := ih later hy
      exact ⟨x', List.mem_cons_of_mem _ hx', made⟩

theorem startsName_withDeclared {d : Declarations} (proper : d.Proper) (element : List Char)
    {given : List RawAttribute} (starts : ∀ a ∈ given, StartsName a.1) :
    ∀ a ∈ withDeclared d element given, StartsName a.1 := by
  intro a ha
  rcases List.mem_append.1 ha with ha | ha
  · obtain ⟨a', ha', rfl⟩ := List.mem_map.1 ha
    have named := starts a' ha'
    split
    · split_ifs <;> exact named
    · exact named
  · obtain ⟨t, ht, made⟩ := List.mem_filterMap.1 ha
    obtain ⟨v, -, rfl⟩ := Option.map_eq_some_iff.1 made
    exact proper.ofElement element t (List.mem_filter.1 ht).1

theorem sourced_of_label? {d : Declarations} (proper : d.Proper) {b inner : Bindings}
    (sound : b.Sound) {id : Nat} {name : List Char} {given : List RawAttribute}
    (written : (Token.opening name given).Proper) {l : Label}
    (h : label? d b id name given = some (l, inner)) : l.Sourced ∧ inner.Sound := by
  unfold label? at h
  obtain ⟨-, -, h⟩ := Option.bind_eq_some_iff.1 h
  obtain ⟨inner', extended, h⟩ := Option.bind_eq_some_iff.1 h
  obtain ⟨attributes, made, h⟩ := Option.bind_eq_some_iff.1 h
  obtain ⟨_, once, h⟩ := Option.bind_eq_some_iff.1 h
  have once := (Option.guard_eq_some' _).1 once
  obtain ⟨tag, expanded, h⟩ := Option.bind_eq_some_iff.1 h
  cases h
  have sound' := sound.extend? extended
  have expanded : inner.expand? (splitPrefix name).1 (splitPrefix name).2 = some tag := expanded
  refine ⟨⟨⟨tag, rfl, ?_⟩, once, fun a ha => ?_⟩, sound'⟩
  · obtain ⟨c, back, rfl, start⟩ := written.1
    rcases sound'.expand? expanded with ⟨bare, same⟩ | braces
    · rw [same, splitPrefix_of_bare start (List.isEmpty_iff.2 bare)]
      exact .inl ⟨c, back, rfl, start⟩
    · exact .inr braces
  · obtain ⟨a', ha', made⟩ := exists_of_mem_mapM made ha
    obtain ⟨inside, free⟩ := List.mem_filter.1 ha'
    obtain ⟨n, named, rfl⟩ := Option.map_eq_some_iff.1 made
    have starts := startsName_withDeclared proper name written.2 a' inside
    obtain ⟨kept, other⟩ := sound'.attributeName? starts (Option.isNone_iff_eq_none.1 free) named
    refine ⟨fun same => other ?_, ?_⟩
    · rw [← show (String.ofList n).toList = n from String.toList_ofList]
      exact congrArg String.toList same
    · rwa [String.toList_ofList]

namespace Mark

/-- An element that a mark makes up has the label of the mark, the others were there before. -/
theorem labels_push {m : Mark} {runs : List Run} {l : Label}
    (hl : ∃ run ∈ push m runs, l ∈ run.2.labels) :
    opening l = m ∨ ∃ run ∈ runs, l ∈ run.2.labels := by
  obtain ⟨run, hrun, hl⟩ := hl
  unfold push at hrun
  split at hrun
  · rename_i c text forest outer
    rcases List.mem_cons.1 hrun with rfl | hrun
    · exact .inr ⟨_, List.mem_cons_self, hl⟩
    · exact .inr ⟨run, List.mem_cons_of_mem _ hrun, hl⟩
  · rcases List.mem_cons.1 hrun with rfl | hrun
    · exact (List.not_mem_nil hl).elim
    · exact .inr ⟨run, hrun, hl⟩
  · rename_i label text children tail next outer
    rcases List.mem_cons.1 hrun with rfl | hrun
    · rw [Forest.labels, List.mem_cons, List.mem_append] at hl
      rcases hl with rfl | hl | hl
      · exact .inl rfl
      · exact .inr ⟨_, List.mem_cons_self, hl⟩
      · exact .inr ⟨_, List.mem_cons_of_mem _ List.mem_cons_self, hl⟩
    · exact .inr ⟨run, List.mem_cons_of_mem _ (List.mem_cons_of_mem _ hrun), hl⟩
  · exact .inr ⟨run, hrun, hl⟩

theorem mem_of_labels {marks : List Mark} {l : Label}
    (hl : ∃ run ∈ marks.foldr push [([], .nil)], l ∈ run.2.labels) : opening l ∈ marks := by
  induction marks with
  | nil =>
    obtain ⟨run, hrun, hl⟩ := hl
    obtain rfl := List.mem_singleton.1 hrun
    exact (List.not_mem_nil hl).elim
  | cons m marks ih =>
    rcases labels_push hl with rfl | hl
    · exact List.mem_cons_self
    · exact List.mem_cons_of_mem _ (ih hl)

theorem sourced_of_ofTokens? {d : Declarations} (proper : d.Proper) {ts : List Token}
    (written : ∀ t ∈ ts, t.Proper) :
    ∀ {inside : Bindings} {opened : List Opened} {next : Nat} {marks : List Mark}, inside.Sound →
      (∀ o ∈ opened, o.around.Sound) → ofTokens? d inside opened next ts = some marks →
      ∀ l, opening l ∈ marks → l.Sourced := by
  induction ts with
  | nil =>
    intro inside opened next marks _ _ h l hl
    rw [ofTokens?] at h
    split_ifs at h
    cases h
    exact (List.not_mem_nil hl).elim
  | cons t ts ih =>
    intro inside opened next marks sound around h l hl
    obtain ⟨first, later⟩ := List.forall_mem_cons.1 written
    cases t with
    | char c =>
      rw [ofTokens?] at h
      obtain ⟨marks, rest, rfl⟩ := Option.map_eq_some_iff.1 h
      rcases List.mem_cons.1 hl with same | hl
      · cases same
      · exact ih later sound around rest l hl
    | opening name attributes =>
      rw [ofTokens?] at h
      split at h
      · cases h
      · rename_i label inner labelled
        obtain ⟨marks, rest, rfl⟩ := Option.map_eq_some_iff.1 h
        obtain ⟨sourced, sound'⟩ := sourced_of_label? proper sound first labelled
        rcases List.mem_cons.1 hl with same | hl
        · cases same
          exact sourced
        · exact ih later sound' (List.forall_mem_cons.2 ⟨sound, around⟩) rest l hl
    | closing name =>
      cases opened with
      | nil => cases h
      | cons o opened =>
        rw [ofTokens?] at h
        split_ifs at h
        obtain ⟨marks, rest, rfl⟩ := Option.map_eq_some_iff.1 h
        obtain ⟨outside, around⟩ := List.forall_mem_cons.1 around
        rcases List.mem_cons.1 hl with same | hl
        · cases same
        · exact ih later outside around rest l hl

end Mark

theorem Page.sourced_of_forest {cs : List Char} {f : Forest} (h : Page.forest cs = .ok f) :
    ∀ l ∈ f.labels, l.Sourced := by
  unfold Page.forest at h
  obtain ⟨⟨d, rest⟩, opened, h⟩ := bind_ok h
  obtain ⟨body, -, h⟩ := bind_ok h
  obtain ⟨⟨tokens, rest⟩, element, h⟩ := bind_ok h
  obtain ⟨marks, made, h⟩ := bind_ok h
  obtain ⟨rest, -, h⟩ := bind_ok h
  split at h
  · cases h
    intro l hl
    refine Mark.sourced_of_ofTokens? (proper_of_prolog opened)
      (Token.proper_of_element? (need_ok element)) Bindings.sound_initial
      (fun o none => (List.not_mem_nil none).elim) (need_ok made) l (Mark.mem_of_labels ?_)
    unfold Forest.ofMarks at hl
    cases runs : marks.foldr Mark.push [([], .nil)] with
    | nil =>
      rw [runs] at hl
      exact (List.not_mem_nil hl).elim
    | cons run outer =>
      rw [runs] at hl
      exact ⟨run, List.mem_cons_self, hl⟩
  · cases h

end Markup

/-- Every label of a page that is read was made of an opening tag, and nothing is out of the page. -/
theorem Document.sourced_ofText {text : String} {d : Document} (h : Document.ofText text = .ok d) :
    ∀ l ∈ d.labels, l.Sourced := by
  unfold ofText at h
  cases read : Page.read text with
  | error e =>
    rw [read] at h
    cases h
  | ok p =>
    rw [read] at h
    cases h
    unfold Page.read at read
    obtain ⟨f, made, read⟩ := Page.bind_ok read
    cases read
    intro l hl
    rw [labels, Forest.labels, List.append_nil] at hl
    exact Page.sourced_of_forest made l hl

end FormGate
