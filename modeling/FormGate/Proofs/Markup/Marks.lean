import FormGate.Markup.Page
import FormGate.Proofs.Markup.Tokens
import Mathlib.Data.List.Nodup
import Mathlib.Data.List.TakeWhile
import Mathlib.Data.String.Basic

/-!
# The forest that tokens stand for

The tokens of a forest are read back as the forest, with its elements numbered in document order, where
the names in its tags stand for the same names in the bindings around it (`Mark.ofTokens?_root` and
`Forest.ofMarks_marks`).
-/

namespace FormGate.Markup

/-! ## Labels -/

theorem splitPrefix_of_plain {name : List Char} (plain : IsPlainName name) :
    splitPrefix name = ([], name) := by
  have whole : name.dropWhile (· != ':') = [] := by
    rw [List.dropWhile_eq_nil_iff]
    intro c hc
    rw [bne_iff_ne]
    rintro rfl
    have colon := plain.chars _ hc
    revert colon
    decide
  unfold splitPrefix
  rw [whole]

theorem boundPrefix?_of_plain {name : List Char} (plain : IsPlainName name)
    (other : name ≠ "xmlns".toList) : boundPrefix? name = none := by
  unfold boundPrefix?
  rw [splitPrefix_of_plain plain]
  exact if_neg (by simpa using other)

theorem withDeclared_none (element : List Char) (given : List RawAttribute) :
    withDeclared {} element given = given := by
  have none : ({} : Declarations).ofElement element = [] := rfl
  unfold withDeclared
  rw [none]
  simp

/-- A label whose attributes are distinct and bind nothing, and whose tag is what its written name
stands for. -/
structure Label.Kept (written : String → String) (b : Bindings) (l : Label) : Prop where
  nodup : (l.attributes.map (·.1)).Nodup
  unbound : ∀ a ∈ l.attributes, a.1 ≠ "xmlns"
  expands : ∀ name, l.tag = .element name →
    b.expand? [] (written name).toList = some name.toList

section Labels

variable {written : String → String} {l : Label} {t tail : String} {c next : Forest}

theorem nodup_rawAttributes {as : List (String × String)} (nodup : (as.map (·.1)).Nodup) :
    ((rawAttributes as).map (·.1)).Nodup := by
  have names : (rawAttributes as).map (·.1) = (as.map (·.1)).map String.toList := by
    rw [List.map_map, List.map_map]
    rfl
  rw [names]
  exact nodup.map fun _ _ => String.toList_inj.1

theorem extend?_of_unbound {b : Bindings} {as : List RawAttribute}
    (unbound : ∀ a ∈ as, boundPrefix? a.1 = none) : b.extend? as = some b := by
  unfold Bindings.extend?
  induction as with
  | nil => rfl
  | cons a as ih =>
    obtain ⟨own, others⟩ := List.forall_mem_cons.1 unbound
    rw [List.foldlM_cons, own]
    exact ih others

theorem extend?_append {b inner : Bindings} {first as : List RawAttribute}
    (extended : b.extend? first = some inner) (unbound : ∀ a ∈ as, boundPrefix? a.1 = none) :
    b.extend? (first ++ as) = some inner := by
  have own := extend?_of_unbound (b := inner) unbound
  unfold Bindings.extend? at extended own ⊢
  rw [List.foldlM_append, extended]
  exact own

theorem mapM_attributeName? {b : Bindings} {as : List (String × String)}
    (named : ∀ a ∈ as, b.attributeName? a.1.toList = some a.1.toList) :
    (rawAttributes as).mapM (fun a =>
      (b.attributeName? a.1).map fun n => (String.ofList n, String.ofList a.2)) = some as := by
  induction as with
  | nil => rfl
  | cons a as ih =>
    obtain ⟨own, others⟩ := List.forall_mem_cons.1 named
    rw [rawAttributes, List.map_cons, List.mapM_cons, own, ih others]
    simp

/-- A tag is read as the label that it was written for, with binding attributes in front. -/
theorem label?_written (own : Node.Spelt written ⟨l, t, c, tail⟩) {b inner : Bindings}
    (kept : l.Kept written inner) {name : String} (tagged : l.tag = .element name)
    {first : List (String × String)} (distinct : ((first ++ l.attributes).map (·.1)).Nodup)
    (binds : ∀ a ∈ first, (boundPrefix? a.1.toList).isSome = true)
    (extended : b.extend? (rawAttributes first) = some inner) (id : Nat) :
    label? {} b id (written name).toList (rawAttributes (first ++ l.attributes)) =
      some ({ l with id }, inner) := by
  obtain ⟨name', tagged', plain⟩ := own.tag
  obtain rfl := Tag.element.inj (tagged.symm.trans tagged')
  have attributes (a : String × String) (ha : a ∈ l.attributes) :
      boundPrefix? a.1.toList = none ∧ inner.attributeName? a.1.toList = some a.1.toList := by
    have named := (own.attributes a ha).2.name
    constructor
    · exact boundPrefix?_of_plain named fun same => kept.unbound a ha (String.toList_inj.1 same)
    · unfold Bindings.attributeName?
      rw [splitPrefix_of_plain named]
  have unbound : ∀ a ∈ rawAttributes l.attributes, boundPrefix? a.1 = none :=
    List.forall_mem_map.2 fun a ha => (attributes a ha).1
  have bindings : b.extend? (rawAttributes (first ++ l.attributes)) = some inner := by
    rw [rawAttributes, List.map_append]
    exact extend?_append extended unbound
  have unbinding : (rawAttributes (first ++ l.attributes)).filter
      (fun a => (boundPrefix? a.1).isNone) = rawAttributes l.attributes := by
    rw [rawAttributes, List.map_append, List.filter_append, List.filter_eq_nil_iff.2,
      List.filter_eq_self.2, List.nil_append]
    · exact fun a ha => by rw [unbound a ha]; rfl
    · refine List.forall_mem_map.2 fun a ha => ?_
      obtain ⟨pre, bound⟩ := Option.isSome_iff_exists.1 (binds a ha)
      simp [bound]
  have named := mapM_attributeName? fun a ha => (attributes a ha).2
  unfold label?
  rw [withDeclared_none, splitPrefix_of_plain plain]
  dsimp only
  rw [bindings]
  simp only [guard, if_pos (nodup_rawAttributes distinct), Option.pure_def, Option.bind_eq_bind,
    Option.bind_some, unbinding, named, if_pos kept.nodup, kept.expands name tagged,
    String.ofList_toList, tagged]

end Labels

/-! ## Forests -/

namespace Forest

/-- A forest with its elements numbered in document order. -/
def numbered : Nat → Forest → Forest
  | _, nil => nil
  | k, cons l t c tail next =>
    cons { l with id := k } t (c.numbered (k + 1)) tail (next.numbered (k + 1 + c.labels.length))

def marks : Forest → List Mark
  | nil => []
  | cons l t c tail next =>
    .opening l :: (t.toList.map .char ++ (c.marks ++ .closing ::
      (tail.toList.map .char ++ next.marks)))

end Forest

namespace Mark

variable {written : String → String} {b : Bindings}

theorem ofTokens?_chars (opened : List Opened) (k : Nat) (t : List Char) (ts : List Token) :
    ofTokens? {} b opened k (t.map .char ++ ts) =
      (ofTokens? {} b opened k ts).map (t.map .char ++ ·) := by
  induction t with
  | nil => exact Option.map_id'.symm
  | cons c t ih =>
    rw [List.map_cons, List.cons_append, ofTokens?, ih, Option.map_map]
    rfl

theorem ofTokens?_forest {f : Forest} (spelt : f.Spelt written)
    (kept : ∀ l ∈ f.labels, l.Kept written b) (opened : List Opened) (k : Nat) (ts : List Token) :
    ofTokens? {} b opened k (f.tokens written [] ++ ts) =
      (ofTokens? {} b opened (k + f.labels.length) ts).map ((f.numbered k).marks ++ ·) := by
  induction f generalizing opened k ts with
  | nil => exact Option.map_id'.symm
  | cons l t c tail next ihc ih =>
    obtain ⟨own, inside, after⟩ := Forest.spelt_cons.1 spelt
    rw [Forest.labels, List.forall_mem_cons, List.forall_mem_append] at kept
    obtain ⟨name, tagged, plain⟩ := own.tag
    have distinct : ((([] : List (String × String)) ++ l.attributes).map (·.1)).Nodup := kept.1.nodup
    have label := label?_written own kept.1 tagged distinct
      (fun a none => (List.not_mem_nil none).elim) rfl k
    rw [Forest.tokens, tagged]
    dsimp only
    rw [List.cons_append, ofTokens?, label]
    dsimp only
    rw [List.append_assoc, ofTokens?_chars, List.append_assoc, ihc inside kept.2.1, List.cons_append,
      ofTokens?, if_pos rfl, List.append_assoc, ofTokens?_chars, ih after kept.2.2]
    simp only [Option.map_map, Forest.numbered, Forest.marks, Forest.labels, List.length_cons,
      List.length_append]
    have count : k + 1 + c.labels.length + next.labels.length =
        k + (c.labels.length + next.labels.length + 1) := by omega
    rw [count]
    congr 1
    funext ms
    simp

/-- The tokens of one element, with binding attributes in front, are its marks numbered from zero on. -/
theorem ofTokens?_root {l : Label} {t : String} {c : Forest} {inner : Bindings}
    (spelt : (Forest.cons l t c "" .nil).Spelt written)
    (kept : ∀ l' ∈ (Forest.cons l t c "" .nil).labels, l'.Kept written inner)
    {first : List (String × String)} (distinct : ((first ++ l.attributes).map (·.1)).Nodup)
    (binds : ∀ a ∈ first, (boundPrefix? a.1.toList).isSome = true)
    (extended : b.extend? (rawAttributes first) = some inner) :
    ofTokens? {} b [] 0 ((Forest.cons l t c "" .nil).tokens written first) =
      some ((Forest.cons l t c "" .nil).numbered 0).marks := by
  obtain ⟨own, inside, -⟩ := Forest.spelt_cons.1 spelt
  rw [Forest.labels, List.forall_mem_cons, List.forall_mem_append] at kept
  obtain ⟨name, tagged, plain⟩ := own.tag
  rw [Forest.tokens, tagged]
  dsimp only
  rw [ofTokens?, label?_written own kept.1 tagged distinct binds extended]
  dsimp only
  rw [ofTokens?_chars, ofTokens?_forest inside kept.2.1, ofTokens?, if_pos rfl]
  rfl

theorem foldr_push_chars (t text : List Char) (g : Forest) (outer : List Run) :
    (t.map char).foldr push ((text, g) :: outer) = (t ++ text, g) :: outer := by
  induction t with
  | nil => rfl
  | cons c t ih =>
    rw [List.map_cons, List.foldr_cons, ih]
    rfl

theorem foldr_push_marks (f : Forest) (outer : List Run) :
    f.marks.foldr push (([], .nil) :: outer) = ([], f) :: outer := by
  induction f generalizing outer with
  | nil => rfl
  | cons l t c tail next ihc ih =>
    rw [Forest.marks, List.foldr_cons, List.foldr_append, List.foldr_append, List.foldr_cons,
      List.foldr_append, ih, foldr_push_chars, List.append_nil]
    show push (.opening l) ((t.toList.map char).foldr push
      (c.marks.foldr push (([], .nil) :: (tail.toList, next) :: outer))) = _
    rw [ihc, foldr_push_chars, List.append_nil]
    simp [push]

end Mark

theorem Forest.ofMarks_marks (f : Forest) : ofMarks f.marks = ([], f) := by
  unfold ofMarks
  rw [Mark.foldr_push_marks]
  rfl

end FormGate.Markup
