import FormGate.Proofs.Document.Relabel
import FormGate.Proofs.Document.Rooted
import FormGate.Proofs.Markup.Written
import FormGate.Proofs.Pass.Writable

/-!
# Pages in one namespace

On a page all of whose elements are in one namespace, or all in none, names are written without a prefix:
the outermost element declares the namespace, and every name stands for what it was written for. Such a
page can be written, and what is written is read as the same page (`Document.restored_of_plain`).
-/

namespace FormGate

open Markup

namespace Markup

/-! ## Names in a namespace -/

/-- A name in a namespace, or in none. -/
def qualified : Option (List Char) → List Char → List Char
  | none, name => name
  | some space, name => '\x7b' :: space ++ '\x7d' :: name

/-- The attributes that declare a namespace for the names without a prefix. -/
def declaring : Option (List Char) → List (String × String)
  | none => []
  | some space => [("xmlns", .ofList space)]

/-- The bindings inside an element that declares a namespace. -/
def Bindings.declared : Option (List Char) → Bindings
  | none => initial
  | some space => ([], space) :: initial

/-- An element in a namespace whose names have no colon, and all of whose strings can be read back. -/
structure Node.Plain (space : Option (List Char)) (n : Node) : Prop where
  tag : ∃ name, n.label.tag = .element (.ofList (qualified space name)) ∧ IsPlainName name
  attributes : ∀ a ∈ n.label.attributes, IsPlainAttribute a
  text : Readable n.text
  tail : Readable n.tail

/-- What stands in a tag behind a namespace. -/
def Tag.behind (space : Option (List Char)) : Tag → List Char
  | element whole => whole.toList.drop (qualified space []).length
  | comment _ => []

theorem exists_qualified {space : Option (List Char)} {tag : Tag} :
    (∃ name, tag = .element (.ofList (qualified space name)) ∧ IsPlainName name) ↔
      tag = .element (.ofList (qualified space (tag.behind space))) ∧ IsPlainName (tag.behind space) := by
  constructor
  · rintro ⟨name, rfl, plain⟩
    have behind : Tag.behind space (.element (.ofList (qualified space name))) = name := by
      rw [Tag.behind, String.toList_ofList]
      cases space with
      | none => rfl
      | some space => simp [qualified]
    rw [behind]
    exact ⟨rfl, plain⟩
  · exact fun h => ⟨_, h⟩

instance (space : Option (List Char)) (tag : Tag) :
    Decidable (∃ name, tag = .element (.ofList (qualified space name)) ∧ IsPlainName name) :=
  decidable_of_iff _ exists_qualified.symm

instance (space : Option (List Char)) (n : Node) : Decidable (n.Plain space) :=
  decidable_of_iff ((∃ name, n.label.tag = .element (.ofList (qualified space name)) ∧ IsPlainName name) ∧
      (∀ a ∈ n.label.attributes, IsPlainAttribute a) ∧ Readable n.text ∧ Readable n.tail)
    ⟨fun h => ⟨h.1, h.2.1, h.2.2.1, h.2.2.2⟩, fun h => ⟨h.tag, h.attributes, h.text, h.tail⟩⟩

/-- A namespace that may be declared for the names without a prefix. -/
structure IsPlainSpace (space : List Char) : Prop where
  other : space ≠ xmlNamespace
  free : '\x7d' ∉ space
  legal : ∀ c ∈ space, isLegal c = true

instance (space : List Char) : Decidable (IsPlainSpace space) :=
  decidable_of_iff (space ≠ xmlNamespace ∧ '\x7d' ∉ space ∧ space.all isLegal = true)
    ⟨fun h => ⟨h.1, h.2.1, List.all_eq_true.1 h.2.2⟩,
      fun h => ⟨h.other, h.free, List.all_eq_true.2 h.legal⟩⟩

/-- A name of an attribute or a tag where all elements are in one namespace. -/
def Within (space : Option (List Char)) (name : String) : Prop :=
  IsPlainName name.toList ∨ ∃ back, name = .ofList (qualified space back) ∧ IsPlainName back

theorem IsPlainName.not_mem {name : List Char} (plain : IsPlainName name) {c : Char}
    (other : isNameChar c = false) : c ∉ name := fun inside => by
  rw [plain.chars c inside] at other
  cases other

namespace Writer

/-! ## How names are written -/

theorem splitName?_of_plain {name : String} (plain : IsPlainName name.toList) :
    splitName? name = none := by
  obtain ⟨c, back, same, start⟩ := plain.start
  unfold splitName?
  rw [same]
  split
  · rename_i opens
    cases opens
    exact absurd start (by decide)
  · rfl

theorem splitName?_qualified {space back : List Char} (plain : IsPlainName back) :
    splitName? (.ofList (qualified (some space) back)) = some (.ofList space, .ofList back) := by
  have solid : ∀ c ∈ back.reverse, (c != '\x7d') = true := fun c hc => bne_iff_ne.2 fun same =>
    plain.not_mem (by decide) (same ▸ List.mem_reverse.1 hc)
  have reversed : (space ++ '\x7d' :: back).reverse = back.reverse ++ '\x7d' :: space.reverse := by simp
  have whole : (String.ofList (qualified (some space) back)).toList = '\x7b' :: (space ++ '\x7d' :: back) :=
    String.toList_ofList
  unfold splitName?
  rw [whole]
  split
  · rename_i rest same
    obtain rfl := (List.cons.inj same).2
    rw [reversed, List.dropWhile_append_of_pos solid, List.dropWhile_cons_of_neg (by decide),
      List.takeWhile_append_of_pos solid, List.takeWhile_cons_of_neg (by decide)]
    simp
  · rename_i other
    exact absurd rfl (other _)

/-- The prefixes on a page in a namespace: one, where there is a namespace. -/
def prefixes : Option (List Char) → List (String × String)
  | none => []
  | some space => [(.ofList space, "")]

theorem collect_within {space : Option (List Char)} {name : String} (within : Within space name)
    (known : List (String × String)) : collect known (prefixes space) name = prefixes space := by
  unfold collect
  rcases within with plain | ⟨back, rfl, plain⟩
  · rw [splitName?_of_plain plain]
  · cases space with
    | none => rw [splitName?_of_plain (by rwa [String.toList_ofList])]
    | some space =>
      rw [splitName?_qualified plain]
      simp [prefixes]

theorem foldl_collect_within {space : Option (List Char)} {names : List String}
    (within : ∀ name ∈ names, Within space name) (known : List (String × String)) :
    names.foldl (collect known) (prefixes space) = prefixes space := by
  induction names with
  | nil => rfl
  | cons name names ih =>
    obtain ⟨own, others⟩ := List.forall_mem_cons.1 within
    rw [List.foldl_cons, collect_within own]
    exact ih others

/-- The first tag brings in the prefix of the namespace, which is empty. -/
theorem collect_root {space : Option (List Char)} {back : List Char} (plain : IsPlainName back) :
    collect (agreedOn (.ofList (qualified space back))) [] (.ofList (qualified space back)) =
      prefixes space := by
  unfold collect agreedOn
  cases space with
  | none => rw [splitName?_of_plain (by rwa [String.toList_ofList])]; rfl
  | some space =>
    rw [splitName?_qualified plain]
    simp [prefixes, prefixOf]

theorem writtenName_of_plain {name : String} (plain : IsPlainName name.toList)
    (known collected : List (String × String)) : writtenName known collected name = name := by
  unfold writtenName
  rw [splitName?_of_plain plain]

theorem writtenName_qualified {space : Option (List Char)} {back : List Char} (plain : IsPlainName back)
    (known : List (String × String)) :
    writtenName known (prefixes space) (.ofList (qualified space back)) = .ofList back := by
  cases space with
  | none => exact writtenName_of_plain (by rwa [String.toList_ofList]) _ _
  | some space =>
    unfold writtenName
    rw [splitName?_qualified plain]
    simp [prefixes, prefixOf]

theorem isUnwritable_within {space : Option (List Char)} {name : String} (within : Within space name) :
    isUnwritable name = false := by
  have bare {name : String} (plain : IsPlainName name.toList) : isUnwritable name = false :=
    writable_of_expanded (.inl plain.start)
  rcases within with plain | ⟨back, rfl, plain⟩
  · exact bare plain
  · cases space with
    | none => exact bare (by rwa [String.toList_ofList])
    | some space =>
      unfold isUnwritable
      rw [String.toList_ofList]
      simp [qualified]

theorem declarations_prefixes (space : Option (List Char)) :
    ((prefixes space).mergeSort fun p q => decide (p.2 ≤ q.2)).flatMap declaration =
      writtenAttributes (declaring space) := by
  cases space with
  | none => simp [prefixes, declaring, writtenAttributes]
  | some space => simp [prefixes, declaring, writtenAttributes, declaration]

end Writer

namespace Forest

variable {space : Option (List Char)} {f : Forest}

theorem within_of_plain (plain : ∀ n ∈ f.nodes, n.Plain space) :
    ∀ name ∈ f.labels.flatMap Writer.namesOf, Within space name := by
  intro name hname
  obtain ⟨l, hl, inside⟩ := List.mem_flatMap.1 hname
  rw [← map_label_nodes] at hl
  obtain ⟨n, hn, rfl⟩ := List.mem_map.1 hl
  obtain ⟨back, tagged, named⟩ := (plain n hn).tag
  rcases List.mem_append.1 inside with own | given
  · rw [tagged] at own
    obtain rfl := List.mem_singleton.1 own
    exact .inr ⟨back, rfl, named⟩
  · obtain ⟨a, ha, rfl⟩ := List.mem_map.1 given
    exact .inl ((plain n hn).attributes a ha).name

theorem page_of_plain {l : Label} {t : String} {c : Forest}
    (plain : ∀ n ∈ (cons l t c "" nil).nodes, n.Plain space) {root : String} (tag : l.tag = .element root)
    {doctype : Option String} (typed : ∀ d ∈ doctype, d.isEmpty = false) :
    Writer.page doctype (cons l t c "" nil) = .ok (Page.withDoctype doctype
      (Writer.write (Writer.writtenName (Writer.agreedOn root) (Writer.prefixes space))
        (writtenAttributes (declaring space)) (cons l t c "" nil))) := by
  have within := within_of_plain plain
  obtain ⟨back, tagged, named⟩ := (plain _ List.mem_cons_self).tag
  obtain rfl := Tag.element.inj (tag.symm.trans tagged)
  have writable : (((cons l t c "" nil).labels.flatMap Writer.namesOf).any Writer.isUnwritable) = false :=
    List.any_eq_false.2 fun name hname => by simp [Writer.isUnwritable_within (within name hname)]
  have collected : ((cons l t c "" nil).labels.flatMap Writer.namesOf).foldl
      (Writer.collect (Writer.agreedOn (.ofList (qualified space back)))) [] = Writer.prefixes space := by
    have names : (cons l t c "" nil).labels.flatMap Writer.namesOf =
        .ofList (qualified space back) :: (l.attributes.map (·.1) ++
          (c.labels ++ nil.labels).flatMap Writer.namesOf) := by
      show Writer.namesOf l ++ _ = _
      rw [Writer.namesOf, tag]
      rfl
    rw [names] at within ⊢
    rw [List.foldl_cons, Writer.collect_root named]
    exact Writer.foldl_collect_within (List.forall_mem_cons.1 within).2 _
  unfold Writer.page
  dsimp only
  rw [tag]
  dsimp only
  rw [writable, if_neg Bool.false_ne_true, collected, Writer.declarations_prefixes]
  cases doctype with
  | none => rfl
  | some d =>
    dsimp only
    rw [typed d rfl, if_neg Bool.false_ne_true]
    rfl

end Forest

/-! ## What the written names stand for -/

/-- A namespace in front of a tag that was read is bound, and to nothing that cannot be. -/
theorem space_of_expanded {space back : List Char} (expanded : Expanded (qualified (some space) back))
    (free : '\x7d' ∉ space) : space ≠ [] ∧ space ≠ bindingNamespace := by
  rcases expanded with ⟨c, _, same, start⟩ | ⟨space', back', same, given, other, free'⟩
  · obtain rfl := (List.cons.inj same).1
    exact absurd start (by decide)
  · have front (space back : List Char) (free : '\x7d' ∉ space) :
        (space ++ '\x7d' :: back).takeWhile (· != '\x7d') = space := by
      have solid : ∀ c ∈ space, (c != '\x7d') = true := fun c hc => bne_iff_ne.2 fun same =>
        free (same ▸ hc : '\x7d' ∈ space)
      rw [List.takeWhile_append_of_pos solid, List.takeWhile_cons_of_neg (by decide), List.append_nil]
    have inside := congrArg (List.takeWhile (· != '\x7d')) (List.cons.inj same).2
    obtain rfl : space = space' := (front _ _ free).symm.trans (inside.trans (front _ _ free'))
    exact ⟨given, other⟩

namespace Bindings

variable {space : Option (List Char)}

theorem extend?_declaring (plain : ∀ s ∈ space, IsPlainSpace s ∧ s ≠ bindingNamespace) :
    initial.extend? (rawAttributes (declaring space)) = some (declared space) := by
  cases space with
  | none => rfl
  | some space =>
    obtain ⟨⟨other, free, -⟩, unreserved⟩ := plain space rfl
    have bound : boundPrefix? "xmlns".toList = some [] := by decide
    have binds : initial.bind? [] space = some (([], space) :: initial) := by
      unfold bind?
      rw [if_neg (by simp), if_neg (by simpa using unreserved), if_neg (by simpa using other),
        if_neg (by simpa using free)]
    unfold extend?
    simp only [declaring, rawAttributes, List.map_cons, List.map_nil, List.foldlM_cons, List.foldlM_nil,
      String.toList_ofList, bound, binds]
    rfl

theorem expand?_declared (given : ∀ s ∈ space, s ≠ []) (name : List Char) :
    (declared space).expand? [] name = some (qualified space name) := by
  cases space with
  | none => rfl
  | some space =>
    have nonempty : space.isEmpty = false := List.isEmpty_eq_false_iff.2 (given space rfl)
    unfold expand? declared
    rw [List.lookup_cons_self]
    dsimp only
    rw [nonempty]
    rfl

end Bindings

theorem declaring_spec {space : Option (List Char)} (declarable : ∀ s ∈ space, IsPlainSpace s) :
    ∀ a ∈ declaring space, IsPlainAttribute a ∧ (boundPrefix? a.1.toList).isSome = true := by
  cases space with
  | none => exact fun a none => (List.not_mem_nil none).elim
  | some space =>
    have named : IsPlainName "xmlns".toList := by decide
    have binds : (boundPrefix? "xmlns".toList).isSome = true := by decide
    refine List.forall_mem_singleton.2 ⟨⟨named, ?_⟩, binds⟩
    rw [String.toList_ofList]
    exact (declarable space rfl).legal

/-- A forest under an element that was read, in one namespace, is written so that it can be read back. -/
theorem restores_of_plain {space : Option (List Char)} (declarable : ∀ s ∈ space, IsPlainSpace s)
    {l : Label} {t : String} {c : Forest} (plain : ∀ n ∈ (Forest.cons l t c "" .nil).nodes, n.Plain space)
    {name : List Char} (tag : l.tag = .element (.ofList name)) (expanded : Expanded name)
    (tidy : ∀ l' ∈ (Forest.cons l t c "" .nil).labels, l'.Tidy) (known : List (String × String)) :
    Page.Restores (Writer.writtenName known (Writer.prefixes space)) (declaring space)
      (Bindings.declared space) (.cons l t c "" .nil) := by
  have reserved : ∀ s ∈ space, s ≠ [] ∧ s ≠ bindingNamespace := by
    rintro s rfl
    obtain ⟨back, tagged, -⟩ := (plain _ List.mem_cons_self).tag
    have same := String.ofList_injective (Tag.element.inj (tag.symm.trans tagged))
    exact space_of_expanded (same ▸ expanded) (declarable s rfl).free
  constructor
  · refine ⟨l, t, c, rfl, ?_⟩
    obtain ⟨nodup, unbound⟩ := tidy l List.mem_cons_self
    cases space with
    | none => exact nodup
    | some space =>
      refine List.nodup_cons.2 ⟨fun inside => ?_, nodup⟩
      obtain ⟨a, ha, same⟩ := List.mem_map.1 inside
      exact unbound a ha same
  · intro n hn
    obtain ⟨⟨back, tagged, named⟩, attributes, text, tail⟩ := plain n hn
    refine ⟨⟨_, tagged, ?_⟩, fun a ha => ⟨?_, attributes a ha⟩, text, tail⟩
    · rwa [Writer.writtenName_qualified named, String.toList_ofList]
    · exact Writer.writtenName_of_plain (attributes a ha).name _ _
  · exact fun a ha => (declaring_spec declarable a ha).1
  · exact fun a ha => (declaring_spec declarable a ha).2
  · exact Bindings.extend?_declaring fun s hs => ⟨declarable s hs, (reserved s hs).2⟩
  · intro l' hl'
    refine ⟨(tidy l' hl').nodup, (tidy l' hl').unbound, fun name' tagged' => ?_⟩
    rw [← Forest.map_label_nodes] at hl'
    obtain ⟨n, hn, rfl⟩ := List.mem_map.1 hl'
    obtain ⟨back, tagged, named⟩ := (plain n hn).tag
    obtain rfl := Tag.element.inj (tagged'.symm.trans tagged)
    rw [Writer.writtenName_qualified named, String.toList_ofList, String.toList_ofList,
      Bindings.expand?_declared fun s hs => (reserved s hs).1]

end Markup

/-! ## Pages -/

namespace Document

/-- A page all of whose elements are in one namespace, or all in none, and that holds nothing else. -/
structure Plain (space : Option (List Char)) (d : Document) : Prop where
  declarable : ∀ s ∈ space, IsPlainSpace s
  nodes : ∀ n ∈ d.tree.nodes, n.Plain space

instance (space : Option (List Char)) (d : Document) : Decidable (d.Plain space) :=
  decidable_of_iff ((∀ s ∈ space, IsPlainSpace s) ∧ ∀ n ∈ d.tree.nodes, n.Plain space)
    ⟨fun h => ⟨h.1, h.2⟩, fun h => ⟨h.declarable, h.nodes⟩⟩

/-- The document type of a page that was read ends with its only angle. -/
theorem isDoctype_ofText {text : String} {d : Document} (read : Document.ofText text = .ok d) :
    ∀ s ∈ d.doctype, Page.IsDoctype s.toList := by
  unfold ofText at read
  cases page : Page.read text with
  | error e =>
    rw [page] at read
    cases read
  | ok p =>
    rw [page] at read
    cases read
    unfold Page.read at page
    obtain ⟨f, -, page⟩ := Page.bind_ok page
    cases page
    intro s hs
    obtain ⟨doctype, split, rfl⟩ := Option.map_eq_some_iff.1 hs
    rw [String.toList_ofList]
    exact Page.isDoctype_of_splitDoctype (Prod.ext split rfl)

/-- A page in one namespace under an element that was read is written, and what is written is read as
the same page with its elements numbered anew. -/
theorem restored_of_plain {name : List Char} {doctype : Option String} {d : Document}
    (rooted : d.Rooted (.ofList name) doctype) (expanded : Expanded name)
    (typed : ∀ s ∈ doctype, Page.IsDoctype s.toList) {space : Option (List Char)} (plain : d.Plain space) :
    ∃ written d', d.text = .ok written ∧ Document.ofText written = .ok d' ∧
      d'.tree = d.tree.numbered 0 ∧ d'.doctype = d.doctype := by
  obtain ⟨l, t, c, tree, tag⟩ := rooted.headed
  obtain ⟨declarable, nodes⟩ := plain
  have tidy : ∀ l' ∈ d.tree.labels, l'.Tidy := fun l' hl' => rooted.tidy l' (List.mem_append_left _ hl')
  rw [tree] at nodes tidy
  have restores := restores_of_plain declarable nodes tag expanded tidy (Writer.agreedOn (.ofList name))
  have nonempty : ∀ s ∈ d.doctype, s.isEmpty = false := by
    intro s hs
    obtain ⟨word, more, same, -⟩ := typed s (rooted.doctype ▸ hs)
    rw [Bool.eq_false_iff, Ne, String.isEmpty_iff]
    rintro rfl
    simp at same
  have body := Forest.page_of_plain nodes tag nonempty
  have read := Page.read_written restores (rooted.doctype ▸ typed : ∀ s ∈ d.doctype, Page.IsDoctype s.toList)
  unfold text ofText
  rw [tree, body]
  exact ⟨_, _, rfl, congrArg (Except.map _) read, rfl, rfl⟩

end Document

end FormGate
