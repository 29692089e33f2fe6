import FormGate.Engine.Basic
import FormGate.Proofs.Config.Accepted
import FormGate.Proofs.Document.Classes
import FormGate.Proofs.Document.WellFormed

/-!
# Loaded configurations can be used

Whatever stands in a configuration file, it is either refused or gives a configuration that can be
used: its names can stand in the markup, an engine starts with it, and each of its classes can be put
on an element and taken off again without touching the others. What carries this is that a name is
accepted exactly if the text of the attribute `class` is cut into that name alone, so no name can come
back from an element as two classes, or as none.
-/

namespace FormGate

/-! ## Classes of elements -/

namespace Text

/-- What is asked of a class is that it is cut out of a text as it is. -/
theorem isWord_iff_words (s : String) : isWord s = true ↔ words s = [s] := by
  refine ⟨words_of_isWord, fun whole => isWord_of_mem_words (s := s) ?_⟩
  rw [whole]
  exact List.mem_singleton_self s

end Text

namespace Document

variable {d : Document} {e : Element} {name : String}

def classes (d : Document) (e : Element) : List String :=
  ((d.label? e).map classesOf).getD []

theorem hasClass_eq (d : Document) (e : Element) (name : String) :
    d.hasClass e name = (d.classes e).contains name := by
  unfold hasClass classes
  cases d.label? e <;> rfl

theorem classes_modifyLabel {k : Markup.Label → Markup.Label} (hk : ∀ l, (k l).id = l.id)
    {l : Markup.Label} (label : d.label? e = some l) : (d.modifyLabel e k).classes e = classesOf (k l) := by
  unfold classes
  rw [label?_modifyLabel hk, label, Option.map_some, if_pos (label?_id label)]
  rfl

/-- A word that is added to the classes of an element comes last, unless it was among them. -/
theorem classes_addClass (word : Text.isWord name = true) (there : (d.label? e).isSome) :
    (d.addClass e name).classes e =
      if name ∈ d.classes e then d.classes e else d.classes e ++ [name] := by
  obtain ⟨l, label⟩ := Option.isSome_iff_exists.1 there
  have own : d.classes e = classesOf l := by rw [classes, label]; rfl
  unfold addClass
  rw [classes_modifyLabel (fun l => (kin_labelWithClass name l).id) label,
    classesOf_labelWithClass word, own]
  simp only [List.contains_iff_mem]

/-- The other classes of an element stay in order when one is removed. -/
theorem classes_removeClass (there : (d.label? e).isSome) :
    (d.removeClass e name).classes e = (d.classes e).filter (· != name) := by
  obtain ⟨l, label⟩ := Option.isSome_iff_exists.1 there
  have own : d.classes e = classesOf l := by rw [classes, label]; rfl
  unfold removeClass
  rw [classes_modifyLabel (fun l => (kin_labelWithoutClass name l).id) label,
    classesOf_labelWithoutClass, own]

/-- What putting a class on an element and taking it off again promises: the element has the class
after the one and not after the other, and its other classes stay as they are and in order. -/
structure Switches (d : Document) (e : Element) (name : String) : Prop where
  on : (d.addClass e name).hasClass e name = true
  others_on : (d.addClass e name).classes e =
    if name ∈ d.classes e then d.classes e else d.classes e ++ [name]
  off : (d.removeClass e name).hasClass e name = false
  others_off : (d.removeClass e name).classes e = (d.classes e).filter (· != name)

theorem switches_of_isWord (word : Text.isWord name = true) (there : (d.label? e).isSome) :
    d.Switches e name where
  on := by
    rw [hasClass_eq, classes_addClass word there]
    split_ifs with present
    · simpa using present
    · simp
  others_on := classes_addClass word there
  off := by
    rw [hasClass_eq, classes_removeClass there]
    simp
  others_off := classes_removeClass there

end Document

/-! ## Configurations -/

namespace Config

/-- All classes that a page may be given. -/
def Presentation.classNames (p : Presentation) : List String :=
  p.invalidClass :: p.feedbackClasses

/-- All names that stand in the markup: of attributes, of classes and of the tag of feedback. -/
def names (c : Config) : List String :=
  [c.attributes.rules, c.attributes.onSubmit, c.attributes.onBlur, c.attributes.scroll,
    c.presentation.feedbackTag] ++ c.presentation.classNames

/-- What a configuration has to be for all that is done under it: its names can stand in the markup,
an engine starts with it, and each of its classes can be put on any element and taken off again. -/
structure Usable (c : Config) : Prop where
  named : ∀ s ∈ c.names, s ≠ "" ∧ ∀ ch ∈ s.toList, Text.isBlank ch = false
  retains : 1 ≤ c.maxRetained
  starts : ∀ (page : Option Document) (catalog : Catalog),
    Engine.create page c catalog = .ok
      ⟨⟨c, catalog⟩, { page, collector := { command := "engine", limit := c.maxRetained } }⟩
  switches : ∀ name ∈ c.presentation.classNames, ∀ (d : Document) (e : Element),
    (d.label? e).isSome → d.Switches e name

variable {c : Config}

theorem Accepted.isWord_of_mem_classNames (accepted : c.Accepted) {name : String}
    (among : name ∈ c.presentation.classNames) : Text.isWord name = true := by
  simp only [Presentation.classNames, Presentation.feedbackClasses, List.mem_cons] at among
  rcases among with rfl | rfl | extra
  · exact accepted.presentation.invalidClass
  · exact accepted.presentation.feedbackClass
  · exact accepted.presentation.extraClasses name extra

theorem Accepted.isWord_of_mem_names (accepted : c.Accepted) {s : String} (among : s ∈ c.names) :
    Text.isWord s = true := by
  simp only [names, List.mem_append, List.mem_cons, List.not_mem_nil, or_false] at among
  rcases among with (rfl | rfl | rfl | rfl | rfl) | among
  · exact accepted.attributes.rules
  · exact accepted.attributes.onSubmit
  · exact accepted.attributes.onBlur
  · exact accepted.attributes.scroll
  · exact accepted.presentation.tag
  · exact accepted.isWord_of_mem_classNames among

/-- What is accepted can be used. -/
theorem Accepted.usable (accepted : c.Accepted) : c.Usable where
  named s among := by
    have word := accepted.isWord_of_mem_names among
    simpa [Text.isWord] using word
  retains := accepted.maxRetained
  starts page catalog := by
    have pos := accepted.maxRetained
    unfold Engine.create Collector.create
    rw [if_neg (by omega), Int.toNat_natCast]
    rfl
  switches name among d e there :=
    Document.switches_of_isWord (accepted.isWord_of_mem_classNames among) there

/-- Whatever a file holds, and also where there is none: either its text is refused as a wrong value,
or the configuration can be used. -/
theorem load_refused_or_usable (path : String) (text : Option String) :
    (∃ e, load path text = .error e ∧ e.typeName = "ValueError") ∨
      ∃ c, load path text = .ok c ∧ c.Usable := by
  cases loaded : load path text with
  | ok c => exact .inr ⟨c, rfl, (accepted_of_load loaded).usable⟩
  | error e =>
    refine .inl ⟨e, rfl, ?_⟩
    obtain ⟨s, fault, -, -, rfl⟩ := failure_of_load loaded
    rfl

/-- A class with a space in it is refused, with the place where it stands. -/
example : ofText "\x7b\"presentation\": \x7b\"invalid_class\": \"is invalid\"\x7d\x7d" =
    .error (.schema [⟨[.key "presentation", .key "invalid_class"], .refused
      "class name must be non-empty without whitespace, got: 'is invalid'"⟩]) := by
  decide +kernel

end Config

end FormGate
