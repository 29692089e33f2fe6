import FormGate.Proofs.Pass.Judging
import FormGate.Proofs.Pass.Returns

/-!
# The value that is written back

The rules of a field are judged on a running value, and what it is in the end is written back where it
is not the value in the beginning. An input and a text area then hold it. A selection holds it if one of
its options stands for it, and else none of its options is selected and the first one counts
(`Setup.written_back_iff`). So a rule that replaces the value of a selection can leave it with a value
on which no rule was judged (`Setup.selection_not_written`).
-/

namespace FormGate

open Markup Document Pass

/-! ## What a node holds -/

namespace Markup

/-- The value for which an option stands. -/
def Node.worth (n : Node) : String :=
  optionValue n.label n.text n.children

/-- The options in a node, of which a selection is not one itself. -/
def Node.options (n : Node) : List Node :=
  n.children.nodes.filter isOption

/-- A selection can hold the values for which its options stand, any other node all. -/
def Node.CanHold (n : Node) (v : String) : Prop :=
  n.label.tag.localName = "select" → ∃ o ∈ n.options, o.worth = v

instance (n : Node) (v : String) : Decidable (n.CanHold v) :=
  inferInstanceAs (Decidable (_ → _))

/-- The value of a selection of which no option is selected. -/
def Node.unselected (n : Node) : String :=
  (n.options.head?.map Node.worth).getD ""

/-- A node when a value is chosen around it. -/
def Node.chosen (v : String) (n : Node) : Node :=
  { n with
    label := chooseOption v n.label n.text n.children
    children := n.children.mapLabels (chooseOption v) }

theorem Forest.innerText_mapLabels (k : Label → String → Forest → Label) (f : Forest) :
    (f.mapLabels k).innerText = f.innerText := by
  induction f with
  | nil => rfl
  | cons l t c tail next ihc ih => rw [mapLabels, innerText, innerText, ihc, ih]

theorem Forest.nodes_chosen (v : String) (f : Forest) :
    (f.mapLabels (chooseOption v)).nodes = f.nodes.map (Node.chosen v) := by
  induction f with
  | nil => rfl
  | cons l t c tail next ihc ih =>
    rw [mapLabels, nodes, nodes, ihc, ih, List.map_cons, List.map_append]
    rfl

theorem Node.isOption_chosen (v : String) (n : Node) : isOption (n.chosen v) = isOption n := by
  show ((chooseOption v n.label n.text n.children).tag.localName == "option") = _
  rw [Setup.tag_chooseOption]
  rfl

/-- An option is selected exactly if it stands for the value that is chosen, and still stands for the
same value. -/
theorem Node.weight_chosen {n : Node} (option : isOption n = true) (v : String) :
    Revision.weight (n.chosen v) = (n.worth == v, n.worth) := by
  have chosen : chooseOption v n.label n.text n.children =
      if n.worth == v then n.label.set "selected" "selected" else n.label.erase "selected" :=
    if_pos option
  have value : (chooseOption v n.label n.text n.children).get? "value" = n.label.get? "value" := by
    rw [chosen]
    split_ifs
    · exact Label.get?_set_of_ne _ (by decide)
    · exact Label.get?_erase_of_ne (by decide)
  have selected : (chooseOption v n.label n.text n.children).has "selected" = (n.worth == v) := by
    rw [Label.has_eq_isSome, chosen]
    split_ifs with same
    · rw [Label.get?_set_self, same]
      rfl
    · rw [Label.get?_erase_self, Bool.eq_false_iff.2 same]
      rfl
  refine Prod.ext selected ?_
  show ((chooseOption v n.label n.text n.children).get? "value").getD
    (Text.trim (n.text ++ (n.children.mapLabels (chooseOption v)).innerText)) = n.worth
  rw [value, Forest.innerText_mapLabels]
  rfl

end Markup

namespace Document

variable {d : Document} {e : Element} {n : Node}

theorem node?_fill (present : d.node? e = some n) (text : String) (children : Forest) :
    (d.mapForests (Forest.fill e text children)).node? e = some { n with text, children } := by
  unfold node?
  dsimp only [mapForests]
  rcases Option.or_eq_some_iff.1 present with found | ⟨absent, found⟩
  · rw [Forest.find?_fill found]
    rfl
  · rw [Forest.fill_of_not_mem (Forest.not_mem_of_find?_eq_none absent), absent,
      Forest.find?_fill found]
    rfl

theorem nodeValue_select (select : n.label.tag.localName = "select") :
    nodeValue n = selectionValue n.options := by
  have other : isOption n = false := by
    unfold isOption
    rw [select]
    decide
  have inside : n.nodes.filter isOption = n.options :=
    List.filter_cons_of_neg (by simp [other])
  unfold nodeValue
  rw [select]
  show selectionValue (n.nodes.filter isOption) = _
  rw [inside]

/-- In a selection the first option that stands for the chosen value counts, and where none does the
first of all. -/
theorem nodeValue_chosen (select : n.label.tag.localName = "select") (v : String) :
    nodeValue { n with children := n.children.mapLabels (chooseOption v) } =
      (((n.options.map Node.worth).find? (· == v)).or (n.options.map Node.worth).head?).getD "" := by
  have weights : ((n.children.mapLabels (chooseOption v)).nodes.filter isOption).map Revision.weight =
      (n.options.map Node.worth).map fun w => (w == v, w) := by
    rw [Forest.nodes_chosen, List.filter_map, List.map_map, List.map_map,
      show isOption ∘ Node.chosen v = isOption from funext (Node.isOption_chosen v)]
    exact List.map_congr_left fun o ho => Node.weight_chosen (List.of_mem_filter ho) v
  have second : Prod.snd ∘ (fun w => (w == v, w)) = (id : String → String) := rfl
  rw [nodeValue_select (n := { n with children := n.children.mapLabels (chooseOption v) }) select,
    Node.options, Revision.selectionValue_eq, weights, List.find?_map, List.head?_map,
    ← Option.map_or, Option.map_map, second, Option.map_id]
  rfl

/-- What a node holds after a value was written to it: the value, unless it is a selection none of
whose options stands for it. -/
theorem value_setValue (present : d.node? e = some n) (v : String) :
    (n.CanHold v → (d.setValue e v).value e = v) ∧
      (¬ n.CanHold v → (d.setValue e v).value e = n.unselected) := by
  unfold setValue value
  rw [present]
  dsimp only
  split
  · rename_i textarea
    have able : n.CanHold v := fun select => absurd (textarea.symm.trans select) (by decide)
    refine ⟨fun _ => ?_, fun unable => absurd able unable⟩
    rw [node?_setText present, Option.map_some, Option.getD_some, nodeValue, textarea]
    exact String.append_empty
  · rename_i select
    rw [node?_fill present, Option.map_some, Option.getD_some, nodeValue_chosen select]
    constructor
    · intro able
      obtain ⟨o, option, worth⟩ := able select
      have found : ((n.options.map Node.worth).find? (· == v)).isSome = true :=
        List.find?_isSome.2 ⟨v, List.mem_map.2 ⟨o, option, worth⟩, beq_self_eq_true v⟩
      obtain ⟨w, same⟩ := Option.isSome_iff_exists.1 found
      rw [same, Option.some_or, Option.getD_some]
      exact beq_iff_eq.1 (List.find?_some (p := (· == v)) same)
    · intro unable
      have absent : (n.options.map Node.worth).find? (· == v) = none := by
        rw [List.find?_eq_none]
        intro w hw same
        obtain ⟨o, option, worth⟩ := List.mem_map.1 hw
        exact unable fun _ => ⟨o, option, worth.trans (beq_iff_eq.1 same)⟩
      rw [absent, Option.none_or, List.head?_map]
      rfl
  · rename_i textarea select
    have able : n.CanHold v := fun same => absurd same select
    refine ⟨fun _ => ?_, fun unable => absurd able unable⟩
    have here : n.label.id = e := node?_id present
    rw [setAttribute, node?_modifyLabel (k := fun l => l.set "value" v) (fun _ => rfl), present]
    show nodeValue _ = v
    rw [nodeValue]
    dsimp only
    rw [if_pos here]
    split
    · rename_i same
      exact absurd same textarea
    · rename_i same
      exact absurd same select
    · rw [Label.get?_set_self, Option.getD_some]

/-- Where a selection is left without the chosen value, it holds another one. -/
theorem unselected_ne {v : String} (unable : ¬ n.CanHold v) (other : v ≠ nodeValue n) :
    n.unselected ≠ v := by
  rw [Node.CanHold, Classical.not_imp] at unable
  obtain ⟨select, absent⟩ := unable
  cases options : n.options with
  | nil =>
    rw [nodeValue_select select, options] at other
    rw [Node.unselected, options]
    exact Ne.symm other
  | cons o os =>
    intro same
    rw [Node.unselected, options] at same
    exact absent ⟨o, by simp [options], same⟩

end Document

namespace Setup

variable (s : Setup)

/-! ## The running value -/

theorem returns_rules (f : Descriptor) (checked : Bool) (scope : Option Element) (rules : List Rule)
    (p : Progress) (d : Document) :
    (rules.foldlM (s.applyRule f checked (s.lookup scope)) p).Returns d := by
  induction rules generalizing p d with
  | nil => exact .pure p d
  | cons r rules ih =>
    exact .bind ⟨_, d, (s.runs_applyRule f checked scope p r d).yields⟩ fun q d' _ => ih q d'

/-- The rules of a field, applied one after the other to the value that it holds on a page. -/
def applying (f : Descriptor) (scope : Option Element) (d : Document) : Pass Progress :=
  f.rules.foldlM (s.applyRule f (d.ticked f.element f.kind)
    (s.lookup (scope.or (d.closestForm? f.element)))) ⟨d.value f.element, []⟩

/-- What judging a field makes of the page, once its rules were applied. -/
theorem yields_evaluate {f : Descriptor} {scope : Option Element} {d : Document} {p : Progress}
    (applied : (s.applying f scope d).Yields d p d) :
    (s.evaluate f scope).Yields d
      ⟨p.errors, if p.value = d.value f.element then none else some p.value⟩
      (if p.value = d.value f.element then d else d.setValue f.element p.value) := by
  have rest : (do
      let value ← ask (.value f.element)
      let checked ← tickedOf f.element f.kind
      let p ← f.rules.foldlM
        (s.applyRule f checked (s.lookup (scope.or (d.closestForm? f.element)))) ⟨value, []⟩
      if p.value == value then return ⟨p.errors, none⟩
      else
        ask (.setValue f.element p.value)
        return ⟨p.errors, some p.value⟩ : Pass Outcome).Yields d
      ⟨p.errors, if p.value = d.value f.element then none else some p.value⟩
      (if p.value = d.value f.element then d else d.setValue f.element p.value) := by
    refine yields_bind.2 ⟨d.value f.element, d, rfl, ?_⟩
    refine yields_bind.2 ⟨_, d, (runs_tickedOf f.element f.kind d).yields, ?_⟩
    refine yields_bind.2 ⟨p, d, applied, ?_⟩
    by_cases same : p.value = d.value f.element
    · rw [if_pos (beq_iff_eq.2 same), if_pos same, if_pos same]
      rfl
    · rw [if_neg (by simpa using same), if_neg same, if_neg same]
      rfl
  unfold evaluate
  cases scope with
  | some e => exact yields_bind.2 ⟨some e, d, rfl, rest⟩
  | none => exact yields_bind.2 ⟨d.closestForm? f.element, d, rfl, rest⟩

/-- A field is judged, and in the end it holds the running value exactly if this is the value that it
held before or one that its element can hold. A selection that cannot hold it is left unselected. -/
theorem written_back_iff (f : Descriptor) (scope : Option Element) {d : Document} {n : Node}
    (present : d.node? f.element = some n) :
    ∃ p d', (s.applying f scope d).Yields d p d ∧
      (s.evaluate f scope).Yields d
        ⟨p.errors, if p.value = d.value f.element then none else some p.value⟩ d' ∧
      (p.value = d.value f.element → d' = d) ∧
      (d'.value f.element = p.value ↔ p.value = d.value f.element ∨ n.CanHold p.value) ∧
      (p.value ≠ d.value f.element → ¬ n.CanHold p.value → d'.value f.element = n.unselected) := by
  obtain ⟨p, d₁, applied⟩ := s.returns_rules f (d.ticked f.element f.kind)
    (scope.or (d.closestForm? f.element)) f.rules ⟨d.value f.element, []⟩ d
  rw [(s.reads_rules (s.reads_lookup _) f _ f.rules _).yields applied] at applied
  refine ⟨p, _, applied, s.yields_evaluate applied, fun same => if_pos same, ?_⟩
  by_cases same : p.value = d.value f.element
  · rw [if_pos same]
    exact ⟨⟨fun _ => .inl same, fun _ => same.symm⟩, fun other => absurd same other⟩
  · rw [if_neg same]
    obtain ⟨held, left⟩ := value_setValue present p.value
    refine ⟨⟨fun now => .inr ?_, fun able => held (able.resolve_left same)⟩, fun _ => left⟩
    by_contra unable
    refine unselected_ne unable ?_ ((left unable).symm.trans now)
    rwa [value, present] at same

/-! ## A selection -/

/-- A form with a selection whose value is trimmed, and in which the second of two options is selected. -/
def choice (first second : String) : Document where
  tree := .cons ⟨0, .element "form", []⟩ ""
    (.cons ⟨1, .element "select", [("name", "s"), ("data-validate-validation", "trim")]⟩ ""
      (.cons ⟨2, .element "option", [("value", first)]⟩ "" .nil ""
        (.cons ⟨3, .element "option", [("value", second), ("selected", "selected")]⟩ "" .nil "" .nil))
      "" .nil) "" .nil
  fresh := 4

/-- An option that stands for the trimmed value is selected in place of the one with blanks. -/
theorem written_back_among_options :
    let d := choice "b" " b "
    ∃ d', (evaluate {} (descriptor {} d 1) none).Yields d ⟨[], some "b"⟩ d' ∧ d'.value 1 = "b" := by
  intro d
  have present : d.node? 1 = some _ := rfl
  obtain ⟨p, d', applied, evaluated, -, held, -⟩ := written_back_iff {} (descriptor {} d 1) none present
  have result : ((applying {} (descriptor {} d 1) none d).on d).1.toOption = some ⟨"b", []⟩ := by
    decide +kernel
  rw [show (applying {} (descriptor {} d 1) none d).on d = (.ok p, d) from applied] at result
  obtain rfl : p = ⟨"b", []⟩ := Option.some.inj result
  exact ⟨d', evaluated, held.2 (.inr (by decide +kernel))⟩

/-- A selection none of whose options stands for the trimmed value: it is judged to have this value, and
has that of its first option. -/
theorem selection_not_written :
    let d := choice "a" " b "
    ∃ d', (describe {} 1).Yields d (descriptor {} d 1) d ∧ d.value 1 = " b " ∧
      (evaluate {} (descriptor {} d 1) none).Yields d ⟨[], some "b"⟩ d' ∧ d'.value 1 = "a" := by
  intro d
  have applied : (applying {} (descriptor {} d 1) none d).Yields d ⟨"b", []⟩ d := by
    unfold Yields
    decide +kernel
  have trimmed : (evaluate {} (descriptor {} d 1) none).Yields d ⟨[], some "b"⟩ (d.setValue 1 "b") :=
    yields_evaluate {} applied
  have ruled : d.attribute? 1 "data-validate-validation" = some "trim" := rfl
  exact ⟨_, (runs_describe {} ruled).yields, rfl, trimmed, rfl⟩

end Setup

end FormGate
