import FormGate.Proofs.Document.Extract
import FormGate.Proofs.Pass.WriteBack

/-!
# Reading and writing values

A value that is written to an element is read back, unless the element is a selection none of whose options
stands for it; of two values that are written only the second counts; and writing what is read keeps what
is read. Nothing around the element changes (`Document.setValue_lawful`).
-/

namespace FormGate

open Markup Document

namespace Markup

/-! ## The order of attributes -/

/-- Two labels of one element with the same attributes, in any order. -/
structure Label.Alike (l l' : Label) : Prop where
  id : l'.id = l.id
  tag : l'.tag = l.tag
  attributes : ∀ a, l'.get? a = l.get? a

/-- Two forests that differ at most in the order of attributes. -/
inductive Forest.Alike : Forest → Forest → Prop
  | nil : Alike nil nil
  | cons {l l' : Label} {t tail : String} {c c' next next' : Forest} (label : l.Alike l')
      (children : Alike c c') (rest : Alike next next') :
      Alike (cons l t c tail next) (cons l' t c' tail next')

/-- Two nodes that differ at most in the order of attributes. -/
structure Node.Alike (n n' : Node) : Prop where
  label : n.label.Alike n'.label
  text : n'.text = n.text
  children : n.children.Alike n'.children
  tail : n'.tail = n.tail

theorem Label.Alike.refl (l : Label) : l.Alike l := ⟨rfl, rfl, fun _ => rfl⟩

theorem Forest.Alike.refl (f : Forest) : f.Alike f := by
  induction f with
  | nil => exact .nil
  | cons l t c tail next ihc ih => exact .cons (.refl l) ihc ih

theorem Node.Alike.of_eq {n n' : Node} (h : n' = n) : n.Alike n' := by
  subst h
  exact ⟨.refl _, rfl, .refl _, rfl⟩

/-! ## Choosing an option -/

section Choose

variable (v w : String) (l : Label) (t : String) (c : Forest)

theorem get?_chooseOption_of_ne {a : String} (other : a ≠ "selected") :
    (chooseOption v l t c).get? a = l.get? a := by
  unfold chooseOption
  split_ifs
  · exact Label.get?_set_of_ne _ other
  · exact Label.get?_erase_of_ne other
  · rfl

theorem optionValue_chosen :
    optionValue (chooseOption v l t c) t (c.mapLabels (chooseOption v)) = optionValue l t c := by
  rw [optionValue, get?_chooseOption_of_ne v l t c (by decide), Forest.innerText_mapLabels]
  rfl

theorem chooseOption_of_other (other : l.tag.localName ≠ "option") : chooseOption v l t c = l :=
  if_neg (by simpa using other)

theorem get?_selected_chooseOption (option : l.tag.localName = "option") :
    (chooseOption v l t c).get? "selected" =
      if optionValue l t c = v then some "selected" else none := by
  have marked : chooseOption v l t c =
      if optionValue l t c == v then l.set "selected" "selected" else l.erase "selected" :=
    if_pos (beq_iff_eq.2 option)
  rw [marked]
  by_cases same : optionValue l t c = v
  · rw [if_pos (beq_iff_eq.2 same), if_pos same, Label.get?_set_self]
  · rw [if_neg (by simpa using same), if_neg same, Label.get?_erase_self]

theorem chooseOption_again : (chooseOption w l t c).Alike
    (chooseOption w (chooseOption v l t c) t (c.mapLabels (chooseOption v))) := by
  by_cases option : l.tag.localName = "option"
  · have option' : (chooseOption v l t c).tag.localName = "option" := by
      rw [Setup.tag_chooseOption, option]
    constructor
    · rw [(kin_chooseOption w _ _ _).id, (kin_chooseOption v l t c).id, (kin_chooseOption w l t c).id]
    · rw [Setup.tag_chooseOption, Setup.tag_chooseOption, Setup.tag_chooseOption]
    · intro a
      by_cases selected : a = "selected"
      · rw [selected, get?_selected_chooseOption w _ _ _ option', optionValue_chosen,
          get?_selected_chooseOption w l t c option]
      · rw [get?_chooseOption_of_ne w _ _ _ selected, get?_chooseOption_of_ne v l t c selected,
          get?_chooseOption_of_ne w l t c selected]
  · rw [chooseOption_of_other v l t c option, chooseOption_of_other w l t c option,
      chooseOption_of_other w l t _ option]
    exact .refl l

end Choose

theorem Forest.chosen_again (v w : String) (f : Forest) :
    (f.mapLabels (chooseOption w)).Alike
      ((f.mapLabels (chooseOption v)).mapLabels (chooseOption w)) := by
  induction f with
  | nil => exact .nil
  | cons l t c tail next ihc ih => exact .cons (chooseOption_again v w l t c) ihc ih

/-! ## The node of an element -/

/-- A node once a value was written to it. -/
def Node.given (v : String) (n : Node) : Node :=
  match n.label.tag.localName with
  | "textarea" => { n with text := v, children := .nil }
  | "select" => { n with children := n.children.mapLabels (chooseOption v) }
  | _ => { n with label := n.label.set "value" v }

/-- What is taken out of a node when a value is written to it: all that a text area holds. -/
def Node.displaced (n : Node) : Forest :=
  if n.label.tag.localName = "textarea" then n.children else .nil

section Given

variable {n : Node} (v : String)

theorem Node.given_textarea (textarea : n.label.tag.localName = "textarea") :
    n.given v = { n with text := v, children := .nil } := by
  unfold given
  rw [textarea]
  rfl

theorem Node.given_select (select : n.label.tag.localName = "select") :
    n.given v = { n with children := n.children.mapLabels (chooseOption v) } := by
  unfold given
  rw [select]
  rfl

theorem Node.given_other (textarea : n.label.tag.localName ≠ "textarea")
    (select : n.label.tag.localName ≠ "select") :
    n.given v = { n with label := n.label.set "value" v } := by
  unfold given
  split
  · rename_i same
    exact absurd same textarea
  · rename_i same
    exact absurd same select
  · rfl

theorem Node.tail_given (n : Node) : (n.given v).tail = n.tail := by
  unfold given
  split <;> rfl

theorem Node.id_given (n : Node) : (n.given v).label.id = n.label.id := by
  unfold given
  split <;> rfl

theorem Node.tag_given (n : Node) : (n.given v).label.tag = n.label.tag := by
  unfold given
  split <;> rfl

theorem Node.given_given (v w : String) (n : Node) : (n.given w).Alike ((n.given v).given w) := by
  by_cases textarea : n.label.tag.localName = "textarea"
  · refine .of_eq ?_
    rw [given_textarea v textarea, given_textarea w textarea, given_textarea w (by exact textarea)]
  · by_cases select : n.label.tag.localName = "select"
    · rw [given_select v select, given_select w select, given_select w (by exact select)]
      exact ⟨.refl _, rfl, Forest.chosen_again v w n.children, rfl⟩
    · rw [given_other v textarea select, given_other w textarea select,
        given_other w (by exact textarea) (by exact select)]
      refine ⟨⟨rfl, rfl, fun a => ?_⟩, rfl, .refl _, rfl⟩
      by_cases same : a = "value"
      · rw [same, Label.get?_set_self, Label.get?_set_self]
      · rw [Label.get?_set_of_ne w same, Label.get?_set_of_ne v same, Label.get?_set_of_ne w same]

theorem Node.options_given (select : n.label.tag.localName = "select") :
    (n.given v).options = n.options.map (Node.chosen v) := by
  rw [given_select v select, options, Forest.nodes_chosen, List.filter_map,
    show isOption ∘ Node.chosen v = isOption from funext (Node.isOption_chosen v)]
  rfl

/-- An option is selected exactly if it stands for the chosen value, and still stands for the same
value. -/
theorem Node.chosen_option {o : Node} (option : o ∈ n.options) :
    (o.chosen v).worth = o.worth ∧ (o.chosen v).label.has "selected" = (o.worth == v) :=
  have weight := weight_chosen (List.of_mem_filter option) v
  ⟨congrArg Prod.snd weight, congrArg Prod.fst weight⟩

/-- Which values a selection has options for is not changed by choosing one. -/
theorem Node.worths_given (select : n.label.tag.localName = "select") :
    (n.given v).options.map worth = n.options.map worth := by
  rw [options_given v select, List.map_map]
  exact List.map_congr_left fun o ho => (chosen_option v ho).1

end Given

/-! ## An element in its forest -/

namespace Forest

variable {f : Forest} {x : Nat} {n : Node} (nodup : f.ids.Nodup) (found : f.find? x = some n)
include nodup found

/-- A forest is its node of a number in a frame that does not have the number. -/
theorem exists_frame : ∃ (K : Frame) (next : Forest),
    f = K.plug (.cons n.label n.text n.children n.tail next) ∧ n.label.id = x ∧ x ∉ K.ids ∧
      x ∉ n.children.ids ∧ x ∉ next.ids := by
  obtain ⟨K, l, t, c, tail, next, rfl, here, outside⟩ :=
    Frame.exists_plug nodup (find?_isSome.1 (Option.isSome_of_eq_some found))
  rw [Frame.find?_plug outside, find?_here here] at found
  cases found
  obtain ⟨below, behind, -⟩ := nodup_cons ((K.perm_ids_plug _).nodup nodup).of_append_right
  rw [here] at below behind
  exact ⟨K, next, rfl, here, outside, below, behind⟩

theorem fill_eq_replace (text : String) (children : Forest) :
    Forest.fill x text children f = f.replace x { n with text, children } := by
  obtain ⟨K, next, rfl, here, outside, -⟩ := exists_frame nodup found
  rw [Frame.fill_plug outside, Frame.replace_plug outside, fill, replace, if_pos here, if_pos here]

theorem modify_eq_replace (k : Label → Label) :
    f.modify x k = f.replace x { n with label := k n.label } := by
  obtain ⟨K, next, rfl, here, outside, below, behind⟩ := exists_frame nodup found
  rw [Frame.modify_plug outside, Frame.replace_plug outside, modify, replace, if_pos here,
    if_pos here, modify_of_not_mem below, modify_of_not_mem behind]

end Forest

end Markup

namespace Document

/-! ## Writing on a page -/

/-- The page in which a node stands in place of that of an element. What follows the element stays, and
what goes is put beside what was taken out before. -/
def replacing (d : Document) (e : Element) (n : Node) (gone : Forest) : Document :=
  { d with tree := d.tree.replace e n, loose := (d.loose.replace e n).append gone }

section Writing

variable {d : Document} {e : Element} (wf : d.WellFormed) {n : Node} (present : d.node? e = some n)
include wf present

/-- What replaces the node in any forest that holds it, and leaves other forests alone, replaces it on
the page. -/
theorem mapForests_eq_replacing {g : Forest → Forest} {n' : Node}
    (there : ∀ f : Forest, f.ids.Nodup → f.find? e = some n → g f = f.replace e n')
    (elsewhere : ∀ f : Forest, e ∉ f.ids → g f = f) :
    d.mapForests g = d.replacing e n' .nil := by
  unfold mapForests replacing
  rw [Forest.append_nil]
  rcases Option.or_eq_some_iff.1 present with found | ⟨absent, found⟩
  · have apart := wf.apart (Forest.find?_isSome.1 (Option.isSome_of_eq_some found))
    rw [there _ wf.nodup_tree found, elsewhere _ apart, Forest.replace_of_not_mem apart]
  · have apart := Forest.not_mem_of_find?_eq_none absent
    rw [there _ wf.nodup_loose found, elsewhere _ apart, Forest.replace_of_not_mem apart]

theorem fill_eq_replacing (text : String) (children : Forest) :
    d.mapForests (Forest.fill e text children) = d.replacing e { n with text, children } .nil :=
  mapForests_eq_replacing wf present
    (fun _ nodup found => Forest.fill_eq_replace nodup found text children)
    fun _ absent => Forest.fill_of_not_mem absent text children

theorem modifyLabel_eq_replacing (k : Label → Label) :
    d.modifyLabel e k = d.replacing e { n with label := k n.label } .nil :=
  mapForests_eq_replacing wf present (fun _ nodup found => Forest.modify_eq_replace nodup found k)
    fun _ absent => Forest.modify_of_not_mem absent k

/-- Writing a value replaces the node of the element, and nothing else. -/
theorem setValue_eq_replacing (v : String) :
    d.setValue e v = d.replacing e (n.given v) n.displaced := by
  unfold setValue
  rw [present]
  dsimp only
  split
  · rename_i textarea
    have filled := fill_eq_replacing wf present v .nil
    rw [Node.given_textarea v textarea, Node.displaced, if_pos textarea, setText, present, filled]
    unfold replacing
    rw [Forest.append_nil]
    rfl
  · rename_i select
    have other : n.label.tag.localName ≠ "textarea" := by
      rw [select]
      decide
    rw [Node.given_select v select, Node.displaced, if_neg other]
    exact fill_eq_replacing wf present n.text _
  · rename_i textarea select
    rw [Node.given_other v textarea select, Node.displaced, if_neg textarea]
    exact modifyLabel_eq_replacing wf present _

theorem node?_setValue (v : String) : (d.setValue e v).node? e = some (n.given v) := by
  have here : (n.given v).label.id = e := (n.id_given v).trans (node?_id present)
  have whole : { n.given v with tail := n.tail } = n.given v := by rw [← n.tail_given v]
  rw [setValue_eq_replacing wf present v, replacing, node?]
  dsimp only
  rw [Forest.find?_append]
  rcases Option.or_eq_some_iff.1 present with found | ⟨absent, found⟩
  · rw [Forest.find?_replace found here, whole]
    rfl
  · rw [Forest.replace_of_not_mem (Forest.not_mem_of_find?_eq_none absent), absent,
      Forest.find?_replace found here, whole]
    rfl

end Writing

/-- An element holds its own value, unless it is a selection without options. -/
theorem canHold_nodeValue (n : Node) : n.CanHold (nodeValue n) ∨ n.unselected = nodeValue n := by
  by_cases select : n.label.tag.localName = "select"
  · rw [nodeValue_select select, selectionValue]
    cases chosen : (n.options.find? (·.label.has "selected")).or n.options.head? with
    | some o =>
      have option : o ∈ n.options := by
        rcases Option.or_eq_some_iff.1 chosen with first | ⟨-, first⟩
        · exact List.mem_of_find?_eq_some first
        · exact List.mem_of_head? first
      exact .inl fun _ => ⟨o, option, rfl⟩
    | none =>
      rw [Node.unselected, (Option.or_eq_none_iff.1 chosen).2]
      exact .inr rfl
  · exact .inl fun same => absurd same select

/-- What a page is once a value was written to an element: it has another node there, and is as it was
around that. An element that is no selection has the value. In a selection the options that stand for it
are selected and no others, and it has the value if there is any such option. Else it has that of its
first option. -/
structure Takes (d : Document) (e : Element) (n : Node) (v : String) (n' : Node) (d' : Document) :
    Prop where
  node : d'.node? e = some n'
  around : d' = d.replacing e n' n.displaced
  held : n.label.tag.localName ≠ "select" → d'.value e = v
  chosen : n.label.tag.localName = "select" → (∃ o ∈ n.options, o.worth = v) → d'.value e = v
  unchosen : n.label.tag.localName = "select" → (∀ o ∈ n.options, o.worth ≠ v) →
    d'.value e = (n.options.head?.map Node.worth).getD "" ∧
      ∀ o ∈ n'.options, o.label.has "selected" = false
  marked : n.label.tag.localName = "select" →
    List.Forall₂ (fun o o' => o'.label.id = o.label.id ∧ o'.worth = o.worth ∧
      (o'.label.has "selected" = true ↔ o'.worth = v)) n.options n'.options

section Writing

variable {d : Document} {e : Element} (wf : d.WellFormed) {n : Node} (present : d.node? e = some n)
include wf present

theorem takes_setValue (v : String) : d.Takes e n v (n.given v) (d.setValue e v) where
  node := node?_setValue wf present v
  around := setValue_eq_replacing wf present v
  held other := (value_setValue present v).1 fun same => absurd same other
  chosen _ able := (value_setValue present v).1 fun _ => able
  unchosen select unable := by
    refine ⟨(value_setValue present v).2 fun able => ?_, ?_⟩
    · obtain ⟨o, ho, same⟩ := able select
      exact unable o ho same
    · rw [Node.options_given v select]
      refine List.forall_mem_map.2 fun o ho => ?_
      rw [(Node.chosen_option v ho).2]
      exact beq_eq_false_iff_ne.2 (unable o ho)
  marked select := by
    rw [Node.options_given v select, List.forall₂_map_right_iff, List.forall₂_same]
    intro o ho
    obtain ⟨worth, selected⟩ := Node.chosen_option v ho
    refine ⟨(kin_chooseOption v _ _ _).id, worth, ?_⟩
    rw [selected, worth, beq_iff_eq]

theorem value_setValue_setValue (v w : String) :
    ((d.setValue e v).setValue e w).value e = (d.setValue e w).value e := by
  have present' := node?_setValue wf present v
  have canHold : (n.given v).CanHold w ↔ n.CanHold w := by
    unfold Node.CanHold
    rw [n.tag_given v]
    refine imp_congr_right fun select => ?_
    rw [← List.mem_map, Node.worths_given v select, List.mem_map]
  by_cases able : n.CanHold w
  · rw [(value_setValue present' w).1 (canHold.2 able), (value_setValue present w).1 able]
  · have select : n.label.tag.localName = "select" := (Classical.not_imp.1 able).1
    have unselected : (n.given v).unselected = n.unselected := by
      unfold Node.unselected
      rw [← List.head?_map, Node.worths_given v select, List.head?_map]
    rw [(value_setValue present' w).2 fun able' => able (canHold.1 able'),
      (value_setValue present w).2 able, unselected]

omit wf in
theorem value_setValue_value : (d.setValue e (d.value e)).value e = d.value e := by
  have own : d.value e = nodeValue n := by
    rw [value, present]
    rfl
  rw [own]
  by_cases able : n.CanHold (nodeValue n)
  · exact (value_setValue present _).1 able
  · rw [(value_setValue present _).2 able]
    exact (canHold_nodeValue n).resolve_left able

/-- Reading and writing values keep to the laws of a lens, as far as a selection has options for the
values. Two elements are the same here whatever the order of their attributes is. -/
theorem setValue_lawful (v w : String) :
    (∃ n', d.Takes e n v n' (d.setValue e v)) ∧
      (∃ m m', (d.setValue e w).node? e = some m ∧
        ((d.setValue e v).setValue e w).node? e = some m' ∧ m.Alike m' ∧
          ((d.setValue e v).setValue e w).value e = (d.setValue e w).value e) ∧
      (d.setValue e (d.value e)).value e = d.value e := by
  refine ⟨⟨_, takes_setValue wf present v⟩, ⟨_, _, node?_setValue wf present w, ?_, n.given_given v w,
    value_setValue_setValue wf present v w⟩, value_setValue_value present⟩
  exact node?_setValue (descends_setValue d e v wf).1 (node?_setValue wf present v) w

end Writing

/-- A selection with a nested option, two options of one value, and one that is selected. -/
def nest : Document where
  tree := .cons ⟨0, .element "form", []⟩ ""
    (.cons ⟨1, .element "select", [("name", "s")]⟩ ""
      (.cons ⟨2, .element "option", [("value", "a")]⟩ "A" .nil ""
        (.cons ⟨3, .element "optgroup", []⟩ "" (.cons ⟨4, .element "option", []⟩ " b " .nil "" .nil) ""
          (.cons ⟨5, .element "option", [("selected", ""), ("value", "b")]⟩ "B" .nil "" .nil)))
      "" .nil) "" .nil
  fresh := 6

/-- Two options stand for the value that is written, and both are selected. -/
theorem setValue_lawful_nested : ∃ n n', nest.WellFormed ∧ nest.node? 1 = some n ∧
    nest.Takes 1 n "b" n' (nest.setValue 1 "b") ∧ (nest.setValue 1 "b").value 1 = "b" ∧
    n'.options.map (fun o => (o.label.id, o.label.has "selected")) =
      [(2, false), (4, true), (5, true)] ∧
    ((nest.setValue 1 "b").setValue 1 "a").value 1 = (nest.setValue 1 "a").value 1 := by
  have wf : nest.WellFormed := by decide
  have present : nest.node? 1 = some _ := rfl
  obtain ⟨⟨n', takes⟩, ⟨-, -, -, -, -, last⟩, -⟩ := setValue_lawful wf present "b" "a"
  have written : (nest.setValue 1 "b").node? 1 = some _ := rfl
  obtain rfl := Option.some.inj (written.symm.trans takes.node)
  exact ⟨_, _, wf, present, takes, takes.chosen (by decide) (by decide +kernel), by decide +kernel, last⟩

end Document

end FormGate
