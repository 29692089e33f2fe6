import FormGate.Proofs.Document.Rooted
import FormGate.Proofs.Markup.Tagged

/-!
# Taking an element out of a page

A page written down from left to right is a list of marks, in which those of an element with all that it
holds are one stretch. Taking the element out leaves all other marks as they are and at their places, the
text behind the element among them (`Document.remove_leaves`). The outermost element and elements that are
not in the page are left alone.
-/

namespace FormGate

open Markup

namespace Markup

/-! ## What is told from marks -/

namespace Mark

/-- The label of the element that a mark opens. -/
def label? : Mark → Option Label
  | opening l => some l
  | _ => none

/-- The labels of the elements that marks open. -/
def labels (marks : List Mark) : List Label :=
  marks.filterMap label?

/-- The text between marks. -/
def text (marks : List Mark) : String :=
  .ofList (marks.filterMap char?)

theorem labels_append (ms ms' : List Mark) : labels (ms ++ ms') = labels ms ++ labels ms' :=
  List.filterMap_append

theorem text_append (ms ms' : List Mark) : text (ms ++ ms') = text ms ++ text ms' := by
  rw [text, List.filterMap_append, String.ofList_append, text, text]

theorem labels_chars (cs : List Char) : labels (cs.map char) = [] := by
  rw [labels, List.filterMap_map]
  exact List.filterMap_eq_nil_iff.2 fun _ _ => rfl

theorem text_chars (s : String) : text (s.toList.map char) = s := by
  have each : char? ∘ char = some := rfl
  rw [text, List.filterMap_map, each, List.filterMap_some, String.ofList_toList]

end Mark

theorem Node.innerText_forest (n : Node) : n.forest.innerText = n.innerText := by
  simp [Node.forest, Forest.innerText, Node.innerText]

namespace Forest

variable {f : Forest} {x : Nat} {n : Node}

theorem labels_marks (f : Forest) : Mark.labels f.marks = f.labels := by
  induction f with
  | nil => rfl
  | cons l t c tail next ihc ih =>
    have opened (ms : List Mark) : Mark.labels (.opening l :: ms) = l :: Mark.labels ms := rfl
    have closed (ms : List Mark) : Mark.labels (.closing :: ms) = Mark.labels ms := rfl
    rw [marks, opened, Mark.labels_append, Mark.labels_chars, Mark.labels_append, ihc, closed,
      Mark.labels_append, Mark.labels_chars, ih]
    rfl

theorem text_marks (f : Forest) : Mark.text f.marks = f.innerText := by
  induction f with
  | nil => rfl
  | cons l t c tail next ihc ih =>
    have opened (ms : List Mark) : Mark.text (.opening l :: ms) = Mark.text ms := rfl
    have closed (ms : List Mark) : Mark.text (.closing :: ms) = Mark.text ms := rfl
    rw [marks, opened, Mark.text_append, Mark.text_chars, Mark.text_append, ihc, closed,
      Mark.text_append, Mark.text_chars, ih, innerText, String.append_assoc, String.append_assoc]

section Split

variable {g : Forest} {before after : List Mark} {s : String}
  (split : f.marks = before ++ (g.marks ++ (s.toList.map .char ++ after)))
include split

theorem labels_of_marks :
    f.labels = Mark.labels before ++ (g.labels ++ Mark.labels after) := by
  rw [← labels_marks, split, Mark.labels_append, Mark.labels_append, labels_marks,
    Mark.labels_append, Mark.labels_chars, List.nil_append]

theorem text_of_marks :
    f.innerText = Mark.text before ++ (g.innerText ++ (s ++ Mark.text after)) := by
  rw [← text_marks, split, Mark.text_append, Mark.text_append, text_marks, Mark.text_append,
    Mark.text_chars]

end Split

/-! ## Cutting an element out -/

section Cut

variable (nodup : f.ids.Nodup) (found : f.find? x = some n)
include nodup found

/-- Of the marks of a forest those of the element that is cut out go, with all that it holds. The text
behind the element stays at its place, where that is in front of all marks too. -/
theorem marks_cut : ∃ before after,
    f.marks = before ++ (n.forest.marks ++ (n.tail.toList.map .char ++ after)) ∧
      (f.cut x).1.toList.map .char ++ (f.cut x).2.marks =
        before ++ (n.tail.toList.map .char ++ after) := by
  induction f with
  | nil => cases found
  | cons l t c tail next ihc ih =>
    obtain ⟨-, -, nodupc, nodupn, -⟩ := nodup_cons nodup
    by_cases here : l.id = x
    · rw [find?_here here] at found
      cases found
      refine ⟨[], next.marks, ?_, ?_⟩
      · simp [marks, Node.forest]
      · rw [cut, if_pos here, List.nil_append]
    · rw [cut, if_neg here]
      rcases find?_there nodup here found with ⟨below, absent⟩ | ⟨after, absent⟩
      · obtain ⟨front, back, whole, left⟩ := ihc nodupc below
        refine ⟨.opening l :: (t.toList.map .char ++ front),
          back ++ .closing :: (tail.toList.map .char ++ next.marks), ?_, ?_⟩
        · rw [marks, whole]
          simp only [List.append_assoc, List.cons_append]
        · rw [cut_of_not_mem absent]
          dsimp only
          rw [marks, String.toList_append, List.map_append, List.append_assoc,
            ← List.append_assoc ((c.cut x).1.toList.map _), left, String.append_empty]
          simp
      · obtain ⟨front, back, whole, left⟩ := ih nodupn after
        refine ⟨.opening l :: (t.toList.map .char ++ (c.marks ++ .closing ::
          (tail.toList.map .char ++ front))), back, ?_, ?_⟩
        · rw [marks, whole]
          simp only [List.append_assoc, List.cons_append]
        · rw [cut_of_not_mem absent]
          simp only [marks, String.toList_append, List.map_append, String.append_empty,
            List.append_assoc, left]
          simp

theorem parent?_cut {y : Nat} (other : y ∉ n.forest.ids) (owner : Nat) :
    (f.cut x).2.parent? y owner = f.parent? y owner := by
  induction f generalizing owner with
  | nil => cases found
  | cons l t c tail next ihc ih =>
    obtain ⟨-, -, nodupc, nodupn, -⟩ := nodup_cons nodup
    by_cases here : l.id = x
    · rw [find?_here here] at found
      cases found
      obtain ⟨apart, below, -⟩ := not_mem_cons other
      rw [cut, if_pos here, parent?, if_neg apart, parent?_of_not_mem below, Option.none_or]
    · rw [cut, if_neg here]
      dsimp only
      rw [parent?, parent?]
      rcases find?_there nodup here found with ⟨below, absent⟩ | ⟨after, absent⟩
      · rw [cut_of_not_mem absent, ihc nodupc below]
      · rw [cut_of_not_mem absent, ih nodupn after]

end Cut

end Forest

end Markup

namespace Document

/-! ## Taking an element out -/

/-- What a page is from which an element is taken out, and what stays of it: the marks in front of the
element, the text that follows it, and the marks behind that. -/
structure Leaves (d : Document) (n : Node) (before after : List Mark) (d' : Document) : Prop where
  whole : d.tree.marks = before ++ (n.forest.marks ++ (n.tail.toList.map .char ++ after))
  left : d'.tree.marks = before ++ (n.tail.toList.map .char ++ after)
  labels : d.tree.labels = Mark.labels before ++ (n.labels ++ Mark.labels after)
  leftLabels : d'.tree.labels = Mark.labels before ++ Mark.labels after
  text : d.tree.innerText = Mark.text before ++ (n.innerText ++ (n.tail ++ Mark.text after))
  leftText : d'.tree.innerText = Mark.text before ++ (n.tail ++ Mark.text after)
  gone : ∀ l ∈ n.labels, d'.holds l.id = false
  parents : ∀ x, d'.holds x = true → d'.parent? x = d.parent? x
  rest : d' = { d with tree := d'.tree, loose := d.loose.append n.forest }

/-- Of distinct elements in a row those inside are not among those around. -/
theorem not_mem_of_nodup {xs ys zs : List Element} (nodup : (xs ++ (ys ++ zs)).Nodup) {x : Element}
    (inside : x ∈ ys) : x ∉ xs ++ zs := by
  rw [List.nodup_append, List.nodup_append] at nodup
  obtain ⟨-, ⟨-, -, behind⟩, before⟩ := nodup
  intro outside
  rcases List.mem_append.1 outside with member | member
  · exact before x member x (List.mem_append_left _ inside) rfl
  · exact behind x inside x member rfl

section Remove

variable {d : Document} {e : Element}

theorem remove_of_parentless (parentless : d.parent? e = none) : d.remove e = d := by
  unfold remove
  rw [parentless]

/-- The text behind an element below the outermost one is not handed out of the page. -/
theorem fst_cut_of_below (below : d.root ≠ e) : (d.tree.cut e).1 = "" := by
  unfold root at below
  cases tree : d.tree with
  | nil => rfl
  | cons l t c tail next =>
    rw [tree] at below
    rw [Forest.cut, if_neg below]

variable (wf : d.WellFormed) {p : Element} (parent : d.parent? e = some p) {n : Node}
  (found : d.tree.find? e = some n)
include wf parent found

omit wf in
theorem remove_eq_cut : d.remove e =
    { d with tree := (d.tree.cut e).2, loose := d.loose.append n.forest } := by
  unfold remove
  rw [parent, found]

theorem parent?_remove {x : Element} (other : x ∉ n.forest.ids) :
    (d.remove e).parent? x = d.parent? x := by
  have below := root_ne_of_parent? wf parent
  have nodup := wf.nodup_tree
  have removed := remove_eq_cut parent found
  unfold root at below
  unfold Document.parent? at parent ⊢
  rw [removed]
  dsimp only
  cases tree : d.tree with
  | nil =>
    rw [tree] at found
    cases found
  | cons l t c tail next =>
    rw [tree] at below nodup parent found
    obtain ⟨-, -, nodupc, -, -⟩ := Forest.nodup_cons nodup
    rw [Forest.cut, if_neg below]
    rcases Forest.find?_there nodup below found with ⟨inside, -⟩ | ⟨-, absent⟩
    · exact Forest.parent?_cut nodupc inside other l.id
    · have parent : c.parent? e l.id = some p := parent
      rw [Forest.parent?_of_not_mem absent] at parent
      cases parent

/-- The marks of the element go from those of the page, and what is told from these with them. -/
theorem leaves_remove : ∃ before after, d.Leaves n before after (d.remove e) := by
  have removed := remove_eq_cut parent found
  obtain ⟨before, after, whole, left⟩ := Forest.marks_cut wf.nodup_tree found
  rw [fst_cut_of_below (root_ne_of_parent? wf parent)] at left
  have tree : (d.remove e).tree = (d.tree.cut e).2 := congrArg Document.tree removed
  have left : (d.remove e).tree.marks = before ++ (n.tail.toList.map .char ++ after) := by
    rw [tree]
    exact left
  have labels := Forest.labels_of_marks whole
  have leftLabels : (d.remove e).tree.labels = Mark.labels before ++ Mark.labels after :=
    Forest.labels_of_marks (g := .nil) left
  have text := Forest.text_of_marks whole
  rw [n.innerText_forest] at text
  have leftText := Forest.text_of_marks (g := .nil) left
  rw [Forest.innerText, String.empty_append] at leftText
  -- the labels of the page are distinct, so none of those that go is among those that stay
  have apart (x : Element) (stays : (d.remove e).holds x = true) : x ∉ n.forest.ids := by
    have nodup := wf.nodup_tree
    have kept := Forest.find?_isSome.1 stays
    rw [Forest.ids, labels, List.map_append, List.map_append] at nodup
    rw [Forest.ids, leftLabels, List.map_append] at kept
    exact fun goes => not_mem_of_nodup nodup goes kept
  rw [Forest.labels_forest] at labels
  refine ⟨before, after, whole, left, labels, leftLabels, text, leftText, ?_, ?_, ?_⟩
  · intro l hl
    by_contra stays
    refine apart l.id (by simpa using stays) ?_
    rw [Forest.ids, Forest.labels_forest]
    exact List.mem_map_of_mem hl
  · exact fun x stays => parent?_remove wf parent found (apart x stays)
  · rw [tree, removed]

end Remove

/-- Every element of a page below the outermost one, comments included, is taken out with all that it
holds, and all else stays: the other elements with their attributes and parents in their order, and all
text at its place, also that behind the element. Nothing is done for the outermost element and for one
that is not in the page. -/
theorem remove_leaves {d : Document} (wf : d.WellFormed) {tag : Tag} (headed : d.tree.Headed tag)
    (e : Element) :
    (d.holds e = true → e ≠ d.root →
      ∃ n before after, d.tree.find? e = some n ∧ d.Leaves n before after (d.remove e)) ∧
    (e = d.root ∨ d.holds e = false → d.remove e = d) := by
  constructor
  · intro held below
    obtain ⟨n, found⟩ := Option.isSome_iff_exists.1 held
    obtain ⟨l, t, c, tree, -⟩ := headed
    have inside : e ∈ c.ids := by
      have member := Forest.find?_isSome.1 held
      rw [tree, Forest.ids_cons, List.mem_cons, Forest.ids_nil, List.append_nil] at member
      refine member.resolve_left fun same => below ?_
      rw [root, tree]
      exact same
    obtain ⟨p, parent⟩ := Forest.exists_parent inside l.id
    have parent : d.parent? e = some p := by
      rw [Document.parent?, tree]
      exact parent
    obtain ⟨before, after, leaves⟩ := leaves_remove wf parent found
    exact ⟨n, before, after, found, leaves⟩
  · intro outside
    refine remove_of_parentless (Option.eq_none_iff_forall_ne_some.2 fun p parent => ?_)
    rcases outside with rfl | loose
    · exact root_ne_of_parent? wf parent rfl
    · rw [Document.parent?] at parent
      split at parent
      · rename_i l t c tail next tree
        have absent : e ∉ d.tree.ids := by
          rw [← Forest.find?_isSome]
          simpa [holds] using loose
        rw [tree] at absent
        rw [Forest.parent?_of_not_mem (Forest.not_mem_cons absent).2.1] at parent
        cases parent
      · cases parent

/-- A form with a comment, an element behind it that holds another one, and text around all of them. -/
def remarked : Document where
  tree := .cons ⟨0, .element "form", []⟩ "a"
    (.cons ⟨1, .comment false, []⟩ "b" .nil "c"
      (.cons ⟨2, .element "div", [("class", "x")]⟩ "d" (.cons ⟨3, .element "b", []⟩ "e" .nil "f" .nil) "g"
        (.cons ⟨4, .element "input", []⟩ "" .nil "h" .nil))) "" .nil
  fresh := 5

/-- The text behind an element that is taken out follows the comment in front of it. -/
theorem remove_leaves_behind_comment :
    remarked.WellFormed ∧ remarked.tree.Headed (.element "form") ∧
      (∃ n before after, remarked.tree.find? 2 = some n ∧
        remarked.Leaves n before after (remarked.remove 2)) ∧
      remarked.tree.innerText = "abcdefgh" ∧ (remarked.remove 2).tree.innerText = "abcgh" := by
  have wf : remarked.WellFormed := by decide
  have headed : remarked.tree.Headed (.element "form") := ⟨_, _, _, rfl, rfl⟩
  exact ⟨wf, headed, (remove_leaves wf headed 2).1 rfl (by decide), by decide, by decide⟩

end Document

end FormGate
