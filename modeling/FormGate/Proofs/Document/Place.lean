import FormGate.Proofs.Document.WellFormed
import FormGate.Proofs.Markup.Frame

/-!
# Places in a page

A place in a page is where elements stand below one parent, together with all of the page around it.
Edits of elements that stand in the place, or below those, are edits of the forest that stands there.
-/

namespace FormGate

open Markup

/-- A page in which a place below its outermost element is left open. -/
structure Place where
  root : Label
  text : String
  frame : Frame
  tail : String
  next : Forest
  page : Document

namespace Place

def put (P : Place) (f : Forest) : Document :=
  { P.page with tree := .cons P.root P.text (P.frame.plug f) P.tail P.next }

def whole (P : Place) : Frame :=
  .inside P.root P.text P.frame P.tail P.next

/-- The place after elements were taken out of it. -/
def taking (P : Place) (f : Forest) : Place :=
  { P with page := { P.page with loose := P.page.loose.append f } }

/-- The place in a page in which free numbers start later. -/
def numbering (P : Place) (fresh : Nat) : Place :=
  { P with page := { P.page with fresh } }

/-- Whether a number is none of those around the place. -/
structure Misses (P : Place) (x : Element) : Prop where
  root : P.root.id ≠ x
  frame : x ∉ P.frame.ids
  next : x ∉ P.next.ids
  loose : x ∉ P.page.loose.ids

section WellFormed

variable {P : Place} {f : Forest} (h : (P.put f).WellFormed)
include h

theorem nodup_put : f.ids.Nodup := by
  have := h.nodup_tree
  rw [put, Forest.ids_cons, List.nodup_cons, List.nodup_append,
    (P.frame.perm_ids_plug f).nodup_iff, List.nodup_append] at this
  exact this.2.1.2.1

/-- The elements in a place of a well-formed page are not around it. -/
theorem misses {x : Element} (hx : x ∈ f.ids) : P.Misses x := by
  have plugged : x ∈ (P.frame.plug f).ids := Frame.mem_ids_plug.2 (.inr hx)
  have tree : x ∈ (P.put f).tree.ids := by
    rw [put, Forest.ids_cons]
    exact List.mem_cons_of_mem _ (List.mem_append_left _ plugged)
  have nodup := h.nodup_tree
  rw [put] at nodup
  obtain ⟨root, -, inner, -, apart⟩ := Forest.nodup_cons nodup
  rw [(P.frame.perm_ids_plug f).nodup_iff, List.nodup_append] at inner
  constructor
  · rintro rfl
    exact root plugged
  · exact fun frame => inner.2.2 x frame x hx rfl
  · exact apart x plugged
  · exact h.apart tree

end WellFormed

/-- A place below the outermost element, where an element of the page that has a parent stands. -/
theorem exists_put {d : Document} {x p : Element} (h : d.WellFormed) (parent : d.parent? x = some p) :
    ∃ P l t c tail next, d = put P (.cons l t c tail next) ∧ l.id = x := by
  unfold Document.parent? at parent
  split at parent
  · rename_i root text inner tail next tree
    have below : x ∈ inner.ids := by
      by_contra absent
      rw [Forest.parent?_of_not_mem absent] at parent
      cases parent
    have nodup := h.nodup_tree
    rw [tree] at nodup
    obtain ⟨K, l, t, c, tail', next', rfl, id, -⟩ :=
      Frame.exists_plug (Forest.nodup_cons nodup).2.2.1 below
    refine ⟨⟨root, text, K, tail, next, d⟩, l, t, c, tail', next', ?_, id⟩
    rw [put, ← tree]
  · cases parent

section Edits

variable {P : Place} {f : Forest} {x : Element} (h : P.Misses x)
include h

theorem node?_put (f : Forest) : (P.put f).node? x = f.find? x := by
  rw [Document.node?, put, Forest.find?, if_neg h.root, Frame.find?_plug h.frame,
    Forest.find?_of_not_mem h.next, Forest.find?_of_not_mem h.loose, Option.or_none, Option.or_none]

theorem find?_put (f : Forest) : (P.put f).tree.find? x = f.find? x := by
  rw [put, Forest.find?, if_neg h.root, Frame.find?_plug h.frame, Forest.find?_of_not_mem h.next,
    Option.or_none]

theorem modifyLabel_put (f : Forest) (k : Label → Label) :
    (P.put f).modifyLabel x k = P.put (f.modify x k) := by
  rw [Document.modifyLabel, Document.mapForests, put, Forest.modify, if_neg h.root,
    Frame.modify_plug h.frame, Forest.modify_of_not_mem h.next, Forest.modify_of_not_mem h.loose]
  rfl

theorem fill_put (f : Forest) (text : String) (children : Forest) :
    (P.put f).mapForests (Forest.fill x text children) = P.put (Forest.fill x text children f) := by
  rw [Document.mapForests, put, Forest.fill, if_neg h.root, Frame.fill_plug h.frame,
    Forest.fill_of_not_mem h.next, Forest.fill_of_not_mem h.loose]
  rfl

theorem insertAfter_put (f : Forest) (n : Node) :
    (P.put f).tree.insertAfter x n = (P.put (f.insertAfter x n)).tree := by
  rw [put, Forest.insertAfter, if_neg h.root, Frame.insertAfter_plug h.frame,
    Forest.insertAfter_of_not_mem h.next]
  rfl

theorem parent?_put (f : Forest) :
    (P.put f).parent? x = f.parent? x (P.frame.owner P.root.id) := by
  rw [Document.parent?, put]
  exact Frame.parent?_plug h.frame f P.root.id

theorem following?_put (f : Forest) : (P.put f).tree.following? x = f.following? x := by
  rw [put, Forest.following?, if_neg h.root, Frame.following?_plug h.frame,
    Forest.following?_of_not_mem h.next, Option.or_none]

/-- What held an element's place open is taken out with all that it held. -/
theorem setText_put {n : Node} (found : f.find? x = some n) (text : String) :
    (P.put f).setText x text =
      (P.taking n.children).put (Forest.fill x text .nil f) := by
  rw [Document.setText, node?_put h, found, fill_put h]
  rfl

/-- An element that does not come first in its place is taken out of that. -/
theorem remove_put {n : Node} {p : Element} (found : f.find? x = some n)
    (parent : f.parent? x (P.frame.owner P.root.id) = some p) (within : (f.cut x).1 = "") :
    (P.put f).remove x = (P.taking n.forest).put (f.cut x).2 := by
  rw [Document.remove, parent?_put h, parent, find?_put h, found]
  dsimp only
  rw [put, Forest.cut, if_neg h.root, Frame.cut_plug h.frame f within,
    Forest.cut_of_not_mem h.next]
  simp [put, taking]

end Edits

end Place

end FormGate
