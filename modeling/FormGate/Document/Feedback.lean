import FormGate.Document.Value

/-!
# Classes and feedback

The feedback of an element is the run of elements directly behind it, below the same parent, that
carry the feedback class. A feedback element holds lines of text with a line break before each but
the first.
-/

namespace FormGate.Document

open Markup

/-! ## Classes -/

def classesOf (l : Label) : List String :=
  Text.words ((l.get? "class").getD "")

def withClasses (l : Label) (classes : List String) : Label :=
  if classes.isEmpty then l.erase "class" else l.set "class" (" ".intercalate classes)

/-- Adds a class to a label that does not have it. -/
def labelWithClass (name : String) (l : Label) : Label :=
  if (classesOf l).contains name then l else withClasses l (classesOf l ++ [name])

/-- Removes a class from a label that has it. -/
def labelWithoutClass (name : String) (l : Label) : Label :=
  if (classesOf l).contains name then withClasses l ((classesOf l).filter (· != name)) else l

def hasClass (d : Document) (e : Element) (name : String) : Bool :=
  (d.label? e).any fun l => (classesOf l).contains name

def addClass (d : Document) (e : Element) (name : String) : Document :=
  d.modifyLabel e (labelWithClass name)

def removeClass (d : Document) (e : Element) (name : String) : Document :=
  d.modifyLabel e (labelWithoutClass name)

/-! ## Lines -/

/-- The namespace of an element's tag in its braces. -/
def space (d : Document) (e : Element) : Except Failure String :=
  match d.label? e with
  | some l => l.tag.space
  | none => .ok ""

/-- Line breaks, numbered from `fresh` on, each with a line behind it. -/
def breaks (tag : Tag) : (fresh : Nat) → List String → Forest
  | _, [] => .nil
  | fresh, line :: lines => .cons ⟨fresh, tag, []⟩ "" .nil line (breaks tag (fresh + 1) lines)

/-- The line breaks for the lines after the first, in the namespace of the tag that they stand
in. -/
def breaksIn (tag : Tag) (fresh : Nat) (lines : List String) : Except Failure Forest :=
  if lines.length ≤ 1 then .ok .nil
  else tag.space.map fun space => breaks (.element (space ++ "br")) fresh (lines.drop 1)

def lines (d : Document) (e : Element) : List String :=
  match d.node? e with
  | none => [""]
  | some n =>
    n.text :: (n.children.tops.filter (·.label.tag.localName == "br")).map (·.tail)

/-- Puts lines in place of all that an element holds. -/
def setLines (e : Element) (lines : List String) : Edit Unit := do
  let d ← get
  let d := (d.setText e (lines.headD "")).modifyLabel e fun l =>
    { l with tag := l.tag.holding lines }
  set d
  let tag := ((d.label? e).map (·.tag)).getD (.element "")
  let children ← breaksIn tag d.fresh lines
  set { d.mapForests (Forest.fill e (lines.headD "") children) with
    fresh := d.fresh + children.labels.length }

/-! ## Feedback elements -/

/-- The failure to find an element below its container. -/
def notInContainer (d : Document) (e : Element) : Failure :=
  .crash .value ("<Element " ++ ((d.label? e).map (·.tag.cited)).getD "" ++ "> is not in list")

/-- What follows an element below its container. -/
def siblingsAfter (d : Document) (e : Element) : Except Failure Forest :=
  match (d.parent? e).bind fun _ => d.tree.following? e with
  | some f => .ok f
  | none => .error (d.notInContainer e)

def feedback (d : Document) (e : Element) (name : String) : Except Failure (List Element) :=
  (d.siblingsAfter e).map fun f =>
    (f.tops.takeWhile fun n => (classesOf n.label).contains name).map (·.label.id)

/-- Puts a feedback element with the given lines directly behind an element. -/
def insertFeedback (e : Element) (tag : String) (classes lines : List String) : Edit Element := do
  let d ← get
  let space ← d.space (d.container e)
  let tag := Tag.element (space ++ tag)
  let id := d.fresh
  let children ← breaksIn tag (id + 1) lines
  let _ ← d.siblingsAfter e
  let new : Node := ⟨⟨id, tag, [("class", " ".intercalate classes)]⟩, lines.headD "", children, ""⟩
  set { d with
    tree := d.tree.insertAfter e new
    fresh := id + 1 + children.labels.length }
  return id

/-- Takes an element out of the page, where it has a parent. The text behind it stays. -/
def remove (d : Document) (e : Element) : Document :=
  match d.parent? e, d.tree.find? e with
  | some _, some n =>
    { d with tree := (d.tree.cut e).2, loose := d.loose.append n.forest }
  | _, _ => d

/-- Adds a comment as the last child of an element. -/
def appendComment (d : Document) (e : Element) (text : String) : Document :=
  let d' := d.mapForests (Forest.appendChild e ⟨⟨d.fresh, .comment false, []⟩, text, .nil, ""⟩)
  { d' with fresh := d.fresh + 1 }

end FormGate.Document
