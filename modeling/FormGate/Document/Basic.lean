import FormGate.Markup.Page
import FormGate.Markup.Writer

/-!
# Documents

A document is a page that is read and changed: its elements, those that were taken out and may
still be at hand, and the submissions and scrolls that were asked for. An element is named by its
number, which it keeps for good.
-/

namespace FormGate

open Markup

abbrev Element := Nat

/-- A page together with what was done on it. `tree` holds the outermost element with everything in
it, `loose` the elements that were taken out, and numbers from `fresh` on are free. -/
structure Document where
  tree : Forest
  loose : Forest := .nil
  fresh : Nat
  doctype : Option String := none
  submissions : List Element := []
  scrolls : List Element := []
  deriving DecidableEq, Repr

namespace Document

def ofText (text : String) : Except MarkupFault Document :=
  (Page.read text).map fun p => { tree := p.2, fresh := p.2.labels.length, doctype := p.1 }

/-- The document as it is written, where it can be. -/
def text (d : Document) : Except Failure String :=
  Writer.page d.doctype d.tree

/-- A change of a document, which may break off. What was changed up to then stays. -/
abbrev Edit (α : Type) := ExceptT Failure (StateM Document) α

/-! ## Elements and their labels -/

def root (d : Document) : Element :=
  match d.tree with
  | .cons l _ _ _ _ => l.id
  | .nil => 0

/-- An element with its content, in the page or taken out. -/
def node? (d : Document) (e : Element) : Option Node :=
  (d.tree.find? e).or (d.loose.find? e)

def label? (d : Document) (e : Element) : Option Label :=
  (d.node? e).map (·.label)

def holds (d : Document) (e : Element) : Bool :=
  (d.tree.find? e).isSome

/-- Changes the content of the page and of what was taken out in the same way. -/
def mapForests (d : Document) (f : Forest → Forest) : Document :=
  { d with tree := f d.tree, loose := f d.loose }

def modifyLabel (d : Document) (e : Element) (f : Label → Label) : Document :=
  d.mapForests (Forest.modify e f)

/-- The local name of an element's tag in lower case. -/
def tagName (d : Document) (e : Element) : String :=
  ((d.label? e).map (·.tag.localName)).getD ""

def attribute? (d : Document) (e : Element) (name : String) : Option String :=
  (d.label? e).bind (·.get? name)

def setAttribute (d : Document) (e : Element) (name value : String) : Document :=
  d.modifyLabel e (·.set name value)

def eraseAttribute (d : Document) (e : Element) (name : String) : Document :=
  d.modifyLabel e (·.erase name)

/-- Turns an attribute that acts by its presence on or off. -/
def setFlag (d : Document) (e : Element) (name : String) (on : Bool) : Document :=
  if on then d.setAttribute e name name else d.eraseAttribute e name

/-! ## Looking up elements -/

/-- The labels in a scope in document order, its own first. Without a scope these are all labels of
the page. -/
def labelsIn (d : Document) (scope : Option Element) : List Label :=
  match scope with
  | none => d.tree.labels
  | some e => ((d.node? e).map (·.labels)).getD []

/-- The elements in a scope whose labels satisfy a condition. -/
def select (d : Document) (scope : Option Element) (p : Label → Bool) : List Element :=
  ((d.labelsIn scope).filter p).map (·.id)

def forms (d : Document) (scope : Option Element := none) : List Element :=
  d.select scope (·.tag.localName == "form")

/-- The elements in a scope that carry an attribute. -/
def carriers (d : Document) (scope : Element) (name : String) : List Element :=
  d.select (some scope) (·.has name)

/-- The elements in a scope of a given name. -/
def named (d : Document) (name : String) (scope : Option Element := none) : List Element :=
  d.select scope (·.get? "name" == some name)

/-- The elements in a scope to which a reference leads: by identifier after `#`, else by name. -/
def resolve (d : Document) (reference : String) (scope : Option Element := none) : List Element :=
  match reference.toList with
  | '#' :: identifier => d.select scope (·.get? "id" == some (.ofList identifier))
  | _ => d.named reference scope

/-- The first element of the page with the identifier. -/
def withIdentifier? (d : Document) (identifier : String) : Option Element :=
  (d.select none (·.get? "id" == some identifier)).head?

/-- The nearest form around an element, or the element itself where it is a form. -/
def closestForm? (d : Document) (e : Element) : Option Element :=
  let isForm (l : Label) : Bool := l.tag.localName == "form"
  match d.tree.enclosing? isForm e none with
  | some nearest => nearest
  | none => if (d.label? e).any isForm then some e else none

def parent? (d : Document) (e : Element) : Option Element :=
  match d.tree with
  | .cons l _ children _ _ => children.parent? e l.id
  | .nil => none

/-- The element in which the feedback of an element stands: its parent, or the outermost element
where it has none. -/
def container (d : Document) (e : Element) : Element :=
  (d.parent? e).getD d.root

/-- A short description of an element: its name, else its identifier, else its tag. -/
def caption (d : Document) (e : Element) : String :=
  let known := ["name", "id"].filterMap fun a => (d.attribute? e a).filter (!·.isEmpty)
  known.headD ("<" ++ d.tagName e ++ ">")

/-- The positions that lead from the outermost element to an element of the page. -/
def path? (d : Document) (e : Element) : Option (List Nat) :=
  (d.tree.path? e 0).map (·.drop 1)

/-- The element of the page to which positions lead from the outermost one. -/
def at? (d : Document) (positions : List Nat) : Option Element :=
  (d.tree.at? (0 :: positions)).map (·.label.id)

/-! ## Submitting and scrolling -/

def submitControls (d : Document) (scope : Element) : List Element :=
  d.select (some scope) fun l =>
    (l.tag.localName == "button" || l.tag.localName == "input") &&
      Text.lower ((l.get? "type").getD "") == "submit"

/-- Submits a form past all checks. -/
def submit (d : Document) (form : Element) : Document :=
  { d with submissions := d.submissions ++ [form] }

def scrollTo (d : Document) (e : Element) : Document :=
  { d with scrolls := d.scrolls ++ [e] }

end Document

end FormGate
