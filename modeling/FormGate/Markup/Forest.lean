import FormGate.Diagnostic.Failure
import FormGate.Text.LetterCase
import FormGate.Text.Quoted

/-!
# Forests of markup

The elements below one parent form a forest: the first of them with its own text and children, the
text that follows it, and then the rest. Every element carries a number by which it is found again
after the forest was edited. Removing an element leaves the text that followed it at its place.
-/

namespace FormGate.Markup

/-- The tag of an element, its namespace in front of it in braces, or the mark of a comment. A
comment is hollow when it was given no line at all, not even an empty one. -/
inductive Tag
  | element (name : String)
  | comment (hollow : Bool)
  deriving DecidableEq, Repr

namespace Tag

/-- The local name in lower case. A comment has none. -/
def localName : Tag → String
  | element name =>
    Text.lower (.ofList (name.toList.reverse.takeWhile (· != '\x7d')).reverse)
  | comment _ => ""

/-- The namespace in its braces, as it stands in front of a tag. -/
def space : Tag → Except Failure String
  | element name =>
    match name.toList with
    | '\x7b' :: _ =>
      if name.toList.contains '\x7d' then
        .ok (.ofList (name.toList.takeWhile (· != '\x7d') ++ ['\x7d']))
      else .error (.crash .value "substring not found")
    | _ => .ok ""
  | comment _ => .error (.crash .noAttribute "'function' object has no attribute 'startswith'")

/-- The tag as a message cites it. -/
def cited : Tag → String
  | element name => Text.quoted name
  | comment _ => "<function Comment>"

/-- The tag of what was given lines in place of all that it held. -/
def holding (lines : List String) : Tag → Tag
  | element name => element name
  | comment _ => comment lines.isEmpty

end Tag

/-- An element without its content: its number, its tag, and its attributes in order. -/
structure Label where
  id : Nat
  tag : Tag
  attributes : List (String × String) := []
  deriving DecidableEq, Repr

namespace Label

def get? (l : Label) (name : String) : Option String :=
  l.attributes.lookup name

def has (l : Label) (name : String) : Bool :=
  l.attributes.any (·.1 == name)

/-- Gives an attribute a value, at its old place where it has one and else at the end. -/
def set (l : Label) (name value : String) : Label :=
  { l with attributes :=
      if l.has name then l.attributes.map fun a => if a.1 == name then (name, value) else a
      else l.attributes ++ [(name, value)] }

def erase (l : Label) (name : String) : Label :=
  { l with attributes := l.attributes.filter (·.1 != name) }

end Label

/-- The elements below one parent, from left to right. -/
inductive Forest
  | nil
  | cons (label : Label) (text : String) (children : Forest) (tail : String) (next : Forest)
  deriving DecidableEq, Repr

/-- One element with its content and the text that follows it. -/
structure Node where
  label : Label
  text : String
  children : Forest
  tail : String
  deriving DecidableEq, Repr

namespace Forest

instance : Inhabited Forest := ⟨.nil⟩

def nodes : Forest → List Node
  | nil => []
  | cons l t c tail next => ⟨l, t, c, tail⟩ :: (c.nodes ++ next.nodes)

def labels : Forest → List Label
  | nil => []
  | cons l _ c _ next => l :: (c.labels ++ next.labels)

/-- The numbers of all elements in document order. -/
def ids (f : Forest) : List Nat :=
  f.labels.map (·.id)

/-- The outermost elements. -/
def tops : Forest → List Node
  | nil => []
  | cons l t c tail next => ⟨l, t, c, tail⟩ :: next.tops

def append : Forest → Forest → Forest
  | nil, g => g
  | cons l t c tail next, g => cons l t c tail (next.append g)

def find? (id : Nat) : Forest → Option Node
  | nil => none
  | cons l t c tail next =>
    if l.id = id then some ⟨l, t, c, tail⟩ else (c.find? id).or (next.find? id)

def innerText : Forest → String
  | nil => ""
  | cons _ t c tail next => t ++ c.innerText ++ tail ++ next.innerText

/-- Changes the label of the element of a number. -/
def modify (id : Nat) (f : Label → Label) : Forest → Forest
  | nil => nil
  | cons l t c tail next =>
    cons (if l.id = id then f l else l) t (c.modify id f) tail (next.modify id f)

/-- Changes every label by a function of the element's label, text and children. -/
def mapLabels (f : Label → String → Forest → Label) : Forest → Forest
  | nil => nil
  | cons l t c tail next => cons (f l t c) t (c.mapLabels f) tail (next.mapLabels f)

/-- Puts another text and other children into the element of a number. -/
def fill (id : Nat) (text : String) (children : Forest) : Forest → Forest
  | nil => nil
  | cons l t c tail next =>
    if l.id = id then cons l text children tail next
    else cons l t (fill id text children c) tail (fill id text children next)

/-- Puts a node in behind the element of a number, before which its following text stays. -/
def insertAfter (id : Nat) (new : Node) : Forest → Forest
  | nil => nil
  | cons l t c tail next =>
    if l.id = id then cons l t c tail (cons new.label new.text new.children new.tail next)
    else cons l t (c.insertAfter id new) tail (next.insertAfter id new)

/-- Adds a node as the last child of the element of a number. -/
def appendChild (id : Nat) (new : Node) : Forest → Forest
  | nil => nil
  | cons l t c tail next =>
    if l.id = id then
      cons l t (c.append (cons new.label new.text new.children new.tail nil)) tail next
    else cons l t (c.appendChild id new) tail (next.appendChild id new)

/-- Takes the element of a number out. The text that followed it goes to what precedes it: where
nothing in the forest does, it is handed back. -/
def cut (id : Nat) : Forest → String × Forest
  | nil => ("", nil)
  | cons l t c tail next =>
    if l.id = id then (tail, next)
    else
      let (toText, c) := c.cut id
      let (toTail, next) := next.cut id
      ("", cons l (t ++ toText) c (tail ++ toTail) next)

/-- What follows the element of a number below the same parent. -/
def following? (id : Nat) : Forest → Option Forest
  | nil => none
  | cons l _ c _ next =>
    if l.id = id then some next else (c.following? id).or (next.following? id)

/-- The parent of the element of a number, in a forest below `owner`. -/
def parent? (id owner : Nat) : Forest → Option Nat
  | nil => none
  | cons l _ c _ next =>
    if l.id = id then some owner else (c.parent? id l.id).or (next.parent? id owner)

/-- The nearest element that satisfies the condition among the element of a number and its
ancestors, or `nearest` where none of them in the forest does. None without such an element. -/
def enclosing? (p : Label → Bool) (id : Nat) (nearest : Option Nat) :
    Forest → Option (Option Nat)
  | nil => none
  | cons l _ c _ next =>
    let here := if p l then some l.id else nearest
    if l.id = id then some here
    else (c.enclosing? p id here).or (next.enclosing? p id nearest)

/-- The positions that lead to the element of a number, the first of them counted from
`position`. -/
def path? (id : Nat) (position : Nat) : Forest → Option (List Nat)
  | nil => none
  | cons l _ c _ next =>
    if l.id = id then some [position]
    else ((c.path? id 0).map (position :: ·)).or (next.path? id (position + 1))

/-- The element to which positions lead. -/
def at? : List Nat → Forest → Option Node
  | [], _ => none
  | i :: is, f =>
    match f.tops[i]? with
    | none => none
    | some n => if is.isEmpty then some n else n.children.at? is

end Forest

namespace Node

def innerText (n : Node) : String :=
  n.text ++ n.children.innerText

/-- The element as a forest of its own, without the text that follows it. -/
def forest (n : Node) : Forest :=
  .cons n.label n.text n.children "" .nil

def labels (n : Node) : List Label :=
  n.label :: n.children.labels

def nodes (n : Node) : List Node :=
  n :: n.children.nodes

end Node

end FormGate.Markup
