import FormGate.Markup.Doctype
import FormGate.Markup.Forest
import FormGate.Markup.Token

/-!
# Namespaces

An attribute may bind a prefix, or the names without a prefix, to a namespace. A name in a namespace
is then written with the namespace in braces in front of it. Attributes without a prefix are in no
namespace, and the binding attributes themselves are left out.
-/

namespace FormGate.Markup

/-- The namespace of the prefix `xml`, which no other prefix may have. -/
def xmlNamespace : List Char :=
  "http://www.w3.org/XML/1998/namespace".toList

/-- The namespace of the attributes that bind prefixes. Nothing may be bound to it. -/
def bindingNamespace : List Char :=
  "http://www.w3.org/2000/xmlns/".toList

/-- Which namespace each prefix stands for, the latest binding first. The names without a prefix
have the empty prefix, and the empty namespace stands for none. -/
abbrev Bindings := List (List Char × List Char)

namespace Bindings

/-- The bindings with which a page starts. -/
def initial : Bindings := [("xml".toList, xmlNamespace)]

def bind? (b : Bindings) (pre space : List Char) : Option Bindings :=
  if space.isEmpty && !pre.isEmpty then none
  else if pre == "xmlns".toList || space == bindingNamespace then none
  else if (pre == "xml".toList) != (space == xmlNamespace) then none
  else if space.contains '}' then none
  else some ((pre, space) :: b)

def expand? (b : Bindings) (pre name : List Char) : Option (List Char) :=
  match b.lookup pre with
  | some space =>
    if !space.isEmpty then some ('{' :: space ++ '}' :: name)
    else if pre.isEmpty then some name else none
  | none => if pre.isEmpty then some name else none

end Bindings

/-- The prefix of a name, empty where it has none, and the name without it. -/
def splitPrefix (name : List Char) : List Char × List Char :=
  match name.dropWhile (· != ':') with
  | _ :: rest => (name.takeWhile (· != ':'), rest)
  | [] => ([], name)

/-- The prefix that an attribute of this name binds. -/
def boundPrefix? (name : List Char) : Option (List Char) :=
  match splitPrefix name with
  | ([], back) => if back == "xmlns".toList then some [] else none
  | (front, back) => if front == "xmlns".toList then some back else none

/-- The attributes of an element as declared: values of other types than plain text are collapsed,
and defaults stand for the attributes that are missing. -/
def withDeclared (d : Declarations) (element : List Char) (given : List RawAttribute) :
    List RawAttribute :=
  let declared := d.ofElement element
  let given := given.map fun a =>
    match declared.find? (·.name == a.1) with
    | some t => if t.plain then a else (a.1, collapseSpaces a.2)
    | none => a
  let missing := declared.filter fun t => !given.any (·.1 == t.name)
  given ++ missing.filterMap fun t => t.default.map (t.name, ·)

/-- The bindings inside an element with these attributes. -/
def Bindings.extend? (b : Bindings) (attributes : List RawAttribute) : Option Bindings :=
  attributes.foldlM (fun b a =>
    match boundPrefix? a.1 with
    | some pre => b.bind? pre a.2
    | none => some b) b

def Bindings.attributeName? (b : Bindings) (name : List Char) : Option (List Char) :=
  match splitPrefix name with
  | ([], _) => some name
  | (front, back) => b.expand? front back

/-- The label of an element and the bindings inside it. -/
def label? (d : Declarations) (b : Bindings) (id : Nat) (name : List Char)
    (given : List RawAttribute) : Option (Label × Bindings) := do
  guard (given.map (·.1)).Nodup
  let all := withDeclared d name given
  let inner ← b.extend? all
  let attributes ← (all.filter fun a => (boundPrefix? a.1).isNone).mapM fun a =>
    (inner.attributeName? a.1).map fun n => (String.ofList n, String.ofList a.2)
  guard (attributes.map (·.1)).Nodup
  let (front, back) := splitPrefix name
  let tag ← inner.expand? front back
  return (⟨id, .element (.ofList tag), attributes⟩, inner)

end FormGate.Markup
