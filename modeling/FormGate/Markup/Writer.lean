import FormGate.Markup.Forest

/-!
# Writing a page

A namespace is written as a prefix. Some prefixes are agreed on, the namespace of the outermost
element is written without one, and every other namespace is numbered by its first occurrence. All
prefixes are declared on the outermost element. A page on which a name opens a namespace and never
closes it cannot be written.
-/

namespace FormGate.Markup

namespace Writer

/-- A name in braces split into its namespace and the name in it. -/
def splitName? (name : String) : Option (String × String) :=
  match name.toList with
  | '\x7b' :: rest =>
    match rest.reverse.dropWhile (· != '\x7d') with
    | _ :: front =>
      some (.ofList front.reverse, .ofList (rest.reverse.takeWhile (· != '\x7d')).reverse)
    | [] => none
  | _ => none

/-- Whether a name opens a namespace and never closes it. -/
def isUnwritable (name : String) : Bool :=
  name.toList.head? == some '\x7b' && !name.toList.contains '\x7d'

/-- The prefixes that are agreed on. -/
def agreed : List (String × String) :=
  [("http://www.w3.org/XML/1998/namespace", "xml"),
   ("http://www.w3.org/1999/xhtml", "html"),
   ("http://www.w3.org/1999/02/22-rdf-syntax-ns#", "rdf"),
   ("http://schemas.xmlsoap.org/wsdl/", "wsdl"),
   ("http://www.w3.org/2001/XMLSchema", "xs"),
   ("http://www.w3.org/2001/XMLSchema-instance", "xsi"),
   ("http://purl.org/dc/elements/1.1/", "dc")]

/-- The agreed prefixes on a page whose outermost element has the given tag. -/
def agreedOn (root : String) : List (String × String) :=
  match splitName? root with
  | some (space, _) => (space, "") :: agreed.filter (·.1 != space)
  | none => agreed

/-- The prefix of a namespace, given the agreed prefixes and those collected so far. -/
def prefixOf (known collected : List (String × String)) (space : String) : String :=
  match collected.lookup space with
  | some p => p
  | none => (known.lookup space).getD ("ns" ++ toString collected.length)

/-- Collects the namespace of a name, unless its prefix needs no declaration. -/
def collect (known collected : List (String × String)) (name : String) :
    List (String × String) :=
  match splitName? name with
  | none => collected
  | some (space, _) =>
    let p := prefixOf known collected space
    if (collected.lookup space).isSome || p == "xml" then collected
    else collected ++ [(space, p)]

def writtenName (known collected : List (String × String)) (name : String) : String :=
  match splitName? name with
  | none => name
  | some (space, back) =>
    let p := prefixOf known collected space
    if p.isEmpty then back else p ++ ":" ++ back

/-- The names in a label. A comment has none for its tag. -/
def namesOf (l : Label) : List String :=
  (match l.tag with
   | .element name => [name]
   | .comment _ => []) ++ l.attributes.map (·.1)

/-- A character of text. -/
def escapeText (c : Char) : List Char :=
  if c = '&' then "&amp;".toList
  else if c = '<' then "&lt;".toList
  else if c = '>' then "&gt;".toList
  else [c]

/-- A character of a value. -/
def escapeValue (c : Char) : List Char :=
  if c = '"' then "&quot;".toList
  else if c = '\r' then "&#13;".toList
  else if c = '\n' then "&#10;".toList
  else if c = '\t' then "&#09;".toList
  else escapeText c

def assignment (name value : String) : List Char :=
  ' ' :: name.toList ++ '=' :: '"' :: value.toList.flatMap escapeValue ++ ['"']

def declaration (p : String × String) : List Char :=
  assignment (if p.2.isEmpty then "xmlns" else "xmlns:" ++ p.2) p.1

/-- The tags and the text of a forest, with the given way to write names. The declarations stand on
the outermost elements. -/
def write (written : String → String) : (declarations : List Char) → Forest → List Char
  | _, .nil => []
  | declarations, .cons l text children tail next =>
    (match l.tag with
     | .comment hollow =>
       "<!--".toList ++ (if hollow then "None" else text).toList ++ "-->".toList
     | .element name =>
       let tag := (written name).toList
       let attributes := l.attributes.flatMap fun a => assignment (written a.1) a.2
       '<' :: tag ++ declarations ++ attributes ++
         (if text.isEmpty && children == .nil then " />".toList
          else '>' :: text.toList.flatMap escapeText ++ write written [] children ++
            '<' :: '/' :: tag ++ ['>'])) ++
      tail.toList.flatMap escapeText ++ write written declarations next

/-- A page as it is written, the forest of its outermost element given. -/
def page (doctype : Option String) (f : Forest) : Except Failure String :=
  let root := match f with
    | .cons l _ _ _ _ => match l.tag with
      | .element name => name
      | .comment _ => ""
    | .nil => ""
  let names := f.labels.flatMap namesOf
  if names.any isUnwritable then
    .error (.crash .value "not enough values to unpack (expected 2, got 1)")
  else
    let known := agreedOn root
    let collected := names.foldl (collect known) []
    let declared := collected.mergeSort fun p q => decide (p.2 ≤ q.2)
    let body := write (writtenName known collected) (declared.flatMap declaration) f
    match doctype with
    | none => .ok (.ofList body)
    | some d => .ok (if d.isEmpty then .ofList body else d ++ "\n" ++ .ofList body)

end Writer

end FormGate.Markup
