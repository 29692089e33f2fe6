import FormGate.Markup.Attribute

/-!
# Document type declarations

A declaration inside a page may list elements, attributes with default values, notations and
instructions in brackets. Reading it checks the form of each of them and keeps the attributes.
An entity must not be declared: the first such declaration makes the page unsafe.
-/

namespace FormGate.Markup

/-- Why a page is refused. -/
inductive MarkupFault
  | malformed
  | entityDeclared (name : String) (system «public» : Option String)
  deriving DecidableEq, Repr

/-- A declared attribute: whether its values are plain text, and its default value. -/
structure DeclaredAttribute where
  name : List Char
  plain : Bool
  default : Option (List Char)
  deriving DecidableEq, Repr

/-- What a page declares. `outside` tells that declarations may exist which were not read, and
`standalone` that the page does not depend on them. -/
structure Declarations where
  attributes : List (List Char × DeclaredAttribute) := []
  outside : Bool := false
  standalone : Bool := false
  keep : Bool := true
  deriving DecidableEq, Repr

namespace Declarations

/-- Whether a reference to an unknown entity may be skipped in an attribute value. -/
def lenient (d : Declarations) : Bool :=
  d.outside && !d.standalone

/-- The attributes declared for an element. -/
def ofElement (d : Declarations) (element : List Char) : List DeclaredAttribute :=
  (d.attributes.filter (·.1 == element)).map (·.2)

/-- Adds a declared attribute. A second declaration never gives a default value. -/
def add (d : Declarations) (element : List Char) (a : DeclaredAttribute) (identifier : Bool) :
    Declarations :=
  if !d.keep then d
  else if (a.default.isSome || identifier) && (d.ofElement element).any (·.name == a.name) then d
  else { d with attributes := d.attributes ++ [(element, a)] }

end Declarations

namespace Doctype

/-- What was found, or a malformed page where nothing was. -/
def need {α : Type} : Option α → Except MarkupFault α
  | some a => .ok a
  | none => .error .malformed

inductive WordKind
  | plain
  | prefixed
  | other
  deriving DecidableEq, Repr

/-- The kind of a word of name characters and colons. -/
def wordKind (cs : List Char) : WordKind :=
  match cs with
  | [] => .other
  | c :: _ =>
    if !isNameStart c then .other
    else match cs.splitOn ':' with
      | [_] => .plain
      | [_, back] => if back.isEmpty then .other else .prefixed
      | _ => .other

/-- Whether a word may end before these characters. -/
def endsWord (cs : List Char) : Bool :=
  match cs with
  | [] => true
  | c :: _ => isSpace c || c == '>' || c == ')' || c == ',' || c == '|' || c == '[' || c == '%'

/-- A word and what follows it, before which the word may have to end. -/
def word? (cs : List Char) : Option (List Char × List Char) :=
  let isWordChar (c : Char) : Bool := isNameChar c || c == ':'
  match cs.takeWhile isWordChar with
  | [] => none
  | w => some (w, cs.dropWhile isWordChar)

/-- A word of one of the kinds that ends a part of a declaration. -/
def name? (kinds : List WordKind) (cs : List Char) : Option (List Char × List Char) :=
  match word? (skipSpace cs) with
  | some (w, rest) => if kinds.contains (wordKind w) && endsWord rest then some (w, rest) else none
  | none => none

/-- The content of a literal between quotes, and what follows it. -/
def literal? (cs : List Char) : Option (List Char × List Char) :=
  match skipSpace cs with
  | quote :: rest =>
    if quote = '"' || quote = '\'' then
      let body := rest.takeWhile (· != quote)
      match rest.dropWhile (· != quote) with
      | [] => none
      | _ :: after =>
        let ended := match after with
          | [] => true
          | c :: _ => isSpace c || c == '>' || c == '%' || c == '['
        if body.all isLegal && ended then some (body, after) else none
    else none
  | [] => none

/-- What follows a mark, before which there may be white space. -/
def mark? (c : Char) (cs : List Char) : Option (List Char) :=
  match skipSpace cs with
  | d :: rest => if d = c then some rest else none
  | [] => none

/-- Whether the characters may occur in a public identifier. -/
def isPublicChar (c : Char) : Bool :=
  ('a' ≤ c && c ≤ 'z') || ('A' ≤ c && c ≤ 'Z') || ('0' ≤ c && c ≤ '9') ||
    " \r\n-'()+,./:=?;!*#@$_%".toList.contains c

def publicLiteral? (cs : List Char) : Option (List Char × List Char) :=
  match literal? cs with
  | some (body, rest) => if body.all isPublicChar then some (body, rest) else none
  | none => none

/-- A public identifier with its white space collapsed. -/
def normalPublic (cs : List Char) : List Char :=
  collapseSpaces (cs.map fun c => if c == '\r' || c == '\n' then ' ' else c)

/-! ## Elements -/

/-- What follows a mark of repetition, where there is one. -/
def afterQuantifier (cs : List Char) : List Char :=
  match cs with
  | c :: rest => if c = '?' || c = '*' || c = '+' then rest else cs
  | [] => []

/-- Whether a closing parenthesis may stand before these characters. -/
def endsGroup (cs : List Char) : Bool :=
  match cs with
  | [] => true
  | c :: _ => isSpace c || c == '>' || c == ',' || c == '|' || c == ')'

/-- What follows groups of children. Each open group has the connector that it was given. -/
def groups? : (fuel : Nat) → (connectors : List (Option Char)) → (expecting : Bool) →
    List Char → Option (List Char)
  | 0, _, _, _ => none
  | fuel + 1, connectors, true, cs =>
    match skipSpace cs with
    | '(' :: rest => groups? fuel (none :: connectors) true rest
    | body =>
      match word? body with
      | none => none
      | some (w, rest) =>
        if wordKind w == .other then none
        else
          let after := afterQuantifier rest
          if after.length < rest.length || endsWord rest then groups? fuel connectors false after
          else none
  | fuel + 1, connectors, false, cs =>
    match skipSpace cs, connectors with
    | ')' :: rest, _ :: outer =>
      let after := afterQuantifier rest
      if !(after.length < rest.length || endsGroup rest) then none
      else if outer.isEmpty then some after else groups? fuel outer false after
    | c :: rest, connector :: outer =>
      if (c = ',' || c = '|') && (connector.isNone || connector == some c) then
        groups? fuel (some c :: outer) true rest
      else none
    | _, _ => none

/-- What follows the alternatives of mixed content. -/
def mixed? : (fuel : Nat) → (first : Bool) → List Char → Option (List Char)
  | 0, _, _ => none
  | fuel + 1, first, cs =>
    match skipSpace cs with
    | ')' :: '*' :: rest => some rest
    | ')' :: rest => if first && endsGroup rest then some rest else none
    | '|' :: rest =>
      match name? [.plain, .prefixed] rest with
      | some (_, rest) => mixed? fuel false rest
      | none => none
    | _ => none

def contentModel? (cs : List Char) : Option (List Char) :=
  match mark? '(' cs with
  | some inside =>
    match after? "#PCDATA" (skipSpace inside) with
    | some rest => mixed? rest.length.succ true rest
    | none => groups? inside.length.succ [none] true inside
  | none =>
    match name? [.plain] cs with
    | some (w, rest) =>
      if w == "EMPTY".toList || w == "ANY".toList then some rest else none
    | none => none

/-- What follows the declaration of an element. -/
def element? (cs : List Char) : Option (List Char) := do
  let (_, rest) ← name? [.plain, .prefixed] cs
  let rest ← contentModel? rest
  mark? '>' rest

/-! ## Attributes -/

/-- What follows an enumeration after its opening parenthesis. -/
def enumeration? (kinds : List WordKind) : (fuel : Nat) → List Char → Option (List Char)
  | 0, _ => none
  | fuel + 1, cs =>
    match name? kinds cs with
    | none => none
    | some (_, rest) =>
      match skipSpace rest with
      | '|' :: rest => enumeration? kinds fuel rest
      | ')' :: rest => if endsGroup rest then some rest else none
      | _ => none

/-- The type of an attribute: whether it is plain text, whether it identifies, and what follows. -/
def attributeType? (cs : List Char) : Option (Bool × Bool × List Char) :=
  match mark? '(' cs with
  | some inside =>
    (enumeration? [.plain, .prefixed, .other] inside.length.succ inside).map (false, false, ·)
  | none =>
    match name? [.plain] cs with
    | none => none
    | some (w, rest) =>
      if w == "NOTATION".toList then
        (mark? '(' rest).bind fun inside =>
          (enumeration? [.plain] inside.length.succ inside).map (false, false, ·)
      else if w == "CDATA".toList then some (true, false, rest)
      else if w == "ID".toList then some (false, true, rest)
      else if ["IDREF", "IDREFS", "ENTITY", "ENTITIES", "NMTOKEN", "NMTOKENS"].any
          (·.toList == w) then some (false, false, rest)
      else none

/-- The value of a literal that is the default of an attribute. -/
def defaultValue? (lenient plain : Bool) (cs : List Char) : Option (List Char × List Char) :=
  match skipSpace cs, literal? cs with
  | quote :: rest, some (_, after) =>
    match attributeValue? lenient quote (rest.length + 1) rest with
    | some (v, _) => some (if plain then v else collapseSpaces v, after)
    | none => none
  | _, _ => none

/-- The value of a literal that is the default of an attribute. Where declarations no longer count,
any literal will do, and it gives no value. -/
def default? (counts lenient plain : Bool) (cs : List Char) :
    Option (Option (List Char) × List Char) :=
  if counts then (defaultValue? lenient plain cs).map fun p => (some p.1, p.2)
  else (literal? cs).map fun p => (none, p.2)

/-- The default of an attribute, where it has one, and what follows. -/
def defaultPart? (counts lenient plain : Bool) (cs : List Char) :
    Option (Option (List Char) × List Char) :=
  match skipSpace cs with
  | '#' :: rest =>
    match name? [.plain] rest with
    | some (w, after) =>
      if (rest.head?.map isNameStart) != some true then none
      else if w == "IMPLIED".toList || w == "REQUIRED".toList then some (none, after)
      else if w == "FIXED".toList then default? counts lenient plain after
      else none
    | none => none
  | _ => default? counts lenient plain cs

/-- The attributes declared for an element, and what follows. -/
def attributeList? (element : List Char) :
    (fuel : Nat) → Declarations → List Char → Option (Declarations × List Char)
  | 0, _, _ => none
  | fuel + 1, d, cs =>
    match mark? '>' cs with
    | some rest => some (d, rest)
    | none => do
      let (name, rest) ← name? [.plain, .prefixed] cs
      let (plain, identifier, rest) ← attributeType? rest
      let (value, rest) ← defaultPart? d.keep d.lenient plain rest
      attributeList? element fuel (d.add element ⟨name, plain, value⟩ identifier) rest

/-! ## Notations and entities -/

/-- What follows the declaration of a notation. -/
def notation? (cs : List Char) : Option (List Char) := do
  let (_, rest) ← name? [.plain] cs
  let (w, rest) ← name? [.plain] rest
  if w == "SYSTEM".toList then
    let (_, rest) ← literal? rest
    mark? '>' rest
  else if w == "PUBLIC".toList then
    let (_, rest) ← publicLiteral? rest
    match mark? '>' rest with
    | some rest => some rest
    | none =>
      let (_, rest) ← literal? rest
      mark? '>' rest
  else none

def isEntityValue : (fuel : Nat) → List Char → Bool
  | 0, _ => false
  | _ + 1, [] => true
  | fuel + 1, c :: rest =>
    if c = '%' then false
    else if c = '&' then
      match reference? rest with
      | some (_, after) => isEntityValue fuel after
      | none => false
    else isEntityValue fuel rest

/-- What follows the declaration of an entity outside the page. The declaration is a fault unless
it is ignored. -/
def externalEntity (general ignored : Bool) (name : List Char) (pub : Option (List Char))
    (cs : List Char) : Except MarkupFault (List Char) :=
  match literal? cs with
  | none => .error .malformed
  | some (sys, rest) =>
    let declared : MarkupFault := .entityDeclared (.ofList name) (some (.ofList sys))
      (pub.map (.ofList ∘ normalPublic))
    match mark? '>' rest with
    | some rest => if ignored then .ok rest else .error declared
    | none =>
      match name? [.plain] rest with
      | some (w, rest) =>
        match general && w == "NDATA".toList, name? [.plain] rest with
        | true, some (_, rest) =>
          if ignored then need (mark? '>' rest) else .error declared
        | _, _ => .error .malformed
      | none => .error .malformed

/-- What follows the declaration of an entity with the given value. The declaration is a fault
unless it is ignored, and then its value still has to be one where declarations count. -/
def internalEntity (counts ignored : Bool) (name value cs : List Char) :
    Except MarkupFault (List Char) :=
  if !ignored then .error (.entityDeclared (.ofList name) none none)
  else if counts && !isEntityValue value.length.succ value then .error .malformed
  else need (mark? '>' cs)

/-- What follows the declaration of an entity. It is ignored where declarations no longer count, or
if the entity is one of those that are known everywhere. -/
def entity (d : Declarations) (cs : List Char) : Except MarkupFault (List Char) :=
  let (general, cs) := match skipSpace cs with
    | '%' :: c :: rest => if isSpace c then (false, rest) else (true, '%' :: c :: rest)
    | cs => (true, cs)
  match name? [.plain] cs with
  | none => .error .malformed
  | some (name, rest) =>
    let ignored := !d.keep || (general && (knownEntity? name).isSome)
    match literal? rest with
    | some (value, rest) => internalEntity d.keep ignored name value rest
    | none =>
      match name? [.plain] rest with
      | none => .error .malformed
      | some (w, rest) =>
        if w == "SYSTEM".toList then externalEntity general ignored name none rest
        else if w == "PUBLIC".toList then
          match publicLiteral? rest with
          | some (pub, rest) => externalEntity general ignored name (some pub) rest
          | none => .error .malformed
        else .error .malformed

/-! ## The declaration as a whole -/

/-- What follows the keyword of a declaration, which white space has to end. -/
def keyword? (word : String) (cs : List Char) : Option (List Char) :=
  match after? word cs with
  | some (c :: rest) => if isSpace c then some rest else none
  | _ => none

def declaration (d : Declarations) (cs : List Char) :
    Except MarkupFault (Declarations × List Char) :=
  match after? "--" cs with
  | some body => (need (afterComment? body)).map (d, ·)
  | none =>
    match keyword? "ELEMENT" cs, keyword? "ATTLIST" cs, keyword? "NOTATION" cs,
        keyword? "ENTITY" cs with
    | some rest, _, _, _ => (need (element? rest)).map (d, ·)
    | _, some rest, _, _ =>
      match name? [.plain, .prefixed] rest with
      | some (name, rest) => need (attributeList? name rest.length.succ d rest)
      | none => .error .malformed
    | _, _, some rest, _ => (need (notation? rest)).map (d, ·)
    | _, _, _, some rest => (entity d rest).map (d, ·)
    | _, _, _, _ => .error .malformed

/-- The declarations in brackets, and what follows the closing bracket. -/
def subset : (fuel : Nat) → Declarations → List Char →
    Except MarkupFault (Declarations × List Char)
  | 0, _, _ => .error .malformed
  | fuel + 1, d, cs =>
    match skipSpace cs with
    | ']' :: rest => .ok (d, rest)
    | '%' :: rest =>
      match entityName? rest with
      | some (_, rest) => subset fuel { d with outside := true, keep := d.keep && d.standalone } rest
      | none => .error .malformed
    | '<' :: '?' :: rest =>
      match afterInstruction? rest with
      | some rest => subset fuel d rest
      | none => .error .malformed
    | '<' :: '!' :: rest =>
      match declaration d rest with
      | .ok (d, rest) => subset fuel d rest
      | .error e => .error e
    | _ => .error .malformed

/-- The identifier of declarations outside the page, where there is one, and what follows. -/
def externalId? (cs : List Char) : Option (Bool × List Char) :=
  match name? [.plain] cs with
  | none => some (false, cs)
  | some (w, rest) =>
    if w == "SYSTEM".toList then (literal? rest).map fun p => (true, p.2)
    else if w == "PUBLIC".toList then
      (publicLiteral? rest).bind fun p => (literal? p.2).map fun q => (true, q.2)
    else none

/-- A document type declaration after its keyword. -/
def read (d : Declarations) (cs : List Char) : Except MarkupFault (Declarations × List Char) := do
  let (_, rest) ← need (name? [.plain, .prefixed] cs)
  let (outside, rest) ← need (externalId? rest)
  let d := { d with outside }
  let (d, rest) ← match mark? '[' rest with
    | some inside => subset inside.length.succ d inside
    | none => .ok (d, rest)
  let rest ← need (mark? '>' rest)
  return (d, rest)

end Doctype

end FormGate.Markup
