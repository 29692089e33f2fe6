import FormGate.Markup.EntityTable
import FormGate.Markup.Mark
import FormGate.Text.Blank

/-!
# Reading a page

A document type in front of the page is set aside, and the named characters of HTML become
references by code point. What then follows has to be one element, which a declaration, comments
and instructions may surround.
-/

namespace FormGate.Markup

namespace MarkupFault

/-- An optional identifier as a message cites it. -/
def citedIdentifier : Option String → String
  | none => "None"
  | some s => Text.quoted s

def message : MarkupFault → String
  | malformed => "Markup parse error"
  | entityDeclared name system pub =>
    "Unsafe markup rejected: EntitiesForbidden(name='" ++ name ++ "', system_id=" ++
      citedIdentifier system ++ ", public_id=" ++ citedIdentifier pub ++ ")"

end MarkupFault

namespace Page

/-! ## Before the page is read -/

/-- What follows a word at the front in any letter case, which is given in lower case. -/
def afterAnyCase? (word : String) (cs : List Char) : Option (List Char) :=
  if (cs.take word.length).map Char.toLower = word.toList then some (cs.drop word.length) else none

/-- The characters up to the first `>`, which they include, and what follows. -/
def throughAngle? (cs : List Char) : Option (List Char × List Char) :=
  match cs.dropWhile (· != '>') with
  | angle :: rest => some (cs.takeWhile (· != '>') ++ [angle], rest)
  | [] => none

/-- A declaration that opens a page together with the blanks after it, and what follows. -/
def opening? (cs : List Char) : Option (List Char × List Char) :=
  match afterAnyCase? "<?xml" cs, throughAngle? cs with
  | some _, some (front, rest) =>
    if ['?', '>'].isSuffixOf front then
      some (front ++ rest.takeWhile Text.isBlank, rest.dropWhile Text.isBlank)
    else none
  | _, _ => none

/-- A document type at the front of a page and the page without it. -/
def splitDoctype (cs : List Char) : Option (List Char) × List Char :=
  let blanks := cs.takeWhile Text.isBlank
  let body := cs.dropWhile Text.isBlank
  let (front, body) := (opening? body).getD ([], body)
  match afterAnyCase? "<!doctype" body, throughAngle? body with
  | some _, some (doctype, rest) => (some doctype, blanks ++ front ++ rest)
  | _, _ => (none, cs)

/-- Whether a character may occur in the name of a character. -/
def isCharacterName (c : Char) : Bool :=
  ('a' ≤ c && c ≤ 'z') || ('A' ≤ c && c ≤ 'Z') || ('0' ≤ c && c ≤ '9')

/-- The reference by code point in place of a named one after its `&`. -/
def namedReference? (cs : List Char) : Option (List Char) :=
  match cs.dropWhile isCharacterName with
  | ';' :: _ =>
    (namedCharacters.lookup (.ofList (cs.takeWhile isCharacterName))).map fun n =>
      '&' :: '#' :: Nat.toDigits 10 n
  | _ => none

/-- The page with references by code point in place of those by name. Of a name that was replaced,
`skip` characters are still to be left out. -/
def replaceNames : (skip : Nat) → List Char → List Char
  | _, [] => []
  | skip + 1, _ :: rest => replaceNames skip rest
  | 0, c :: rest =>
    if c = '&' then
      match namedReference? rest with
      | some written => written ++ replaceNames (rest.takeWhile isCharacterName).length rest
      | none => c :: replaceNames 0 rest
    else c :: replaceNames 0 rest

/-! ## The opening declaration -/

/-- Whether a character may occur in a value of the opening declaration. -/
def isSettingChar (c : Char) : Bool :=
  isCharacterName c || c == '.' || c == '-' || c == '_'

/-- A setting of the opening declaration, after the white space that it needs, and what follows. -/
def setting? (cs : List Char) : Option ((List Char × List Char) × List Char) :=
  match cs with
  | [] => none
  | c :: _ =>
    if !isSpace c then none
    else
      let body := skipSpace cs
      let ends (c : Char) : Bool := c == '=' || isSpace c
      let name := body.takeWhile (!ends ·)
      match skipSpace (body.dropWhile (!ends ·)) with
      | '=' :: rest =>
        match skipSpace rest with
        | quote :: rest =>
          if quote = '"' || quote = '\'' then
            match rest.dropWhile isSettingChar with
            | close :: after =>
              if close = quote && !name.isEmpty then
                some ((name, rest.takeWhile isSettingChar), after)
              else none
            | [] => none
          else none
        | [] => none
      | _ => none

def settings? : (fuel : Nat) → List Char → Option (List (List Char × List Char))
  | 0, _ => none
  | fuel + 1, cs =>
    if (skipSpace cs).isEmpty then some []
    else
      match setting? cs with
      | some (s, rest) => (settings? fuel rest).map (s :: ·)
      | none => none

/-- Whether the settings name the encoding by a letter first, where they name it. -/
def isEncoding (s : List Char × List Char) : Bool :=
  s.1 == "encoding".toList && (s.2.head?.map Char.isAlpha) == some true

/-- Whether the page stands alone, as a setting says it. -/
def standalone? (s : List Char × List Char) : Option Bool :=
  if s.1 != "standalone".toList then none
  else if s.2 == "yes".toList then some true
  else if s.2 == "no".toList then some false
  else none

/-- Whether the page stands alone, by its settings: a version, then perhaps an encoding, and then
perhaps whether it stands alone. -/
def standaloneOf? : List (List Char × List Char) → Option Bool
  | version :: more =>
    if version.1 != "version".toList then none
    else
      match more with
      | [] => some false
      | [s] => if isEncoding s then some false else standalone? s
      | [e, s] => if isEncoding e then standalone? s else none
      | _ => none
  | [] => none

/-- What the declaration that opens a page says, and what follows it. -/
def declaration? (cs : List Char) : Option (Declarations × List Char) :=
  match after? "<?xml" cs with
  | some (c :: body) =>
    if isNameChar c || c == ':' then some ({}, cs)
    else
      match upTo? '?' '>' (c :: body) with
      | none => none
      | some (inside, rest) => do
        let settings ← settings? inside.length.succ inside
        let standalone ← standaloneOf? settings
        return ({ standalone }, rest)
  | some [] => none
  | none => some ({}, cs)

/-! ## Around the element -/

/-- What follows white space, comments and instructions. -/
def afterMisc? : (fuel : Nat) → List Char → Option (List Char)
  | 0, _ => none
  | fuel + 1, cs =>
    match skipSpace cs with
    | '<' :: '!' :: '-' :: '-' :: rest => (afterComment? rest).bind (afterMisc? fuel)
    | '<' :: '?' :: rest => (afterInstruction? rest).bind (afterMisc? fuel)
    | rest => some rest

/-- The declarations in front of the element, and what starts with the element. -/
def prolog (cs : List Char) : Except MarkupFault (Declarations × List Char) := do
  let (d, rest) ← Doctype.need (declaration? cs)
  let rest ← Doctype.need (afterMisc? rest.length.succ rest)
  match after? "<!" rest with
  | none => return (d, rest)
  | some rest =>
    let rest ← Doctype.need (Doctype.keyword? "DOCTYPE" rest)
    let (d, rest) ← Doctype.read d rest
    let rest ← Doctype.need (afterMisc? rest.length.succ rest)
    return (d, rest)

/-- The forest that a page without a leading document type holds: one element, numbered from zero
on in document order. -/
def forest (cs : List Char) : Except MarkupFault Forest := do
  let cs := match cs with
    | '\uFEFF' :: rest => rest
    | _ => cs
  let (d, rest) ← prolog cs
  let body ← Doctype.need (after? "<" rest)
  let (tokens, rest) ← Doctype.need (Token.element? d.lenient body)
  let marks ← Doctype.need (Mark.ofTokens? d .initial [] 0 tokens)
  let rest ← Doctype.need (afterMisc? rest.length.succ rest)
  if rest.isEmpty then return (Forest.ofMarks marks).2
  else throw .malformed

/-- Reads a page: its document type, where it starts with one, and its element. -/
def read (text : String) : Except MarkupFault (Option String × Forest) := do
  let (doctype, body) := splitDoctype text.toList
  let f ← forest (replaceNames 0 body)
  return (doctype.map .ofList, f)

end Page

end FormGate.Markup
