import FormGate.Markup.Attribute

/-!
# The tokens of content

Between the first opening tag of a page and the closing tag that belongs to it stand characters and
tags. Comments and instructions leave no token, a marked section stands for its characters, and
every line end is one line feed.
-/

namespace FormGate.Markup

/-- A character of text or a tag. A tag that closes its element at once counts as two. -/
inductive Token
  | char (c : Char)
  | opening (name : List Char) (attributes : List RawAttribute)
  | closing (name : List Char)
  deriving DecidableEq, Repr

namespace Token

/-- The characters with a line feed for each line end. -/
def unifyBreaks : List Char → List Char
  | '\r' :: '\n' :: rest => '\n' :: unifyBreaks rest
  | c :: rest => (if c = '\r' then '\n' else c) :: unifyBreaks rest
  | [] => []

/-- The characters of a marked section whose opening mark was read, and what follows it. -/
def section? : List Char → Option (List Char × List Char)
  | ']' :: ']' :: '>' :: rest => some ([], rest)
  | c :: rest => if isLegal c then (section? rest).map fun p => (c :: p.1, p.2) else none
  | [] => none

/-- The tokens of an opening tag after its `<`, and what follows it. -/
def openingTag? (lenient : Bool) (cs : List Char) : Option (List Token × List Char) :=
  match qualifiedName? cs with
  | none => none
  | some (name, rest) =>
    match attributes? lenient rest.length.succ rest with
    | none => none
    | some (attributes, closed, rest) =>
      some (opening name attributes :: if closed then [closing name] else [], rest)

def closingTag? (cs : List Char) : Option (List Token × List Char) :=
  let inName (c : Char) : Bool := isNameChar c || c == ':'
  match skipSpace (cs.dropWhile inName) with
  | '>' :: rest => some ([closing (cs.takeWhile inName)], rest)
  | _ => none

/-- The tokens of a reference in text after its `&`, and what follows it. -/
def reference? (cs : List Char) : Option (List Token × List Char) :=
  match Markup.reference? cs with
  | some (.char c, rest) => some ([char c], rest)
  | _ => none

/-- The tokens of what comes next in content, and what follows it. -/
def next? (lenient : Bool) (cs : List Char) : Option (List Token × List Char) :=
  match cs with
  | [] => none
  | '<' :: '!' :: '-' :: '-' :: rest => (afterComment? rest).map ([], ·)
  | '<' :: '!' :: rest =>
    match after? "[CDATA[" rest with
    | some body => (section? body).map fun p => ((unifyBreaks p.1).map char, p.2)
    | none => none
  | '<' :: '?' :: rest => (afterInstruction? rest).map ([], ·)
  | '<' :: '/' :: rest => closingTag? rest
  | '<' :: rest => openingTag? lenient rest
  | '&' :: rest => reference? rest
  | ']' :: ']' :: '>' :: _ => none
  | '\r' :: '\n' :: rest => some ([char '\n'], rest)
  | '\r' :: rest => some ([char '\n'], rest)
  | c :: rest => if isLegal c then some ([char c], rest) else none

/-- How many elements are open after a token. -/
def depthAfter (depth : Nat) : Token → Nat
  | char _ => depth
  | opening _ _ => depth + 1
  | closing _ => depth - 1

/-- The tokens up to the closing tag of the outermost of the open elements, and what follows. Each
of at most `fuel` steps takes one thing off the content. -/
def content? (lenient : Bool) : (fuel : Nat) → (depth : Nat) → List Char →
    Option (List Token × List Char)
  | _, 0, cs => some ([], cs)
  | 0, _ + 1, _ => none
  | fuel + 1, depth + 1, cs =>
    match next? lenient cs with
    | none => none
    | some (ts, rest) =>
      (content? lenient fuel (ts.foldl depthAfter (depth + 1)) rest).map fun p =>
        (ts ++ p.1, p.2)

/-- The tokens of one element after its `<`, and what follows it. -/
def element? (lenient : Bool) (cs : List Char) : Option (List Token × List Char) :=
  match openingTag? lenient cs with
  | none => none
  | some (ts, rest) =>
    (content? lenient rest.length.succ (ts.foldl depthAfter 0) rest).map fun p => (ts ++ p.1, p.2)

end Token

end FormGate.Markup
