import FormGate.Markup.Reference

/-!
# Attribute values

Inside a value every white space character becomes a space, while a reference to one stands for the
character itself. A value of a declared type other than plain text also loses its outer spaces and
keeps one of each run of inner ones. A less-than sign must not occur.
-/

namespace FormGate.Markup

/-- The value up to the closing quote, and what follows the quote. An unknown entity stands for
nothing where `lenient` allows it. The value has at most `fuel` characters and references. -/
def attributeValue? (lenient : Bool) (quote : Char) :
    (fuel : Nat) → List Char → Option (List Char × List Char)
  | 0, _ => none
  | _ + 1, [] => none
  | fuel + 1, c :: rest =>
    if c = quote then some ([], rest)
    else if c = '&' then
      match reference? rest with
      | some (.char d, after) =>
        (attributeValue? lenient quote fuel after).map fun p => (d :: p.1, p.2)
      | some (.unknown _, after) =>
        if lenient then attributeValue? lenient quote fuel after else none
      | none => none
    else if c = '<' || !isLegal c then none
    else if c = '\r' && rest.head? == some '\n' then attributeValue? lenient quote fuel rest
    else
      (attributeValue? lenient quote fuel rest).map fun p =>
        ((if isSpace c then ' ' else c) :: p.1, p.2)

/-- A value without outer spaces and with single spaces inside. -/
def collapseSpaces (cs : List Char) : List Char :=
  [' '].intercalate ((cs.splitOn ' ').filter (!·.isEmpty))

/-- What was written of one attribute: its name and its value. -/
abbrev RawAttribute := List Char × List Char

/-- The attributes after the name of a tag, whether the tag closes its element at once, and what
follows the tag. -/
def attributes? (lenient : Bool) :
    (fuel : Nat) → List Char → Option (List RawAttribute × Bool × List Char)
  | 0, _ => none
  | fuel + 1, cs =>
    match skipSpace cs with
    | '>' :: rest => some ([], false, rest)
    | '/' :: '>' :: rest => some ([], true, rest)
    | body =>
      if (cs.head?.map isSpace) != some true then none
      else
        match qualifiedName? body with
        | none => none
        | some (name, rest) =>
          match skipSpace rest with
          | '=' :: rest =>
            match skipSpace rest with
            | quote :: rest =>
              if quote = '"' || quote = '\'' then
                match attributeValue? lenient quote (rest.length + 1) rest with
                | none => none
                | some (value, rest) =>
                  (attributes? lenient fuel rest).map fun p => ((name, value) :: p.1, p.2)
              else none
            | [] => none
          | _ => none

end FormGate.Markup
