import FormGate.Json.Basic
import FormGate.Text.Quoted

/-!
# Writing JSON

A value is written on one line, or over several lines with an indentation of two spaces. The
characters outside ASCII are escaped or kept, as the reader of the text expects.
-/

namespace FormGate.Json

namespace Writer

/-- An escape with a code point below 0x10000. -/
def codeEscape (n : Nat) : List Char :=
  '\\' :: 'u' :: Text.hexDigits 4 n

def stringChar (ascii : Bool) (c : Char) : List Char :=
  if c = '"' || c = '\\' then ['\\', c]
  else if c = '\n' then ['\\', 'n']
  else if c = '\r' then ['\\', 'r']
  else if c = '\t' then ['\\', 't']
  else if c = '\x08' then ['\\', 'b']
  else if c = '\x0c' then ['\\', 'f']
  else if c.toNat < 0x20 then codeEscape c.toNat
  else if c.toNat < 0x7F || !ascii then [c]
  else if c.toNat < 0x10000 then codeEscape c.toNat
  else codeEscape (0xD800 + (c.toNat - 0x10000) / 0x400) ++
    codeEscape (0xDC00 + (c.toNat - 0x10000) % 0x400)

def string (ascii : Bool) (s : String) : String :=
  .ofList ('"' :: s.toList.flatMap (stringChar ascii) ++ ['"'])

/-- A number with a fraction or an exponent. -/
def real : Real → String
  | .decimal negative coefficient exponent =>
    (if negative then "-" else "") ++ toString coefficient ++ "e" ++ toString exponent
  | .infinite negative => if negative then "-Infinity" else "Infinity"
  | .notANumber => "NaN"

/-- A line break and the indentation of a depth; nothing on a single line. -/
def lineBreak (pretty : Bool) (depth : Nat) : String :=
  if pretty then .ofList ('\n' :: List.replicate (2 * depth) ' ') else ""

/-- What stands between two items. -/
def comma (pretty : Bool) (depth : Nat) : String :=
  if pretty then "," ++ lineBreak true depth else ", "

mutual

def value (ascii pretty : Bool) (depth : Nat) : Json → String
  | .null => "null"
  | .bool b => if b then "true" else "false"
  | .int n => toString n
  | .real r => real r
  | .text s => string ascii s
  | .list [] => "[]"
  | .list (j :: js) =>
    "[" ++ lineBreak pretty (depth + 1) ++ value ascii pretty (depth + 1) j ++
      items ascii pretty (depth + 1) js ++ lineBreak pretty depth ++ "]"
  | .object [] => "\x7b\x7d"
  | .object ((name, j) :: fs) =>
    "\x7b" ++ lineBreak pretty (depth + 1) ++ string ascii name ++ ": " ++
      value ascii pretty (depth + 1) j ++ fields ascii pretty (depth + 1) fs ++
      lineBreak pretty depth ++ "\x7d"

/-- The texts of further items, each after its comma. -/
def items (ascii pretty : Bool) (depth : Nat) : List Json → String
  | [] => ""
  | j :: js =>
    comma pretty depth ++ value ascii pretty depth j ++ items ascii pretty depth js

/-- The texts of further fields, each after its comma. -/
def fields (ascii pretty : Bool) (depth : Nat) : List (String × Json) → String
  | [] => ""
  | (name, j) :: fs =>
    comma pretty depth ++ string ascii name ++ ": " ++ value ascii pretty depth j ++
      fields ascii pretty depth fs

end

end Writer

/-- The value on one line, in ASCII. -/
def compact (j : Json) : String :=
  Writer.value true false 0 j

/-- The value over several lines. -/
def pretty (ascii : Bool) (j : Json) : String :=
  Writer.value ascii true 0 j

end FormGate.Json
