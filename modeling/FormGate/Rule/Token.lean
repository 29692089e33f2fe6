import FormGate.Rule.Basic
import FormGate.Text.Blank

/-!
# Tokens of a rule text

A token is the text between two bars. It is a name, or a name and a parameter in brackets; the
parameter runs to the bracket that closes the first one, so that brackets may nest inside it.
Every other token is refused for one of four reasons.
-/

namespace FormGate

/-- Why a token is no rule. -/
inductive TokenFault
  | strayClosing
  | unclosed
  | textAfterClosing
  | badName (name : String)
  deriving DecidableEq, Repr

def TokenFault.message (token : String) : TokenFault → String
  | strayClosing => "Unexpected ']' in rule '" ++ token ++ "'"
  | unclosed => "Unclosed '[' in rule '" ++ token ++ "'"
  | textAfterClosing => "Unexpected text after ']' in rule '" ++ token ++ "'"
  | badName name => "Invalid rule name '" ++ name ++ "' in rule '" ++ token ++ "'"

namespace Rule

def isNameStart (c : Char) : Bool :=
  ('a' ≤ c && c ≤ 'z') || ('A' ≤ c && c ≤ 'Z') || c == '_'

def isNameChar (c : Char) : Bool :=
  isNameStart c || ('0' ≤ c && c ≤ '9')

def isName : List Char → Bool
  | [] => false
  | c :: rest => isNameStart c && rest.all isNameChar

/-- The characters up to the bracket that closes the one before them, and those after it; `depth`
more brackets are open. -/
def untilClosing : (depth : Nat) → List Char → Option (List Char × List Char)
  | _, [] => none
  | depth, c :: rest =>
    if c = ']' then
      match depth with
      | 0 => some ([], rest)
      | d + 1 => (untilClosing d rest).map fun p => (c :: p.1, p.2)
    else
      (untilClosing (if c = '[' then depth + 1 else depth) rest).map fun p => (c :: p.1, p.2)

/-- A rule of a name that is still surrounded by blank characters. -/
def named (name : List Char) (parameter : Option (List Char)) : Except TokenFault Rule :=
  let trimmed := Text.trimChars name
  if isName trimmed then .ok ⟨.ofList trimmed, parameter.map .ofList⟩
  else .error (.badName (.ofList trimmed))

def ofChars (cs : List Char) : Except TokenFault Rule :=
  match cs.dropWhile (· != '[') with
  | [] => if cs.contains ']' then .error .strayClosing else named cs none
  | _ :: inside =>
    match untilClosing 0 inside with
    | none => .error .unclosed
    | some (_, _ :: _) => .error .textAfterClosing
    | some (parameter, []) => named (cs.takeWhile (· != '[')) (some parameter)

/-- The rule that a token spells. -/
def ofToken (token : String) : Except TokenFault Rule :=
  ofChars token.toList

end Rule

end FormGate
