import FormGate.Diagnostic.Failure
import FormGate.Rule.Token
import FormGate.Text.Quoted

/-!
# What can be wrong with a rule

A rule fails to be read or to be applied for one of the causes listed here. A cause becomes a fault
by its kind and its wording.
-/

namespace FormGate

/-- The causes for which a rule is dropped. -/
inductive RuleFault
  | malformed (token : String) (why : TokenFault)
  | unknown (name : String)
  | unexpectedParameter (name parameter : String)
  | notWhole (name : String)
  | noReference (name : String)
  | unusableNumber (name : String) (parameter : Option String)
  | nothingToMatch
  | unresolved (reference : String)
  | ambiguous (reference : String) (count : Nat)
  | nameless (reference : String)
  | notFollowed (reference : String)
  deriving DecidableEq, Repr

namespace RuleFault

def kind : RuleFault → FaultKind
  | malformed _ _ => .malformedRule
  | unknown _ => .unknownRule
  | unexpectedParameter _ _ | notWhole _ | noReference _ | unusableNumber _ _ => .invalidParameter
  | nothingToMatch | unresolved _ | ambiguous _ _ | nameless _ | notFollowed _ =>
    .unresolvedReference

def message : RuleFault → String
  | malformed token why => why.message token
  | unknown name => "Unknown rule '" ++ name ++ "'"
  | unexpectedParameter name parameter =>
    "Rule '" ++ name ++ "' takes no parameter, got '" ++ parameter ++ "'"
  | notWhole name =>
    "Rule '" ++ name ++ "' needs a whole number parameter, e.g. " ++ name ++ "[5]"
  | noReference name =>
    "Rule '" ++ name ++ "' needs a field reference, e.g. " ++ name ++ "[#password]"
  | unusableNumber name parameter =>
    "Rule '" ++ name ++ "' needs a whole number parameter, got " ++
      (match parameter with
       | none => "None"
       | some p => Text.quoted p)
  | nothingToMatch => "matches rule has no field reference"
  | unresolved reference => "Reference '" ++ reference ++ "' does not resolve to a field"
  | ambiguous reference count =>
    "Reference '" ++ reference ++ "' resolves to " ++ toString count ++
      " elements, expected one"
  | nameless reference => "Field referenced by '" ++ reference ++ "' has no declared name"
  | notFollowed reference =>
    "Reference '" ++ reference ++ "' not followed while settling a value"

/-- The rule that a cause names itself, where the place that meets it does not. -/
def rule? : RuleFault → Option String
  | malformed token _ => some token
  | unusableNumber name _ => some name
  | nothingToMatch => some "matches"
  | _ => none

/-- The fault of a cause that concerns a given rule, or the rule that the cause names. -/
def toFault (f : RuleFault) (rule : Option String := none) : Fault where
  kind := f.kind
  message := f.message
  rule := rule.or f.rule?

end RuleFault

end FormGate
