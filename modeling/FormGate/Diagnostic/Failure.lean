/-!
# Failures

A fault is a problem in how a form was set up, such as a rule string that names an unknown rule.
A crash is any other way in which a step breaks off. Only faults carry the field and the rule that
they concern; they are shown to developers and never to the person who fills in a form.
-/

namespace FormGate

/-- The kinds of fault. -/
inductive FaultKind
  | configuration
  | malformedRule
  | unknownRule
  | invalidParameter
  | unresolvedReference
  | missingRules
  | hostUnavailable
  deriving DecidableEq, Repr

namespace FaultKind

/-- The code under which diagnostics of this kind are counted. -/
def code : FaultKind → String
  | configuration => "configuration"
  | malformedRule => "malformed_rule"
  | unknownRule => "unknown_rule"
  | invalidParameter => "invalid_parameter"
  | unresolvedReference => "unresolved_reference"
  | missingRules => "missing_rules"
  | hostUnavailable => "host_unavailable"

/-- The name of the error type that a diagnostic of this kind shows. -/
def typeName : FaultKind → String
  | configuration => "ConfigurationError"
  | malformedRule => "MalformedRuleError"
  | unknownRule => "UnknownRuleError"
  | invalidParameter => "InvalidParameterError"
  | unresolvedReference => "UnresolvedReferenceError"
  | missingRules => "MissingRulesError"
  | hostUnavailable => "HostUnavailableError"

def all : List FaultKind :=
  [configuration, malformedRule, unknownRule, invalidParameter, unresolvedReference, missingRules,
    hostUnavailable]

def ofTypeName? (name : String) : Option FaultKind :=
  all.find? (·.typeName == name)

end FaultKind

/-- A problem in how a form was set up, with the field and the rule it concerns where known. -/
structure Fault where
  kind : FaultKind
  message : String
  field : Option String := none
  rule : Option String := none
  deriving DecidableEq, Repr

/-- The ways to break off that are no fault of the form's set-up. -/
inductive CrashKind
  | value
  | runtime
  | type
  | noAttribute
  deriving DecidableEq, Repr

namespace CrashKind

/-- The name of the error type that a diagnostic of this kind shows. -/
def typeName : CrashKind → String
  | value => "ValueError"
  | runtime => "RuntimeError"
  | type => "TypeError"
  | noAttribute => "AttributeError"

def ofTypeName? (name : String) : Option CrashKind :=
  [value, runtime, type, noAttribute].find? (·.typeName == name)

end CrashKind

/-- Any way in which a step breaks off. -/
inductive Failure
  | fault (f : Fault)
  | crash (kind : CrashKind) (message : String)
  deriving DecidableEq, Repr

namespace Failure

def message : Failure → String
  | fault f => f.message
  | crash _ m => m

def typeName : Failure → String
  | fault f => f.kind.typeName
  | crash k _ => k.typeName

/-- The code under which a diagnostic of the failure is counted. -/
def code : Failure → String
  | fault f => f.kind.code
  | crash _ _ => "unexpected_error"

def field? : Failure → Option String
  | fault f => f.field
  | crash _ _ => none

def rule? : Failure → Option String
  | fault f => f.rule
  | crash _ _ => none

/-- The fault of a pass for which no page is at hand. -/
def noHost : Failure :=
  .fault ⟨.hostUnavailable, "No host UI adapter available; validation pass aborted", none, none⟩

end Failure

end FormGate
