import FormGate.Diagnostic.Failure
import FormGate.Json.Basic

/-!
# Diagnostics

A diagnostic records one failure together with the context in which it was met. Where the context
does not name a field or a rule yet, it takes them over from the fault, and keeps them.
-/

namespace FormGate

/-- How much a diagnostic matters: an error aborted a pass, a warning skipped one rule. -/
inductive Severity
  | error
  | warning
  | info
  deriving DecidableEq, Repr

namespace Severity

def name : Severity → String
  | error => "error"
  | warning => "warning"
  | info => "info"

/-- The name in capitals, as it opens the text of a diagnostic. -/
def label : Severity → String
  | error => "ERROR"
  | warning => "WARNING"
  | info => "INFO"

/-- Every severity, in the order in which they are counted. -/
def all : List Severity := [error, warning, info]

def ofName? (s : String) : Option Severity :=
  all.find? (·.name == s)

end Severity

/-- Where a failure was met. -/
structure Context where
  operation : String
  component : String
  field : Option String := none
  rule : Option String := none
  additional : Option Json := none

/-- The context after a failure was met in it: what it did not say yet, the failure says. -/
def Context.attributed (c : Context) (e : Failure) : Context :=
  { c with field := c.field.or e.field?, rule := c.rule.or e.rule? }

/-- One recorded failure. -/
structure Diagnostic where
  severity : Severity
  code : String
  errorType : String
  message : String
  context : Context

namespace Diagnostic

def ofFailure (e : Failure) (context : Context) (severity : Severity) : Diagnostic where
  severity
  code := e.code
  errorType := e.typeName
  message := e.message
  context := context.attributed e

/-- A part of the location, left out where there is nothing to name. -/
def locationPart (opening closing : String) : Option String → String
  | none => ""
  | some s => if s.isEmpty then "" else opening ++ s ++ closing

/-- One line that says what happened and where. -/
def text (d : Diagnostic) : String :=
  "[" ++ d.severity.label ++ "] " ++ d.code ++ ": " ++ d.message ++
    locationPart " on field '" "'" d.context.field ++
    locationPart " (rule '" "')" d.context.rule

end Diagnostic

end FormGate
