import FormGate.Diagnostic.Collector

/-!
# Diagnostics as JSON

The form in which diagnostics and their summary are written to a file.
-/

namespace FormGate

def Context.toJson (c : Context) : Json :=
  .object [("operation", .text c.operation), ("component", .text c.component),
    ("field", .ofText? c.field), ("rule", .ofText? c.rule),
    ("additional_context", c.additional.getD .null)]

def Diagnostic.toFields (d : Diagnostic) : List (String × Json) :=
  [("severity", .text d.severity.name), ("code", .text d.code), ("error_type", .text d.errorType),
    ("message", .text d.message), ("context", d.context.toJson)]

def Diagnostic.toJson (d : Diagnostic) : Json :=
  .object d.toFields

/-- The version of the form in which a summary is written. -/
def Summary.version : String := "1.0.0"

def Summary.toJson (s : Summary) : Json :=
  .object [("schema_version", .text version), ("command", .text s.command),
    ("total", .ofNat s.total),
    ("by_severity", .object (s.bySeverity.map fun p => (p.1.name, .ofNat p.2))),
    ("by_code", .object (s.byCode.map fun p => (p.1, .ofNat p.2))),
    ("dropped", .ofNat s.dropped),
    ("diagnostics", .list (s.diagnostics.map Diagnostic.toJson))]

end FormGate
