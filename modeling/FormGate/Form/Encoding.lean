import FormGate.Form.Outcome

/-!
# Outcomes as JSON

The form in which the outcome of a check is printed for other programs.
-/

namespace FormGate

/-- The rules of a field written as one rule text. -/
def Descriptor.ruleText (d : Descriptor) : String :=
  Rule.join d.rules

def Outcome.toFields (o : Outcome) : List (String × Json) :=
  [("valid", .bool o.valid), ("errors", .ofTexts o.errors), ("rewritten_value", .ofText? o.replaced)]

def Descriptor.toFields (d : Descriptor) (o : Outcome) : List (String × Json) :=
  [("name", .ofText? d.declared), ("kind", .text d.kind.name), ("rules", .text d.ruleText)] ++
    o.toFields

def FormOutcome.toJson (o : FormOutcome) : Json :=
  .object [("valid", .bool o.valid),
    ("fields", .list (o.fields.map fun p => .object (p.1.toFields p.2)))]

end FormGate
