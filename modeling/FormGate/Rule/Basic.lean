/-!
# Rules

A rule is one condition on a field: a name and, for some rules, a parameter in brackets. A field
declares its rules as one text, with a bar between one rule and the next.
-/

namespace FormGate

/-- One rule that a field declares, such as `required` or `min_length[5]`. -/
structure Rule where
  name : String
  parameter : Option String := none
  deriving DecidableEq, Repr

namespace Rule

def text (r : Rule) : String :=
  match r.parameter with
  | none => r.name
  | some p => r.name ++ "[" ++ p ++ "]"

/-- The rules as one text, with a bar between one and the next. -/
def join (rules : List Rule) : String :=
  "|".intercalate (rules.map text)

end Rule

end FormGate
