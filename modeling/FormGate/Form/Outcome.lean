import FormGate.Document.Basic
import FormGate.Rule.Reader

/-!
# Outcomes

A field is described afresh for each pass. The outcome of a field lists what is wrong with its
value, and the outcome of a form lists its fields in document order with their outcomes.
-/

namespace FormGate

/-- A field as a pass finds it: its element, its declared name, its kind and its rules. -/
structure Descriptor where
  element : Element
  declared : Option String
  kind : FieldKind
  rules : List Rule
  deriving DecidableEq, Repr

/-- What the rules of a field find: the messages, and the value that was written back. -/
structure Outcome where
  errors : List String := []
  replaced : Option String := none
  deriving DecidableEq, Repr

/-- A field is valid if no rule has a message. -/
def Outcome.valid (o : Outcome) : Bool :=
  o.errors.isEmpty

/-- The fields of a form with their outcomes. -/
structure FormOutcome where
  fields : List (Descriptor × Outcome) := []
  deriving DecidableEq, Repr

namespace FormOutcome

/-- A form is valid if all of its fields are. -/
def valid (o : FormOutcome) : Bool :=
  o.fields.all (·.2.valid)

def outcomeOf? (o : FormOutcome) (e : Element) : Option Outcome :=
  (o.fields.find? (·.1.element == e)).map (·.2)

def invalid (o : FormOutcome) : List Descriptor :=
  (o.fields.filter (!·.2.valid)).map (·.1)

def firstInvalid? (o : FormOutcome) : Option Descriptor :=
  o.invalid.head?

/-- All messages, by field and then by rule. -/
def errors (o : FormOutcome) : List String :=
  o.fields.flatMap (·.2.errors)

end FormOutcome

end FormGate
