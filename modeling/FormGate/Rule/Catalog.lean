import FormGate.Rule.Judgement

/-!
# The catalog of rules

A catalog lists the rules that a rule text may name, in the order in which their names were first
registered. Registering a name again replaces its rule at the same place.
-/

namespace FormGate

/-- What a rule expects between its brackets. -/
inductive ParameterKind
  | none
  | integer
  | reference
  deriving DecidableEq, Repr

namespace ParameterKind

def name : ParameterKind → String
  | none => "none"
  | integer => "integer"
  | reference => "reference"

def ofName? (s : String) : Option ParameterKind :=
  [none, integer, reference].find? (·.name == s)

end ParameterKind

/-- A rule as it is registered. A rule that replaces the value also counts when another field is
compared with the field that declares it. -/
structure Definition where
  name : String
  parameter : ParameterKind
  judge : Question → Judgement
  description : String := ""
  replaces : Bool := false

/-- The rules that a rule text may name. -/
structure Catalog where
  definitions : List Definition := []

namespace Catalog

def get? (c : Catalog) (name : String) : Option Definition :=
  c.definitions.find? (·.name == name)

def contains (c : Catalog) (name : String) : Bool :=
  c.definitions.any (·.name == name)

def names (c : Catalog) : List String :=
  c.definitions.map (·.name)

def size (c : Catalog) : Nat :=
  c.definitions.length

/-- Registers a rule, in place of the one of the same name where there is one. -/
def insert (c : Catalog) (d : Definition) : Catalog :=
  if c.contains d.name then
    ⟨c.definitions.map fun e => if e.name == d.name then d else e⟩
  else ⟨c.definitions ++ [d]⟩

/-- A request to register a rule, whose kind of parameter is given by name. -/
structure Registration where
  name : String
  parameterKind : String
  judge : Question → Judgement
  description : String := ""
  replaces : Bool := false

/-- The failure of a text that is not the name of a member of a closed list. -/
def notAMember (s type : String) : Failure :=
  .crash .value (Text.quoted s ++ " is not a valid " ++ type)

/-- Registers a rule, unless there is no such kind of parameter. -/
def register (c : Catalog) (r : Registration) : Except Failure (Definition × Catalog) :=
  match ParameterKind.ofName? r.parameterKind with
  | none => .error (notAMember r.parameterKind "ParameterKind")
  | some kind =>
    let d : Definition := ⟨r.name, kind, r.judge, r.description, r.replaces⟩
    .ok (d, c.insert d)

def builtin (b : Builtin) (parameter : ParameterKind) (description : String)
    (replaces : Bool := false) : Definition :=
  ⟨b.name, parameter, b.judge, description, replaces⟩

def default : Catalog where
  definitions := [
    builtin .trim .none "Strip leading and trailing whitespace from the value" true,
    builtin .required .none "Value must be non-empty; checkboxes must be checked",
    builtin .email .none "Value must be an email address",
    builtin .number .none "Value must be an integer or floating point number",
    builtin .minLength .integer "Value must have at least N characters",
    builtin .maxLength .integer "Value must have at most N characters",
    builtin .matching .reference "Value must equal the referenced field's value"]

end Catalog

end FormGate
