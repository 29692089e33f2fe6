import FormGate.Text.LetterCase

/-!
# Fields

The kinds of field that rules tell apart, and the label under which a message names a field.
-/

namespace FormGate

/-- The kinds of field that rules tell apart. -/
inductive FieldKind
  | text
  | checkbox
  | other
  deriving DecidableEq, Repr

namespace FieldKind

def name : FieldKind → String
  | text => "text"
  | checkbox => "checkbox"
  | other => "other"

def ofName? (s : String) : Option FieldKind :=
  [text, checkbox, other].find? (·.name == s)

end FieldKind

namespace Field

/-- The label of a field without a name, unless a configuration gives another. -/
def defaultFallback : String := "This field"

/-- The label of a field: its declared name with spaces for underscores and a capital first
letter, or the fallback where it has no name. -/
def displayName (declared : Option String) (fallback : String := defaultFallback) : String :=
  match declared with
  | none => fallback
  | some name =>
    if name.isEmpty then fallback
    else Text.capitalised (name.map fun c => if c = '_' then ' ' else c)

end Field

end FormGate
