/-!
# JSON values

The values of a configuration file and of every report that is written as JSON. An object keeps
its fields in the order of their first appearance.
-/

namespace FormGate

/-- A number that was written with a fraction or an exponent, or as one of the three words for a
number that is not finite. -/
inductive Json.Real
  | decimal (negative : Bool) (coefficient : Nat) (exponent : Int)
  | infinite (negative : Bool)
  | notANumber
  deriving DecidableEq, Repr

/-- A JSON value. -/
inductive Json
  | null
  | bool (b : Bool)
  | int (n : Int)
  | real (r : Json.Real)
  | text (s : String)
  | list (items : List Json)
  | object (fields : List (String × Json))

namespace Json

instance : Inhabited Json := ⟨.null⟩

/-- The fields with one added: the last value given for a name stands at its first place. -/
def addField (fields : List (String × Json)) (name : String) (value : Json) :
    List (String × Json) :=
  if fields.any (·.1 == name) then
    fields.map fun f => if f.1 == name then (name, value) else f
  else fields ++ [(name, value)]

/-- The field of an object; none in any other value. -/
def get? (j : Json) (name : String) : Option Json :=
  match j with
  | .object fields => fields.lookup name
  | _ => none

def ofText? : Option String → Json
  | some s => .text s
  | none => .null

def ofTexts (ss : List String) : Json :=
  .list (ss.map .text)

def ofNat (n : Nat) : Json :=
  .int n

end Json

end FormGate
