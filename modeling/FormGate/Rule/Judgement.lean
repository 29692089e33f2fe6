import FormGate.Field.Basic
import FormGate.Rule.Email
import FormGate.Rule.Fault
import FormGate.Rule.Number
import FormGate.Text.Numeral

/-!
# Judging a value

A rule judges the current value of a field. It finds the value satisfactory or not, in which case it
says why in a message with a placeholder for the field's label, and either way it may put another
value in its place. Before it decides it may ask for another field of the form, and goes on as well
where none could be given. A judgement is therefore a tree of questions, at whose leaves stand
verdicts and faults for which the rule is dropped.
-/

namespace FormGate

/-- What a rule finds about a value. A rule that is not satisfied says why. -/
structure Verdict where
  valid : Bool
  message : Option String := none
  replacement : Option String := none
  explained : valid = false → message.isSome = true
  deriving DecidableEq, Repr

namespace Verdict

def passed : Verdict where
  valid := true
  explained := nofun

/-- The rule is satisfied and puts a value in place of the given one. -/
def replaced (value : String) : Verdict :=
  { passed with replacement := some value }

def failed (message : String) : Verdict where
  valid := false
  message := some message
  explained _ := rfl

/-- The message that the person at the form is shown. -/
def complaint? (v : Verdict) : Option String :=
  if v.valid then none else v.message

/-- Puts a label in place of each placeholder. -/
def fill (label : List Char) : List Char → List Char
  | '{' :: 'n' :: 'a' :: 'm' :: 'e' :: '}' :: rest => label ++ fill label rest
  | c :: rest => c :: fill label rest
  | [] => []

/-- A message with a label in place of each placeholder. -/
def fillMessage (label message : String) : String :=
  .ofList (fill label.toList message.toList)

/-- The start of a message about the field at hand. -/
def placeholder : String := "\x7bname\x7d"

end Verdict

/-- What a rule is asked: the value, the kind and the state of a field, and the rule's parameter. -/
structure Question where
  value : String
  kind : FieldKind := .text
  parameter : Option String := none
  checked : Bool := false
  deriving DecidableEq, Repr

/-- Another field that a rule asked for: its declared name and its value. -/
structure Referenced where
  name : String
  value : String
  deriving DecidableEq, Repr

/-- How a rule comes to its verdict. What it asked for may also be a fault, which it need not pass
on. -/
inductive Judgement
  | verdict (v : Verdict)
  | fault (f : Fault)
  | consult (reference : String) (next : Except Fault Referenced → Judgement)

namespace Judgement

/-- Follows the judgement, with the given way to look up another field. -/
def settle {m : Type → Type} [Monad m] (lookup : String → m (Except Fault Referenced)) :
    Judgement → m (Except Fault Verdict)
  | verdict v => pure (.ok v)
  | fault f => pure (.error f)
  | consult reference next => do
    let found ← lookup reference
    settle lookup (next found)

/-- What the judgement comes to where it is known what each lookup finds. -/
def settleWith (answers : String → Except Fault Referenced) (j : Judgement) : Except Fault Verdict :=
  Id.run (j.settle fun reference => pure (answers reference))

end Judgement

/-- The built-in rules. -/
inductive Builtin
  | trim
  | required
  | email
  | number
  | minLength
  | maxLength
  | matching
  deriving DecidableEq, Repr

namespace Builtin

/-- The name under which a built-in rule is registered. -/
def name : Builtin → String
  | trim => "trim"
  | required => "required"
  | email => "email"
  | number => "number"
  | minLength => "min_length"
  | maxLength => "max_length"
  | matching => "matches"

/-- Every built-in rule, in the order in which they are listed. -/
def all : List Builtin :=
  [trim, required, email, number, minLength, maxLength, matching]

def ofName? (s : String) : Option Builtin :=
  all.find? (·.name == s)

/-- Passes where the condition holds and fails with the message elsewhere; the message goes on
after the label. -/
def check (holds : Bool) (rest : String) : Judgement :=
  .verdict (if holds then .passed else .failed (Verdict.placeholder ++ rest))

/-- Goes on with the number that a parameter spells. -/
def withNumber (name : String) (parameter : Option String) (next : Int → Judgement) : Judgement :=
  match parameter.bind Text.Numeral.integer? with
  | some n => next n
  | none => .fault (RuleFault.unusableNumber name parameter).toFault

def judge : Builtin → Question → Judgement
  | trim, q => .verdict (.replaced (Text.trim q.value))
  | required, q =>
    check (if q.kind = .checkbox then q.checked else q.value != "") " is required"
  | email, q => check (Email.isAddress q.value.toList) " must be a valid email address."
  | number, q => check (Number.isNumber q.value.toList) " must be a number."
  | minLength, q =>
    withNumber "min_length" q.parameter fun n =>
      check (n ≤ (q.value.length : Int)) (" must be at least " ++ toString n ++ " characters.")
  | maxLength, q =>
    withNumber "max_length" q.parameter fun n =>
      check ((q.value.length : Int) ≤ n)
        (" must be equal to or less than " ++ toString n ++ " characters.")
  | matching, q =>
    match q.parameter with
    | none => .fault RuleFault.nothingToMatch.toFault
    | some reference =>
      if reference.isEmpty then .fault RuleFault.nothingToMatch.toFault
      else .consult reference fun
        | .ok other =>
          check (q.value == other.value)
            (" must match " ++ Field.displayName (some other.name) ++ ".")
        | .error f => .fault f

end Builtin

end FormGate
