import FormGate.Config.Basic
import FormGate.Form.Outcome
import FormGate.Host.Call

/-!
# Passes

A pass is written as a program: it calls the host, reports to the developers, and ends with a
result or breaks off. What happens between two calls is not its business, so whoever runs it may let
other things happen there.
-/

namespace FormGate

/-- A program of calls and reports. A call is answered, or it fails. -/
inductive Program (α : Type) where
  | done (result : α)
  | call (c : Call) (next : Except Failure c.Answer → Program α)
  | report (e : Failure) (context : Context) (next : Program α)

namespace Program

/-- One program after another. -/
def bind {α β : Type} : Program α → (α → Program β) → Program β
  | done a, f => f a
  | call c next, f => call c fun r => (next r).bind f
  | report e context next, f => report e context (next.bind f)

instance : Monad Program where
  pure := done
  bind := bind

theorem bind_done {α : Type} (x : Program α) : x.bind done = x := by
  induction x with
  | done a => rfl
  | call c next ih => exact congrArg (call c) (funext ih)
  | report e context next ih => exact congrArg (report e context) ih

theorem bind_assoc {α β γ : Type} (x : Program α) (f : α → Program β) (g : β → Program γ) :
    (x.bind f).bind g = x.bind fun a => (f a).bind g := by
  induction x with
  | done a => rfl
  | call c next ih => exact congrArg (call c) (funext ih)
  | report e context next ih => exact congrArg (report e context) ih

instance : LawfulMonad Program :=
  LawfulMonad.mk' Program bind_done (fun _ _ => rfl) bind_assoc

end Program

/-- A program that may break off. -/
abbrev Pass := ExceptT Failure Program

namespace Pass

def ask (c : Call) : Pass c.Answer :=
  ExceptT.mk (.call c .done)

/-- Reports a failure to the developers and goes on. -/
def report (e : Failure) (context : Context) : Pass Unit :=
  ExceptT.mk (.report e context (.done (.ok ())))

/-- Reports failures one after the other. -/
def reportAll (reports : List (Failure × Context)) : Pass Unit :=
  reports.forM fun p => report p.1 p.2

/-- Runs a pass up to the first fault in the set-up of the form, which it hands over. Any other
failure breaks off as before. -/
def catchFault {α : Type} (x : Pass α) : Pass (Except Fault α) :=
  ExceptT.mk (x.run.bind fun r =>
    .done (match r with
      | .ok a => .ok (.ok a)
      | .error (.fault f) => .ok (.error f)
      | .error e => .error e))

end Pass

/-- What a pass goes by: the configuration and the catalog of rules. -/
structure Setup where
  config : Config := {}
  catalog : Catalog := .default

end FormGate
