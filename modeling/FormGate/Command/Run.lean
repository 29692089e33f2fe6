import FormGate.Command.Check

/-!
# Running a request

Every request becomes a script, and what the script does is carried out as far as it can be. A command
line that is no request does nothing and ends with a status of its own.
-/

namespace FormGate.Command

open Script

def version : String := "0.1.0"

/-- The status of a command line that cannot be read. -/
def usageStatus : Nat := 2

def showVersion : Script Nat := do
  say [.own ("formcheck version " ++ version)]
  return 0

def showRules : Script Nat := do
  say [.own "Rule catalog"]
  act (.print (.table ["Rule", "Parameter", "Description"]
    (Catalog.default.definitions.map fun d =>
      [[.own d.name], [.own d.parameter.name], [.own d.description]])))
  return 0

def Request.script (r : Request) (s : Surroundings) : Script Nat :=
  match r with
  | .version => showVersion
  | .rules => showRules
  | .lint t => FormGate.Command.lint t s
  | .check t o => FormGate.Command.check t o s

/-- All that a request does, and how it ends. -/
def Request.run (r : Request) (s : Surroundings) : List Action × Exit :=
  (r.script s).run

/-- Does one thing after the other. What cannot be done, for some reason, keeps everything after it
from being done. -/
def carryOut {m : Type → Type} [Monad m] (perform : Action → m (Option String)) :
    List Action → Exit → m Exit
  | [], exit => return exit
  | a :: actions, exit => do
    match ← perform a with
    | none => carryOut perform actions exit
    | some reason => return .undone reason

def Request.execute {m : Type → Type} [Monad m] (perform : Action → m (Option String)) (r : Request)
    (s : Surroundings) : m Exit :=
  carryOut perform (r.run s).1 (r.run s).2

end FormGate.Command
