import FormGate.Trigger.Basic

/-!
# The world of a controller

A controller works on a page, keeps a collector of diagnostics, and is in one phase at a time. Just
before a call to the host something may intervene: further triggers may arrive, and the call may
fail.
-/

namespace FormGate

/-- What intervenes before a call: first the triggers arrive, then the call fails where a failure
is given. It happens at a call of the given kind, or of any kind, after `skip` others of it. -/
structure Intervention where
  kind : Option CallKind := none
  skip : Nat := 0
  triggers : List Trigger := []
  failure : Option Failure := none
  deriving DecidableEq, Repr

namespace Intervention

/-- Whether the intervention waits for calls of a kind. -/
def awaits (i : Intervention) (kind : CallKind) : Bool :=
  i.kind.all (· == kind)

/-- What intervenes at a call of a kind, and what may still intervene later. Only the first of the
pending interventions counts. -/
def due (kind : CallKind) : List Intervention → Option Intervention × List Intervention
  | [] => (none, [])
  | i :: rest =>
    if !i.awaits kind then (none, i :: rest)
    else
      match i.skip with
      | 0 => (some i, rest)
      | n + 1 => (none, { i with skip := n } :: rest)

end Intervention

/-- A trigger that arrived in the middle of another pass, the page right after it, and the phase in
which it arrived. -/
structure Interlude where
  handled : Handled
  page : Option Document
  arrival : Phase

/-- All that a controller works on, with the changes of phase so far. Without a page every call
fails. -/
structure World where
  page : Option Document
  collector : Collector
  phase : Phase := .idle
  moves : List (Phase × Phase) := []
  pending : List Intervention := []
  interludes : List Interlude := []

namespace World

def enter (phase : Phase) (w : World) : World :=
  { w with phase, moves := w.moves ++ [(w.phase, phase)] }

/-- What happens before a call of a kind: whether the call is to fail. -/
abbrev Before := CallKind → StateM World (Except Failure Unit)

def undisturbed : Before := fun _ => pure (.ok ())

/-- What happens before calls of several kinds, until one is to fail. -/
def beforeAll (before : Before) : List CallKind → StateM World (Except Failure Unit)
  | [] => pure (.ok ())
  | kind :: kinds => do
    match ← before kind with
    | .error e => return .error e
    | .ok () => beforeAll before kinds

/-- Does something on the page by a call that comes to calls of the given kinds, unless there is no
page or one of them is to fail. -/
def onPage {α : Type} (before : Before) (kinds : Document → List CallKind)
    (act : Document → Except Failure α × Document) : StateM World (Except Failure α) := do
  match (← get).page with
  | none => return .error .noHost
  | some d =>
    match ← beforeAll before (kinds d) with
    | .error e => return .error e
    | .ok () =>
      match (← get).page with
      | none => return .error .noHost
      | some d =>
        let (r, d) := act d
        modify fun w => { w with page := some d }
        return r

def run {α : Type} (before : Before) : Program α → StateM World α
  | .done a => pure a
  | .call c next => do
    let r ← onPage before (fun d => c.kinds d) c.perform
    run before (next r)
  | .report e context next => do
    modify fun w => { w with collector := w.collector.report e context }
    run before next

/-- A program after another runs in the world that the first one leaves. -/
theorem run_bind {α β : Type} (before : Before) (x : Program α) (f : α → Program β) :
    run before (x.bind f) = (do
      let a ← run before x
      run before (f a)) := by
  induction x with
  | done a => simp [Program.bind, run]
  | call c next ih => simp [Program.bind, run, ih]
  | report e context next ih => simp [Program.bind, run, ih]

def runPass {α : Type} (before : Before) (x : Pass α) : StateM World (Except Failure α) :=
  run before x.run

end World

end FormGate
