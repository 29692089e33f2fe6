import FormGate.Diagnostic.Collector

/-!
# Contexts that are used again

A caller may report several failures in one context. The context then remembers the field and the
rule that it took over from the first fault that named them. A channel is a collector together
with the contexts that its callers keep under names of their own.
-/

namespace FormGate

/-- A collector and the contexts kept for further reports. -/
structure Channel where
  collector : Collector
  contexts : List (String × Context) := []

/-- One report: a failure, its context, and the name to keep the context under. Where a context
of that name is kept already, it takes the place of the given one. -/
structure Channel.Report where
  failure : Failure
  context : Context
  keepAs : Option String := none
  severity : Severity := .warning

namespace Channel

/-- Keeps a context for further reports, unless one of that name is kept already. -/
def keep (c : Channel) (name : Option String) (context : Context) : Channel :=
  match name with
  | none => c
  | some key =>
    if (c.contexts.lookup key).isSome then c
    else { c with contexts := (key, context) :: c.contexts }

/-- The context in which a report is made. -/
def contextOf (c : Channel) (r : Report) : Context :=
  (r.keepAs.bind fun key => c.contexts.lookup key).getD r.context

/-- Makes a report: the diagnostic recorded, and the channel afterwards. -/
def report (c : Channel) (r : Report) : Diagnostic × Channel :=
  let context := c.contextOf r
  let d := Diagnostic.ofFailure r.failure context r.severity
  let contexts := match r.keepAs with
    | none => c.contexts
    | some key =>
      (key, context.attributed r.failure) :: c.contexts.filter (·.1 != key)
  (d, { collector := c.collector.add d, contexts })

end Channel

end FormGate
