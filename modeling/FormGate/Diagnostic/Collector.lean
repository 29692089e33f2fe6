import FormGate.Diagnostic.Basic

/-!
# The collector of diagnostics

A collector keeps the most recent diagnostics up to its limit and counts the older ones that it
dropped. A marker taken at any point tells the diagnostics reported after it from those before.
-/

namespace FormGate

/-- The diagnostics of one run: the retained ones in order, and how many there were. -/
structure Collector where
  command : String
  limit : Nat
  reported : Nat := 0
  dropped : Nat := 0
  retained : List Diagnostic := []

namespace Collector

/-- How many diagnostics a collector keeps unless told otherwise. -/
def defaultLimit : Nat := 500

/-- An empty collector, which has to keep at least one diagnostic. -/
def create (command : String) (limit : Int) : Except Failure Collector :=
  if limit < 1 then
    .error (.crash .value ("max_retained must be at least 1, got " ++ toString limit))
  else .ok { command, limit := limit.toNat }

/-- Adds a diagnostic at the end and drops the oldest ones beyond the limit. -/
def add (c : Collector) (d : Diagnostic) : Collector :=
  let all := c.retained ++ [d]
  let overflow := all.length - c.limit
  { c with
    reported := c.reported + 1
    dropped := c.dropped + overflow
    retained := all.drop overflow }

/-- Records a failure met in a context. -/
def report (c : Collector) (e : Failure) (context : Context) (severity : Severity := .warning) :
    Collector :=
  c.add (.ofFailure e context severity)

/-- A marker of the present point. -/
def mark (c : Collector) : Nat := c.reported

/-- The retained diagnostics that were reported after the marker. -/
def since (c : Collector) (marker : Int) : List Diagnostic :=
  c.retained.drop (c.retained.length - (c.reported - marker).toNat)

/-- Whether a diagnostic is retained. -/
def hasDiagnostics (c : Collector) : Bool := !c.retained.isEmpty

/-- Whether a retained diagnostic is an error. -/
def hasErrors (c : Collector) : Bool :=
  c.retained.any (·.severity == .error)

def severityCounts (c : Collector) : List (Severity × Nat) :=
  Severity.all.map fun s => (s, c.retained.countP (·.severity == s))

/-- Counts one more of a code, which comes last when it is new. -/
def countCode (counts : List (String × Nat)) (code : String) : List (String × Nat) :=
  if counts.any (·.1 == code) then
    counts.map fun p => if p.1 == code then (p.1, p.2 + 1) else p
  else counts ++ [(code, 1)]

/-- How many retained diagnostics have each code, in the order of first appearance. -/
def codeCounts (c : Collector) : List (String × Nat) :=
  c.retained.foldl (fun counts d => countCode counts d.code) []

end Collector

/-- What a collector holds at one point, for a report. -/
structure Summary where
  command : String
  total : Nat
  bySeverity : List (Severity × Nat)
  byCode : List (String × Nat)
  dropped : Nat
  diagnostics : List Diagnostic

def Collector.summary (c : Collector) : Summary where
  command := c.command
  total := c.retained.length
  bySeverity := c.severityCounts
  byCode := c.codeCounts
  dropped := c.dropped
  diagnostics := c.retained

end FormGate
