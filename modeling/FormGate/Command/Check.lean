import FormGate.Command.Lint

/-!
# Checking a form

Fields are filled in and ticked as asked, and then one form of a page is submitted. The status
tells whether the submission would go through. A form that has not opted in is validated all the
same, but not submitted.
-/

namespace FormGate.Command

open Script

/-- What a check found out. -/
structure Finding where
  engine : Engine
  outcome : FormOutcome
  decision : Phase
  submitted : Bool
  optedIn : Bool

namespace Finding

def toJson (f : Finding) (page : String) (form : Int) : Json :=
  .object [("page", .text page), ("form", .int form), ("opted_in", .bool f.optedIn),
    ("decision", .text f.decision.name), ("submitted", .bool f.submitted),
    ("outcome", f.outcome.toJson),
    ("diagnostics", .list (f.engine.world.collector.retained.map Diagnostic.toJson))]

/-- A field in the table of outcomes. -/
def row (d : Descriptor) (o : Outcome) : List Console.Phrase :=
  [[.quoted (d.declared.getD "-")], [.own d.kind.name], [.quoted d.ruleText],
    [.styled (if o.valid then "VALID" else "INVALID")], [.quoted ("\n".intercalate o.errors)]]

def table (f : Finding) : Console.Line :=
  .table ["Field", "Kind", "Rules", "Status", "Errors"] (f.outcome.fields.map fun p => row p.1 p.2)

/-- Shows the finding to a person. -/
def display (f : Finding) : Script Unit := do
  if !f.optedIn then
    say [.styled "Form has not opted in to submit validation; nothing would be intercepted"]
  act (.print f.table)
  say [.styled ("Decision: " ++ Text.upper f.decision.name)]
  if f.engine.world.collector.hasDiagnostics then
    showDiagnostics f.engine.world.collector.retained

end Finding

def formats : List String := ["table", "json"]

def pickForm (d : Document) (index : Int) : Script Element := do
  let forms := d.forms
  match if index < 0 then none else forms[index.toNat]? with
  | some e => return e
  | none =>
    refuse [.own ("Form index " ++ toString index ++ " out of range; page has " ++
      toString forms.length ++ " form(s)")]

/-- Splits a text at its first sign of equality. -/
def splitAssignment? (s : String) : Option (String × String) :=
  match s.toList.dropWhile (· != '=') with
  | _ :: value => some (.ofList (s.toList.takeWhile (· != '=')), .ofList value)
  | [] => none

/-- Fills in the fields of a name in a form. -/
def fillIn (form : Element) (d : Document) (assignment : String) : Script Document :=
  match splitAssignment? assignment with
  | none =>
    refuse [.own "Invalid --value '", .quoted assignment, .own "'. Expected name=value"]
  | some (name, value) => do
    let (n, d) := d.fillNamed name value (some form)
    if n = 0 then warn [.own "No field named '", .quoted name, .own "' in form"]
    return d

/-- Ticks the elements of a name in a form. -/
def tick (form : Element) (d : Document) (name : String) : Script Document := do
  let targets := d.named name (some form)
  if targets.isEmpty then warn [.own "No checkbox named '", .quoted name, .own "' in form"]
  return targets.foldl (fun d e => d.setFlag e "checked" true) d

/-- Submits a form and tells what came of it. A form that has not opted in is validated by a pass of
its own, which decides nothing by itself. -/
def attempt (form : Element) (g : Engine) : Script Finding := do
  let (h, g) := g.handle (.submit form) []
  match h.report with
  | none =>
    let (outcome, g) ← runPass (fun s => s.validateForm form) g
    return ⟨g, outcome, if outcome.valid then .submittable else .blocked, false, false⟩
  | some r =>
    match r.aborted, r.outcome, r.decision with
    | false, some outcome, some decision => return ⟨g, outcome, decision, r.submitted, true⟩
    | _, _, _ =>
      say [.styled "Error:", .own " Validation pass aborted"]
      act (.print (diagnosticsTable r.diagnostics))
      throw (.status 1)

/-- Writes the files that were asked for. -/
def save (o : CheckOptions) (f : Finding) : Script Unit := do
  if let some path := o.write then
    match (f.engine.world.page.map (·.text)).getD (.ok "") with
    | .ok text => act (.savePage path text)
    | .error e => throw (.failed e)
    if o.format != "json" then say [.styled "Wrote:", .own " ", .quoted path]
  if let some path := o.diagnosticsOut then
    if f.engine.world.collector.hasDiagnostics then
      act (.saveSummary path f.engine.world.collector.summary)

/-- Shows a finding, writes the files that were asked for, and gives the status. -/
def conclude (t : Target) (o : CheckOptions) (f : Finding) : Script Nat := do
  if o.format == "json" then act (.print (.json (f.toJson t.page o.form)))
  else f.display
  save o f
  return if f.decision = .submittable then 0 else 1

def check (t : Target) (o : CheckOptions) (s : Surroundings) : Script Nat := do
  if !formats.contains o.format then
    refuse [.own "Invalid format '", .quoted o.format,
      .own ("'. Must be one of: " ++ ", ".intercalate formats)]
  let c ← setUp t s.config
  let d ← loadPage t s.page
  let form ← pickForm d o.form
  let d ← o.values.foldlM (fillIn form) d
  let d ← o.checked.foldlM (tick form) d
  let f ← attempt form (engineFor "check" d c)
  conclude t o f

end FormGate.Command
