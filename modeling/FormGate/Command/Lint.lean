import FormGate.Command.Script
import FormGate.Engine.Basic
import FormGate.Form.Encoding

/-!
# Looking at the rules of a page

Every field of a page is described, every form that has opted in is listed with its triggers, and
everything that is wrong with the rules is shown. Nothing on the page changes.
-/

namespace FormGate.Command

open Script

/-- Runs a pass in a script. A failure that the pass does not catch ends the script. -/
def runPass {α : Type} (x : Setup → Pass α) (g : Engine) : Script (α × Engine) :=
  match g.run (x g.setup) with
  | (.ok a, g) => return (a, g)
  | (.error e, _) => throw (.failed e)

/-- The engine of a command. Its collector bears the name of the command. -/
def engineFor (command : String) (d : Document) (c : Config) : Engine where
  setup := { config := c }
  world := { page := some d, collector := { command, limit := c.maxRetained } }

def describeAll (elements : List Element) (s : Setup) : Pass (List Descriptor) :=
  elements.mapM s.describe

def triggerNames (b : Binding) : List String :=
  ([("submit", b.onSubmit), ("blur", b.onBlur), ("scroll", b.scroll)].filter (·.2)).map (·.1)

def fieldRow (d : Document) (rules : String) (f : Descriptor) : List Console.Phrase :=
  [[.quoted (d.caption f.element)], [.own f.kind.name],
    [.quoted ((d.attribute? f.element rules).getD "")], [.quoted f.ruleText]]

/-- Shows the fields of a page, its forms and what is wrong with its rules. The status tells
whether anything is. -/
def lint (t : Target) (s : Surroundings) : Script Nat := do
  let c ← setUp t s.config
  let d ← loadPage t s.page
  let elements := d.carriers d.root c.attributes.rules
  say [.styled "Linting:", .own " ", .quoted t.page,
    .own (" (" ++ toString elements.length ++ " validated fields)")]
  let (fields, g) ← runPass (describeAll elements) (engineFor "lint" d c)
  if !elements.isEmpty then
    act (.print (.table ["Field", "Kind", "Declared", "Parsed rules"]
      (fields.map (fieldRow d c.attributes.rules))))
  let (bindings, g) ← runPass (fun s => s.bindings none) g
  bindings.forM fun b =>
    say [.styled "Form", .own " ", .quoted (d.caption b.form),
      .own (": " ++ ", ".intercalate (triggerNames b))]
  if g.world.collector.hasDiagnostics then
    showDiagnostics g.world.collector.retained
    return 1
  else
    say [.own "\n", .styled "No rule problems found!"]
    return 0

end FormGate.Command
