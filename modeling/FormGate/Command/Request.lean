import FormGate.Command.Arguments
import FormGate.Command.Path
import FormGate.Text.Numeral

/-!
# Requests

What the command line may ask for: the version, the list of rules, a look at the rules of a page,
or the check of one of its forms.
-/

namespace FormGate.Command

/-- What is given about the page and the configuration to go by. -/
structure Target where
  page : String
  config : Option String := none
  logLevel : Option String := none
  deriving DecidableEq, Repr

/-- What is given about the check of a form. -/
structure CheckOptions where
  values : List String := []
  checked : List String := []
  form : Int := 0
  format : String := "table"
  write : Option String := none
  diagnosticsOut : Option String := none
  deriving DecidableEq, Repr

inductive Request
  | version
  | rules
  | lint (t : Target)
  | check (t : Target) (o : CheckOptions)
  deriving DecidableEq, Repr

namespace Request

/-- The options before the name of a command. -/
def outerForms : List OptionForm :=
  [{ name := "version", letter := some 'v', takesValue := false }]

/-- The options that say what to go by. -/
def targetForms : List OptionForm :=
  [{ name := "config", letter := some 'c' }, { name := "log-level" }]

def checkForms : List OptionForm :=
  targetForms ++
    [{ name := "value", letter := some 'V' }, { name := "check" }, { name := "form" },
     { name := "format", letter := some 'f' }, { name := "write", letter := some 'w' },
     { name := "diagnostics-out" }]

/-- The target, which needs exactly one word for the page. -/
def target? (g : Given) : Option Target :=
  match g.words with
  | [page] =>
    some
      { page := Path.normal page
        config := (g.last? "config").map Path.normal
        logLevel := g.last? "log-level" }
  | _ => none

def formIndex? (g : Given) : Option Int :=
  match g.last? "form" with
  | none => some 0
  | some s => (Text.Numeral.lenient s).toOption

def checkOptions? (g : Given) : Option CheckOptions :=
  (formIndex? g).map fun form =>
    { values := g.values "value"
      checked := g.values "check"
      form
      format := (g.last? "format").getD "table"
      write := (g.last? "write").map Path.normal
      diagnosticsOut := (g.last? "diagnostics-out").map Path.normal }

def commandNames : List String := ["rules", "lint", "check"]

def command? : List String → Option Request
  | "rules" :: args => do
    let g ← Arguments.read? [] true args
    if g.words.isEmpty then some rules else none
  | "lint" :: args => do
    let g ← Arguments.read? targetForms true args
    return lint (← target? g)
  | "check" :: args => do
    let g ← Arguments.read? checkForms true args
    return check (← target? g) (← checkOptions? g)
  | _ => none

def asksVersion (g : Given) : Bool :=
  !(g.values "version").isEmpty

/-- Reads a request. Words that start with no command may still ask for the version. -/
def read? (args : List String) : Option Request := do
  let g ← Arguments.read? outerForms false args
  if asksVersion g then some version
  else if g.words.head?.any commandNames.contains then command? g.words
  else
    let again ← Arguments.read? outerForms false g.words
    if asksVersion again then some version else none

/-- What a request is about, where it is about a page. -/
def target : Request → Option Target
  | lint t => some t
  | check t _ => some t
  | _ => none

end Request

end FormGate.Command
