/-!
# Configuration

A configuration names the attributes that a page uses, the classes and markup of the feedback, the
label of a nameless field, and how many diagnostics are kept. Every setting has a default.
-/

namespace FormGate

namespace Config

/-- The attributes that the page's markup uses, and the value that turns a flag on. -/
structure Attributes where
  rules : String := "data-validate-validation"
  onSubmit : String := "data-validate-on-submit"
  onBlur : String := "data-validate-on-blur"
  scroll : String := "data-validate-scroll"
  enabledValue : String := "true"
  deriving DecidableEq, Repr

/-- The classes and the tag of feedback. -/
structure Presentation where
  invalidClass : String := "is-invalid"
  feedbackClass : String := "invalid-feedback"
  feedbackExtraClasses : List String := ["text-left"]
  feedbackTag : String := "div"
  deriving DecidableEq, Repr

def Presentation.feedbackClasses (p : Presentation) : List String :=
  p.feedbackClass :: p.feedbackExtraClasses

/-- How much is logged. -/
inductive LogLevel
  | error
  | warn
  | info
  | debug
  deriving DecidableEq, Repr

namespace LogLevel

def name : LogLevel → String
  | error => "error"
  | warn => "warn"
  | info => "info"
  | debug => "debug"

def all : List LogLevel := [error, warn, info, debug]

def ofName? (s : String) : Option LogLevel :=
  all.find? (·.name == s)

end LogLevel

end Config

/-- The complete configuration. -/
structure Config where
  attributes : Config.Attributes := {}
  presentation : Config.Presentation := {}
  fallbackName : String := "This field"
  maxRetained : Nat := 500
  logLevel : Config.LogLevel := .warn
  deriving DecidableEq, Repr

end FormGate
