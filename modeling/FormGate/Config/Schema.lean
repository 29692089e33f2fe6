import FormGate.Config.Basic
import FormGate.Diagnostic.Failure
import FormGate.Json.Binary64
import FormGate.Json.Reader
import FormGate.Text.Quoted

/-!
# Reading a configuration

A configuration is read from a JSON object with one section for each group of settings. A setting
may be given under its public name or under its field name, and the public name wins. Reading goes
on after a problem, so that every problem is reported with the place where it was met: first those
of the known settings in their own order, then the sections that there are not.
-/

namespace FormGate

/-- What is wrong with one value of a configuration. -/
inductive SchemaProblem
  | notText
  | notInteger
  | notNumeral
  | numeralTooLong
  | fractional
  | notFinite
  | tooSmall
  | notList
  | notSection
  | notListed
  | forbidden
  | refused (reason : String)
  deriving DecidableEq, Repr

def SchemaProblem.typeName : SchemaProblem → String
  | notText => "string_type"
  | notInteger => "int_type"
  | notNumeral => "int_parsing"
  | numeralTooLong => "int_parsing_size"
  | fractional => "int_from_float"
  | notFinite => "finite_number"
  | tooSmall => "greater_than_equal"
  | notList => "list_type"
  | notSection => "model_type"
  | notListed => "enum"
  | forbidden => "extra_forbidden"
  | refused _ => "value_error"

inductive PathStep
  | key (name : String)
  | index (i : Nat)
  deriving DecidableEq, Repr

structure SchemaError where
  path : List PathStep
  problem : SchemaProblem
  deriving DecidableEq, Repr

/-- A value that was checked: the value, or everything that is wrong with it. -/
abbrev Checked (α : Type) := Except (List SchemaError) α

namespace Checked

/-- Applies a checked function to a checked value and keeps the problems of both. -/
def ap {α β : Type} : Checked (α → β) → Checked α → Checked β
  | .ok f, .ok a => .ok (f a)
  | .ok _, .error es => .error es
  | .error es, .ok _ => .error es
  | .error es, .error es' => .error (es ++ es')

/-- One problem with the value itself. -/
def fail {α : Type} (p : SchemaProblem) : Checked α :=
  .error [⟨[], p⟩]

/-- Places the problems under one more step. -/
def under {α : Type} (step : PathStep) : Checked α → Checked α
  | .ok a => .ok a
  | .error es => .error (es.map fun e => { e with path := step :: e.path })

/-- All values of a list, each placed under its position. -/
def all {α : Type} : (position : Nat) → List (Checked α) → Checked (List α)
  | _, [] => .ok []
  | i, c :: cs => ap (ap (.ok List.cons) (c.under (.index i))) (all (i + 1) cs)

end Checked

namespace Schema

def text : Json → Checked String
  | .text s => .ok s
  | _ => .fail .notText

/-- A text that is one word, where the reason to refuse it says what it should have been. -/
def word (what : String) (j : Json) : Checked String :=
  match text j with
  | .error es => .error es
  | .ok s =>
    if Text.isWord s then .ok s
    else .fail (.refused
      (what ++ " name must be non-empty without whitespace, got: " ++ Text.quoted s))

def wordList (what : String) : Json → Checked (List String)
  | .list js =>
    match Checked.all 0 (js.map text) with
    | .error es => .error es
    | .ok ss =>
      match ss.find? (!Text.isWord ·) with
      | none => .ok ss
      | some s =>
        .fail (.refused
          (what ++ " name must be non-empty without whitespace, got: " ++ Text.quoted s))
  | _ => .fail .notList

/-- An integer, or a value that stands for one: a truth value, a whole number, or a numeral. -/
def integer : Json → Checked Int
  | .int n => .ok n
  | .bool b => .ok (if b then 1 else 0)
  | .real (.decimal negative coefficient exponent) =>
    match Binary64.ofDecimal coefficient exponent with
    | .infinite => .fail .notFinite
    | m =>
      match m.whole? with
      | none => .fail .fractional
      | some n =>
        if n < Nat.pow 2 63 then .ok (Text.Numeral.signed negative n) else .fail .numeralTooLong
  | .real _ => .fail .notFinite
  | .text s =>
    match Text.Numeral.lenient s with
    | .ok n => .ok n
    | .error .malformed => .fail .notNumeral
    | .error .tooLong => .fail .numeralTooLong
  | _ => .fail .notInteger

def positive (j : Json) : Checked Nat :=
  match integer j with
  | .error es => .error es
  | .ok n => if n < 1 then .fail .tooSmall else .ok n.toNat

def logLevel : Json → Checked Config.LogLevel
  | .text s =>
    match Config.LogLevel.ofName? s with
    | some l => .ok l
    | none => .fail .notListed
  | _ => .fail .notListed

/-- The setting given under the first of the names that occurs, or its default. -/
def setting {α : Type} (fields : List (String × Json)) (read : Json → Checked α) (default : α) :
    (names : List String) → Checked α
  | [] => .ok default
  | name :: names =>
    match fields.lookup name with
    | some j => (read j).under (.key name)
    | none => setting fields read default names

/-- A section, read from its fields; all defaults where it is missing. -/
def group {α : Type} (fields : List (String × Json)) (name : String)
    (read : List (String × Json) → Checked α) : Checked α :=
  match fields.lookup name with
  | none => read []
  | some (.object inner) => (read inner).under (.key name)
  | some _ => (Checked.fail .notSection).under (.key name)

def attributes (fields : List (String × Json)) : Checked Config.Attributes :=
  let d : Config.Attributes := {}
  let name := setting fields (word "attribute")
  Checked.ap (Checked.ap (Checked.ap (Checked.ap (Checked.ap (.ok Config.Attributes.mk)
    (name d.rules ["rules"]))
    (name d.onSubmit ["onSubmit", "on_submit"]))
    (name d.onBlur ["onBlur", "on_blur"]))
    (name d.scroll ["scroll"]))
    (setting fields text d.enabledValue ["enabledValue", "enabled_value"])

def presentation (fields : List (String × Json)) : Checked Config.Presentation :=
  let d : Config.Presentation := {}
  let name := setting fields (word "class")
  Checked.ap (Checked.ap (Checked.ap (Checked.ap (.ok Config.Presentation.mk)
    (name d.invalidClass ["invalidClass", "invalid_class"]))
    (name d.feedbackClass ["feedbackClass", "feedback_class"]))
    (setting fields (wordList "class") d.feedbackExtraClasses
      ["feedbackExtraClasses", "feedback_extra_classes"]))
    (name d.feedbackTag ["feedbackTag", "feedback_tag"])

def sections : List String :=
  ["attributes", "presentation", "messages", "diagnostics", "logging"]

/-- Refuses every section that there is not. -/
def noOthers (fields : List (String × Json)) : Checked Unit :=
  match fields.filter (!sections.contains ·.1) with
  | [] => .ok ()
  | others => .error (others.map fun f => ⟨[.key f.1], .forbidden⟩)

end Schema

namespace Config

def ofFields (fields : List (String × Json)) : Checked Config :=
  let d : Config := {}
  Checked.ap (Checked.ap (Checked.ap (Checked.ap (Checked.ap (Checked.ap
    (.ok fun a p m r l (_ : Unit) => Config.mk a p m r l)
    (Schema.group fields "attributes" Schema.attributes))
    (Schema.group fields "presentation" Schema.presentation))
    (Schema.group fields "messages" fun fs =>
      Schema.setting fs Schema.text d.fallbackName ["fallbackName", "fallback_name"]))
    (Schema.group fields "diagnostics" fun fs =>
      Schema.setting fs Schema.positive d.maxRetained ["maxRetained", "max_retained"]))
    (Schema.group fields "logging" fun fs =>
      Schema.setting fs Schema.logLevel d.logLevel ["level"]))
    (Schema.noOthers fields)

/-- Why a configuration file cannot be used. -/
inductive LoadFault
  | notJson
  | folder
  | hugeInteger
  | notAnObject
  | schema (errors : List SchemaError)
  deriving DecidableEq, Repr

namespace LoadFault

/-- What is wrong with the file. -/
def reason : LoadFault → String
  | notJson => "the text is not JSON"
  | folder => "it is a folder"
  | hugeInteger => "an integer has too many digits"
  | notAnObject => "the value is not an object"
  | schema errors => toString errors.length ++ " refused value(s)"

def lead : LoadFault → String
  | notJson => "Invalid JSON in config file "
  | _ => "Failed to load config from "

/-- The failure with which a file is refused, which is one of a value whatever is wrong. -/
def failure (path : String) (e : LoadFault) : Failure :=
  .crash .value (e.lead ++ path ++ ": " ++ e.reason)

end LoadFault

def ofText (s : String) : Except LoadFault Config :=
  match Json.read s with
  | .error .malformed => .error .notJson
  | .error .hugeInteger => .error .hugeInteger
  | .ok (.object fields) =>
    match ofFields fields with
    | .ok c => .ok c
    | .error es => .error (.schema es)
  | .ok _ => .error .notAnObject

/-- The configuration of a file; the default one where there is no file. -/
def load (path : String) : (text : Option String) → Except Failure Config
  | none => .ok {}
  | some s => (ofText s).mapError (·.failure path)

end Config

end FormGate
