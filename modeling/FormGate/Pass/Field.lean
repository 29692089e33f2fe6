import FormGate.Pass.Basic

/-!
# Judging a field

The rules of a field apply in order to a running value. A rule that replaces it does so for
the rules after it, and what it is in the end is written back. No rule keeps another from being
applied, so that one pass finds everything that is wrong.
-/

namespace FormGate

namespace Pass

def kindOf (e : Element) : Pass FieldKind := do
  let tag ← ask (.tagName e)
  if tag == "input" then
    let type ← ask (.attributeOf e "type")
    return if Text.lower (type.getD "") == "checkbox" then .checkbox else .text
  else return if tag == "textarea" then .text else .other

/-- Whether an element is ticked, where its kind makes that matter. -/
def tickedOf (e : Element) (kind : FieldKind) : Pass Bool :=
  match kind with
  | .checkbox => ask (.isChecked e)
  | _ => pure false

end Pass

namespace Setup

open Pass

/-- The reports on the tokens of a rule text that are dropped. -/
def readReports (s : Setup) (raw : String) (field : Option String) : List (Failure × Context) :=
  (s.catalog.faults raw).map fun p =>
    (.fault (p.2.toFault (some p.1)), Catalog.readContext raw field p.1)

/-- The fault of a field without the attribute that holds its rules. -/
def noRules (s : Setup) (field : Option String) : Failure :=
  .fault ⟨.missingRules, "Element has no '" ++ s.config.attributes.rules ++ "' attribute", field,
    none⟩

/-- The fault of a field whose rule text is blank. -/
def blankRules (field : Option String) : Failure :=
  .fault ⟨.missingRules, "Rule attribute is empty", field, none⟩

def describe (s : Setup) (e : Element) : Pass Descriptor := do
  let name ← ask (.attributeOf e "name")
  let declared := name.filter (!·.isEmpty)
  match ← ask (.attributeOf e s.config.attributes.rules) with
  | none => throw (s.noRules declared)
  | some raw =>
    if (Text.trim raw).isEmpty then
      report (blankRules declared) { operation := "describe_field", component := "FieldValidator" }
    let kind ← kindOf e
    reportAll (s.readReports raw declared)
    return ⟨e, declared, kind, s.catalog.rules raw⟩

/-! ## The value of a field that is referred to -/

/-- Judges a value by a rule that must not look up other fields: a value in place of it, if any. -/
def replaceAlone (d : Definition) (q : Question) : Option String :=
  match (d.judge q).settleWith fun reference => .error (RuleFault.notFollowed reference).toFault with
  | .ok v => v.replacement
  | .error _ => none

/-- A value after the rules among the given ones that are registered as replacing it. -/
def settled (s : Setup) (kind : FieldKind) (checked : Bool) (rules : List Rule) (value : String) :
    String :=
  rules.foldl (fun v r =>
    match s.catalog.get? r.name with
    | some d =>
      if d.replaces then (replaceAlone d ⟨v, kind, r.parameter, checked⟩).getD v else v
    | none => v) value

/-- The value of an element after its own rules that replace it. Nothing is written back. -/
def settledValue (s : Setup) (e : Element) : Pass String := do
  let value ← ask (.value e)
  match ← ask (.attributeOf e s.config.attributes.rules) with
  | none => return value
  | some raw =>
    if raw.isEmpty then return value
    let kind ← kindOf e
    let checked ← tickedOf e kind
    return s.settled kind checked (s.catalog.rules raw) value

/-- Looks up the field to which a reference leads in a scope. -/
def lookup (s : Setup) (scope : Option Element) (reference : String) : Pass Referenced := do
  let unresolved (why : RuleFault) : Pass Referenced := throw (.fault (why.toFault))
  match ← ask (.resolve reference scope) with
  | [] => unresolved (.unresolved reference)
  | [other] =>
    match ← ask (.attributeOf other "name") with
    | none => unresolved (.nameless reference)
    | some name =>
      if name.isEmpty then unresolved (.nameless reference)
      else return ⟨name, ← s.settledValue other⟩
  | others => unresolved (.ambiguous reference others.length)

/-! ## Applying the rules -/

def labelOf (s : Setup) (d : Descriptor) : String :=
  Field.displayName d.declared s.config.fallbackName

/-- Judges a value by one rule. A fault for which the rule cannot be applied is handed over. -/
def judge (s : Setup) (lookup : String → Pass Referenced) (r : Rule) (q : Question) :
    Pass (Except Fault Verdict) :=
  match s.catalog.get? r.name with
  | none => return .error ⟨.unknownRule, "Unknown rule '" ++ r.name ++ "'", none, some r.text⟩
  | some d => (d.judge q).settle fun reference => catchFault (lookup reference)

/-- The running value and the messages so far. -/
structure Progress where
  value : String
  errors : List String := []
  deriving DecidableEq, Repr

/-- Takes a verdict into account. -/
def Progress.after (p : Progress) (label : String) (v : Verdict) : Progress where
  value := v.replacement.getD p.value
  errors := p.errors ++ (v.complaint?.map (Verdict.fillMessage label)).toList

/-- Applies one rule. A rule that cannot be applied is reported and changes nothing. -/
def applyRule (s : Setup) (d : Descriptor) (checked : Bool) (lookup : String → Pass Referenced)
    (p : Progress) (r : Rule) : Pass Progress := do
  match ← s.judge lookup r ⟨p.value, d.kind, r.parameter, checked⟩ with
  | .ok v => return p.after (s.labelOf d) v
  | .error f =>
    report (.fault f)
      { operation := "evaluate_rule", component := "FieldValidator", field := d.declared,
        rule := some r.text }
    return p

/-- Applies the rules of a described field and writes a changed value back. Without a scope,
references are looked up in the form around the field. -/
def evaluate (s : Setup) (d : Descriptor) (scope : Option Element) : Pass Outcome := do
  let scope ← match scope with
    | some e => pure (some e)
    | none => ask (.closestForm d.element)
  let value ← ask (.value d.element)
  let checked ← tickedOf d.element d.kind
  let p ← d.rules.foldlM (s.applyRule d checked (s.lookup scope)) ⟨value, []⟩
  if p.value == value then return ⟨p.errors, none⟩
  else
    ask (.setValue d.element p.value)
    return ⟨p.errors, some p.value⟩

/-- Describes a field and applies its rules. -/
def validate (s : Setup) (e : Element) (scope : Option Element) : Pass (Descriptor × Outcome) := do
  let d ← s.describe e
  return (d, ← s.evaluate d scope)

end Setup

end FormGate
