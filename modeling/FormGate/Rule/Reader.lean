import FormGate.Diagnostic.Collector
import FormGate.Rule.Catalog

/-!
# Reading a rule text

The text is cut at its bars. A blank token stands for nothing; every other token stands for one
rule of the catalog, or for one cause for which it is dropped. A dropped token never makes a field
invalid: it is reported to the developers.
-/

namespace FormGate

namespace Rule

/-- The tokens of a rule text, without surrounding blanks and without the blank ones. -/
def tokens (raw : String) : List String :=
  ((raw.toList.splitOn '|').map fun cs => String.ofList (Text.trimChars cs)).filter (!·.isEmpty)

end Rule

namespace Catalog

/-- Whether the characters are a whole number in ASCII digits. -/
def isWholeNumber (s : String) : Bool :=
  !s.isEmpty && s.toList.all Text.isAsciiDigit

/-- Holds a rule against the definition of its name: the rule with its parameter trimmed. -/
def accept (c : Catalog) (r : Rule) : Except RuleFault Rule :=
  match c.get? r.name with
  | none => .error (.unknown r.name)
  | some d =>
    let parameter := Text.trim (r.parameter.getD "")
    match d.parameter with
    | .none =>
      match r.parameter with
      | none => .ok r
      | some p => .error (.unexpectedParameter r.name p)
    | .integer =>
      if isWholeNumber parameter then .ok { r with parameter := some parameter }
      else .error (.notWhole r.name)
    | .reference =>
      if parameter.isEmpty then .error (.noReference r.name)
      else .ok { r with parameter := some parameter }

/-- What a token stands for. -/
def readToken (c : Catalog) (token : String) : Except RuleFault Rule :=
  match Rule.ofToken token with
  | .error why => .error (.malformed token why)
  | .ok r => c.accept r

/-- The rules of a rule text that can be used. -/
def rules (c : Catalog) (raw : String) : List Rule :=
  (Rule.tokens raw).filterMap fun t => (c.readToken t).toOption

/-- The tokens of a rule text that are dropped, each with its cause. -/
def faults (c : Catalog) (raw : String) : List (String × RuleFault) :=
  (Rule.tokens raw).filterMap fun t =>
    match c.readToken t with
    | .error f => some (t, f)
    | .ok _ => none

/-- The context in which a dropped token is reported. -/
def readContext (raw : String) (field : Option String) (token : String) : Context where
  operation := "parse_rules"
  component := "RuleParser"
  field
  rule := some token
  additional := some (.object [("raw", .text raw)])

/-- Reports the dropped tokens of a rule text. -/
def reportFaults (c : Catalog) (raw : String) (field : Option String) (k : Collector) :
    Collector :=
  (c.faults raw).foldl
    (fun k p => k.report (.fault (p.2.toFault (some p.1))) (readContext raw field p.1)) k

/-- Reads a rule text. The dropped tokens are reported unless the text is only read once more, as where
another field is compared with the one that declares it. -/
def read (c : Catalog) (raw : String) (field : Option String) (report : Bool) (k : Collector) :
    List Rule × Collector :=
  (c.rules raw, if report then c.reportFaults raw field k else k)

end Catalog

end FormGate
