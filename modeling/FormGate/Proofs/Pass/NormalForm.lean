import FormGate.Command.Lint
import FormGate.Proofs.Pass.Judging
import FormGate.Proofs.Rule.Spelling

/-!
# The normal form of a rule text

The rules that were read from a text are shown written out as one text. Reading that text gives the
same rules in the same order, and nothing is reported (`Engine.readRules_join`). So the texts that
`lint` and a check show of a field are read as the rules by which it was judged
(`Engine.readRules_shown`).
-/

namespace FormGate

open Pass Command

/-! ## The rules of a description -/

namespace Setup

variable {s : Setup} {e : Element} {d d' : Document} {r : Descriptor}

theorem eq_descriptor_of_describe (h : (s.describe e).Yields d r d') :
    ∃ raw, d.attribute? e s.config.attributes.rules = some raw ∧ r = s.descriptor d e ∧
      d' = d := by
  cases field : d.attribute? e s.config.attributes.rules with
  | none =>
    unfold describe at h
    obtain ⟨name, d₁, named, rest⟩ := yields_bind.1 h
    obtain ⟨-, rfl⟩ := (yields_ask_of_perform rfl).1 named
    obtain ⟨raw, d₂, found, rest⟩ := yields_bind.1 rest
    obtain ⟨absent, -⟩ := (yields_ask_of_perform rfl).1 found
    obtain rfl := absent.trans field
    exact absurd rest not_yields_throw
  | some raw => exact ⟨raw, rfl, (s.runs_describe field).yields.unique h⟩

theorem describe_of_validate {scope : Option Element} {o : Outcome}
    (h : (s.validate e scope).Yields d (r, o) d') :
    (s.describe e).Yields d r d ∧ (s.evaluate r scope).Yields d o d' := by
  unfold validate at h
  obtain ⟨r', d₁, described, h⟩ := yields_bind.1 h
  obtain ⟨o', d₂, evaluated, h⟩ := yields_bind.1 h
  obtain ⟨same, rfl⟩ := yields_pure.1 h
  obtain ⟨rfl, rfl⟩ := Prod.mk.inj same
  obtain ⟨-, -, -, rfl⟩ := eq_descriptor_of_describe described
  exact ⟨described, evaluated⟩

end Setup

/-! ## Reading what is shown -/

namespace Engine

variable {g : Engine}

/-- A text from which nothing is dropped is read without a report. -/
theorem readRules_of_faults_eq_nil {raw : String} (clean : g.setup.catalog.faults raw = [])
    (field : Option String) : g.readRules raw field = (g.setup.catalog.rules raw, g) := by
  rw [readRules, Catalog.reportFaults, clean, List.foldl_nil]

/-- Rules that were read from a text are read again from the text in which they are written out, and
nothing is reported. -/
theorem readRules_join (raw : String) (field : Option String) :
    g.readRules (Rule.join (g.setup.catalog.rules raw)) field = (g.setup.catalog.rules raw, g) := by
  have among : ∀ r ∈ g.setup.catalog.rules raw, r ∈ g.setup.catalog.rules raw := fun _ hr => hr
  rw [readRules_of_faults_eq_nil (Catalog.faults_join among), Catalog.rules_join among]

theorem readRules_ruleText {e : Element} {d d' : Document} {r : Descriptor}
    (h : (g.setup.describe e).Yields d r d') (field : Option String) :
    g.readRules r.ruleText field = (r.rules, g) := by
  obtain ⟨raw, field', rfl, -⟩ := Setup.eq_descriptor_of_describe h
  have rules : (g.setup.descriptor d e).rules = g.setup.catalog.rules raw := by
    show g.setup.rulesOn d e = _
    rw [Setup.rulesOn, field', Option.map_some, Option.getD_some]
  rw [Descriptor.ruleText, rules]
  exact readRules_join raw field

/-- The rules that are read from a text, written out as one text, are read as the same rules in the
same order, and nothing is reported. The text that `lint` shows of a field that it described is read
as the rules of the description, and the text in the result of a validation as those by which the
field was judged, in both cases without a report. -/
theorem readRules_shown (g : Engine) :
    (∀ raw field field',
      let (rules, after) := g.readRules raw field
      after.readRules (Rule.join rules) field' = (rules, after)) ∧
    (∀ e d r d', (g.setup.describe e).Yields d r d' →
      ∃ shown, (fieldRow d g.setup.config.attributes.rules r)[3]? = some [.quoted shown] ∧
        ∀ field, g.readRules shown field = (r.rules, g)) ∧
    ∀ e scope d r o d', (g.setup.validate e scope).Yields d (r, o) d' →
      ∃ shown, (g.setup.evaluate r scope).Yields d o d' ∧
        ("rules", Json.text shown) ∈ r.toFields o ∧
        ∀ field, g.readRules shown field = (r.rules, g) := by
  refine ⟨?_, ?_, ?_⟩
  · intro raw field field'
    let after := (g.readRules raw field).2
    exact readRules_join (g := after) raw field'
  · intro e d r d' described
    exact ⟨r.ruleText, rfl, readRules_ruleText described⟩
  · intro e scope d r o d' validated
    obtain ⟨described, evaluated⟩ := Setup.describe_of_validate validated
    refine ⟨r.ruleText, evaluated, ?_, readRules_ruleText described⟩
    simp [Descriptor.toFields]

/-- A text with blanks, nested brackets, a bar inside brackets and an unknown rule. -/
def cluttered : String :=
  " trim | matches [ [a] ] ||bogus| min_length[05 ]|matches[b|c]|trim[]"

theorem readRules_cluttered :
    let (rules, after) := (standalone "parse" none).readRules cluttered (some "f")
    Rule.join rules = "trim|matches[[a]]|min_length[05]" ∧
      after.readRules "trim|matches[[a]]|min_length[05]" none = (rules, after) := by
  have written : Rule.join ((standalone "parse" none).readRules cluttered (some "f")).1 =
      "trim|matches[[a]]|min_length[05]" := by decide +kernel
  have again := (readRules_shown (standalone "parse" none)).1 cluttered (some "f") none
  dsimp only at again
  rw [written] at again
  exact ⟨written, again⟩

end Engine

end FormGate
