import FormGate.Proofs.Pass.Applicable

/-!
# The value that other fields are compared with

Where a field is referred to, its value is settled: only the rules that are registered as rewriting
apply, and none of them may look up another field. Where the field itself is validated, all of its
rules apply. With built-in rules, under whatever names, both end in the same value
(`Setup.settledValue_agrees`): a rule that does not rewrite leaves the value alone when it passes, when
it fails and when it cannot be applied, and one that rewrites looks up nothing.
-/

namespace FormGate

open Pass

namespace Setup

variable {s : Setup}

/-- Rules that judge as built-in ones do normalise if those that rewrite are registered as rewriting. -/
theorem normalises_of_flagged
    (builtin : ∀ c ∈ s.catalog.definitions, ∃ b : Builtin, c.judge = b.judge)
    (flagged : ∀ c ∈ s.catalog.definitions, c.Rewrites → c.replaces = true) : s.Normalises := by
  refine normalises_of_builtin fun c member => ?_
  obtain ⟨b, judge⟩ := builtin c member
  refine ⟨b, judge, ?_⟩
  rintro rfl
  refine flagged c member ⟨⟨"", .text, none, false⟩, "", ?_⟩
  rw [judge]
  exact .verdict rfl

/-- The value that a field ends up with when it has an outcome. -/
theorem getD_replaced_outcomeOf (value : String) (p : Progress) :
    (outcomeOf value p).replaced.getD value = p.value := by
  unfold outcomeOf
  split_ifs with same
  · exact (eq_of_beq same).symm
  · rfl

/-- All rules of a field together come to the value in which the rewriting ones among them end. -/
theorem value_progressOn (normal : s.Normalises) (d : Document) (e : Element)
    (scope : Option Element) : (s.progressOn d e scope).value = s.settledOn d e := by
  let around := scopeOf d e scope
  obtain ⟨ts, applied⟩ := s.exists_foldl_advance (s.descriptor d e) (d.ticked e (d.kind e)) around d
    (s.rulesOn d e) ⟨d.value e, []⟩
  obtain ⟨p, ts', applied', value⟩ := exists_rules normal (s.descriptor d e) (d.ticked e (d.kind e))
    around (s.rulesOn d e) ⟨d.value e, []⟩ d
  obtain ⟨rfl, -⟩ := applied.yields.unique applied'.yields
  exact value

/-- With rules that judge as built-in ones do, of which those that rewrite are registered as rewriting,
the settled value of a field is the one that it ends up with when it is validated in whatever scope.
Settling it changes neither the page nor the diagnostics. -/
theorem settledValue_agrees
    (builtin : ∀ c ∈ s.catalog.definitions, ∃ b : Builtin, c.judge = b.judge)
    (flagged : ∀ c ∈ s.catalog.definitions, c.Rewrites → c.replaces = true)
    {w : World} {d : Document} (page : w.page = some d) {e : Element}
    (field : (d.attribute? e s.config.attributes.rules).isSome = true) (scope : Option Element) :
    ∃ f o w', (World.runPass World.undisturbed (s.validate e scope)).run w = (.ok (f, o), w') ∧
      (World.runPass World.undisturbed (s.settledValue e)).run w =
        (.ok (o.replaced.getD (d.value e)), w) := by
  obtain ⟨raw, rules⟩ := Option.isSome_iff_exists.1 field
  have validated : (s.validate e scope).Runs d _ _ _ := ⟨s.validate_yields scope rules, rfl⟩
  refine ⟨_, _, _, validated.world page, ?_⟩
  rw [getD_replaced_outcomeOf, value_progressOn (normalises_of_flagged builtin flagged)]
  exact (s.runs_settledValue e d).world_silent page

/-- Built-in rules under other names: two that trim, one of them with a parameter, and one that compares
although it is registered as rewriting. -/
def renamedRules : Setup where
  catalog := ⟨[
    { name := "strip", parameter := .none, judge := Builtin.trim.judge, replaces := true },
    { name := "tidy", parameter := .integer, judge := Builtin.trim.judge, replaces := true },
    { name := "same", parameter := .reference, judge := Builtin.matching.judge, replaces := true },
    { name := "short", parameter := .integer, judge := Builtin.maxLength.judge }]⟩

/-- Two fields that refer to each other, the first with rules that are unknown, fail or break off
before, between and behind those that trim. -/
def mutualFields : Document where
  tree := .cons ⟨0, .element "form", []⟩ ""
    (.cons ⟨1, .element "input", [("id", "a"), ("name", "a"), ("value", "  x "),
        ("data-validate-validation", "same[#b]|short[2]|bogus|tidy[1]|same[#c]|strip|tidy[")]⟩
        "" .nil ""
      (.cons ⟨2, .element "input", [("id", "b"), ("name", "b"), ("value", " y"),
          ("data-validate-validation", "strip|same[#a]")]⟩ "" .nil "" .nil)) "" .nil
  fresh := 3

theorem settledValue_agrees_mutual :
    let w : World := { page := some mutualFields, collector := { command := "check", limit := 500 } }
    renamedRules.settledOn mutualFields 1 = "x" ∧
    ∃ f o w', (World.runPass World.undisturbed (renamedRules.validate 1 none)).run w =
        (.ok (f, o), w') ∧
      (World.runPass World.undisturbed (renamedRules.settledValue 1)).run w =
        (.ok (o.replaced.getD (mutualFields.value 1)), w) := by
  have builtin : ∀ c ∈ renamedRules.catalog.definitions, ∃ b : Builtin, c.judge = b.judge := by
    simp only [renamedRules, List.forall_mem_cons]
    exact ⟨⟨.trim, rfl⟩, ⟨.trim, rfl⟩, ⟨.matching, rfl⟩, ⟨.maxLength, rfl⟩,
      fun _ none => absurd none List.not_mem_nil⟩
  have flagged : ∀ c ∈ renamedRules.catalog.definitions, c.Rewrites → c.replaces = true := by
    simp only [renamedRules, List.forall_mem_cons]
    refine ⟨fun _ => trivial, fun _ => trivial, fun _ => trivial, ?_,
      fun _ none => absurd none List.not_mem_nil⟩
    rintro ⟨q, w, puts⟩
    cases eq_trim_of_puts (b := .maxLength) puts
  exact ⟨by decide +kernel, settledValue_agrees builtin flagged rfl rfl none⟩

end Setup

end FormGate
