import FormGate.Proofs.Command.Conclusion
import FormGate.Proofs.Json.RoundTrip
import FormGate.Proofs.Pass.Warnings

/-!
# What another program reads

What a check tells another program is read back as it was written (`Command.read_reportOf`). Of all that
is told only the index of the form may be too long to be read, and what a diagnostic has added to its
context, but of the diagnostics of a pass over a form this is at most the text that a token comes from
(`Setup.admits_added`).
-/

namespace FormGate

open Json

namespace Json

theorem faithful_ofText? (s : Option String) : Faithful (ofText? s) := by
  cases s with
  | none => exact .null
  | some s => exact .text s

theorem faithful_ofTexts (ss : List String) : Faithful (ofTexts ss) := by
  refine .list fun j among => ?_
  obtain ⟨s, -, rfl⟩ := List.mem_map.1 among
  exact .text s

end Json

theorem FormOutcome.faithful_toJson (o : FormOutcome) : Faithful o.toJson := by
  refine .object (by simp) ?_
  simp only [List.forall_mem_cons, List.not_mem_nil, false_imp_iff, implies_true, and_true]
  refine ⟨.bool _, .list fun j among => ?_⟩
  obtain ⟨p, -, rfl⟩ := List.mem_map.1 among
  refine .object (by simp [Descriptor.toFields, Outcome.toFields]) ?_
  simp only [Descriptor.toFields, Outcome.toFields, List.cons_append, List.nil_append,
    List.forall_mem_cons, List.not_mem_nil, false_imp_iff, implies_true, and_true]
  exact ⟨faithful_ofText? _, .text _, .text _, .bool _, faithful_ofTexts _, faithful_ofText? _⟩

/-- What was added to the context of a diagnostic is read back as it was written. -/
def Context.Added (c : Context) : Prop :=
  Faithful (c.additional.getD .null)

theorem Diagnostic.faithful_toJson {d : Diagnostic} (added : d.context.Added) : Faithful d.toJson := by
  have context : Faithful d.context.toJson := by
    refine .object (by simp) ?_
    simp only [List.forall_mem_cons, List.not_mem_nil, false_imp_iff, implies_true, and_true]
    exact ⟨.text _, .text _, faithful_ofText? _, faithful_ofText? _, added⟩
  refine .object (by simp [Diagnostic.toFields]) ?_
  simp only [Diagnostic.toFields, List.forall_mem_cons, List.not_mem_nil, false_imp_iff,
    implies_true, and_true]
  exact ⟨.text _, .text _, .text _, .text _, context⟩

namespace Setup

variable (s : Setup)

/-- All that is added to the context of what a pass over a form reports is the text that a token
comes from. -/
theorem admits_added : s.Admits (fun _ => True) fun t => t.2.Added where
  perform _ _ := trivial
  described {d} _ e t ht := by
    unfold describing at ht
    split at ht
    · exact (List.not_mem_nil ht).elim
    · rename_i raw _
      have text : Faithful (.object [("raw", .text raw)]) :=
        .object (List.nodup_singleton _) (by simp [Faithful.text])
      rcases List.mem_append.1 ht with blank | dropped
      · split_ifs at blank
        · rw [List.mem_singleton.1 blank]
          exact .null
        · exact (List.not_mem_nil blank).elim
      · obtain ⟨p, -, rfl⟩ := List.mem_map.1 dropped
        exact text
  applied f r found t ht := by
    cases found with
    | ok v => exact (List.not_mem_nil ht).elim
    | error e =>
      rw [List.mem_singleton.1 ht]
      exact .null

end Setup

namespace Command

/-- A pass in an engine that was made for a command runs as it does on the page. -/
theorem runs_of_engineFor {α : Type} {x : Pass α} {a : α} {command : String} {d : Document} {c : Config}
    {g : Engine} (pass : (engineFor command d c).run x = (.ok a, g)) :
    ∃ d', x.Runs d a d' (x.told d) ∧ g.world.page = some d' ∧ g.world.collector =
      (engineFor command d c).world.collector.addAll ((x.told d).map Diagnostic.warning) := by
  unfold Engine.run at pass
  rw [x.runPass_undisturbed_eq (rfl : (engineFor command d c).world.page = some d)] at pass
  obtain ⟨result, rfl⟩ := Prod.mk.inj pass
  exact ⟨(x.on d).2, ⟨Prod.ext result rfl, rfl⟩, rfl, rfl⟩

/-- What is retained of a pass over a form, in an engine that was made for a command, are warnings of the
kind to which the pass keeps. -/
theorem retained_of_admits {c : Config} {I : Document → Prop} {T : Failure × Context → Prop}
    (admits : Setup.Admits { config := c } I T) {command : String} {d : Document} (kind : I d)
    {form : Element} {found : FormOutcome} {g : Engine}
    (pass : (engineFor command d c).run (Setup.validateForm { config := c } form) = (.ok found, g)) :
    ∀ x ∈ g.world.collector.retained, ∃ p, T p ∧ x = Diagnostic.warning p := by
  obtain ⟨-, -, -, collector⟩ := runs_of_engineFor pass
  intro x hx
  have retained := Collector.retained_fresh command c.maxRetained
    (((Setup.validateForm { config := c } form).told d).map Diagnostic.warning)
  rw [collector] at hx
  obtain ⟨p, hp, rfl⟩ := List.mem_map.1 (List.mem_of_mem_drop (retained ▸ hx))
  exact ⟨p, (admits.validateForm form).told kind p hp, rfl⟩

theorem added_of_pass {command : String} {d : Document} {c : Config} {form : Element}
    {found : FormOutcome} {g : Engine}
    (pass : (engineFor command d c).run (Setup.validateForm { config := c } form) = (.ok found, g)) :
    ∀ x ∈ g.world.collector.retained, x.context.Added := by
  intro x hx
  obtain ⟨p, added, rfl⟩ := retained_of_admits (Setup.admits_added _) trivial pass x hx
  exact added

/-- What another program is told of a check is read back as it was written. -/
theorem read_reportOf (t : Target) {o : CheckOptions} (opted : Bool) (found : FormOutcome) {c : Collector}
    (short : (decimal o.form.natAbs).length ≤ Text.Numeral.maxDigits)
    (added : ∀ d ∈ c.retained, d.context.Added) :
    Json.read ((reportOf t o opted found c).pretty true) = .ok (reportOf t o opted found c) := by
  refine read_value true true (.object (by simp) ?_)
  simp only [List.forall_mem_cons, List.not_mem_nil, false_imp_iff, implies_true, and_true]
  refine ⟨.text _, .int short, .bool _, .text _, .bool _, found.faithful_toJson, .list fun j among => ?_⟩
  obtain ⟨d, retained, rfl⟩ := List.mem_map.1 among
  exact Diagnostic.faithful_toJson (added d retained)

end Command

end FormGate
