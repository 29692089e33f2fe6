import FormGate.Proofs.Diagnostic.Retention

/-!
# Errors that are remembered

Whether an error was reported a collector tells from the diagnostics that it retains. An error is
therefore remembered while fewer reports than the limit have come after it
(`Channel.hasErrors_iff_recent`), and so a pass that was aborted can be forgotten
(`Channel.error_forgotten`).
-/

namespace FormGate

/-! ## The end of a list -/

section List

variable {α : Type} {xs : List α} {k : Nat}

/-- An element is among the last ones of a list where fewer others stand behind it. -/
theorem mem_last_iff {x : α} :
    x ∈ xs.drop (xs.length - k) ↔ ∃ early late, xs = early ++ x :: late ∧ late.length < k := by
  constructor
  · intro last
    obtain ⟨early, late, split⟩ := List.append_of_mem last
    refine ⟨xs.take (xs.length - k) ++ early, late, ?_, ?_⟩
    · rw [List.append_assoc, ← split, List.take_append_drop]
    · have size := congrArg List.length split
      rw [List.length_drop, List.length_append, List.length_cons] at size
      omega
  · rintro ⟨early, late, rfl, short⟩
    have before : (early ++ x :: late).length - k ≤ early.length := by
      rw [List.length_append, List.length_cons]
      omega
    rw [List.drop_append_of_le_length before]
    exact List.mem_append_right _ List.mem_cons_self

/-- Where enough elements stand behind one, the last ones are among those. -/
theorem mem_late_of_mem_last {early late : List α} {x y : α} (long : k ≤ late.length)
    (last : y ∈ (early ++ x :: late).drop ((early ++ x :: late).length - k)) : y ∈ late := by
  have inside : (early ++ x :: late).length - k =
      (early ++ [x]).length + (late.length - k) := by
    simp only [List.length_append, List.length_cons, List.length_nil]
    omega
  rw [inside, List.append_cons early x late, List.drop_length_add_append] at last
  exact List.mem_of_mem_drop last

theorem exists_last {p : α → Prop} (some : ∃ x ∈ xs, p x) :
    ∃ early x late, xs = early ++ x :: late ∧ p x ∧ ∀ y ∈ late, ¬ p y := by
  induction xs with
  | nil =>
    obtain ⟨x, none, -⟩ := some
    cases none
  | cons x xs ih =>
    by_cases later : ∃ y ∈ xs, p y
    · obtain ⟨early, y, late, rfl, kind, others⟩ := ih later
      exact ⟨x :: early, y, late, rfl, kind, others⟩
    · have here : p x := by
        obtain ⟨y, member, kind⟩ := some
        rcases List.mem_cons.1 member with rfl | member
        · exact kind
        · exact absurd ⟨y, member, kind⟩ later
      exact ⟨[], x, xs, rfl, here, fun y hy kind => later ⟨y, hy, kind⟩⟩

end List

/-! ## Errors among the retained diagnostics -/

theorem Collector.Retains.hasErrors_iff {c : Collector} {all : List Diagnostic} (h : c.Retains all) :
    c.hasErrors = true ↔ ∃ d ∈ all.drop (all.length - c.limit), d.severity = .error := by
  unfold hasErrors
  rw [h.retained, h.dropped, List.any_eq_true]
  simp only [beq_iff_eq]

namespace Channel

theorem severities_reportAll (c : Channel) (rs : List Report) :
    (c.reportAll rs).1.map (·.severity) = rs.map (·.severity) := by
  induction rs generalizing c with
  | nil => rfl
  | cons r rs ih => exact congrArg (r.severity :: ·) (ih (c.report r).2)

/-- A new channel tells of an error after reports where one is among the latest of them. -/
theorem hasErrors_reportAll {k : Collector} (new : k.Retains []) (contexts : List (String × Context))
    (rs : List Report) :
    (reportAll { collector := k, contexts } rs).2.collector.hasErrors = true ↔
      ∃ r ∈ rs.drop (rs.length - k.limit), r.severity = .error := by
  have retains := new.addAll (reportAll { collector := k, contexts } rs).1
  rw [List.nil_append, ← collector_reportAll { collector := k, contexts }] at retains
  have limit : (reportAll { collector := k, contexts } rs).2.collector.limit = k.limit := by
    rw [collector_reportAll, Collector.addAll_limit]
  have severities := congrArg (List.drop (rs.length - k.limit))
    (severities_reportAll { collector := k, contexts } rs)
  rw [← List.map_drop, ← List.map_drop] at severities
  rw [retains.hasErrors_iff, limit, length_reportAll]
  calc _ ↔ Severity.error ∈ ((reportAll { collector := k, contexts } rs).1.drop
          (rs.length - k.limit)).map (·.severity) := List.mem_map.symm
    _ ↔ Severity.error ∈ (rs.drop (rs.length - k.limit)).map (·.severity) := by rw [severities]
    _ ↔ _ := List.mem_map

/-- A collector can be made for every limit from one on. Whatever is reported to it, in contexts that
may be used again, it tells of an error exactly while fewer reports than the limit have come after
one. It thus tells of every error that was ever reported exactly if the last one is as recent. -/
theorem hasErrors_iff_recent (command : String) {limit : Int} (positive : 1 ≤ limit) :
    ∃ k, Collector.create command limit = .ok k ∧
      ∀ (contexts : List (String × Context)) (rs : List Report),
        let c := (reportAll { collector := k, contexts } rs).2.collector
        (c.hasErrors = true ↔ ∃ early r late, rs = early ++ r :: late ∧ r.severity = .error ∧
            (late.length : Int) < limit) ∧
          ((c.hasErrors = true ↔ ∃ r ∈ rs, r.severity = .error) ↔
            ∀ early r late, rs = early ++ r :: late → r.severity = .error →
              (∀ r' ∈ late, r'.severity ≠ .error) → (late.length : Int) < limit) := by
  have made : Collector.create command limit = .ok { command, limit := limit.toNat } :=
    if_neg (by omega)
  refine ⟨_, made, fun contexts rs => ?_⟩
  have told := hasErrors_reportAll (Collector.retains_create made) contexts rs
  dsimp only at told ⊢
  constructor
  · rw [told]
    constructor
    · rintro ⟨r, last, error⟩
      obtain ⟨early, late, split, short⟩ := mem_last_iff.1 last
      exact ⟨early, r, late, split, error, by omega⟩
    · rintro ⟨early, r, late, split, error, short⟩
      exact ⟨r, mem_last_iff.2 ⟨early, late, split, by omega⟩, error⟩
  · constructor
    · intro remembered early r late split error others
      by_contra long
      subst split
      have member : r ∈ early ++ r :: late := List.mem_append_right _ List.mem_cons_self
      obtain ⟨r', last, error'⟩ := told.1 (remembered.2 ⟨r, member, error⟩)
      exact others r' (mem_late_of_mem_last (by omega) last) error'
    · intro recent
      refine ⟨fun now => ?_, fun ever => ?_⟩
      · obtain ⟨r, last, error⟩ := told.1 now
        exact ⟨r, List.mem_of_mem_drop last, error⟩
      · obtain ⟨early, r, late, split, error, others⟩ := exists_last ever
        have short := recent early r late split error others
        exact told.2 ⟨r, mem_last_iff.2 ⟨early, late, split, by omega⟩, error⟩

/-- A report of a pass that was aborted. -/
private def aborted : Report where
  failure := .noHost
  context := { operation := "handle_submit", component := "TriggerController" }
  severity := .error

/-- A report of a rule that was skipped. -/
private def skipped : Report where
  failure := .crash .value "skipped"
  context := { operation := "evaluate_rule", component := "FieldValidator" }

/-- Where two diagnostics are retained, an error is told of after one more report. -/
theorem error_remembered : ∃ k, Collector.create "validate" 2 = .ok k ∧
    (reportAll { collector := k } [skipped, aborted, skipped]).2.collector.hasErrors = true := by
  obtain ⟨k, made, told⟩ := hasErrors_iff_recent "validate" (show (1 : Int) ≤ 2 by decide)
  exact ⟨k, made, (told [] _).1.2 ⟨[skipped], aborted, [skipped], rfl, rfl, by decide⟩⟩

/-- Where one diagnostic is retained, an aborted pass is forgotten with the next report. -/
theorem error_forgotten : ∃ k, Collector.create "validate" 1 = .ok k ∧
    (∃ r ∈ [aborted, skipped], r.severity = .error) ∧
      (reportAll { collector := k } [aborted, skipped]).2.collector.hasErrors = false :=
  ⟨_, rfl, ⟨aborted, List.mem_cons_self, rfl⟩, rfl⟩

end Channel

end FormGate
