import FormGate.Proofs.Diagnostic.Retention
import FormGate.Proofs.Markup.Label

/-!
# What a diagnostic is attributed to

A context that is used again remembers the field and the rule that a fault named first. What a
diagnostic says of them is thus told by the failures that were met in its context until then, and by
no others, however the contexts of a course of reports are mixed (`Channel.attributed_for_good`). Later
reports change the context, and never a diagnostic that was recorded.
-/

namespace FormGate

/-! ## Failures met in one context -/

/-- The fault that a failure is, where it is one. -/
def Failure.fault? : Failure → Option Fault
  | fault f => some f
  | crash _ _ => none

/-- The first text that is known. -/
def firstKnown (texts : List (Option String)) : Option String :=
  texts.findSome? id

theorem firstKnown_singleton (s : Option String) : firstKnown [s] = s := by
  cases s <;> rfl

theorem firstKnown_or_cons (s t : Option String) (texts : List (Option String)) :
    firstKnown (s.or t :: texts) = firstKnown (s :: t :: texts) := by
  cases s <;> rfl

namespace Context

/-- The context after failures were met in it one after the other. -/
def attributedAll (c : Context) (es : List Failure) : Context :=
  es.foldl attributed c

/-- A context of which the field is known first from one of the failures, and so is the rule. All else
it says is as it was. -/
structure FirstOf (c initial : Context) (es : List Failure) : Prop where
  field : c.field = firstKnown (initial.field :: (es.filterMap Failure.fault?).map Fault.field)
  rule : c.rule = firstKnown (initial.rule :: (es.filterMap Failure.fault?).map Fault.rule)
  operation : c.operation = initial.operation
  component : c.component = initial.component
  additional : c.additional = initial.additional

/-- A failure takes the first place among those met after it, behind what the context said before. -/
theorem FirstOf.cons {c initial : Context} {e : Failure} {es : List Failure}
    (h : c.FirstOf (initial.attributed e) es) : c.FirstOf initial (e :: es) := by
  obtain ⟨field, rule, operation, component, additional⟩ := h
  cases e with
  | fault f =>
    refine ⟨field.trans ?_, rule.trans ?_, operation, component, additional⟩
    · exact firstKnown_or_cons initial.field f.field _
    · exact firstKnown_or_cons initial.rule f.rule _
  | crash kind message =>
    have unknown : initial.attributed (.crash kind message) = initial := by
      unfold attributed
      simp [Failure.field?, Failure.rule?]
    rw [unknown] at field rule
    exact ⟨field, rule, operation, component, additional⟩

theorem firstOf_attributedAll (c : Context) (es : List Failure) :
    (c.attributedAll es).FirstOf c es := by
  induction es generalizing c with
  | nil => exact ⟨(firstKnown_singleton _).symm, (firstKnown_singleton _).symm, rfl, rfl, rfl⟩
  | cons e es ih => exact (ih (c.attributed e)).cons

end Context

/-! ## Contexts in a course of reports -/

namespace Channel

/-- Whether a report is made in the kept context of another one. -/
def Report.shares (r r' : Report) : Bool :=
  r.keepAs.isSome && r.keepAs == r'.keepAs

theorem Report.shares_congr {r r' : Report} (h : r.shares r' = true) (r₁ : Report) :
    r₁.shares r = r₁.shares r' := by
  unfold shares at h ⊢
  rw [Bool.and_eq_true, beq_iff_eq] at h
  rw [h.2]

/-- The reports that are made in the context of one, from the first of the earlier ones up to itself. -/
def sharing (early : List Report) (r : Report) : List Report :=
  early.filter (·.shares r) ++ [r]

theorem sharing_cons (r₁ : Report) (early : List Report) (r : Report) :
    sharing (r₁ :: early) r =
      if r₁.shares r then r₁ :: sharing early r else sharing early r := by
  unfold sharing
  rw [List.filter_cons]
  split_ifs <;> rfl

/-- The first report that is made in the context of another one shares it. -/
theorem shares_head_sharing (early : List Report) (r r₁ : Report) :
    r₁.shares ((sharing early r).headD r) = r₁.shares r := by
  unfold sharing
  cases others : early.filter (·.shares r) with
  | nil => rfl
  | cons first more =>
    have member : first ∈ early.filter (·.shares r) := others ▸ List.mem_cons_self
    exact Report.shares_congr (List.mem_filter.1 member).2 r₁

theorem contextOf_report (c : Channel) (r r' : Report) :
    (c.report r).2.contextOf r' =
      if r.shares r' then (c.contextOf r).attributed r.failure else c.contextOf r' := by
  cases own : r.keepAs with
  | none =>
    have apart : r.shares r' = false := by simp [Report.shares, own]
    rw [apart]
    simp [contextOf, report, own]
  | some key =>
    cases asked : r'.keepAs with
    | none =>
      have apart : r.shares r' = false := by simp [Report.shares, own, asked]
      rw [apart]
      simp [contextOf, asked]
    | some key' =>
      by_cases same : key' = key
      · have shared : r.shares r' = true := by simp [Report.shares, own, asked, same]
        rw [shared]
        simp [contextOf, report, own, asked, same]
      · have apart : r.shares r' = false := by simp [Report.shares, own, asked, Ne.symm same]
        have skipped : (key' == key) = false := by simpa using same
        rw [apart]
        simp only [contextOf, report, own, asked, Option.bind_some, List.lookup_cons, skipped]
        rw [Markup.Label.lookup_filter_of_ne _ same]
        rfl

/-- What a context has become when a report was made in it, is told by the first report in it and by
all failures met in it since. -/
theorem contextOf_reportAll (c : Channel) (early : List Report) (r : Report) :
    ((c.reportAll early).2.contextOf r).attributed r.failure =
      (c.contextOf ((sharing early r).headD r)).attributedAll
        ((sharing early r).map (·.failure)) := by
  induction early generalizing c with
  | nil => rfl
  | cons r₁ early ih =>
    show (((c.report r₁).2.reportAll early).2.contextOf r).attributed r.failure = _
    rw [ih, contextOf_report, shares_head_sharing, sharing_cons]
    split_ifs
    · rfl
    · rfl

theorem reportAll_append (c : Channel) (rs rs' : List Report) : c.reportAll (rs ++ rs') =
    ((c.reportAll rs).1 ++ ((c.reportAll rs).2.reportAll rs').1,
      ((c.reportAll rs).2.reportAll rs').2) := by
  induction rs generalizing c with
  | nil => rfl
  | cons r rs ih =>
    rw [List.cons_append, reportAll, ih]
    rfl

end Channel

theorem Collector.exists_drop_addAll (c : Collector) (ds : List Diagnostic) :
    ∃ gone, (c.addAll ds).dropped = c.dropped + gone ∧
      (c.addAll ds).retained = (c.retained ++ ds).drop gone := by
  induction ds generalizing c with
  | nil => exact ⟨0, rfl, by rw [List.append_nil, List.drop_zero]; rfl⟩
  | cons d ds ih =>
    obtain ⟨later, dropped, retained⟩ := ih (c.add d)
    have inside : (c.retained ++ [d]).length - c.limit ≤ (c.retained ++ [d]).length := Nat.sub_le _ _
    refine ⟨(c.retained ++ [d]).length - c.limit + later, ?_, ?_⟩
    · exact dropped.trans (Nat.add_assoc _ _ _)
    · refine retained.trans ?_
      show ((c.retained ++ [d]).drop ((c.retained ++ [d]).length - c.limit) ++ ds).drop later = _
      rw [← List.drop_append_of_le_length inside, List.drop_drop, List.append_assoc,
        List.singleton_append]

/-- Every report records one diagnostic. Its field is the first known one among that of the context, as
it was at first, and those of the faults reported in this context up to now, and so is its rule;
failures that are no faults say nothing. Whatever is reported later, the diagnostic stays among
those recorded as it is, and so does every other one; what is retained is dropped from the oldest
on, and never changed. -/
theorem Channel.attributed_for_good (c : Channel) (early : List Report) (r : Report)
    (late : List Report) :
    let now := c.reportAll (early ++ [r])
    let later := c.reportAll (early ++ r :: late)
    ∃ d, now.1 = (c.reportAll early).1 ++ [d] ∧
      d.context.FirstOf (c.contextOf ((sharing early r).headD r))
        ((sharing early r).map (·.failure)) ∧
      ∃ new, later.1 = now.1 ++ new ∧ new.length = late.length ∧
        ∃ gone, later.2.collector.dropped = now.2.collector.dropped + gone ∧
          later.2.collector.retained = (now.2.collector.retained ++ new).drop gone := by
  intro now later
  have made : now = ((c.reportAll early).1 ++ [((c.reportAll early).2.report r).1],
      ((c.reportAll early).2.report r).2) := c.reportAll_append early [r]
  have rest : later = (now.1 ++ (now.2.reportAll late).1, (now.2.reportAll late).2) := by
    rw [← reportAll_append, List.append_assoc]
    rfl
  refine ⟨((c.reportAll early).2.report r).1, by rw [made], ?_, (now.2.reportAll late).1,
    by rw [rest], length_reportAll _ _, ?_⟩
  · show (((c.reportAll early).2.contextOf r).attributed r.failure).FirstOf _ _
    rw [contextOf_reportAll]
    exact Context.firstOf_attributedAll _ _
  · rw [rest]
    show ∃ gone, (now.2.reportAll late).2.collector.dropped = _ ∧
      (now.2.reportAll late).2.collector.retained = _
    rw [collector_reportAll]
    exact Collector.exists_drop_addAll _ _

/-- A report of an unknown rule of a field, in the context kept under a name. -/
private def unknownRule (keepAs : String) (field : Option String) : Channel.Report where
  failure := .fault ⟨.unknownRule, "unknown", field, some "zip"⟩
  context := { operation := "read_rules", component := "RuleParser" }
  keepAs := some keepAs

/-- Two contexts are used by turns, and the first one before its field is known. -/
example : ((Channel.reportAll { collector := { command := "lint", limit := 5 } }
    [unknownRule "a" none, unknownRule "b" (some "city"), unknownRule "a" (some "code"),
      unknownRule "b" (some "street"), unknownRule "a" none]).1.map (·.context.field)) =
    [none, some "city", some "code", some "city", some "code"] := by
  decide

end FormGate
