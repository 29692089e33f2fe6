import FormGate.Diagnostic.Channel
import FormGate.Proofs.Diagnostic.Window
import Mathlib.Algebra.BigOperators.Group.List.Basic
import Mathlib.Algebra.GroupWithZero.Nat
import Mathlib.Data.List.Nodup

/-!
# What a collector retains, tells and counts

Of everything that is reported to it a collector retains the latest diagnostics, and it counts the
others. Both numbers, the markers and the counts of a summary stay in step over every course of
reports (`Channel.ledger_of_reports`), also where diagnostics are dropped before a marker is taken
or after it, and where callers report in one context several times.
-/

namespace FormGate

/-! ## Retained and dropped diagnostics -/

namespace Collector

/-- What a collector holds that was given diagnostics: the latest of them, as many as its limit
allows, and the number of the others. -/
structure Retains (c : Collector) (all : List Diagnostic) : Prop where
  reported : c.reported = all.length
  dropped : c.dropped = all.length - c.limit
  retained : c.retained = all.drop c.dropped

theorem retains_create {command : String} {limit : Int} {k : Collector}
    (h : create command limit = .ok k) : k.Retains [] := by
  unfold create at h
  split_ifs at h
  cases h
  constructor
  · rfl
  · exact (Nat.zero_sub _).symm
  · rfl

/-- One more diagnostic is retained, and the oldest one goes where the limit is passed. -/
theorem Retains.add {c : Collector} {all : List Diagnostic} (h : c.Retains all) (d : Diagnostic) :
    (c.add d).Retains (all ++ [d]) := by
  have size : c.retained.length = all.length - c.dropped := by
    rw [h.retained, List.length_drop]
  have gone : (c.add d).dropped = c.dropped + ((c.retained ++ [d]).length - c.limit) := rfl
  have kept : (c.add d).retained =
      (c.retained ++ [d]).drop ((c.retained ++ [d]).length - c.limit) := rfl
  have inside : c.dropped ≤ all.length := by
    rw [h.dropped]
    exact Nat.sub_le _ _
  constructor
  · show c.reported + 1 = _
    rw [h.reported, List.length_append, List.length_singleton]
  · show c.dropped + _ = _ - c.limit
    rw [List.length_append, List.length_append, size, h.dropped, List.length_singleton]
    omega
  · rw [kept, gone, h.retained, ← List.drop_append_of_le_length inside, List.drop_drop]

theorem Retains.addAll {c : Collector} {all : List Diagnostic} (h : c.Retains all)
    (ds : List Diagnostic) : (c.addAll ds).Retains (all ++ ds) := by
  induction ds generalizing c all with
  | nil =>
    rw [List.append_nil]
    exact h
  | cons d ds ih =>
    have rest := ih (h.add d)
    rw [List.append_assoc] at rest
    exact rest

section

variable {c : Collector} {all : List Diagnostic} (h : c.Retains all)
include h

theorem Retains.length_add_dropped : c.retained.length + c.dropped = c.reported := by
  rw [h.retained, List.length_drop, h.reported, h.dropped]
  omega

theorem Retains.retained_eq :
    c.retained = all.drop (all.length - min c.reported c.limit) := by
  have latest : c.dropped = all.length - min c.reported c.limit := by
    rw [h.dropped, h.reported]
    omega
  rw [h.retained, latest]

/-- A marker separates the diagnostics at positions before it from the later ones. -/
theorem Retains.since_eq {marker : Nat} (earlier : marker ≤ c.reported) :
    c.since marker = all.drop (max marker c.dropped) := by
  have count : ((c.reported : Int) - (marker : Int)).toNat = c.reported - marker := by omega
  have size := h.length_add_dropped
  have first : c.dropped + (c.retained.length - (c.reported - marker)) = max marker c.dropped := by
    omega
  unfold since
  rw [count]
  conv_lhs => rw [h.retained]
  rw [List.drop_drop, ← h.retained, first]

end

end Collector

/-! ## The counts of a summary -/

namespace Collector

/-- A new code comes last, a known one keeps its place. -/
theorem fst_countCode (counts : List (String × Nat)) (code : String) :
    (countCode counts code).map Prod.fst =
      if counts.any (·.1 == code) then counts.map Prod.fst else counts.map Prod.fst ++ [code] := by
  unfold countCode
  split_ifs with known
  · rw [List.map_map]
    apply List.map_congr_left
    intro p _
    show (if p.1 == code then (p.1, p.2 + 1) else p).1 = p.1
    split_ifs <;> rfl
  · rw [List.map_append, List.map_singleton]

theorem nodup_countCode {counts : List (String × Nat)} (h : (counts.map Prod.fst).Nodup)
    (code : String) : ((countCode counts code).map Prod.fst).Nodup := by
  rw [fst_countCode]
  split_ifs with known
  · exact h
  · refine List.nodup_append.mpr ⟨h, List.nodup_singleton code, ?_⟩
    rintro name present last atEnd rfl
    rw [List.mem_singleton.mp atEnd] at present
    obtain ⟨p, member, rfl⟩ := List.mem_map.mp present
    exact known (List.any_eq_true.mpr ⟨p, member, beq_self_eq_true p.1⟩)

theorem map_countCode_of_notMem {counts : List (String × Nat)} {code : String}
    (h : code ∉ counts.map Prod.fst) :
    counts.map (fun p => if p.1 == code then (p.1, p.2 + 1) else p) = counts := by
  conv_rhs => rw [← List.map_id counts]
  apply List.map_congr_left
  intro p member
  have other : p.1 ≠ code := by
    rintro rfl
    exact h (List.mem_map_of_mem member)
  rw [if_neg (by simpa using other), id]

theorem sum_countCode {counts : List (String × Nat)} (h : (counts.map Prod.fst).Nodup)
    (code : String) :
    ((countCode counts code).map Prod.snd).sum = (counts.map Prod.snd).sum + 1 := by
  unfold countCode
  split_ifs with known
  · induction counts with
    | nil => exact absurd known Bool.false_ne_true
    | cons p counts ih =>
      rw [List.map_cons, List.nodup_cons] at h
      by_cases here : p.1 = code
      · -- no later entry has this code, so only this one is counted up
        have rest := map_countCode_of_notMem (here ▸ h.1)
        rw [List.map_cons, rest, if_pos (by simpa using here)]
        simp only [List.map_cons, List.sum_cons]
        omega
      · have later : counts.any (·.1 == code) = true := by
          simpa [here] using known
        have rest := ih h.2 later
        rw [List.map_cons, if_neg (by simpa using here)]
        simp only [List.map_cons, List.sum_cons]
        omega
  · simp

theorem sum_foldl_countCode (ds : List Diagnostic) {counts : List (String × Nat)}
    (h : (counts.map Prod.fst).Nodup) :
    ((ds.foldl (fun counts d => countCode counts d.code) counts).map Prod.snd).sum =
      (counts.map Prod.snd).sum + ds.length := by
  induction ds generalizing counts with
  | nil => rfl
  | cons d ds ih =>
    rw [List.foldl_cons, ih (nodup_countCode h d.code), sum_countCode h, List.length_cons]
    omega

theorem sum_codeCounts (c : Collector) : (c.codeCounts.map Prod.snd).sum = c.retained.length := by
  have none : ((([] : List (String × Nat)).map Prod.fst)).Nodup := List.nodup_nil
  have sum := sum_foldl_countCode c.retained none
  rw [List.map_nil, List.sum_nil, Nat.zero_add] at sum
  exact sum

theorem sum_countP_severity (ds : List Diagnostic) :
    (Severity.all.map fun s => ds.countP (·.severity == s)).sum = ds.length := by
  induction ds with
  | nil => rfl
  | cons d ds ih =>
    simp only [Severity.all, List.map_cons, List.map_nil, List.sum_cons, List.sum_nil,
      List.countP_cons, List.length_cons] at ih ⊢
    cases d.severity <;> simp <;> omega

theorem sum_severityCounts (c : Collector) :
    (c.severityCounts.map Prod.snd).sum = c.retained.length := by
  unfold severityCounts
  rw [List.map_map]
  exact sum_countP_severity c.retained

end Collector

/-! ## Courses of reports -/

namespace Channel

/-- Makes reports one after the other: the diagnostics recorded, and the channel afterwards. -/
def reportAll (c : Channel) : List Report → List Diagnostic × Channel
  | [] => ([], c)
  | r :: rs => ((c.report r).1 :: ((c.report r).2.reportAll rs).1, ((c.report r).2.reportAll rs).2)

/-- Every report adds its one diagnostic, whatever context is used again. -/
theorem collector_reportAll (c : Channel) (rs : List Report) :
    (c.reportAll rs).2.collector = c.collector.addAll (c.reportAll rs).1 := by
  induction rs generalizing c with
  | nil => rfl
  | cons r rs ih => exact ih (c.report r).2

theorem length_reportAll (c : Channel) (rs : List Report) :
    (c.reportAll rs).1.length = rs.length := by
  induction rs generalizing c with
  | nil => rfl
  | cons r rs ih => exact congrArg Nat.succ (ih (c.report r).2)

end Channel

/-- What a collector promises of the diagnostics that were reported to it before a marker was taken
and after it: it retains the latest ones, accounts for all of them, tells since the marker the
later ones that it retains, and sums them up. -/
structure Collector.Ledger (k : Collector) (limit : Int) (marker : Nat)
    (before after : List Diagnostic) : Prop where
  retained : k.retained = (before ++ after).drop
    ((before ++ after).length - min k.reported limit.toNat)
  reported : k.reported = before.length + after.length
  accounted : k.retained.length + k.dropped = k.reported
  window : k.retained = (before ++ after).drop k.dropped
  since : k.since marker = after.drop (k.dropped - before.length)
  total : k.summary.total + k.summary.dropped = k.reported
  bySeverity : (k.summary.bySeverity.map Prod.snd).sum = k.summary.total
  byCode : (k.summary.byCode.map Prod.snd).sum = k.summary.total

/-- A collector can be made for every limit from one on. Whatever is reported to it, and at whatever
point a marker is taken, it retains the latest diagnostics up to its limit, every diagnostic is
retained or counted as dropped, it tells since the marker the retained ones that came later, and
the counts of its summary add up. -/
theorem Channel.ledger_of_reports (command : String) {limit : Int} (positive : 1 ≤ limit) :
    ∃ k, Collector.create command limit = .ok k ∧
      ∀ (contexts : List (String × Context)) (early late : List Report),
        let marked := Channel.reportAll { collector := k, contexts } early
        let final := marked.2.reportAll late
        marked.1.length = early.length ∧ final.1.length = late.length ∧
          final.2.collector.Ledger limit marked.2.collector.mark marked.1 final.1 := by
  refine ⟨{ command, limit := limit.toNat }, if_neg (by omega), ?_⟩
  intro contexts early late
  refine ⟨Channel.length_reportAll _ early, Channel.length_reportAll _ late, ?_⟩
  generalize start : ({ collector := { command, limit := limit.toNat }, contexts } : Channel) = c
  have empty : c.collector.Retains [] :=
    start ▸ Collector.retains_create (if_neg (show ¬limit < 1 by omega))
  have bound : c.collector.limit = limit.toNat := by rw [← start]
  have marked : (c.reportAll early).2.collector.Retains (c.reportAll early).1 := by
    rw [Channel.collector_reportAll]
    exact empty.addAll _
  have same : (c.reportAll early).2.collector.limit = limit.toNat := by
    rw [Channel.collector_reportAll, Collector.addAll_limit, bound]
  generalize (c.reportAll early).2 = m at marked same
  generalize (c.reportAll early).1 = before at marked
  have final : (m.reportAll late).2.collector.Retains (before ++ (m.reportAll late).1) := by
    rw [Channel.collector_reportAll]
    exact marked.addAll _
  have same' : (m.reportAll late).2.collector.limit = limit.toNat := by
    rw [Channel.collector_reportAll, Collector.addAll_limit, same]
  generalize (m.reportAll late).2 = last at final same'
  generalize (m.reportAll late).1 = after at final
  have reported : last.collector.reported = before.length + after.length := by
    rw [final.reported, List.length_append]
  constructor
  · rw [← same']
    exact final.retained_eq
  · exact reported
  · exact final.length_add_dropped
  · exact final.retained
  · have earlier : m.collector.mark ≤ last.collector.reported := by
      rw [Collector.mark, marked.reported, reported]
      omega
    rw [final.since_eq earlier, Collector.mark, marked.reported]
    have later : max before.length last.collector.dropped =
        before.length + (last.collector.dropped - before.length) := by omega
    rw [later, List.drop_length_add_append]
  · exact final.length_add_dropped
  · exact Collector.sum_severityCounts last.collector
  · exact Collector.sum_codeCounts last.collector

/-- A report of a crash, in a context that is used again. -/
private def crashReport (message : String) : Channel.Report where
  failure := .crash .value message
  context := { operation := "evaluate_rule", component := "FieldValidator" }
  keepAs := some "rules"

/-- Of five reports the last two are retained, and told since a marker that stands before the
last four. -/
theorem Channel.ledger_of_five : ∃ k, Collector.create "lint" 2 = .ok k ∧
    let marked := Channel.reportAll { collector := k } [crashReport "0"]
    let final := marked.2.reportAll (["1", "2", "3", "4"].map crashReport)
    final.2.collector.Ledger 2 marked.2.collector.mark marked.1 final.1 ∧
      (final.2.collector.since marked.2.collector.mark).map (·.message) = ["3", "4"] := by
  obtain ⟨k, made, promise⟩ := ledger_of_reports "lint" (show (1 : Int) ≤ 2 by decide)
  refine ⟨k, made, (promise [] _ _).2.2, ?_⟩
  have same : (⟨"lint", 2, 0, 0, []⟩ : Collector) = k := Except.ok.inj made
  rw [← same]
  decide +kernel

end FormGate
