import FormGate.Diagnostic.Collector
import Mathlib.Data.List.Basic

/-!
# The window of retained diagnostics

A collector retains the latest of all diagnostics that were added to it, as many as its limit allows.
What it tells since a marker are therefore the latest of those added after the marker
(`since_addAll`), however many of them were dropped in the meantime.
-/

namespace FormGate

/-- The diagnostic of a failure that a pass reports and goes on after. -/
def Diagnostic.warning (p : Failure × Context) : Diagnostic :=
  .ofFailure p.1 p.2 .warning

namespace Collector

variable {c : Collector}

def addAll (c : Collector) (ds : List Diagnostic) : Collector :=
  ds.foldl add c

@[simp] theorem addAll_nil (c : Collector) : c.addAll [] = c := rfl

theorem addAll_append (c : Collector) (ds ds' : List Diagnostic) :
    c.addAll (ds ++ ds') = (c.addAll ds).addAll ds' :=
  List.foldl_append

@[simp] theorem addAll_limit (c : Collector) (ds : List Diagnostic) :
    (c.addAll ds).limit = c.limit :=
  List.foldlRecOn (motive := fun c' : Collector => c'.limit = c.limit) ds _ rfl fun _ same _ _ => same

theorem addAll_reported (c : Collector) (ds : List Diagnostic) :
    (c.addAll ds).reported = c.reported + ds.length := by
  induction ds generalizing c with
  | nil => rfl
  | cons d ds ih =>
    have later : (c.addAll (d :: ds)).reported = (c.add d).reported + ds.length := ih (c.add d)
    have once : (c.add d).reported = c.reported + 1 := rfl
    rw [later, once, List.length_cons]
    omega

/-- No more diagnostics are retained than the limit allows. -/
def Bounded (c : Collector) : Prop :=
  c.retained.length ≤ c.limit

theorem bounded_add (c : Collector) (d : Diagnostic) : (c.add d).Bounded := by
  unfold Bounded add
  dsimp only
  rw [List.length_drop]
  omega

theorem Bounded.addAll (h : c.Bounded) (ds : List Diagnostic) : (c.addAll ds).Bounded := by
  induction ds generalizing c with
  | nil => exact h
  | cons d ds ih => exact ih (c.bounded_add d)

theorem Bounded.retained_addAll (h : c.Bounded) (ds : List Diagnostic) :
    (c.addAll ds).retained =
      (c.retained ++ ds).drop ((c.retained ++ ds).length - c.limit) := by
  unfold Bounded at h
  induction ds generalizing c with
  | nil =>
    have none : (c.retained ++ []).length - c.limit = 0 := by
      rw [List.append_nil]
      omega
    rw [none, List.drop_zero, List.append_nil]
    rfl
  | cons d ds ih =>
    have kept : (c.add d).retained =
        (c.retained ++ [d]).drop ((c.retained ++ [d]).length - c.limit) := rfl
    have short : (c.retained ++ [d]).length - c.limit ≤ (c.retained ++ [d]).length := Nat.sub_le _ _
    have rest := ih (c.bounded_add d)
    rw [kept, ← List.drop_append_of_le_length short, List.append_assoc, List.drop_drop] at rest
    -- what the first addition drops and what the later ones drop make up what all of them drop
    have all : (c.retained ++ [d]).length - c.limit +
        (((c.retained ++ ([d] ++ ds)).drop ((c.retained ++ [d]).length - c.limit)).length -
          (c.add d).limit) = (c.retained ++ d :: ds).length - c.limit := by
      have limit : (c.add d).limit = c.limit := rfl
      rw [limit]
      simp only [List.length_drop, List.length_append, List.length_cons, List.length_nil]
      omega
    rw [all] at rest
    exact rest

/-- Since a marker a collector tells the latest of the diagnostics that were added after it. -/
theorem Bounded.since_addAll (h : c.Bounded) (ds : List Diagnostic) :
    (c.addAll ds).since c.mark = ds.drop (ds.length - c.limit) := by
  have count : (((c.addAll ds).reported : Int) - (c.mark : Int)).toNat = ds.length := by
    rw [addAll_reported, mark]
    omega
  unfold since
  rw [count, h.retained_addAll, List.length_drop, List.drop_drop]
  unfold Bounded at h
  have inside : (c.retained ++ ds).length - c.limit +
      ((c.retained ++ ds).length - ((c.retained ++ ds).length - c.limit) - ds.length) =
        c.retained.length + (ds.length - c.limit) := by
    rw [List.length_append]
    omega
  rw [inside, List.drop_length_add_append]

/-! ## What a fresh collector retains -/

theorem hasDiagnostics_eq_true : c.hasDiagnostics = true ↔ c.retained ≠ [] := by
  unfold hasDiagnostics
  rw [Bool.not_eq_true', ← Bool.not_eq_true, List.isEmpty_iff]

theorem retained_fresh (command : String) (limit : Nat) (ds : List Diagnostic) :
    (addAll { command, limit } ds).retained = ds.drop (ds.length - limit) := by
  have empty : ({ command, limit } : Collector).Bounded := Nat.zero_le _
  exact empty.retained_addAll ds

/-- A fresh collector that keeps one diagnostic at least retains some exactly if some were added. -/
theorem hasDiagnostics_fresh (command : String) {limit : Nat} (positive : 0 < limit) (ds : List Diagnostic) :
    (addAll { command, limit } ds).hasDiagnostics = false ↔ ds = [] := by
  rw [← Bool.not_eq_true, hasDiagnostics_eq_true, not_not, retained_fresh, List.drop_eq_nil_iff]
  constructor
  · intro short
    rw [← List.length_eq_zero_iff]
    omega
  · rintro rfl
    exact Nat.zero_le _

end Collector

end FormGate
