import FormGate.Command.Run

/-!
# Carrying out what a command does

Where everything that a command does can be done, it ends as its script does. Otherwise it ends with
the first thing that cannot be done, and then its status is not zero (`Command.code_carryOut`).
-/

namespace FormGate.Command

theorem Exit.code_eq_zero {e : Exit} : e.code = 0 ↔ e = .status 0 := by
  cases e <;> simp [Exit.code]

section CarryOut

variable {σ : Type} (perform : Action → StateM σ (Option String))

/-- Whether some things can be done, each after those before it. -/
def AllDone : List Action → σ → Prop
  | [], _ => True
  | a :: actions, w => ((perform a).run w).1 = none ∧ AllDone actions ((perform a).run w).2

theorem carryOut_cons (a : Action) (actions : List Action) (exit : Exit) (w : σ) :
    (carryOut perform (a :: actions) exit).run w =
      match ((perform a).run w).1 with
      | none => (carryOut perform actions exit).run ((perform a).run w).2
      | some reason => (.undone reason, ((perform a).run w).2) := by
  rw [carryOut, StateT.run_bind]
  rcases (perform a).run w with ⟨_ | reason, w'⟩ <;> rfl

/-- A command ends with status zero exactly if its script does and everything can be done. -/
theorem code_carryOut (actions : List Action) (exit : Exit) (w : σ) :
    ((carryOut perform actions exit).run w).1.code = 0 ↔
      exit = .status 0 ∧ AllDone perform actions w := by
  induction actions generalizing w with
  | nil => exact Exit.code_eq_zero.trans (iff_of_eq (and_true _)).symm
  | cons a actions ih =>
    rw [carryOut_cons, AllDone]
    cases ((perform a).run w).1 with
    | none => rw [ih, eq_self, true_and]
    | some reason => simp [Exit.code]

/-- What is only shown can be done where lines can be shown. -/
theorem allDone_of_prints {actions : List Action} (prints : ∀ a ∈ actions, ∃ l, a = .print l)
    (shows : ∀ l w, ((perform (.print l)).run w).1 = none) (w : σ) : AllDone perform actions w := by
  induction actions generalizing w with
  | nil => trivial
  | cons a actions ih =>
    rw [List.forall_mem_cons] at prints
    obtain ⟨l, rfl⟩ := prints.1
    exact ⟨shows l w, ih prints.2 _⟩

end CarryOut

end FormGate.Command
