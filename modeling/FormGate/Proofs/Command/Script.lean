import FormGate.Command.Script

/-!
# What scripts do

A script only adds to what was done before it. What it does and how it ends is told from its parts in
turn.
-/

namespace FormGate.Command.Script

variable {α β : Type}

/-- Whatever was done before, a script does these things and ends in this way. -/
def Does (x : Script α) (actions : List Action) (r : Except Exit α) : Prop :=
  ∀ done, (ExceptT.run x).run done = (r, done ++ actions)

/-- A line that is shown to a person. -/
def Spoken (b : Action) : Prop :=
  ∃ l, b = .print l ∧ ∀ j, l ≠ .json j

/-- A script shows a person some lines and comes to a result. -/
def Tells (x : Script α) (a : α) : Prop :=
  ∃ actions, Does x actions (.ok a) ∧ ∀ b ∈ actions, Spoken b

section Does

theorem Does.pure (a : α) : Does (Pure.pure a) [] (.ok a) := fun done => by
  rw [List.append_nil]
  rfl

theorem Does.throw (e : Exit) : Does (MonadExcept.throw e : Script α) [] (.error e) := fun done => by
  rw [List.append_nil]
  rfl

theorem Does.act (a : Action) : Does (Script.act a) [a] (.ok ()) := fun _ => rfl

theorem Does.say (p : Console.Phrase) : Does (Script.say p) [.print (.phrase p)] (.ok ()) := .act _

theorem Does.bind {x : Script α} {f : α → Script β} {a : α} {as bs : List Action} {r : Except Exit β}
    (hx : Does x as (.ok a)) (hf : Does (f a) bs r) : Does (x >>= f) (as ++ bs) r := fun done => by
  show (ExceptT.bindCont f ((ExceptT.run x).run done).1).run ((ExceptT.run x).run done).2 = _
  rw [hx done, ← List.append_assoc]
  exact hf (done ++ as)

theorem Does.refuse (message : Console.Phrase) :
    Does (Script.refuse message : Script α)
      [.print (.phrase (.styled "Error:" :: .own " " :: message))] (.error (.status 1)) :=
  (Does.say _).bind (Does.throw _)

/-- A script does one thing only. -/
theorem Does.unique {x : Script α} {as bs : List Action} {r r' : Except Exit α} (h : Does x as r)
    (h' : Does x bs r') : as = bs ∧ r = r' := by
  have same := (h []).symm.trans (h' [])
  rw [Prod.mk.injEq, List.nil_append, List.nil_append] at same
  exact ⟨same.2, same.1⟩

theorem Does.bind_silent {x : Script α} {f : α → Script β} {a : α} {bs : List Action}
    {r : Except Exit β} (hx : Does x [] (.ok a)) (hf : Does (f a) bs r) : Does (x >>= f) bs r :=
  hx.bind hf

theorem Does.bind_error {x : Script α} {f : α → Script β} {e : Exit} {as : List Action}
    (hx : Does x as (.error e)) : Does (x >>= f) as (.error e) := fun done => by
  show (ExceptT.bindCont f ((ExceptT.run x).run done).1).run ((ExceptT.run x).run done).2 = _
  rw [hx done]
  rfl

theorem Does.run_ok {x : Script Nat} {as : List Action} {n : Nat} (h : Does x as (.ok n)) :
    x.run = (as, .status n) := by
  unfold Script.run
  rw [h []]
  rfl

theorem Does.run_error {x : Script Nat} {as : List Action} {e : Exit} (h : Does x as (.error e)) :
    x.run = (as, e) := by
  unfold Script.run
  rw [h []]
  rfl

/-- A script that shows some lines ends with the status to which it comes. -/
theorem Tells.status {x : Script Nat} {n : Nat} (h : Tells x n) : x.run.2 = .status n := by
  obtain ⟨as, does, -⟩ := h
  rw [does.run_ok]

/-- A script that comes down to another one does what that does after some other things. -/
theorem Does.run_append {x y : Script Nat} {before as : List Action} {r : Except Exit Nat}
    (hx : Does x (before ++ as) r) (hy : Does y as r) : x.run = (before ++ y.run.1, y.run.2) := by
  cases r with
  | ok n => rw [hx.run_ok, hy.run_ok]
  | error e => rw [hx.run_error, hy.run_error]

end Does

namespace Tells

theorem pure (a : α) : Tells (Pure.pure a) a := ⟨[], .pure a, by simp⟩

theorem of_silent {x : Script α} {a : α} (h : Does x [] (.ok a)) : Tells x a := ⟨[], h, by simp⟩

theorem print {l : Console.Line} (spoken : ∀ j, l ≠ .json j) : Tells (Script.act (.print l)) () := by
  refine ⟨_, .act _, fun b only => ?_⟩
  rw [List.mem_singleton.1 only]
  exact ⟨l, rfl, spoken⟩

theorem say (p : Console.Phrase) : Tells (Script.say p) () := .print nofun

theorem bind {x : Script α} {f : α → Script β} {a : α} {b : β} (hx : Tells x a) (hf : Tells (f a) b) :
    Tells (x >>= f) b := by
  obtain ⟨as, does, shown⟩ := hx
  obtain ⟨bs, does', shown'⟩ := hf
  exact ⟨as ++ bs, does.bind does', List.forall_mem_append.2 ⟨shown, shown'⟩⟩

theorem forM {f : α → Script Unit} (hf : ∀ x, Tells (f x) ()) (xs : List α) : Tells (xs.forM f) () := by
  induction xs with
  | nil => exact .pure ()
  | cons x xs ih => exact (hf x).bind ih

theorem foldlM {f : β → α → Script β} {g : β → α → β} {xs : List α}
    (step : ∀ x ∈ xs, ∀ b, Tells (f b x) (g b x)) (b : β) :
    Tells (xs.foldlM f b) (xs.foldl g b) := by
  induction xs generalizing b with
  | nil => exact .pure b
  | cons x xs ih =>
    rw [List.foldlM_cons]
    exact (step x List.mem_cons_self b).bind
      (ih (fun y hy => step y (List.mem_cons_of_mem _ hy)) (g b x))

end Tells

end FormGate.Command.Script
