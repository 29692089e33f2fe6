import FormGate.Proofs.Document.WellFormed
import FormGate.Proofs.Trigger.World

/-!
# What a pass does to a page

When nothing intervenes, what a pass comes to and the page that it leaves depend on nothing but the
page. Most of a pass only reads the page: what it makes of a field changes the page at most by the
value that is written back.
-/

namespace FormGate

variable {α β : Type}

/-- What a program comes to on a page, and the page that it leaves. -/
def Program.on : Program α → Document → α × Document
  | done a, d => (a, d)
  | call c next, d => (next (c.perform d).1).on (c.perform d).2
  | report _ _ next, d => next.on d

theorem Program.on_bind (x : Program α) (f : α → Program β) (d : Document) :
    (x.bind f).on d = (f (x.on d).1).on (x.on d).2 := by
  induction x generalizing d with
  | done a => rfl
  | call c next ih => exact ih (c.perform d).1 (c.perform d).2
  | report e context next ih => exact ih d

theorem Program.descends_on (x : Program α) (d : Document) : d.Descends (x.on d).2 := by
  induction x generalizing d with
  | done a => exact .refl d
  | call c next ih => exact (c.descends_perform d).trans (ih (c.perform d).1 (c.perform d).2)
  | report e context next ih => exact ih d

theorem Program.sameLog_on (x : Program α) (d : Document) : d.SameLog (x.on d).2 := by
  induction x generalizing d with
  | done a => exact .refl d
  | call c next ih => exact (c.sameLog_perform d).trans (ih (c.perform d).1 (c.perform d).2)
  | report e context next ih => exact ih d

namespace Pass

/-- What a pass comes to on a page, and the page that it leaves. -/
def on (x : Pass α) (d : Document) : Except Failure α × Document :=
  Program.on x.run d

/-- A pass ends with a result on a page, and leaves another page. -/
def Yields (x : Pass α) (d : Document) (a : α) (d' : Document) : Prop :=
  x.on d = (.ok a, d')

/-- A pass leaves every page as it is, whether it ends or breaks off. -/
def Reads (x : Pass α) : Prop :=
  ∀ d, (x.on d).2 = d

theorem on_bind (x : Pass α) (f : α → Pass β) (d : Document) :
    (x >>= f).on d =
      match (x.on d).1 with
      | .ok a => (f a).on (x.on d).2
      | .error e => (.error e, (x.on d).2) := by
  show ((ExceptT.run x).bind (ExceptT.bindCont f)).on d = _
  rw [Program.on_bind]
  unfold on
  cases ((ExceptT.run x).on d).1 <;> rfl

/-! ## Results -/

section Yields

variable {d d' : Document}

theorem yields_pure {a b : α} : (pure a : Pass α).Yields d b d' ↔ b = a ∧ d' = d := by
  show ((Except.ok a : Except Failure α), d) = (.ok b, d') ↔ _
  rw [Prod.mk.injEq, Except.ok.injEq, eq_comm, eq_comm (a := d)]

theorem yields_bind {x : Pass α} {f : α → Pass β} {b : β} :
    (x >>= f).Yields d b d' ↔ ∃ a d₁, x.Yields d a d₁ ∧ (f a).Yields d₁ b d' := by
  unfold Yields
  rw [on_bind]
  constructor
  · intro h
    rcases first : x.on d with ⟨r, d₁⟩
    rw [first] at h
    cases r with
    | ok a => exact ⟨a, d₁, rfl, h⟩
    | error e => cases h
  · rintro ⟨a, d₁, first, second⟩
    rw [first]
    exact second

theorem yields_ask {c : Call} {a : c.Answer} :
    (ask c).Yields d a d' ↔ c.perform d = (.ok a, d') :=
  Iff.rfl

theorem yields_ask_of_perform {c : Call} {answer a : c.Answer} (h : c.perform d = (.ok answer, d)) :
    (ask c).Yields d a d' ↔ a = answer ∧ d' = d := by
  rw [yields_ask, h, Prod.mk.injEq, Except.ok.injEq, eq_comm, eq_comm (a := d)]

/-- A pass comes to one result on a page, and leaves one page. -/
theorem Yields.unique {x : Pass α} {a b : α} {d'' : Document} (h : x.Yields d a d')
    (h' : x.Yields d b d'') : b = a ∧ d'' = d' := by
  have same : (Except.ok b, d'') = (Except.ok a, d') := h'.symm.trans h
  rwa [Prod.mk.injEq, Except.ok.injEq] at same

theorem not_yields_throw {e : Failure} {a : α} : ¬ (throw e : Pass α).Yields d a d' := by
  show ¬ ((Except.error e : Except Failure α), d) = (.ok a, d')
  intro h
  cases h

theorem yields_forM {f : α → Pass Unit} {g : Document → α → Document} {xs : List α}
    (step : ∀ x ∈ xs, ∀ d u d', (f x).Yields d u d' → d' = g d x) {u : Unit}
    (h : (xs.forM f).Yields d u d') : d' = xs.foldl g d := by
  induction xs generalizing d with
  | nil => exact (yields_pure.1 h).2
  | cons x xs ih =>
    rw [List.forM] at h
    obtain ⟨u, d₁, first, later⟩ := yields_bind.1 h
    obtain rfl := step x List.mem_cons_self d u d₁ first
    exact ih (fun y hy => step y (List.mem_cons_of_mem _ hy)) later

end Yields

theorem Yields.descends {x : Pass α} {d d' : Document} {a : α} (h : x.Yields d a d') :
    d.Descends d' := by
  have := Program.descends_on x.run d
  rwa [show x.run.on d = (.ok a, d') from h] at this

theorem Yields.sameLog {x : Pass α} {d d' : Document} {a : α} (h : x.Yields d a d') :
    d.SameLog d' := by
  have := Program.sameLog_on x.run d
  rwa [show x.run.on d = (.ok a, d') from h] at this

/-! ## Passes that only read -/

theorem Reads.pure (a : α) : (pure a : Pass α).Reads := fun _ => rfl

theorem Reads.throw (e : Failure) : (throw e : Pass α).Reads := fun _ => rfl

theorem Reads.report (e : Failure) (context : Context) : (report e context).Reads := fun _ => rfl

theorem Reads.ask {c : Call} (h : ∀ d, (c.perform d).2 = d) : (ask c).Reads := h

theorem Reads.bind {x : Pass α} {f : α → Pass β} (hx : x.Reads) (hf : ∀ a, (f a).Reads) :
    (x >>= f).Reads := by
  intro d
  rw [on_bind]
  cases (x.on d).1 with
  | ok a =>
    dsimp only
    rw [hf a, hx]
  | error e => exact hx d

theorem Reads.reportAll (reports : List (Failure × Context)) : (reportAll reports).Reads := by
  unfold Pass.reportAll
  induction reports with
  | nil => exact Reads.pure _
  | cons p reports ih => exact (Reads.report p.1 p.2).bind fun _ => ih

theorem Reads.catchFault {x : Pass α} (hx : x.Reads) : (catchFault x).Reads := by
  intro d
  show (((ExceptT.run x).bind _).on d).2 = d
  rw [Program.on_bind]
  exact hx d

theorem Reads.yields {x : Pass α} (hx : x.Reads) {d d' : Document} {a : α}
    (h : x.Yields d a d') : d' = d := by
  have := hx d
  rwa [h] at this

end Pass

/-! ## Undisturbed worlds -/

namespace World

theorem beforeAll_undisturbed (kinds : List CallKind) (w : World) :
    (beforeAll undisturbed kinds).run w = (.ok (), w) := by
  induction kinds with
  | nil => rfl
  | cons kind kinds ih =>
    rw [beforeAll, run_bind_apply]
    exact ih

theorem run_undisturbed (x : Program α) {w : World} {d : Document} (page : w.page = some d) :
    ((run undisturbed x).run w).1 = (x.on d).1 ∧
      ((run undisturbed x).run w).2.page = some (x.on d).2 := by
  induction x generalizing w d with
  | done a => exact ⟨rfl, page⟩
  | call c next ih =>
    rw [run, run_bind_apply, onPage_run, page]
    dsimp only
    rw [beforeAll_undisturbed]
    dsimp only
    rw [page]
    exact ih (c.perform d).1 rfl
  | report e context next ih =>
    rw [run, run_bind_apply]
    exact ih page

/-- When nothing intervenes, a pass comes to what it comes to on the page. -/
theorem runPass_undisturbed {x : Pass α} {w w' : World} {d : Document} {a : α}
    (page : w.page = some d) (h : (runPass undisturbed x).run w = (.ok a, w')) :
    ∃ d', w'.page = some d' ∧ x.Yields d a d' := by
  obtain ⟨result, page'⟩ := run_undisturbed x.run page
  unfold runPass at h
  rw [h] at result page'
  exact ⟨_, page', Prod.ext result.symm rfl⟩

end World

end FormGate
