import FormGate.Proofs.Diagnostic.Window
import FormGate.Proofs.Pass.Effect

/-!
# What a pass reports

When nothing intervenes, a pass comes to a result on a page, leaves another page, and reports
failures, and none of this depends on anything but the page (`Pass.Runs.world`). Two pages are alike
for a pass that only reads if it comes to the same on both and reports the same.
-/

namespace FormGate

variable {α β : Type}

/-- What a program reports on a page. -/
def Program.told : Program α → Document → List (Failure × Context)
  | done _, _ => []
  | call c next, d => (next (c.perform d).1).told (c.perform d).2
  | report e context next, d => (e, context) :: next.told d

theorem Program.told_bind (x : Program α) (f : α → Program β) (d : Document) :
    (x.bind f).told d = x.told d ++ (f (x.on d).1).told (x.on d).2 := by
  induction x generalizing d with
  | done a => rfl
  | call c next ih => exact ih (c.perform d).1 (c.perform d).2
  | report e context next ih => exact congrArg ((e, context) :: ·) (ih d)

namespace World

/-- When nothing intervenes, a program does to a world what it does to its page. -/
theorem run_undisturbed_eq (x : Program α) {w : World} {d : Document} (page : w.page = some d) :
    (run undisturbed x).run w =
      ((x.on d).1, { w with
        page := some (x.on d).2
        collector := w.collector.addAll ((x.told d).map Diagnostic.warning) }) := by
  induction x generalizing w d with
  | done a =>
    show (a, w) = (a, { w with page := some d })
    rw [← page]
  | call c next ih =>
    rw [run, run_bind_apply, onPage_run, page]
    dsimp only
    rw [beforeAll_undisturbed]
    dsimp only
    rw [page]
    dsimp only
    rw [ih (c.perform d).1 rfl]
    rfl
  | report e context next ih =>
    rw [run, run_bind_apply]
    exact ih page

end World

namespace Pass

/-- What a pass reports on a page. -/
def told (x : Pass α) (d : Document) : List (Failure × Context) :=
  Program.told x.run d

/-- When nothing intervenes, a pass does to a world what it does to its page. -/
theorem runPass_undisturbed_eq (x : Pass α) {w : World} {d : Document} (page : w.page = some d) :
    (World.runPass World.undisturbed x).run w =
      ((x.on d).1, { w with
        page := some (x.on d).2
        collector := w.collector.addAll ((x.told d).map Diagnostic.warning) }) :=
  World.run_undisturbed_eq x.run page

theorem told_bind (x : Pass α) (f : α → Pass β) (d : Document) :
    (x >>= f).told d = x.told d ++
      match (x.on d).1 with
      | .ok a => (f a).told (x.on d).2
      | .error _ => [] := by
  show ((ExceptT.run x).bind (ExceptT.bindCont f)).told d = _
  rw [Program.told_bind]
  unfold on told
  cases ((ExceptT.run x).on d).1 <;> rfl

/-! ## Runs -/

/-- On a page a pass ends with a result, leaves another page, and reports failures. -/
structure Runs (x : Pass α) (d : Document) (a : α) (d' : Document)
    (ts : List (Failure × Context)) : Prop where
  yields : x.Yields d a d'
  told : x.told d = ts

section Runs

variable {d d' d'' : Document} {ts ts' : List (Failure × Context)}

theorem Runs.pure (a : α) (d : Document) : (pure a : Pass α).Runs d a d [] :=
  ⟨rfl, rfl⟩

theorem Runs.ask {c : Call} {a : c.Answer} (h : c.perform d = (.ok a, d')) :
    (Pass.ask c).Runs d a d' [] :=
  ⟨h, rfl⟩

theorem Runs.bind {x : Pass α} {f : α → Pass β} {a : α} {b : β} (hx : x.Runs d a d' ts)
    (hf : (f a).Runs d' b d'' ts') : (x >>= f).Runs d b d'' (ts ++ ts') where
  yields := yields_bind.2 ⟨a, d', hx.yields, hf.yields⟩
  told := by
    rw [told_bind, hx.told, show x.on d = (.ok a, d') from hx.yields]
    exact congrArg (ts ++ ·) hf.told

theorem Runs.bind_silent {x : Pass α} {f : α → Pass β} {a : α} {b : β} (hx : x.Runs d a d' [])
    (hf : (f a).Runs d' b d'' ts) : (x >>= f).Runs d b d'' ts :=
  hx.bind hf

theorem Runs.mapM_cons {f : α → Pass β} {x : α} {xs : List α} {y : β} {ys : List β}
    (first : (f x).Runs d y d' ts) (later : (xs.mapM f).Runs d' ys d'' ts') :
    ((x :: xs).mapM f).Runs d (y :: ys) d'' (ts ++ ts') := by
  rw [List.mapM_cons, ← List.append_nil ts']
  exact first.bind (later.bind (Runs.pure (y :: ys) d''))

/-- A pass for each element of a list, none of which changes the page. -/
theorem Runs.mapM_reading {f : α → Pass β} {g : α → β} {ts : α → List (Failure × Context)}
    {xs : List α} (each : ∀ x ∈ xs, (f x).Runs d (g x) d (ts x)) :
    (xs.mapM f).Runs d (xs.map g) d (xs.flatMap ts) := by
  induction xs with
  | nil => exact .pure [] d
  | cons x xs ih =>
    rw [List.forall_mem_cons] at each
    exact .mapM_cons each.1 (ih each.2)

/-- When nothing intervenes, a pass runs in a world as it does on its page. -/
theorem Runs.world {x : Pass α} {a : α} (h : x.Runs d a d' ts) {w : World} (page : w.page = some d) :
    (World.runPass World.undisturbed x).run w =
      (.ok a, { w with
        page := some d'
        collector := w.collector.addAll (ts.map Diagnostic.warning) }) := by
  rw [x.runPass_undisturbed_eq page, show x.on d = (.ok a, d') from h.yields, h.told]

theorem Runs.world_silent {x : Pass α} {a : α} (h : x.Runs d a d []) {w : World}
    (page : w.page = some d) : (World.runPass World.undisturbed x).run w = (.ok a, w) := by
  rw [h.world page, List.map_nil, Collector.addAll_nil, ← page]

end Runs

/-! ## Pages that are alike for a pass -/

/-- Two pages on which a pass comes to the same and reports the same. -/
structure Alike (x : Pass α) (d d' : Document) : Prop where
  result : (x.on d').1 = (x.on d).1
  told : x.told d' = x.told d

section Alike

variable {d d' : Document}

theorem Alike.pure (a : α) : (pure a : Pass α).Alike d d' := ⟨rfl, rfl⟩

theorem Alike.throw (e : Failure) : (throw e : Pass α).Alike d d' := ⟨rfl, rfl⟩

theorem Alike.report (e : Failure) (context : Context) : (report e context).Alike d d' := ⟨rfl, rfl⟩

theorem Alike.ask {c : Call} (h : (c.perform d').1 = (c.perform d).1) : (ask c).Alike d d' :=
  ⟨h, rfl⟩

theorem Alike.bind {x : Pass α} {f : α → Pass β} (reads : x.Reads) (hx : x.Alike d d')
    (hf : ∀ a, (x.on d).1 = .ok a → (f a).Alike d d') : (x >>= f).Alike d d' := by
  constructor
  · rw [on_bind, on_bind, hx.result]
    cases first : (x.on d).1 with
    | error e => rfl
    | ok a =>
      dsimp only
      rw [reads d, reads d', (hf a first).result]
  · rw [told_bind, told_bind, hx.result, hx.told]
    cases first : (x.on d).1 with
    | error e => rfl
    | ok a =>
      dsimp only
      rw [reads d, reads d', (hf a first).told]

theorem Alike.reportAll (reports : List (Failure × Context)) :
    (reportAll reports).Alike d d' := by
  unfold Pass.reportAll
  induction reports with
  | nil => exact .pure _
  | cons p reports ih => exact .bind (.report p.1 p.2) (.report p.1 p.2) fun _ _ => ih

/-- Where a pass that only reads ends on a page, it ends in the same way on a page that is alike. -/
theorem Alike.runs {x : Pass α} (reads : x.Reads) (hx : x.Alike d d') {a : α} {ts : List (Failure × Context)}
    (h : x.Runs d a d ts) : x.Runs d' a d' ts := by
  constructor
  · have result := hx.result
    rw [show x.on d = (.ok a, d) from h.yields] at result
    exact Prod.ext result (reads d')
  · rw [hx.told, h.told]

end Alike

end Pass

end FormGate
