import FormGate.Trigger.Handler
import Mathlib.Tactic.SplitIfs

/-!
# What a pass keeps in the world around it

A pass changes the world by calls to the host, by reports, and by whatever comes before its calls.
A relation between the world before and the world after that these three keep to is kept to by the
whole pass.
-/

namespace FormGate

namespace World

variable {α β : Type}

theorem run_bind_apply (x : StateM World α) (f : α → StateM World β) (w : World) :
    (x >>= f).run w = (f (x.run w).1).run (x.run w).2 := rfl

theorem run_get_bind (f : World → StateM World β) (w : World) :
    (get >>= f).run w = (f w).run w := rfl

/-- A pass after another runs where the first one ends with a result. -/
theorem runPass_bind (before : Before) (x : Pass α) (f : α → Pass β) (w : World) :
    (runPass before (x >>= f)).run w =
      match ((runPass before x).run w).1 with
      | .ok a => (runPass before (f a)).run ((runPass before x).run w).2
      | .error e => (.error e, ((runPass before x).run w).2) := by
  show (run before ((ExceptT.run x).bind (ExceptT.bindCont f))).run w = _
  rw [run_bind, run_bind_apply]
  unfold runPass
  cases ((run before (ExceptT.run x)).run w).1 <;> rfl

theorem runPass_ask (before : Before) (c : Call) (w : World) :
    (runPass before (Pass.ask c)).run w = (onPage before (fun d => c.kinds d) c.perform).run w :=
  rfl

theorem runPass_bind_ok {before : Before} {x : Pass α} {f : α → Pass β} {w w' : World} {b : β}
    (h : (runPass before (x >>= f)).run w = (.ok b, w')) :
    ∃ a w₁, (runPass before x).run w = (.ok a, w₁) ∧
      (runPass before (f a)).run w₁ = (.ok b, w') := by
  rw [runPass_bind] at h
  rcases first : (runPass before x).run w with ⟨r, w₁⟩
  rw [first] at h
  cases r with
  | ok a => exact ⟨a, w₁, rfl, h⟩
  | error e => cases h

/-- A relation between worlds that holds along steps each of which keeps to it. -/
structure Chained (R : World → World → Prop) : Prop where
  refl : ∀ w, R w w
  trans : ∀ {a b c : World}, R a b → R b c → R a c

/-- What every act of a list keeps to, the list keeps to. -/
theorem Chained.forM {R : World → World → Prop} (hR : Chained R) {α : Type} {act : α → StateM World Unit}
    (step : ∀ a w, R w ((act a).run w).2) (as : List α) (w : World) : R w ((as.forM act).run w).2 := by
  induction as generalizing w with
  | nil => exact hR.refl w
  | cons a as ih =>
    show R w ((act a >>= fun _ => as.forM act).run w).2
    rw [run_bind_apply]
    exact hR.trans (step a w) (ih _)

/-- A relation between worlds that every step of a pass keeps to. -/
structure Kept (R : World → World → Prop) : Prop extends Chained R where
  perform : ∀ (w : World) (d : Document) (c : Call),
    w.page = some d → R w { w with page := some (c.perform d).2 }
  report : ∀ (w : World) (c : Collector), R w { w with collector := c }

/-- Whatever comes before a call keeps to a relation. -/
def Kept.Before (R : World → World → Prop) (before : Before) : Prop :=
  ∀ kind w, R w ((before kind).run w).2

/-- A call to a page: nothing is done without a page, or where something before it is to fail. -/
theorem onPage_run (before : Before) (kinds : Document → List CallKind)
    (act : Document → Except Failure α × Document) (w : World) :
    (onPage before kinds act).run w =
      match w.page with
      | none => (.error .noHost, w)
      | some d =>
        let w₁ := ((beforeAll before (kinds d)).run w).2
        match ((beforeAll before (kinds d)).run w).1 with
        | .error e => (.error e, w₁)
        | .ok () =>
          match w₁.page with
          | none => (.error .noHost, w₁)
          | some d => ((act d).1, { w₁ with page := some (act d).2 }) := by
  unfold onPage
  rw [run_get_bind]
  cases w.page with
  | none => rfl
  | some d =>
    dsimp only
    rw [run_bind_apply]
    cases ((beforeAll before (kinds d)).run w).1 with
    | error e => rfl
    | ok u =>
      dsimp only
      rw [run_get_bind]
      cases ((beforeAll before (kinds d)).run w).2.page <;> rfl

namespace Chained

variable {R : World → World → Prop} {before : World.Before}

theorem beforeAll (hR : Chained R) (hb : Kept.Before R before) (kinds : List CallKind) (w : World) :
    R w ((World.beforeAll before kinds).run w).2 := by
  induction kinds generalizing w with
  | nil => exact hR.refl w
  | cons kind kinds ih =>
    rw [World.beforeAll, run_bind_apply]
    refine hR.trans (hb kind w) ?_
    cases ((before kind).run w).1 with
    | error e => exact hR.refl _
    | ok u => exact ih _

/-- A call ends in a failure, or is made on the page of a world that came about before it. -/
theorem onPage (hR : Chained R) (hb : Kept.Before R before) (kinds : Document → List CallKind)
    (act : Document → Except Failure α × Document) (w : World) :
    ∃ w₁, R w w₁ ∧
      ((∃ e, (World.onPage before kinds act).run w = (.error e, w₁)) ∨
        ∃ d, w₁.page = some d ∧
          (World.onPage before kinds act).run w =
            ((act d).1, { w₁ with page := some (act d).2 })) := by
  rw [onPage_run]
  cases w.page with
  | none => exact ⟨w, hR.refl w, .inl ⟨_, rfl⟩⟩
  | some d =>
    refine ⟨_, hR.beforeAll hb (kinds d) w, ?_⟩
    dsimp only
    cases ((World.beforeAll before (kinds d)).run w).1 with
    | error e => exact .inl ⟨e, rfl⟩
    | ok u =>
      dsimp only
      rcases page : ((World.beforeAll before (kinds d)).run w).2.page with _ | d'
      · exact .inl ⟨_, rfl⟩
      · exact .inr ⟨d', rfl, rfl⟩

/-- A call that was answered was made on the page of a world that came about before it. -/
theorem onPage_ok (hR : Chained R) (hb : Kept.Before R before) {kinds : Document → List CallKind}
    {act : Document → Except Failure α × Document} {w w' : World} {a : α}
    (call : (World.onPage before kinds act).run w = (.ok a, w')) :
    ∃ w₁ d, R w w₁ ∧ w₁.page = some d ∧ (act d).1 = .ok a ∧
      w' = { w₁ with page := some (act d).2 } := by
  obtain ⟨w₁, h, ⟨e, eq⟩ | ⟨d, page, eq⟩⟩ := hR.onPage hb kinds act w
  · rw [call] at eq
    cases eq
  · rw [call] at eq
    exact ⟨w₁, d, h, page, (congrArg Prod.fst eq).symm, congrArg Prod.snd eq⟩

/-- A call that can only fail for what comes before it changes nothing else where it fails. -/
theorem onPage_error (hR : Chained R) (hb : Kept.Before R before) {kinds : Document → List CallKind}
    {act : Document → Except Failure α × Document} {w w' : World} {e : Failure}
    (call : (World.onPage before kinds act).run w = (.error e, w'))
    (answered : ∀ d, ∃ a, (act d).1 = .ok a) : R w w' := by
  obtain ⟨w₁, h, ⟨e, eq⟩ | ⟨d, page, eq⟩⟩ := hR.onPage hb kinds act w
  · rw [call] at eq
    cases eq
    exact h
  · obtain ⟨a, ok⟩ := answered d
    rw [call, ok] at eq
    cases eq

end Chained

namespace Kept

variable {R : World → World → Prop} {before : World.Before}

theorem run (hR : Kept R) (hb : Kept.Before R before) (x : Program α) (w : World) :
    R w ((World.run before x).run w).2 := by
  induction x generalizing w with
  | done a => exact hR.refl w
  | call c next ih =>
    rw [World.run, run_bind_apply]
    refine hR.trans ?_ (ih _ _)
    obtain ⟨w₁, h, ⟨e, eq⟩ | ⟨d, page, eq⟩⟩ := hR.onPage hb (fun d => c.kinds d) c.perform w
    · rw [eq]
      exact h
    · rw [eq]
      exact hR.trans h (hR.perform w₁ d c page)
  | report e context next ih =>
    rw [World.run, run_bind_apply]
    exact hR.trans (hR.report w _) (ih _)

/-- Whatever a pass comes to, what it ends in is reached by the relation. -/
theorem runPass (hR : Kept R) (hb : Kept.Before R before) {x : Pass α} {w w' : World}
    {r : Except Failure α} (h : (World.runPass before x).run w = (r, w')) : R w w' := by
  have := hR.run hb x.run w
  unfold World.runPass at h
  rwa [h] at this

end Kept

end World

end FormGate
