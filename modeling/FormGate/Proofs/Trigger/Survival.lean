import FormGate.Proofs.Config.Accepted
import FormGate.Proofs.Pass.Guard
import FormGate.Proofs.Rule.Normal
import FormGate.Proofs.Trigger.Course

/-!
# What becomes of the elements of a page

Whatever is done on a page by form passes, submissions and elements that lose the focus, and whatever
intervenes, every element that it had in the beginning stays where it was and keeps its text
(`Setup.elements_kept`). This hangs on the class of invalid fields being another one than that of
feedback: where they are the same, a field that is not valid is taken for the feedback of the field
before it, and is lost (`Setup.field_lost`).
-/

namespace FormGate

open Document Markup World

/-! ## Conditions on the page of a world -/

/-- Whether a world has a page, and it satisfies a condition. -/
def World.Holds (P : Document → Prop) (w : World) : Prop :=
  ∃ d, w.page = some d ∧ P d

/-- A world whose page satisfies a condition as the page of another did. -/
def World.Upholds (P : Document → Prop) (w w' : World) : Prop :=
  w.Holds P → w'.Holds P

namespace World

variable {P : Document → Prop} {before : Before}

theorem upholds_chained (P : Document → Prop) : Chained (Upholds P) where
  refl _ holds := holds
  trans h h' holds := h' (h holds)

theorem Upholds.of_page {w w' : World} (h : w'.page = w.page) : Upholds P w w' := by
  rintro ⟨d, page, holds⟩
  exact ⟨d, h.trans page, holds⟩

section Calls

variable (hb : Kept.Before (Upholds P) before)
include hb

/-- What is done on a page that satisfies a condition is done on such a page, whatever comes before. -/
theorem Holds.onPage {α : Type} (kinds : Document → List CallKind)
    (act : Document → Except Failure α × Document) (step : ∀ d, P d → P (act d).2) {w : World}
    (holds : w.Holds P) :
    ((World.onPage before kinds act).run w).2.Holds P ∧
      ∀ a, ((World.onPage before kinds act).run w).1 = .ok a → ∃ d, P d ∧ (act d).1 = .ok a := by
  obtain ⟨w₁, h, ⟨e, eq⟩ | ⟨d, page, eq⟩⟩ := (upholds_chained P).onPage hb kinds act w
  · rw [eq]
    exact ⟨h holds, fun a impossible => by cases impossible⟩
  · obtain ⟨d', page', holds'⟩ := h holds
    obtain rfl := Option.some.inj (page.symm.trans page')
    rw [eq]
    exact ⟨⟨_, rfl, step d holds'⟩, fun a ok => ⟨d, holds', ok⟩⟩

/-- A program that makes safe calls only keeps what safe calls keep. -/
theorem Holds.run {α : Type} {safe : Call → Prop} {truthful : (c : Call) → c.Answer → Prop}
    (perform : ∀ d, P d → ∀ c, safe c →
      P (c.perform d).2 ∧ ∀ a, (c.perform d).1 = .ok a → truthful c a)
    {Q : α → Prop} {x : Program α} (obeys : x.Obeys safe truthful Q) {w : World} (holds : w.Holds P) :
    ((World.run before x).run w).2.Holds P := by
  induction x generalizing w with
  | done a => exact holds
  | call c next ih =>
    obtain ⟨hc, hnext⟩ := obeys
    rw [World.run, run_bind_apply]
    obtain ⟨kept, answered⟩ := Holds.onPage hb (fun d => c.kinds d) c.perform
      (fun d hd => (perform d hd c hc).1) holds
    refine ih _ (hnext _ fun a ok => ?_) kept
    obtain ⟨d, hd, answer⟩ := answered a ok
    exact (perform d hd c hc).2 a answer
  | report e context next ih =>
    rw [World.run, run_bind_apply]
    exact ih obeys holds

end Calls

end World

namespace Setup

variable (s : Setup)

/-! ## Runs -/

/-- What is done on a page: a form is validated, or a trigger arrives, into which others may come. -/
inductive Deed
  | pass (form : Element)
  | trigger (t : Trigger) (interventions : List Intervention := [])

/-- Does something on the page. -/
def does : Deed → StateM World Unit
  | .pass form => do
    let _ ← runPass undisturbed (s.validateForm form)
  | .trigger t interventions => do
    let _ ← s.handleWith interventions t

section Conditions

variable {s} {P : Document → Prop}

/-- A condition on pages that the passes of handlers keep, whatever comes before their calls if it
keeps the condition too, and that does not hang on what was submitted or scrolled to. -/
structure Lasting (s : Setup) (P : Document → Prop) : Prop where
  pass : ∀ {before : Before} {α : Type} {x : Pass α} {w : World},
    Kept.Before (Upholds P) before → s.Stage x → w.Holds P →
      ((runPass before x).run w).2.Holds P
  submit : ∀ {d : Document} (form : Element), P d → P (d.submit form)
  scroll : ∀ {d : Document} (e : Element), P d → P (d.scrollTo e)

variable (lasting : s.Lasting P)
include lasting

theorem Lasting.followed {before : Before} (hb : Kept.Before (Upholds P) before) :
    Followed s before (Upholds P) where
  toChained := upholds_chained P
  report _ _ := .of_page rfl
  enter _ _ := .of_page rfl
  pass stage run holds := by
    have kept := lasting.pass hb stage holds
    rwa [run] at kept
  submit {form} _ _ _ call holds := by
    have kept := (Holds.onPage hb (fun _ => [.submit, .caption]) (fun d => (.ok (), d.submit form))
      (fun d => lasting.submit form) holds).1
    rwa [call] at kept
  scroll {e} _ _ _ call holds := by
    have kept := (Holds.onPage hb (fun _ => [.scrollTo, .caption]) (fun d => (.ok (), d.scrollTo e))
      (fun d => lasting.scroll e) holds).1
    rwa [call] at kept

theorem Lasting.intervene (depth : Nat) : Kept.Before (Upholds P) (s.intervene depth) :=
  s.kept_intervene (upholds_chained P) (fun _ _ => .of_page rfl)
    (fun _ hb t w => (upholds_chained P).trans ((lasting.followed hb).handle t w) (.of_page rfl))
    depth

theorem Lasting.does (a : Deed) (w : World) : Upholds P w ((s.does a).run w).2 := by
  cases a with
  | pass form =>
    intro holds
    show ((runPass undisturbed (s.validateForm form)).run w).2.Holds P
    have undisturbed : Kept.Before (Upholds P) undisturbed := fun _ _ holds => holds
    exact lasting.pass undisturbed (.validateForm form none) holds
  | trigger t interventions =>
    have opened : Upholds P w { w with pending := interventions, interludes := [] } := .of_page rfl
    exact (upholds_chained P).trans opened
      ((lasting.followed (lasting.intervene interventions.length)).handle t _)

theorem Lasting.run (deeds : List Deed) (w : World) :
    Upholds P w ((deeds.forM s.does).run w).2 :=
  (upholds_chained P).forM lasting.does deeds w

end Conditions

/-! ## Elders last -/

variable {s} {d : Document}

theorem lasting_inherits (wf : d.WellFormed)
    (word : Text.isWord s.config.presentation.invalidClass = true)
    (apart : s.config.presentation.invalidClass ≠ s.config.presentation.feedbackClass) :
    s.Lasting (s.Inherits d) where
  pass hb stage holds := by
    have perform : ∀ d', s.Inherits d d' → ∀ c, s.Safe d c →
        s.Inherits d (c.perform d').2 ∧ ∀ a, (c.perform d').1 = .ok a → s.Truthful d c a :=
      fun d' h c safe => h.perform wf word apart safe
    cases stage with
    | binding form => exact Holds.run hb perform (obeys_binding form) holds
    | liveForm e => exact Holds.run hb perform (obeys_liveForm e) holds
    | judgeLeft e form => exact Holds.run hb perform (obeys_judgeLeft e form) holds
    | validateForm form judged => exact Holds.run hb perform (obeys_validateForm form judged) holds
  submit form h := h.step (.of_same (.refl _) rfl) rfl h.elders
  scroll e h := h.step (.of_same (.refl _) rfl) rfl h.elders

/-- The built-in rules make of a value only the same without outer blanks. -/
theorem trimmed_of_rewrites {v w : String} (h : Catalog.default.Rewrites v w) :
    w = v ∨ w = Text.trim v := by
  induction h with
  | refl => exact .inl rfl
  | tail earlier step ih =>
    obtain ⟨name, definition, q, found, rfl, puts⟩ := step
    obtain ⟨b, judge, -⟩ := builtin_default definition (List.mem_of_find?_eq_some found)
    rw [judge] at puts
    obtain rfl := eq_trim_of_puts puts
    obtain ⟨put⟩ := puts
    obtain rfl := Option.some.inj put
    rcases ih with same | same
    · exact .inr (congrArg Text.trim same)
    · rw [same, Text.trim_trim]
      exact .inr rfl

/-- On a page in which no element carries the feedback class and text areas have no children, every
element stays where it is and keeps its text whatever is done, where the classes of an accepted
configuration are two. A text area keeps its text but for outer blanks, or has what the rules of the
catalog make of it. -/
theorem elements_kept {fields : List (String × Json)} (accepted : Config.ofFields fields = .ok s.config)
    (apart : s.config.presentation.invalidClass ≠ s.config.presentation.feedbackClass)
    (wf : d.WellFormed) (unshown : ∀ l ∈ d.tree.labels, s.isFeedback l = false)
    (areas : ∀ n ∈ d.tree.nodes, n.label.tag.localName = "textarea" → n.children = .nil)
    (deeds : List Deed) {w : World} (page : w.page = some d) :
    ∃ d', ((deeds.forM s.does).run w).2.page = some d' ∧ s.Keeps d d' ∧
      (s.catalog = .default → ∀ x n₀ n, d.tree.find? x = some n₀ → d'.tree.find? x = some n →
        n.text = n₀.text ∨
          n₀.label.tag.localName = "textarea" ∧ n.text = Text.trim n₀.text) := by
  have word := (Config.accepted_of_ofFields accepted).presentation.invalidClass
  obtain ⟨d', page', h⟩ := (lasting_inherits wf word apart).run deeds w
    ⟨d, page, .refl wf unshown areas⟩
  refine ⟨d', page', h.keeps wf, fun default x n₀ n found₀ found => ?_⟩
  obtain ⟨n', found', elder⟩ := (h.keeps wf).elder x n₀ found₀
  obtain rfl := Option.some.inj (found.symm.trans found')
  by_cases area : n₀.label.tag.localName = "textarea"
  · have rewritten := (elder.area area).2.2
    rw [default] at rewritten
    exact (trimmed_of_rewrites rewritten).imp_right fun trimmed => ⟨area, trimmed⟩
  · exact .inl (elder.text area)

/-! ## Fields with and without a class of their own -/

/-- A form with a text area and a field that is required, both with rules. -/
def areaAndField : Document where
  tree := .cons ⟨0, .element "form", [("data-validate-on-submit", "true"), ("data-validate-on-blur", "true")]⟩
    "" (.cons ⟨1, .element "textarea", [("data-validate-validation", "trim")]⟩ " x " .nil ""
      (.cons ⟨2, .element "input", [("data-validate-validation", "required")]⟩ "" .nil "" .nil)) "" .nil
  fresh := 3

/-- A world with a page. -/
def worldOf (d : Document) : World where
  page := some d
  collector := { command := "engine", limit := 500 }

theorem elements_kept_of_three :
    let deeds : List Deed := [.pass 0, .trigger (.submit 0), .trigger (.blur 2) [⟨none, 3, [.submit 0], none⟩]]
    ((deeds.forM ({} : Setup).does).run (worldOf areaAndField)).2.page.map (·.tree.ids) = some [0, 1, 2, 3] ∧
    ∃ d', ((deeds.forM ({} : Setup).does).run (worldOf areaAndField)).2.page = some d' ∧
      ({} : Setup).Keeps areaAndField d' ∧
      (({} : Setup).catalog = .default → ∀ x n₀ n, areaAndField.tree.find? x = some n₀ →
        d'.tree.find? x = some n →
        n.text = n₀.text ∨
          n₀.label.tag.localName = "textarea" ∧ n.text = Text.trim n₀.text) :=
  ⟨by decide +kernel,
    elements_kept (s := {}) Config.ofFields_nil (by decide) (by decide) (by decide) (by decide) _ rfl⟩

/-- The class of feedback is that of invalid fields too. -/
def oneClass : Setup where
  config := { presentation := { invalidClass := "x", feedbackClass := "x" } }

/-- A form with two fields that are required, the first of which has a value. -/
def twoRequired : Document where
  tree := .cons ⟨0, .element "form", []⟩ ""
    (.cons ⟨1, .element "input", [("name", "a"), ("data-validate-validation", "required"), ("value", "v")]⟩
      "" .nil ""
      (.cons ⟨2, .element "input", [("name", "b"), ("data-validate-validation", "required")]⟩ "" .nil "" .nil))
    "" .nil
  fresh := 3

/-- Where both classes are the same, which is accepted, a field that was found invalid is taken out
of the page when the valid one before it is validated again. -/
theorem field_lost :
    Config.ofFields [("presentation",
      .object [("invalidClass", .text "x"), ("feedbackClass", .text "x")])] = .ok oneClass.config ∧
    (∀ l ∈ twoRequired.tree.labels, oneClass.isFeedback l = false) ∧
    (∀ n ∈ twoRequired.tree.nodes, n.label.tag.localName = "textarea" → n.children = .nil) ∧
    ((([.pass 0, .pass 0] : List Deed).forM oneClass.does).run (worldOf twoRequired)).2.page.map
      (·.tree.ids.filter (· < twoRequired.fresh)) = some [0, 1] := by
  decide +kernel

end Setup

end FormGate
