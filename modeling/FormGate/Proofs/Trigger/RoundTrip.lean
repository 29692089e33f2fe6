import FormGate.Proofs.Document.Plain
import FormGate.Proofs.Trigger.Survival

/-!
# Pages that are read, changed and written

A page that was read stays under the element that was read, whatever passes, triggers and values
change on it. So if it is then in one namespace, or in none, it can be written, and what is written is
read as the same page (`Setup.read_back`).
-/

namespace FormGate

open Document Markup World

/-! ## The content of a page -/

/-- A forest without the numbers of its elements: their tags, attributes and texts. -/
def Markup.Forest.unnumbered (f : Forest) : Forest :=
  f.relabel fun l => { l with id := 0 }

theorem Markup.Forest.unnumbered_numbered (f : Forest) (k : Nat) :
    (f.numbered k).unnumbered = f.unnumbered := by
  unfold unnumbered
  induction f generalizing k with
  | nil => rfl
  | cons l t c tail next ihc ih =>
    rw [numbered, relabel_cons, relabel_cons, ihc, ih]

/-! ## Changes -/

/-- A condition that every call keeps, and that does not hang on what was submitted or scrolled to, is
kept by all that handlers do. -/
theorem World.handling_upholds {P : Document → Prop} (perform : ∀ d, P d → ∀ c : Call, P (c.perform d).2)
    (submit : ∀ d, P d → ∀ form, P (d.submit form)) (scroll : ∀ d, P d → ∀ e, P (d.scrollTo e)) :
    Kept.Handling (Upholds P) where
  toChained := upholds_chained P
  perform := by
    rintro w d c page ⟨d', page', holds⟩
    obtain rfl := Option.some.inj (page.symm.trans page')
    exact ⟨_, rfl, perform d holds c⟩
  report _ _ := .of_page rfl
  enter _ _ := .of_page rfl
  submit := by
    rintro w d form page ⟨d', page', holds⟩
    obtain rfl := Option.some.inj (page.symm.trans page')
    exact ⟨_, rfl, submit d holds form⟩
  scroll := by
    rintro w d e page ⟨d', page', holds⟩
    obtain rfl := Option.some.inj (page.symm.trans page')
    exact ⟨_, rfl, scroll d holds e⟩

namespace Setup

variable (s : Setup)

/-- What changes a page: a pass, whatever it calls for, a trigger, into which others may come, or a
value or a tick that is put in. -/
inductive Change
  | pass (x : Pass Unit)
  | trigger (t : Trigger) (interventions : List Intervention := [])
  | fill (field value : String) (scope : Option Element := none)
  | tick (e : Element) (on : Bool)

/-- Changes the page. -/
def change : Change → StateM World Unit
  | .pass x => do
    let _ ← runPass undisturbed x
  | .trigger t interventions => do
    let _ ← s.handleWith interventions t
  | .fill field value scope =>
    modify fun w => { w with page := w.page.map fun d => (d.fillNamed field value scope).2 }
  | .tick e on => modify fun w => { w with page := w.page.map fun d => d.setFlag e "checked" on }

section Conditions

variable {P : Document → Prop} (handling : Kept.Handling (Upholds P))
  (fill : ∀ d, P d → ∀ field value scope, P (d.fillNamed field value scope).2)
  (tick : ∀ d, P d → ∀ e on, P (d.setFlag e "checked" on))
include handling fill tick

theorem upholds_change (x : Change) (w : World) : Upholds P w ((s.change x).run w).2 := by
  cases x with
  | pass x =>
    have undisturbed : Kept.Before (Upholds P) undisturbed := fun _ _ holds => holds
    exact handling.runPass undisturbed rfl
  | trigger t interventions =>
    have opened : Upholds P w { w with pending := interventions, interludes := [] } := .of_page rfl
    have intervening : Kept.Before (Upholds P) (s.intervene interventions.length) :=
      s.kept_intervene handling.toChained (fun _ _ => .of_page rfl)
        (fun _ hb t w => handling.trans (handling.handle hb s t w) (.of_page rfl)) _
    exact handling.trans opened (handling.handle intervening s t _)
  | fill field value scope =>
    rintro ⟨d, page, holds⟩
    exact ⟨_, congrArg (Option.map _) page, fill d holds field value scope⟩
  | tick e on =>
    rintro ⟨d, page, holds⟩
    exact ⟨_, congrArg (Option.map _) page, tick d holds e on⟩

end Conditions

/-- Whatever changes a page, it stays under the element that was read. -/
theorem rooted_changes (name : String) (doctype : Option String) (changes : List Change) (w : World) :
    Upholds (Document.Rooted name doctype) w ((changes.forM s.change).run w).2 := by
  refine (upholds_chained _).forM (s.upholds_change (handling_upholds (fun d h c => h.perform c) ?_ ?_)
    (fun d h field value scope => h.fillNamed field value scope) fun d h e on => h.setChecked e on)
    changes w
  · exact fun d h form => ⟨⟨h.wellFormed.nodup, h.wellFormed.fresh⟩, h.headed, h.tidy, h.doctype⟩
  · exact fun d h e => ⟨⟨h.wellFormed.nodup, h.wellFormed.fresh⟩, h.headed, h.tidy, h.doctype⟩

/-- A page that was read and then changed in whatever way can be written if it is in one namespace or
in none, and what is written is read as a page with the same document type and the same elements, with
the same attributes and the same texts. -/
theorem read_back {text : String} {d₀ d : Document} (read : Document.ofText text = .ok d₀)
    (changes : List Change) {w : World} (page : w.page = some d₀)
    (left : ((changes.forM s.change).run w).2.page = some d) {space : Option (List Char)}
    (plain : d.Plain space) :
    ∃ written d', d.text = .ok written ∧ Document.ofText written = .ok d' ∧
      d'.doctype = d.doctype ∧ d'.tree.unnumbered = d.tree.unnumbered := by
  obtain ⟨_, _, _, name, -, -, expanded, rooted⟩ := rooted_ofText read
  obtain ⟨d₁, left', rooted⟩ := s.rooted_changes _ _ changes w ⟨d₀, page, rooted⟩
  obtain rfl := Option.some.inj (left.symm.trans left')
  obtain ⟨written, d', text, read', tree, doctype⟩ :=
    restored_of_plain rooted expanded (isDoctype_ofText read) plain
  exact ⟨written, d', text, read', doctype, by rw [tree, Forest.unnumbered_numbered]⟩

/-- A page with a field that is required and has no value, in a namespace and under a document type. Its
texts and values hold what has to be written otherwise. -/
def quoting : String :=
  "<!DOCTYPE html>\n<html xmlns=\"urn:x\" lang='\"&#13;&#10;&#9;&lt;'><form>&amp;copy; &copy;" ++
    "<input name=\"a\" data-validate-validation=\"required\"/></form>&gt;</html>"

/-- The page is validated, filled in with what looks like markup, and ticked. -/
def changesOfQuoting : List Change :=
  [.pass do
    let _ ← ({} : Setup).validateForm 1, .fill "a" "&copy;<br/>\t\r", .tick 2 true]

theorem read_back_of_quoting :
    ∃ d₀ d, Document.ofText quoting = .ok d₀ ∧
      ((changesOfQuoting.forM ({} : Setup).change).run (worldOf d₀)).2.page = some d ∧
      d.Plain (some "urn:x".toList) ∧ d.tree.labels.length = 4 ∧
      ∃ written d', d.text = .ok written ∧ Document.ofText written = .ok d' ∧
        d'.doctype = d.doctype ∧ d'.tree.unnumbered = d.tree.unnumbered := by
  have run : ((Document.ofText quoting).toOption.bind fun d₀ =>
      ((changesOfQuoting.forM ({} : Setup).change).run (worldOf d₀)).2.page).any fun d =>
        decide (d.Plain (some "urn:x".toList) ∧ d.tree.labels.length = 4) := by
    decide +kernel
  obtain ⟨d, made, plain⟩ := (Option.any_eq_true _ _).1 run
  obtain ⟨d₀, found, left⟩ := Option.bind_eq_some_iff.1 made
  obtain ⟨plain, elements⟩ := of_decide_eq_true plain
  have read := toOption_eq_some found
  exact ⟨d₀, d, read, left, plain, elements, read_back {} read changesOfQuoting rfl left plain⟩

end Setup

end FormGate
