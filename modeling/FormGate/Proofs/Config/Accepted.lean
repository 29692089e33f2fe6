import FormGate.Config.Schema

/-!
# Accepted configurations

Whatever a configuration is read from, all its names of attributes, classes and tags are words, and
it keeps one diagnostic at least. Nothing else is asked: any two of the names may be the same.
-/

namespace FormGate

namespace Checked

variable {α β : Type}

/-- Problems are kept, so a value comes out only where both parts are values. -/
theorem ap_eq_ok {f : Checked (α → β)} {a : Checked α} {b : β} (h : ap f a = .ok b) :
    ∃ g x, f = .ok g ∧ a = .ok x ∧ g x = b := by
  cases f with
  | ok g =>
    cases a with
    | ok x =>
      cases h
      exact ⟨g, x, rfl, rfl, rfl⟩
    | error es => cases h
  | error es => cases a <;> cases h

theorem under_eq_ok {step : PathStep} {c : Checked α} {a : α} (h : c.under step = .ok a) :
    c = .ok a := by
  cases c with
  | ok b =>
    cases h
    rfl
  | error es => cases h

end Checked

namespace Schema

variable {α : Type} {P : α → Prop}

theorem of_setting {fields : List (String × Json)} {read : Json → Checked α} {default : α}
    (hread : ∀ j a, read j = .ok a → P a) (hdefault : P default) {names : List String} {a : α}
    (h : setting fields read default names = .ok a) : P a := by
  induction names with
  | nil =>
    cases h
    exact hdefault
  | cons name names ih =>
    unfold setting at h
    split at h
    · rename_i j _
      exact hread j a (Checked.under_eq_ok h)
    · exact ih h

theorem of_group {fields : List (String × Json)} {name : String}
    {read : List (String × Json) → Checked α} (hread : ∀ inner a, read inner = .ok a → P a) {a : α}
    (h : group fields name read = .ok a) : P a := by
  unfold group at h
  split at h
  · exact hread [] a h
  · exact hread _ a (Checked.under_eq_ok h)
  · cases h

theorem isWord_of_word {what : String} (j : Json) (s : String) (h : word what j = .ok s) :
    Text.isWord s = true := by
  unfold word at h
  split at h
  · cases h
  · split at h
    · rename_i s' _ ok
      cases h
      exact ok
    · cases h

theorem isWord_of_wordList {what : String} (j : Json) (ss : List String)
    (h : wordList what j = .ok ss) : ∀ s ∈ ss, Text.isWord s = true := by
  unfold wordList at h
  split at h
  · split at h
    · cases h
    · split at h
      · rename_i none
        cases h
        simpa using none
      · cases h
  · cases h

theorem pos_of_positive (j : Json) (n : Nat) (h : positive j = .ok n) : 0 < n := by
  unfold positive at h
  split at h
  · cases h
  · split at h
    · cases h
    · cases h
      omega

end Schema

/-! ## Configurations -/

structure Config.Attributes.Worded (a : Config.Attributes) : Prop where
  rules : Text.isWord a.rules = true
  onSubmit : Text.isWord a.onSubmit = true
  onBlur : Text.isWord a.onBlur = true
  scroll : Text.isWord a.scroll = true

/-- All classes of feedback and its tag are words. -/
structure Config.Presentation.Worded (p : Config.Presentation) : Prop where
  invalidClass : Text.isWord p.invalidClass = true
  feedbackClass : Text.isWord p.feedbackClass = true
  extraClasses : ∀ c ∈ p.feedbackExtraClasses, Text.isWord c = true
  tag : Text.isWord p.feedbackTag = true

theorem Schema.worded_attributes (fields : List (String × Json)) (a : Config.Attributes)
    (h : attributes fields = .ok a) : a.Worded := by
  unfold attributes at h
  obtain ⟨_, _, h₁, -, rfl⟩ := Checked.ap_eq_ok h
  obtain ⟨_, _, h₂, scroll, rfl⟩ := Checked.ap_eq_ok h₁
  obtain ⟨_, _, h₃, onBlur, rfl⟩ := Checked.ap_eq_ok h₂
  obtain ⟨_, _, h₄, onSubmit, rfl⟩ := Checked.ap_eq_ok h₃
  obtain ⟨_, _, h₅, rules, rfl⟩ := Checked.ap_eq_ok h₄
  cases h₅
  exact ⟨of_setting isWord_of_word (by decide) rules, of_setting isWord_of_word (by decide) onSubmit,
    of_setting isWord_of_word (by decide) onBlur, of_setting isWord_of_word (by decide) scroll⟩

theorem Schema.worded_presentation (fields : List (String × Json)) (p : Config.Presentation)
    (h : presentation fields = .ok p) : p.Worded := by
  unfold presentation at h
  obtain ⟨_, _, h₁, tag, rfl⟩ := Checked.ap_eq_ok h
  obtain ⟨_, _, h₂, extra, rfl⟩ := Checked.ap_eq_ok h₁
  obtain ⟨_, _, h₃, feedback, rfl⟩ := Checked.ap_eq_ok h₂
  obtain ⟨_, _, h₄, invalid, rfl⟩ := Checked.ap_eq_ok h₃
  cases h₄
  exact ⟨of_setting isWord_of_word (by decide) invalid, of_setting isWord_of_word (by decide) feedback,
    of_setting isWord_of_wordList (by decide) extra, of_setting isWord_of_word (by decide) tag⟩

namespace Config

/-- What holds of every configuration that is accepted. -/
structure Accepted (c : Config) : Prop where
  attributes : c.attributes.Worded
  presentation : c.presentation.Worded
  maxRetained : 0 < c.maxRetained

theorem accepted_of_ofFields {fields : List (String × Json)} {c : Config}
    (h : ofFields fields = .ok c) : c.Accepted := by
  unfold ofFields at h
  obtain ⟨_, _, h₁, -, rfl⟩ := Checked.ap_eq_ok h
  obtain ⟨_, _, h₂, -, rfl⟩ := Checked.ap_eq_ok h₁
  obtain ⟨_, _, h₃, retained, rfl⟩ := Checked.ap_eq_ok h₂
  obtain ⟨_, _, h₄, -, rfl⟩ := Checked.ap_eq_ok h₃
  obtain ⟨_, _, h₅, presentation, rfl⟩ := Checked.ap_eq_ok h₄
  obtain ⟨_, _, h₆, attributes, rfl⟩ := Checked.ap_eq_ok h₅
  cases h₆
  refine ⟨Schema.of_group Schema.worded_attributes attributes,
    Schema.of_group Schema.worded_presentation presentation, ?_⟩
  exact Schema.of_group (P := fun n : Nat => 0 < n)
    (fun _ _ read => Schema.of_setting Schema.pos_of_positive (by decide) read) retained

theorem ofFields_nil : ofFields [] = .ok {} := by
  rfl

/-- The configuration of a file, and that of no file, is accepted. -/
theorem accepted_of_ofText {s : String} {c : Config} (read : ofText s = .ok c) : c.Accepted := by
  unfold ofText at read
  split at read
  · cases read
  · cases read
  · split at read
    · rename_i accepted
      cases read
      exact accepted_of_ofFields accepted
    · cases read
  · cases read

theorem accepted_of_load {path : String} {text : Option String} {c : Config}
    (loaded : load path text = .ok c) : c.Accepted := by
  cases text with
  | none =>
    cases loaded
    exact accepted_of_ofFields ofFields_nil
  | some s =>
    cases read : ofText s with
    | ok c' =>
      rw [load, read] at loaded
      cases loaded
      exact accepted_of_ofText read
    | error fault =>
      rw [load, read] at loaded
      cases loaded

/-- A file is refused with the failure of what is wrong with it. -/
theorem failure_of_load {path : String} {text : Option String} {e : Failure}
    (refused : load path text = .error e) :
    ∃ s fault, text = some s ∧ ofText s = .error fault ∧ e = fault.failure path := by
  cases text with
  | none => cases refused
  | some s =>
    cases read : ofText s with
    | ok c =>
      rw [load, read] at refused
      cases refused
    | error fault =>
      rw [load, read] at refused
      exact ⟨s, fault, rfl, read, (Except.error.inj refused).symm⟩

end Config

end FormGate
