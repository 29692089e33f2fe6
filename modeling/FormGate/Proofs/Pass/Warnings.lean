import FormGate.Proofs.Document.Labels
import FormGate.Proofs.Pass.Judging
import FormGate.Proofs.Rule.Grammar

/-!
# What a pass warns of

A pass over a form warns where a field is described and where a rule cannot be applied, and nowhere
else (`Setup.Admits.validateForm`). While all rule texts of a page are clean, nothing is reported when its
fields are described, so that what a pass reports was met when a rule was applied. No call of a pass
over a form makes a rule text that is not clean, provided that the rules do not stand in an attribute
that the page is changed by (`Setup.admits_cleans`).
-/

namespace FormGate

open Markup Pass

variable {α β : Type}

/-! ## Describing a field -/

namespace Setup

variable {s : Setup} {d : Document} {e : Element}

/-- Nothing is reported of an element exactly if its rule text is clean. -/
theorem describing_eq_nil : s.describing d e = [] ↔
    ∀ raw, d.attribute? e s.config.attributes.rules = some raw → s.catalog.Clean raw := by
  unfold describing
  cases d.attribute? e s.config.attributes.rules with
  | none => simp
  | some raw =>
    dsimp only
    rw [List.append_eq_nil_iff, readReports, List.map_eq_nil_iff]
    simp only [Option.some.injEq, forall_eq', Catalog.clean_iff]
    refine and_congr ?_ Iff.rfl
    split_ifs with blank <;> simp [blank]

/-- What is reported when an element is described, also where that breaks off. -/
theorem told_describe (s : Setup) (e : Element) (d : Document) :
    (s.describe e).told d = s.describing d e := by
  cases field : d.attribute? e s.config.attributes.rules with
  | some raw => exact (s.runs_describe field).told
  | none =>
    have asked : (ask (.attributeOf e s.config.attributes.rules)).on d = (.ok none, d) :=
      congrArg (fun a => (Except.ok a, d)) field
    unfold describing describe
    rw [field, told_bind]
    show (_ >>= _ : Pass Descriptor).told d = []
    rw [told_bind, asked]
    rfl

end Setup

/-! ## Warnings of one kind -/

namespace Pass

/-- From pages of a kind a pass leads to pages of that kind, and its warnings are of a kind, whether it
ends or breaks off. -/
structure Warns (I : Document → Prop) (T : Failure × Context → Prop) (x : Pass α) : Prop where
  keeps : ∀ {d}, I d → I (x.on d).2
  told : ∀ {d}, I d → ∀ t ∈ x.told d, T t

namespace Warns

variable {I : Document → Prop} {T : Failure × Context → Prop}

theorem of_reads {x : Pass α} (reads : x.Reads) (told : ∀ {d}, I d → ∀ t ∈ x.told d, T t) :
    x.Warns I T where
  keeps {d} h := by rwa [reads d]
  told := told

theorem pure (a : α) : (pure a : Pass α).Warns I T :=
  of_reads (.pure a) fun _ _ none => (List.not_mem_nil none).elim

theorem throw (e : Failure) : (throw e : Pass α).Warns I T :=
  of_reads (.throw e) fun _ _ none => (List.not_mem_nil none).elim

theorem ask {c : Call} (h : ∀ {d}, I d → I (c.perform d).2) : (ask c).Warns I T where
  keeps := h
  told _ _ none := (List.not_mem_nil none).elim

theorem report {e : Failure} {context : Context} (h : T (e, context)) :
    (report e context).Warns I T :=
  of_reads (.report e context) fun _ _ only => List.mem_singleton.1 only ▸ h

theorem bind {x : Pass α} {f : α → Pass β} (hx : x.Warns I T) (hf : ∀ a, (f a).Warns I T) :
    (x >>= f).Warns I T where
  keeps {d} h := by
    rw [on_bind]
    cases (x.on d).1 with
    | ok a => exact (hf a).keeps (hx.keeps h)
    | error e => exact hx.keeps h
  told {d} h t ht := by
    rw [told_bind, List.mem_append] at ht
    rcases ht with first | later
    · exact hx.told h t first
    · cases result : (x.on d).1 with
      | ok a =>
        rw [result] at later
        exact (hf a).told (hx.keeps h) t later
      | error e =>
        rw [result] at later
        exact (List.not_mem_nil later).elim

theorem catchFault {x : Pass α} (hx : x.Warns I T) : (catchFault x).Warns I T where
  keeps {d} h := by
    show I (((ExceptT.run x).bind _).on d).2
    rw [Program.on_bind]
    exact hx.keeps h
  told {d} h t ht := by
    change t ∈ ((ExceptT.run x).bind _).told d at ht
    rw [Program.told_bind, List.mem_append] at ht
    exact ht.elim (hx.told h t) fun none => (List.not_mem_nil none).elim

theorem mapM {f : α → Pass β} (hf : ∀ x, (f x).Warns I T) (xs : List α) :
    (xs.mapM f).Warns I T := by
  induction xs with
  | nil => exact .pure []
  | cons x xs ih =>
    rw [List.mapM_cons]
    exact (hf x).bind fun _ => ih.bind fun _ => .pure _

theorem forM {f : α → Pass Unit} (hf : ∀ x, (f x).Warns I T) (xs : List α) :
    (xs.forM f).Warns I T := by
  induction xs with
  | nil => exact .pure ()
  | cons x xs ih => exact (hf x).bind fun _ => ih

theorem foldlM {f : β → α → Pass β} (hf : ∀ b x, (f b x).Warns I T) (xs : List α) (b : β) :
    (xs.foldlM f b).Warns I T := by
  induction xs generalizing b with
  | nil => exact .pure b
  | cons x xs ih =>
    rw [List.foldlM_cons]
    exact (hf b x).bind fun b => ih b

theorem question {c : Call} (h : ∀ d, (c.perform d).2 = d) : (Pass.ask c).Warns I T :=
  .ask fun {d} kind => by rwa [h d]

theorem of_silent {x : Pass α} {r : Document → α} (silent : ∀ d, x.Runs d (r d) d []) :
    x.Warns I T where
  keeps {d} h := by rwa [show x.on d = (.ok (r d), d) from (silent d).yields]
  told {d} _ t ht := by
    rw [(silent d).told] at ht
    exact (List.not_mem_nil ht).elim

end Warns

end Pass

/-! ## The warnings of a pass over a form -/

namespace Setup

variable (s : Setup) {I : Document → Prop} {T : Failure × Context → Prop}

theorem warns_lookup (scope : Option Element) (reference : String) :
    (s.lookup scope reference).Warns I T := by
  unfold lookup
  refine .bind (.question fun _ => rfl) fun found => ?_
  split
  · exact .throw _
  · refine .bind (.question fun _ => rfl) fun name => ?_
    split
    · exact .throw _
    · split_ifs
      · exact .throw _
      · exact .bind (.of_silent (s.runs_settledValue _)) fun _ => .pure _
  · exact .throw _

theorem warns_settle {lookup : String → Pass (Except Fault Referenced)}
    (hl : ∀ r, (lookup r).Warns I T) (j : Judgement) : (j.settle lookup).Warns I T := by
  induction j with
  | verdict v => exact .pure _
  | fault f => exact .pure _
  | consult reference next ih => exact .bind (hl reference) fun found => ih found

theorem warns_judge {lookup : String → Pass Referenced} (hl : ∀ r, (lookup r).Warns I T) (r : Rule)
    (q : Question) : (s.judge lookup r q).Warns I T := by
  unfold judge
  split
  · exact .pure _
  · exact warns_settle (fun reference => .catchFault (hl reference)) _

/-- Kinds of pages and of warnings to which a pass over a form keeps: no call leads to a page of another
kind, and neither where a field of such a page is described nor where a rule cannot be applied there is
a warning of another kind. -/
structure Admits (I : Document → Prop) (T : Failure × Context → Prop) : Prop where
  perform : ∀ {d}, I d → ∀ c : Call, I (c.perform d).2
  described : ∀ {d}, I d → ∀ e, ∀ t ∈ s.describing d e, T t
  applied : ∀ (f : Descriptor) (r : Rule) found, ∀ t ∈ ruleReports f r found, T t

namespace Admits

variable {s} (admits : s.Admits I T)
include admits

theorem ask (c : Call) : (Pass.ask c).Warns I T :=
  .ask fun kind => admits.perform kind c

theorem describe (e : Element) : (s.describe e).Warns I T :=
  .of_reads (s.reads_describe e) fun kind t ht => by
    rw [told_describe] at ht
    exact admits.described kind e t ht

theorem applyRule (f : Descriptor) (checked : Bool) (scope : Option Element) (p : Progress)
    (r : Rule) : (s.applyRule f checked (s.lookup scope) p r).Warns I T := by
  refine .bind (s.warns_judge (s.warns_lookup scope) r _) fun found => ?_
  cases found with
  | ok v => exact .pure _
  | error e => exact .bind (.report (admits.applied f r (.error e) _ List.mem_cons_self)) fun _ => .pure _

theorem evaluate (f : Descriptor) (scope : Option Element) : (s.evaluate f scope).Warns I T := by
  have applied (scope : Option Element) : (do
      let value ← Pass.ask (.value f.element)
      let checked ← tickedOf f.element f.kind
      let p ← f.rules.foldlM (s.applyRule f checked (s.lookup scope)) ⟨value, []⟩
      if p.value == value then return ⟨p.errors, none⟩
      else
        Pass.ask (.setValue f.element p.value)
        return ⟨p.errors, some p.value⟩ : Pass Outcome).Warns I T := by
    refine .bind (admits.ask _) fun value => .bind (.of_silent (runs_tickedOf _ _)) fun _ => ?_
    refine .bind (.foldlM (admits.applyRule f _ scope) f.rules _) fun p => ?_
    split_ifs
    · exact .pure _
    · exact .bind (admits.ask _) fun _ => .pure _
  cases scope with
  | some e => exact applied (some e)
  | none => exact .bind (admits.ask _) applied

theorem applyFeedback (e : Element) (o : Outcome) : (s.applyFeedback e o).Warns I T := by
  refine .bind (admits.ask _) fun existing => ?_
  split_ifs
  · exact .bind (.forM (fun f => admits.ask _) existing) fun _ => admits.ask _
  · cases existing with
    | nil => exact .bind (admits.ask _) fun _ => admits.ask _
    | cons first more =>
      exact .bind (admits.ask _) fun _ =>
        .bind (.forM (fun f => admits.ask _) more) fun _ => admits.ask _

theorem validateField (e : Element) (scope : Option Element) : (s.validateField e scope).Warns I T := by
  refine .bind (.bind (admits.describe e) fun f => ?_) fun r => ?_
  · exact .bind (admits.evaluate f scope) fun _ => .pure _
  · exact .bind (admits.applyFeedback e r.2) fun _ => .pure _

/-- A pass over a form keeps to the kinds of pages and of warnings that its fields admit. -/
theorem validateForm (scope : Element) : (s.validateForm scope).Warns I T := by
  refine .bind (admits.ask _) fun elements => ?_
  refine .bind (.mapM (fun e => admits.validateField e _) elements) fun fields => ?_
  refine .bind (.bind (admits.ask _) fun controls => ?_) fun _ => .pure _
  exact .forM (fun c => admits.ask _) controls

end Admits

/-! ## Clean rule texts -/

/-- A warning that was met when a rule was applied. -/
def Applying (t : Failure × Context) : Prop :=
  t.2.operation = "evaluate_rule"

/-- Whether the rule text of a label is clean, if it has one. -/
def CleanLabel (l : Label) : Prop :=
  ∀ raw, l.get? s.config.attributes.rules = some raw → s.catalog.Clean raw

/-- Whether all rule texts of a page are clean. -/
abbrev Cleans (d : Document) : Prop :=
  d.All s.CleanLabel

variable {s}

theorem Cleans.describing {d : Document} (h : s.Cleans d) (e : Element) : s.describing d e = [] := by
  rw [describing_eq_nil]
  intro raw field
  obtain ⟨l, label, holds⟩ := Option.bind_eq_some_iff.1 field
  exact h.label? label raw holds

section Untouched

variable (untouched : s.config.attributes.rules ∉ Document.touched)
include untouched

/-- What is changed on a page leaves its rule texts alone. -/
theorem stable_cleanLabel : Label.Stable s.CleanLabel where
  set {l a} h listed v := fun raw held => by
    have other : s.config.attributes.rules ≠ a := fun same => untouched (same ▸ listed)
    rw [Label.get?_set_of_ne v other] at held
    exact h raw held
  erase {l a} h listed := fun raw held => by
    have other : s.config.attributes.rules ≠ a := fun same => untouched (same ▸ listed)
    rw [Label.get?_erase_of_ne other] at held
    exact h raw held
  holding h _ := h
  lineBreak _ _ id := by
    rintro raw ⟨⟩

theorem cleans_perform {d : Document} (clean : s.Cleans d) (c : Call) : s.Cleans (c.perform d).2 := by
  refine clean.perform (stable_cleanLabel untouched) ?_
  cases c with
  | insertFeedback e tag classes lines =>
    intro l space _ _ id raw held
    -- all that a feedback element carries is its classes
    have carried : s.config.attributes.rules = "class" ∧ " ".intercalate classes = raw := by
      simpa [Label.get?] using held
    exact absurd (carried.1 ▸ (by decide : "class" ∈ Document.touched)) untouched
  | _ => trivial

/-- A pass over a form of a page whose rule texts are clean keeps them clean, and warns only of rules
that cannot be applied. -/
theorem admits_cleans : s.Admits s.Cleans Applying where
  perform := cleans_perform untouched
  described clean e t ht := by
    rw [Cleans.describing clean] at ht
    exact (List.not_mem_nil ht).elim
  applied f r found t ht := by
    cases found with
    | ok v => exact (List.not_mem_nil ht).elim
    | error e => exact List.mem_singleton.1 ht ▸ rfl

end Untouched

end Setup

end FormGate
