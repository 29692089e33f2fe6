import FormGate.Proofs.Document.Extract
import FormGate.Proofs.Pass.Reports

/-!
# Passes over a form alone and in a page

A pass over a form asks for nothing and changes nothing but what is in the form. Where the page is an
image of the form alone, it therefore goes there as it goes over the form alone: it comes to the same
outcome with other numbers, leaves the image of what it makes of the form alone, and reports the same
(`Setup.mirrors_validateField`, `Setup.follows_validateForm`).
-/

namespace FormGate

open Markup Document

variable {α α' β β' : Type}

/-- A description of the field that has another number. -/
def Descriptor.rename (number : Element → Element) (f : Descriptor) : Descriptor :=
  { f with element := number f.element }

/-- A description and an outcome of the field that has another number. -/
def Descriptor.renamed (number : Element → Element) (r : Descriptor × Outcome) :
    Descriptor × Outcome :=
  (r.1.rename number, r.2)

/-- An outcome about the fields that have other numbers. -/
def FormOutcome.rename (number : Element → Element) (o : FormOutcome) : FormOutcome :=
  ⟨o.fields.map (Descriptor.renamed number)⟩

theorem FormOutcome.valid_rename (number : Element → Element) (o : FormOutcome) :
    (o.rename number).valid = o.valid := by
  rw [valid, rename, List.all_map, valid]
  rfl

/-- An outcome is had back once its fields have their numbers back. -/
theorem FormOutcome.rename_rename {number back : Element → Element} {o : FormOutcome}
    (inverse : ∀ r ∈ o.fields, back (number r.1.element) = r.1.element) :
    (o.rename number).rename back = o := by
  have fields : (o.fields.map (Descriptor.renamed number)).map (Descriptor.renamed back) =
      o.fields := by
    rw [List.map_map]
    refine (List.map_congr_left fun r hr => ?_).trans (List.map_id _)
    exact congrArg (fun e => ({ r.1 with element := e }, r.2)) (inverse r hr)
  exact congrArg FormOutcome.mk fields

theorem Document.Alone.on (x : Program α) {start : Nat} {d : Document} (alone : d.Alone start) :
    (x.on d).2.Alone start := by
  induction x generalizing d with
  | done a => exact alone
  | call c next ih => exact ih _ (alone.perform c)
  | report e context next ih => exact ih alone

namespace Pass

variable {E : Embedding} {d : Document}

/-- On the image of a page a pass does what another one does on the page: it comes to the same with
other numbers, leaves the image of the page that the other one leaves, and reports the same. -/
structure Follows (E : Embedding) (m : α → α') (x : Pass α) (y : Pass α') (d : Document) : Prop where
  result : (y.on (E.image d)).1 = (x.on d).1.map m
  page : (y.on (E.image d)).2 = E.image (x.on d).2
  told : y.told (E.image d) = x.told d

/-- A pass follows another one on the images of all forms alone. -/
def Mirrors (E : Embedding) (m : α → α') (x : Pass α) (y : Pass α') : Prop :=
  ∀ d : Document, d.Alone E.start → Follows E m x y d

theorem Follows.bind {m : α → α'} {m' : β → β'} {x : Pass α} {y : Pass α'} {f : α → Pass β}
    {g : α' → Pass β'} (hx : Follows E m x y d)
    (hf : ∀ a, (x.on d).1 = .ok a → Follows E m' (f a) (g (m a)) (x.on d).2) :
    Follows E m' (x >>= f) (y >>= g) d := by
  have found := hx.result
  cases first : (x.on d).1 with
  | error e =>
    rw [first] at found
    constructor
    · rw [on_bind, on_bind, found, first]
      rfl
    · rw [on_bind, on_bind, found, first]
      exact hx.page
    · rw [told_bind, told_bind, found, first, hx.told]
      rfl
  | ok a =>
    have later := hf a first
    rw [first] at found
    constructor
    · rw [on_bind, on_bind, found, first, hx.page]
      exact later.result
    · rw [on_bind, on_bind, found, first, hx.page]
      exact later.page
    · rw [told_bind, told_bind, found, first, hx.page, hx.told]
      exact congrArg (_ ++ ·) later.told

namespace Mirrors

theorem pure (m : α → α') (a : α) : Mirrors E m (pure a) (pure (m a)) :=
  fun _ _ => ⟨rfl, rfl, rfl⟩

theorem throw (m : α → α') (e : Failure) : Mirrors E m (throw e) (throw e) :=
  fun _ _ => ⟨rfl, rfl, rfl⟩

theorem report (e : Failure) (context : Context) : Mirrors E id (report e context) (report e context) :=
  fun _ _ => ⟨rfl, rfl, rfl⟩

theorem bind {m : α → α'} {m' : β → β'} {x : Pass α} {y : Pass α'} {f : α → Pass β}
    {g : α' → Pass β'} (hx : Mirrors E m x y) (hf : ∀ a, Mirrors E m' (f a) (g (m a))) :
    Mirrors E m' (x >>= f) (y >>= g) :=
  fun d alone => (hx d alone).bind fun a _ => hf a _ (alone.on x.run)

/-- Where both come to the same, they may go on in the same way. -/
theorem after {m : β → β'} {x y : Pass α} {f : α → Pass β} {g : α → Pass β'} (hx : Mirrors E id x y)
    (hf : ∀ a, Mirrors E m (f a) (g a)) : Mirrors E m (x >>= f) (y >>= g) :=
  hx.bind hf

theorem ask (c c' : Call) {m : c.Answer → c'.Answer}
    (h : ∀ d : Document, d.Alone E.start →
      c'.perform (E.image d) = ((c.perform d).1.map m, E.image (c.perform d).2)) :
    Mirrors E m (ask c) (ask c') :=
  fun d alone => ⟨congrArg Prod.fst (h d alone), congrArg Prod.snd (h d alone), rfl⟩

theorem reportAll (reports : List (Failure × Context)) :
    Mirrors E id (reportAll reports) (reportAll reports) := by
  induction reports with
  | nil => exact pure id ()
  | cons p reports ih => exact (report p.1 p.2).after fun _ => ih

theorem forM {f : α → Pass Unit} {g : α' → Pass Unit} {m : α → α'} {xs : List α}
    (hf : ∀ x ∈ xs, Mirrors E id (f x) (g (m x))) : Mirrors E id (xs.forM f) ((xs.map m).forM g) := by
  induction xs with
  | nil => exact pure id ()
  | cons x xs ih =>
    rw [List.forall_mem_cons] at hf
    exact hf.1.after fun _ => ih hf.2

theorem mapM {f : α → Pass β} {g : α' → Pass β'} {m : α → α'} {m' : β → β'} {xs : List α}
    (hf : ∀ x ∈ xs, Mirrors E m' (f x) (g (m x))) :
    Mirrors E (List.map m') (xs.mapM f) ((xs.map m).mapM g) := by
  induction xs with
  | nil => exact pure (List.map m') []
  | cons x xs ih =>
    rw [List.forall_mem_cons] at hf
    rw [List.map_cons, List.mapM_cons, List.mapM_cons]
    exact hf.1.bind fun y => (ih hf.2).bind fun ys => pure (List.map m') (y :: ys)

theorem foldlM {f g : β → α → Pass β} (hf : ∀ b a, Mirrors E id (f b a) (g b a)) (xs : List α)
    (b : β) : Mirrors E id (xs.foldlM f b) (xs.foldlM g b) := by
  induction xs generalizing b with
  | nil => exact pure id b
  | cons x xs ih =>
    rw [List.foldlM_cons, List.foldlM_cons]
    exact (hf b x).after ih

theorem catchFault {x y : Pass α} (hx : Mirrors E id x y) :
    Mirrors E id (catchFault x) (catchFault y) := by
  intro d alone
  obtain ⟨result, page, told⟩ := hx d alone
  have same : (x.on d).1.map id = (x.on d).1 := by
    cases (x.on d).1 <;> rfl
  rw [same] at result
  have result : (y.run.on (E.image d)).1 = (x.run.on d).1 := result
  have told : y.run.told (E.image d) = x.run.told d := told
  constructor
  · show ((y.run.bind _).on (E.image d)).1 = Except.map id ((x.run.bind _).on d).1
    rw [Program.on_bind, Program.on_bind, result]
    rcases (x.run.on d).1 with (f | e) | a <;> rfl
  · show ((y.run.bind _).on (E.image d)).2 = E.image ((x.run.bind _).on d).2
    rw [Program.on_bind, Program.on_bind]
    exact page
  · show (y.run.bind _).told (E.image d) = (x.run.bind _).told d
    rw [Program.told_bind, Program.told_bind, told]
    rfl

end Mirrors

/-! ## Calls -/

section Calls

variable (e scope : Element)

theorem mirrors_attributeOf (name : String) :
    Mirrors E id (ask (.attributeOf e name)) (ask (.attributeOf (E.number e) name)) :=
  .ask (.attributeOf e name) (.attributeOf (E.number e) name) fun d alone =>
    congrArg (fun a => (Except.ok a, E.image d)) (Embedding.attribute?_image alone e name)

theorem mirrors_tagName : Mirrors E id (ask (.tagName e)) (ask (.tagName (E.number e))) :=
  .ask (.tagName e) (.tagName (E.number e)) fun d alone =>
    congrArg (fun a => (Except.ok a, E.image d)) (Embedding.tagName_image alone e)

theorem mirrors_isChecked : Mirrors E id (ask (.isChecked e)) (ask (.isChecked (E.number e))) :=
  .ask (.isChecked e) (.isChecked (E.number e)) fun d alone =>
    congrArg (fun a => (Except.ok a, E.image d)) (Embedding.isChecked_image alone e)

theorem mirrors_value : Mirrors E id (ask (.value e)) (ask (.value (E.number e))) :=
  .ask (.value e) (.value (E.number e)) fun d alone =>
    congrArg (fun a => (Except.ok a, E.image d)) (Embedding.value_image alone e)

theorem mirrors_carriers (name : String) : Mirrors E (List.map E.number)
    (ask (.carriers scope name)) (ask (.carriers (E.number scope) name)) :=
  .ask (.carriers scope name) (.carriers (E.number scope) name) fun d alone =>
    congrArg (fun a => (Except.ok a, E.image d)) (Embedding.select_image alone scope fun _ => rfl)

theorem mirrors_submitControls : Mirrors E (List.map E.number)
    (ask (.submitControls scope)) (ask (.submitControls (E.number scope))) :=
  .ask (.submitControls scope) (.submitControls (E.number scope)) fun d alone =>
    congrArg (fun a => (Except.ok a, E.image d)) (Embedding.select_image alone scope fun _ => rfl)

theorem mirrors_resolve (reference : String) : Mirrors E (List.map E.number)
    (ask (.resolve reference (some scope))) (ask (.resolve reference (some (E.number scope)))) :=
  .ask (.resolve reference (some scope)) (.resolve reference (some (E.number scope)))
    fun d alone => congrArg (fun a => (Except.ok a, E.image d))
      (Embedding.resolve_image alone reference scope)

theorem mirrors_setValue (v : String) :
    Mirrors E id (ask (.setValue e v)) (ask (.setValue (E.number e) v)) :=
  .ask (.setValue e v) (.setValue (E.number e) v) fun _ alone =>
    congrArg (Prod.mk _) (Embedding.setValue_image alone e v)

theorem mirrors_addClass (name : String) :
    Mirrors E id (ask (.addClass e name)) (ask (.addClass (E.number e) name)) :=
  .ask (.addClass e name) (.addClass (E.number e) name) fun _ alone =>
    congrArg (Prod.mk _) (Embedding.modifyLabel_image alone e (Embedding.labelWithClass_label name))

theorem mirrors_removeClass (name : String) :
    Mirrors E id (ask (.removeClass e name)) (ask (.removeClass (E.number e) name)) :=
  .ask (.removeClass e name) (.removeClass (E.number e) name) fun _ alone =>
    congrArg (Prod.mk _)
      (Embedding.modifyLabel_image alone e (Embedding.labelWithoutClass_label name))

theorem mirrors_setDisabled (disabled : Bool) :
    Mirrors E id (ask (.setDisabled e disabled)) (ask (.setDisabled (E.number e) disabled)) :=
  .ask (.setDisabled e disabled) (.setDisabled (E.number e) disabled) fun _ alone =>
    congrArg (Prod.mk _) (Embedding.setFlag_image alone e "disabled" disabled)

theorem mirrors_setLines (lines : List String) :
    Mirrors E id (ask (.setLines e lines)) (ask (.setLines (E.number e) lines)) := by
  refine .ask (.setLines e lines) (.setLines (E.number e) lines) fun d alone =>
    (Embedding.setLines_image alone e lines).trans ?_
  show _ = (((Document.setLines e lines).run.run d).1.map id, _)
  cases ((Document.setLines e lines).run.run d).1 <;> rfl

variable {e} (below : e ≠ 0)
include below

theorem mirrors_remove : Mirrors E id (ask (.remove e)) (ask (.remove (E.number e))) :=
  .ask (.remove e) (.remove (E.number e)) fun _ alone =>
    congrArg (Prod.mk _) (Embedding.remove_image alone below)

theorem mirrors_feedback (name : String) : Mirrors E (List.map E.number)
    (ask (.feedback e name)) (ask (.feedback (E.number e) name)) :=
  .ask (.feedback e name) (.feedback (E.number e) name) fun d alone =>
    congrArg (fun a => (a, E.image d)) (Embedding.feedback_image alone below name)

theorem follows_insertFeedback (alone : d.Alone E.start) {p : Element} (parent : d.parent? e = some p)
    (tag : String) (classes lines : List String) :
    Follows E id (ask (.insertFeedback e tag classes lines))
      (ask (.insertFeedback (E.number e) tag classes lines)) d := by
  obtain ⟨result, page⟩ := Embedding.insertFeedback_image alone below parent tag classes lines
  refine ⟨result.trans ?_, page, rfl⟩
  show _ = (((Document.insertFeedback e tag classes lines).run.run d).1.map fun _ => ()).map id
  cases ((Document.insertFeedback e tag classes lines).run.run d).1 <;> rfl

end Calls

/-! ## The kind of a field -/

theorem mirrors_kindOf (e : Element) : Mirrors E id (kindOf e) (kindOf (E.number e)) := by
  refine (mirrors_tagName e).after fun tag => ?_
  split_ifs
  · exact (mirrors_attributeOf e "type").after fun _ => .pure id _
  · exact .pure id _
  · exact .pure id _

theorem mirrors_tickedOf (e : Element) (kind : FieldKind) :
    Mirrors E id (tickedOf e kind) (tickedOf (E.number e) kind) := by
  cases kind with
  | checkbox => exact mirrors_isChecked e
  | text | other => exact .pure id false

end Pass

/-! ## Feedback stands below a form -/

namespace Document.Alone

variable {start : Nat} {d : Document} (alone : d.Alone start) {e : Element} {name : String}
  {es : List Element} (found : d.feedback e name = .ok es)
include alone found

/-- Feedback was found behind an element that stands below another one, and it does so too. -/
theorem of_feedback : (∃ p, d.parent? e = some p) ∧ ∀ f ∈ es, f ≠ 0 := by
  unfold feedback at found
  cases after : d.siblingsAfter e with
  | error f =>
    rw [after] at found
    cases found
  | ok f =>
    rw [after] at found
    cases found
    obtain ⟨p, parent, following, -⟩ := mem_tree_of_siblingsAfter after
    refine ⟨⟨p, parent⟩, ?_⟩
    rintro _ member rfl
    obtain ⟨n, hn, id⟩ := List.mem_map.1 member
    have behind : n ∈ f.nodes := Forest.mem_nodes_of_mem_tops (List.takeWhile_prefix _ |>.subset hn)
    obtain ⟨l, t, c, tree, root⟩ := alone.single
    have nodup := alone.wellFormed.nodup_tree
    have below := alone.ne_zero_of_parent? parent
    rw [tree] at following nodup
    rw [Forest.following?, if_neg fun here => below (here.symm.trans root), Forest.following?,
      Option.or_none] at following
    have inside : n.label.id ∈ c.ids := Forest.id_mem_ids
      (Forest.labels_subset_of_mem_nodes (Forest.nodes_subset_of_following? following behind)
        List.mem_cons_self)
    rw [show n.label.id = 0 from id, ← root] at inside
    exact (Forest.nodup_cons nodup).1 inside

end Document.Alone

/-! ## The passes -/

namespace Setup

open Pass

variable {s : Setup} {E : Embedding} (e scope : Element)

theorem mirrors_describe :
    Mirrors E (Descriptor.rename E.number) (s.describe e) (s.describe (E.number e)) := by
  refine (mirrors_attributeOf e "name").after fun name => ?_
  refine (mirrors_attributeOf e s.config.attributes.rules).after fun raw => ?_
  cases raw with
  | none => exact .throw _ _
  | some raw =>
    have rest : Mirrors E (Descriptor.rename E.number)
        (do
          let kind ← kindOf e
          reportAll (s.readReports raw (name.filter (!·.isEmpty)))
          return ⟨e, name.filter (!·.isEmpty), kind, s.catalog.rules raw⟩)
        (do
          let kind ← kindOf (E.number e)
          reportAll (s.readReports raw (name.filter (!·.isEmpty)))
          return ⟨E.number e, name.filter (!·.isEmpty), kind, s.catalog.rules raw⟩) :=
      (mirrors_kindOf e).after fun kind => (Mirrors.reportAll _).after fun _ =>
        .pure (Descriptor.rename E.number)
          ⟨e, name.filter (!·.isEmpty), kind, s.catalog.rules raw⟩
    dsimp only
    split_ifs
    · exact (Mirrors.report _ _).after fun _ => rest
    · exact rest

theorem mirrors_settledValue :
    Mirrors E id (s.settledValue e) (s.settledValue (E.number e)) := by
  refine (mirrors_value e).after fun value => ?_
  refine (mirrors_attributeOf e s.config.attributes.rules).after fun raw => ?_
  cases raw with
  | none => exact .pure id _
  | some raw =>
    dsimp only
    split_ifs
    · exact .pure id _
    · exact (mirrors_kindOf e).after fun kind => (mirrors_tickedOf e kind).after fun _ => .pure id _

theorem mirrors_lookup (reference : String) :
    Mirrors E id (s.lookup (some scope) reference) (s.lookup (some (E.number scope)) reference) := by
  refine (mirrors_resolve scope reference).bind fun found => ?_
  rcases found with _ | ⟨other, _ | ⟨another, more⟩⟩
  · exact .throw _ _
  · refine (mirrors_attributeOf other "name").after fun name => ?_
    cases name with
    | none => exact .throw _ _
    | some name =>
      dsimp only
      split_ifs
      · exact .throw _ _
      · exact (mirrors_settledValue other).after fun _ => .pure id _
  · have count : ((other :: another :: more).map E.number).length =
        (other :: another :: more).length := List.length_map E.number
    show Mirrors E id (throw (.fault (RuleFault.ambiguous reference _).toFault))
      (throw (.fault (RuleFault.ambiguous reference
        ((other :: another :: more).map E.number).length).toFault))
    rw [count]
    exact .throw _ _

theorem mirrors_settle {lookup lookup' : String → Pass (Except Fault Referenced)}
    (hl : ∀ r, Mirrors E id (lookup r) (lookup' r)) (j : Judgement) :
    Mirrors E id (j.settle lookup) (j.settle lookup') := by
  induction j with
  | verdict v => exact .pure id _
  | fault f => exact .pure id _
  | consult reference next ih => exact (hl reference).after fun found => ih found

section Lookup

variable {lookup lookup' : String → Pass Referenced} (hl : ∀ r, Mirrors E id (lookup r) (lookup' r))
include hl

theorem mirrors_judge (r : Rule) (q : Question) :
    Mirrors E id (s.judge lookup r q) (s.judge lookup' r q) := by
  unfold judge
  split
  · exact .pure id _
  · exact mirrors_settle (fun reference => (hl reference).catchFault) _

theorem mirrors_applyRule (f : Descriptor) (checked : Bool) (p : Progress) (r : Rule) :
    Mirrors E id (s.applyRule f checked lookup p r)
      (s.applyRule (f.rename E.number) checked lookup' p r) := by
  refine (mirrors_judge hl r _).after fun found => ?_
  cases found with
  | ok v => exact .pure id _
  | error fault => exact (Mirrors.report _ _).after fun _ => .pure id _

end Lookup

theorem mirrors_evaluate (f : Descriptor) : Mirrors E id (s.evaluate f (some scope))
    (s.evaluate (f.rename E.number) (some (E.number scope))) := by
  unfold evaluate
  dsimp only
  rw [pure_bind, pure_bind]
  refine (mirrors_value f.element).after fun value => ?_
  refine (mirrors_tickedOf f.element f.kind).after fun checked => ?_
  have applied : Mirrors E id
      (f.rules.foldlM (s.applyRule f checked (s.lookup (some scope))) ⟨value, []⟩)
      (f.rules.foldlM
        (s.applyRule (f.rename E.number) checked (s.lookup (some (E.number scope)))) ⟨value, []⟩) :=
    .foldlM (mirrors_applyRule (mirrors_lookup scope) f checked) f.rules ⟨value, []⟩
  refine applied.after fun p => ?_
  split_ifs
  · exact .pure id _
  · exact (mirrors_setValue f.element p.value).after fun _ => .pure id _

theorem mirrors_validate : Mirrors E (Descriptor.renamed E.number) (s.validate e (some scope))
    (s.validate (E.number e) (some (E.number scope))) :=
  (mirrors_describe e).bind fun f => (mirrors_evaluate scope f).after fun o =>
    .pure (Descriptor.renamed E.number) (f, o)

variable {e} (below : e ≠ 0)
include below

/-- What the page shows of a field is brought in line below the form. -/
theorem mirrors_applyFeedback (o : Outcome) :
    Mirrors E id (s.applyFeedback e o) (s.applyFeedback (E.number e) o) := by
  intro d alone
  refine (mirrors_feedback below s.config.presentation.feedbackClass d alone).bind
    fun existing found => ?_
  obtain ⟨⟨p, parent⟩, apart⟩ := alone.of_feedback found
  dsimp only
  split_ifs
  · have removed : Mirrors E id (existing.forM fun f => ask (.remove f))
        ((existing.map E.number).forM fun f => ask (.remove f)) :=
      .forM fun f hf => mirrors_remove (apart f hf)
    exact (removed.after fun _ => mirrors_removeClass e _) d alone
  · cases existing with
    | nil =>
      exact (follows_insertFeedback below alone parent _ _ _).bind fun _ _ =>
        mirrors_addClass e _ _ (alone.perform (.insertFeedback e _ _ _))
    | cons first more =>
      rw [List.forall_mem_cons] at apart
      have removed : Mirrors E id (more.forM fun f => ask (.remove f))
          ((more.map E.number).forM fun f => ask (.remove f)) :=
        .forM fun f hf => mirrors_remove (apart.2 f hf)
      exact ((mirrors_setLines first o.errors).after fun _ => removed.after fun _ =>
        mirrors_addClass e _) d alone

theorem mirrors_validateField : Mirrors E (Descriptor.renamed E.number)
    (s.validateField e (some scope)) (s.validateField (E.number e) (some (E.number scope))) :=
  (mirrors_validate e scope).bind fun r => (mirrors_applyFeedback below r.2).after fun _ =>
    .pure (Descriptor.renamed E.number) r

omit below

theorem mirrors_gateControls (valid : Bool) :
    Mirrors E id (gateControls scope valid) (gateControls (E.number scope) valid) :=
  (mirrors_submitControls scope).bind fun _ => .forM fun c _ => mirrors_setDisabled c !valid

/-- Validating a form whose own element is no field goes in a page as for the form alone. -/
theorem follows_validateForm {d : Document} (alone : d.Alone E.start)
    (plain : 0 ∉ d.carriers scope s.config.attributes.rules) :
    Follows E (FormOutcome.rename E.number) (s.validateForm scope)
      (s.validateForm (E.number scope)) d := by
  refine (mirrors_carriers scope s.config.attributes.rules d alone).bind fun elements found => ?_
  obtain rfl : d.carriers scope s.config.attributes.rules = elements := Except.ok.inj found
  have turns : Mirrors E (List.map (Descriptor.renamed E.number))
      ((d.carriers scope s.config.attributes.rules).mapM fun e => s.validateField e (some scope))
      (((d.carriers scope s.config.attributes.rules).map E.number).mapM
        fun e => s.validateField e (some (E.number scope))) :=
    .mapM fun e he => mirrors_validateField scope fun same => plain (same ▸ he)
  refine (turns.bind fun rs => ?_) d alone
  have valid := FormOutcome.valid_rename E.number ⟨rs⟩
  show Mirrors E _ _ (do
    gateControls (E.number scope) (FormOutcome.rename E.number ⟨rs⟩).valid
    return FormOutcome.rename E.number ⟨rs⟩)
  rw [valid]
  exact (mirrors_gateControls scope _).after fun _ => .pure (FormOutcome.rename E.number) ⟨rs⟩

end Setup

end FormGate
