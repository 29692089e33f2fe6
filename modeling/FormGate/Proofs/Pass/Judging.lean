import FormGate.Proofs.Pass.Field
import FormGate.Proofs.Pass.Reports
import FormGate.Proofs.Rule.Normal

/-!
# The judgement of a field

A field is judged in two steps: first its rules are applied without a change of the page, then the
value that they come to is written back. The first step always ends, for nothing in it fails but by a
fault in the set-up of the form (`Setup.exists_examine`). What it comes to hangs on little: on the
attributes and the value of the field, and on the values in which the rules of the fields that it is
compared with end (`Setup.alike_examine`).
-/

namespace FormGate

open Pass

variable {α β : Type}

namespace Pass

/-! ## Lookups -/

/-- On a page a pass changes nothing and reports nothing, and comes to a value or breaks off with a
fault in the set-up of the form. -/
structure Finds (x : Pass α) (d : Document) (r : Except Fault α) : Prop where
  on : x.on d = (r.mapError .fault, d)
  told : x.told d = []

namespace Finds

variable {d : Document}

theorem throw (f : Fault) : (throw (.fault f) : Pass α).Finds d (.error f) := ⟨rfl, rfl⟩

theorem pure (a : α) : (pure a : Pass α).Finds d (.ok a) := ⟨rfl, rfl⟩

theorem after {x : Pass α} {f : α → Pass β} {a : α} {r : Except Fault β} (hx : x.Runs d a d [])
    (hf : (f a).Finds d r) : (x >>= f).Finds d r where
  on := by
    rw [on_bind, show x.on d = (.ok a, d) from hx.yields]
    exact hf.on
  told := by
    rw [told_bind, show x.on d = (.ok a, d) from hx.yields, hx.told]
    exact hf.told

/-- Run up to the first fault, the pass always ends. -/
theorem caught {x : Pass α} {r : Except Fault α} (h : x.Finds d r) : (catchFault x).Runs d r d [] where
  yields := by
    show ((ExceptT.run x).bind _).on d = _
    rw [Program.on_bind, show (ExceptT.run x).on d = _ from h.on]
    cases r <;> rfl
  told := by
    show ((ExceptT.run x).bind _).told d = _
    rw [Program.told_bind, show (ExceptT.run x).told d = [] from h.told]
    rfl

end Finds

theorem Alike.of_runs {x : Pass α} {d d' d₁ d₁' : Document} {a : α} {ts : List (Failure × Context)}
    (h : x.Runs d a d₁ ts) (h' : x.Runs d' a d₁' ts) : x.Alike d d' where
  result := by rw [show x.on d' = (.ok a, d₁') from h'.yields, show x.on d = (.ok a, d₁) from h.yields]
  told := by rw [h'.told, h.told]

theorem runs_report (e : Failure) (context : Context) (d : Document) :
    (report e context).Runs d () d [(e, context)] :=
  ⟨rfl, rfl⟩

theorem runs_reportAll (reports : List (Failure × Context)) (d : Document) :
    (reportAll reports).Runs d () d reports := by
  unfold reportAll
  induction reports with
  | nil => exact Runs.pure _ d
  | cons p reports ih => exact (runs_report p.1 p.2 d).bind ih

end Pass

/-! ## The kind and the state of a field -/

namespace Document

def kind (d : Document) (e : Element) : FieldKind :=
  if d.tagName e == "input" then
    if Text.lower ((d.attribute? e "type").getD "") == "checkbox" then .checkbox else .text
  else if d.tagName e == "textarea" then .text else .other

/-- Whether an element is ticked, where its kind makes that matter. -/
def ticked (d : Document) (e : Element) : FieldKind → Bool
  | .checkbox => d.isChecked e
  | _ => false

end Document

namespace Pass

theorem runs_kindOf (e : Element) (d : Document) : (kindOf e).Runs d (d.kind e) d [] := by
  unfold kindOf Document.kind
  refine .bind_silent (.ask rfl) ?_
  split_ifs with input checkbox textarea
  · exact .bind_silent (.ask rfl) (by rw [if_pos checkbox]; exact .pure _ d)
  · exact .bind_silent (.ask rfl) (by rw [if_neg checkbox]; exact .pure _ d)
  · exact .pure _ d
  · exact .pure _ d

theorem runs_tickedOf (e : Element) (kind : FieldKind) (d : Document) :
    (tickedOf e kind).Runs d (d.ticked e kind) d [] := by
  cases kind with
  | checkbox => exact .ask rfl
  | text => exact .pure _ d
  | other => exact .pure _ d

end Pass

theorem Catalog.rules_empty (c : Catalog) : c.rules "" = [] := rfl

namespace Setup

variable (s : Setup)

def rulesOn (d : Document) (e : Element) : List Rule :=
  ((d.attribute? e s.config.attributes.rules).map s.catalog.rules).getD []

/-- The value in which the rules of an element end. -/
def settledOn (d : Document) (e : Element) : String :=
  s.settled (d.kind e) (d.ticked e (d.kind e)) (s.rulesOn d e) (d.value e)

theorem runs_settledValue (e : Element) (d : Document) :
    (s.settledValue e).Runs d (s.settledOn d e) d [] := by
  unfold settledValue settledOn rulesOn
  refine .bind_silent (.ask rfl) (.bind_silent (.ask rfl) ?_)
  cases d.attribute? e s.config.attributes.rules with
  | none => exact .pure _ d
  | some raw =>
    rw [Option.map_some, Option.getD_some]
    dsimp only
    split_ifs with empty
    · obtain rfl : raw = "" := by simpa using empty
      rw [s.catalog.rules_empty]
      exact .pure _ d
    · exact .bind_silent (runs_kindOf e d) (.bind_silent (runs_tickedOf e _ d) (.pure _ d))

/-! ## The two steps -/

/-- Describes a field and applies its rules. Nothing is written back yet. -/
def examine (e scope : Element) : Pass (Descriptor × Outcome) := do
  let f ← s.describe e
  let value ← ask (.value f.element)
  let checked ← tickedOf f.element f.kind
  let p ← f.rules.foldlM (s.applyRule f checked (s.lookup (some scope))) ⟨value, []⟩
  return (f, ⟨p.errors, if p.value == value then none else some p.value⟩)

/-- Writes the value of a judged field back, where it was replaced. -/
def writeBack (r : Descriptor × Outcome) : Pass (Descriptor × Outcome) :=
  match r.2.replaced with
  | none => pure r
  | some v => do
    ask (.setValue r.1.element v)
    return r

theorem validate_eq (e scope : Element) :
    s.validate e (some scope) = (do writeBack (← s.examine e scope)) := by
  unfold validate examine evaluate
  simp only [bind_assoc, pure_bind]
  refine congrArg (s.describe e >>= ·) (funext fun f => ?_)
  refine congrArg (ask (.value f.element) >>= ·) (funext fun value => ?_)
  refine congrArg (tickedOf f.element f.kind >>= ·) (funext fun checked => ?_)
  refine congrArg (_ >>= ·) (funext fun p => ?_)
  unfold writeBack
  split_ifs
  · rfl
  · simp only [bind_assoc, pure_bind]

theorem reads_examine (e scope : Element) : (s.examine e scope).Reads := by
  refine .bind (s.reads_describe e) fun f => .bind (reads_value _) fun value => ?_
  refine .bind (reads_tickedOf _ _) fun checked => ?_
  exact .bind (s.reads_rules (s.reads_lookup _) f checked f.rules _) fun p => .pure _

/-! ## The first step ends -/

/-- The description of an element whose rules are given as a text. -/
def descriptor (d : Document) (e : Element) : Descriptor :=
  ⟨e, (d.attribute? e "name").filter (!·.isEmpty), d.kind e, s.rulesOn d e⟩

/-- What is reported when an element is described: that its rule text is blank, and every token of it
that is dropped. -/
def describing (d : Document) (e : Element) : List (Failure × Context) :=
  match d.attribute? e s.config.attributes.rules with
  | none => []
  | some raw =>
    let declared := (d.attribute? e "name").filter (!·.isEmpty)
    (if (Text.trim raw).isEmpty then
      [(blankRules declared, { operation := "describe_field", component := "FieldValidator" })]
    else []) ++ s.readReports raw declared

/-- An element with rules is described, and nothing but its rule text is reported on. -/
theorem runs_describe {d : Document} {e : Element} {raw : String}
    (field : d.attribute? e s.config.attributes.rules = some raw) :
    (s.describe e).Runs d (s.descriptor d e) d (s.describing d e) := by
  have rules : s.rulesOn d e = s.catalog.rules raw := by
    rw [rulesOn, field]
    rfl
  have rest : (do
      let kind ← kindOf e
      reportAll (s.readReports raw ((d.attribute? e "name").filter (!·.isEmpty)))
      return ⟨e, (d.attribute? e "name").filter (!·.isEmpty), kind, s.catalog.rules raw⟩ :
        Pass Descriptor).Runs d (s.descriptor d e) d
          (s.readReports raw ((d.attribute? e "name").filter (!·.isEmpty)) ++ []) := by
    unfold descriptor
    rw [rules]
    exact .bind_silent (runs_kindOf e d) (.bind (runs_reportAll _ d) (.pure _ d))
  rw [List.append_nil] at rest
  have asked : (ask (.attributeOf e s.config.attributes.rules)).Runs d (some raw) d [] :=
    .ask (congrArg (fun a => (Except.ok a, d)) field)
  unfold describing
  rw [field]
  refine .bind_silent (.ask rfl) (.bind_silent asked ?_)
  dsimp only
  split_ifs
  · exact (runs_report _ _ d).bind rest
  · exact rest

theorem exists_describe {d : Document} {e : Element} {raw : String}
    (field : d.attribute? e s.config.attributes.rules = some raw) :
    ∃ ts, (s.describe e).Runs d (s.descriptor d e) d ts :=
  ⟨_, s.runs_describe field⟩

/-- What a reference leads to in a scope of a page: the name of a field and the value in which its
rules end, or the fault why not. -/
def referredOn (d : Document) (scope : Option Element) (reference : String) :
    Except Fault Referenced :=
  match d.resolve reference scope with
  | [] => .error (RuleFault.unresolved reference).toFault
  | [other] =>
    match d.attribute? other "name" with
    | none => .error (RuleFault.nameless reference).toFault
    | some name =>
      if name.isEmpty then .error (RuleFault.nameless reference).toFault
      else .ok ⟨name, s.settledOn d other⟩
  | others => .error (RuleFault.ambiguous reference others.length).toFault

theorem finds_lookup (scope : Option Element) (reference : String) (d : Document) :
    (s.lookup scope reference).Finds d (s.referredOn d scope reference) := by
  have asked {es : List Element} (found : d.resolve reference scope = es) :
      (ask (.resolve reference scope)).Runs d es d [] :=
    .ask (congrArg (fun a => (Except.ok a, d)) found)
  unfold lookup referredOn
  rcases found : d.resolve reference scope with _ | ⟨other, _ | ⟨another, more⟩⟩
  · exact .after (asked found) (.throw _)
  · have told : (ask (.attributeOf other "name")).Runs d (d.attribute? other "name") d [] := .ask rfl
    refine .after (asked found) (.after told ?_)
    dsimp only
    cases d.attribute? other "name" with
    | none => exact .throw _
    | some name =>
      dsimp only
      split_ifs
      · exact .throw _
      · exact .after (s.runs_settledValue other d) (.pure _)
  · exact .after (asked found) (.throw _)

/-- A judgement is followed to what it comes to with what its lookups find on the page. -/
theorem runs_settle {lookup : String → Pass (Except Fault Referenced)}
    {answers : String → Except Fault Referenced} {d : Document}
    (hl : ∀ r, (lookup r).Runs d (answers r) d []) (j : Judgement) :
    (j.settle lookup).Runs d (j.settleWith answers) d [] := by
  induction j with
  | verdict v => exact .pure _ d
  | fault f => exact .pure _ d
  | consult reference next ih => exact .bind_silent (hl reference) (ih _)

/-- What a rule finds about a value on a page. -/
def foundOn (d : Document) (scope : Option Element) (r : Rule) (q : Question) : Except Fault Verdict :=
  match s.catalog.get? r.name with
  | none => .error ⟨.unknownRule, "Unknown rule '" ++ r.name ++ "'", none, some r.text⟩
  | some c => (c.judge q).settleWith (s.referredOn d scope)

theorem runs_judge (d : Document) (scope : Option Element) (r : Rule) (q : Question) :
    (s.judge (s.lookup scope) r q).Runs d (s.foundOn d scope r q) d [] := by
  unfold judge foundOn
  cases s.catalog.get? r.name with
  | none => exact .pure _ d
  | some c => exact runs_settle (fun reference => (s.finds_lookup scope reference d).caught) _

/-- What one more rule adds to the progress of a field, by what it finds. -/
def Progress.step (p : Progress) (label : String) : Except Fault Verdict → Progress
  | .ok v => p.after label v
  | .error _ => p

/-- What is reported of a rule, by what it finds. -/
def ruleReports (f : Descriptor) (r : Rule) : Except Fault Verdict → List (Failure × Context)
  | .ok _ => []
  | .error fault =>
    [(.fault fault,
      { operation := "evaluate_rule", component := "FieldValidator", field := f.declared,
        rule := some r.text })]

theorem runs_applyRule (f : Descriptor) (checked : Bool) (scope : Option Element) (p : Progress)
    (r : Rule) (d : Document) :
    (s.applyRule f checked (s.lookup scope) p r).Runs d
      (p.step (s.labelOf f) (s.foundOn d scope r ⟨p.value, f.kind, r.parameter, checked⟩)) d
      (ruleReports f r (s.foundOn d scope r ⟨p.value, f.kind, r.parameter, checked⟩)) := by
  unfold applyRule
  refine .bind_silent (s.runs_judge d scope r _) ?_
  cases s.foundOn d scope r ⟨p.value, f.kind, r.parameter, checked⟩ with
  | ok v => exact .pure _ d
  | error fault => exact (runs_report _ _ d).bind (.pure p d)

variable {s}

theorem Normalises.value_step (normal : s.Normalises) (f : Descriptor) (checked : Bool)
    (scope : Option Element) (p : Progress) (r : Rule) (d : Document) :
    (p.step (s.labelOf f) (s.foundOn d scope r ⟨p.value, f.kind, r.parameter, checked⟩)).value =
      s.settled f.kind checked [r] p.value := by
  unfold foundOn
  cases get : s.catalog.get? r.name with
  | none =>
    rw [settled_single, get]
    rfl
  | some c =>
    rw [normal.settled_of_get? f.kind checked get (s.referredOn d scope), Definition.makes]
    dsimp only
    cases (c.judge ⟨p.value, f.kind, r.parameter, checked⟩).settleWith (s.referredOn d scope) <;> rfl

theorem exists_rules (normal : s.Normalises) (f : Descriptor) (checked : Bool)
    (scope : Option Element) (rules : List Rule) (p : Progress) (d : Document) :
    ∃ q ts, (rules.foldlM (s.applyRule f checked (s.lookup scope)) p).Runs d q d ts ∧
      q.value = s.settled f.kind checked rules p.value := by
  induction rules generalizing p with
  | nil => exact ⟨p, [], .pure p d, rfl⟩
  | cons r rules ih =>
    obtain ⟨q, ts, later, value⟩ := ih (p.step (s.labelOf f) _)
    refine ⟨q, _, (s.runs_applyRule f checked scope p r d).bind later, ?_⟩
    rw [value, normal.value_step, settled_cons f.kind checked r rules]

/-- The outcome of a field says of its value whether it is the one in which its rules end. -/
theorem exists_examine (normal : s.Normalises) {d : Document} {e : Element} {raw : String}
    (field : d.attribute? e s.config.attributes.rules = some raw) (scope : Element) :
    ∃ errors ts, (s.examine e scope).Runs d
      (s.descriptor d e, ⟨errors, if s.settledOn d e == d.value e then none
        else some (s.settledOn d e)⟩) d ts := by
  obtain ⟨ts, described⟩ := s.exists_describe field
  obtain ⟨p, ts', applied, value⟩ := exists_rules normal (s.descriptor d e) (d.ticked e (d.kind e))
    (some scope) (s.rulesOn d e) ⟨d.value e, []⟩ d
  have settled : p.value = s.settledOn d e := value
  refine ⟨p.errors, ts ++ (ts' ++ []), ?_⟩
  rw [← settled]
  exact described.bind (.bind_silent (.ask rfl) (.bind_silent (runs_tickedOf e _ d)
    (applied.bind (.pure _ d))))

/-- What a field is found to be and to come to on a page, before anything is written back. -/
def judgedOn (s : Setup) (d : Document) (scope e : Element) : Descriptor × Outcome :=
  (s.descriptor d e,
    match ((s.examine e scope).on d).1 with
    | .ok r => r.2
    | .error _ => {})

theorem runs_examine (normal : s.Normalises) {d : Document} {e : Element}
    (field : (d.attribute? e s.config.attributes.rules).isSome = true) (scope : Element) :
    (s.examine e scope).Runs d (s.judgedOn d scope e) d ((s.examine e scope).told d) := by
  obtain ⟨raw, field⟩ := Option.isSome_iff_exists.1 field
  obtain ⟨errors, ts, runs⟩ := exists_examine normal field scope
  refine ⟨?_, rfl⟩
  unfold judgedOn
  rw [show (s.examine e scope).on d = _ from runs.yields]
  exact runs.yields

/-- A value is replaced by the one in which the rules of the field end, where that is another. -/
theorem replaced_judgedOn (normal : s.Normalises) {d : Document} {e : Element}
    (field : (d.attribute? e s.config.attributes.rules).isSome = true) (scope : Element) :
    (s.judgedOn d scope e).2.replaced =
      if s.settledOn d e == d.value e then none else some (s.settledOn d e) := by
  obtain ⟨raw, field⟩ := Option.isSome_iff_exists.1 field
  obtain ⟨errors, ts, runs⟩ := exists_examine normal field scope
  unfold judgedOn
  rw [show (s.examine e scope).on d = _ from runs.yields]

/-! ## Pages on which a field is judged alike -/

/-- Two pages on which references lead to the same fields in a scope, and the rules of these end in
the same values. -/
structure Sees (s : Setup) (scope : Element) (d d' : Document) : Prop where
  resolve : ∀ r, d'.resolve r (some scope) = d.resolve r (some scope)
  name : ∀ r, ∀ e ∈ d.resolve r (some scope), d'.attribute? e "name" = d.attribute? e "name"
  settled : ∀ r, ∀ e ∈ d.resolve r (some scope), s.settledOn d' e = s.settledOn d e

/-- Two pages on which an element has the same attributes, as far as its rules may ask for them. -/
structure SameField (s : Setup) (e : Element) (d d' : Document) : Prop where
  name : d'.attribute? e "name" = d.attribute? e "name"
  type : d'.attribute? e "type" = d.attribute? e "type"
  rules : d'.attribute? e s.config.attributes.rules = d.attribute? e s.config.attributes.rules
  tagName : d'.tagName e = d.tagName e
  isChecked : d'.isChecked e = d.isChecked e

section Alike

variable {d d' : Document}

theorem SameField.kind {e : Element} (h : s.SameField e d d') : d'.kind e = d.kind e := by
  unfold Document.kind
  rw [h.tagName, h.type]

theorem SameField.ticked {e : Element} (h : s.SameField e d d') (kind : FieldKind) :
    d'.ticked e kind = d.ticked e kind := by
  cases kind with
  | checkbox => exact h.isChecked
  | text | other => rfl

theorem SameField.rulesOn {e : Element} (h : s.SameField e d d') : s.rulesOn d' e = s.rulesOn d e := by
  unfold Setup.rulesOn
  rw [h.rules]

theorem SameField.descriptor {e : Element} (h : s.SameField e d d') :
    s.descriptor d' e = s.descriptor d e := by
  unfold Setup.descriptor
  rw [h.name, h.kind, h.rulesOn]

/-- The rules of a field end in the same value if its value is the same, or the one in which they
ended before. -/
theorem SameField.settledOn (normal : s.Normalises) {e : Element} (h : s.SameField e d d')
    (value : d'.value e = d.value e ∨ d'.value e = s.settledOn d e) :
    s.settledOn d' e = s.settledOn d e := by
  rw [Setup.settledOn, h.kind, h.ticked, h.rulesOn]
  rcases value with same | settled
  · rw [same, Setup.settledOn]
  · rw [settled, Setup.settledOn, normal.settles]

theorem alike_kindOf {e : Element} (h : s.SameField e d d') : (kindOf e).Alike d d' :=
  .of_runs (runs_kindOf e d) (h.kind ▸ runs_kindOf e d')

theorem alike_tickedOf {e : Element} (h : s.SameField e d d') (kind : FieldKind) :
    (tickedOf e kind).Alike d d' :=
  .of_runs (runs_tickedOf e kind d) (h.ticked kind ▸ runs_tickedOf e kind d')

theorem alike_describe {e : Element} (h : s.SameField e d d') : (s.describe e).Alike d d' := by
  refine .bind (reads_attributeOf e _) (.ask (congrArg Except.ok h.name)) fun name _ => ?_
  refine .bind (reads_attributeOf e _) (.ask (congrArg Except.ok h.rules)) fun raw _ => ?_
  cases raw with
  | none => exact .throw _
  | some raw =>
    have rest : (do
        let kind ← kindOf e
        reportAll (s.readReports raw (name.filter (!·.isEmpty)))
        return ⟨e, name.filter (!·.isEmpty), kind, s.catalog.rules raw⟩ : Pass Descriptor).Alike
          d d' := by
      refine .bind (reads_kindOf e) (alike_kindOf h) fun kind _ => ?_
      exact .bind (.reportAll _) (.reportAll _) fun _ _ => .pure _
    dsimp only
    split_ifs
    · exact .bind (.report _ _) (.report _ _) fun _ _ => rest
    · exact rest

/-- A reference leads to the same where it leads to the same fields and the rules of the one that it
means end in the same value. -/
theorem referredOn_eq {scope : Option Element} {reference : String}
    (resolve : d'.resolve reference scope = d.resolve reference scope)
    (name : ∀ e ∈ d.resolve reference scope, d'.attribute? e "name" = d.attribute? e "name")
    (settled : ∀ e, d.resolve reference scope = [e] → s.settledOn d' e = s.settledOn d e) :
    s.referredOn d' scope reference = s.referredOn d scope reference := by
  unfold referredOn
  rw [resolve]
  split
  · rfl
  · rename_i other only
    rw [name other (by simp [only]), settled other only]
  · rfl

theorem Sees.referredOn {scope : Element} (h : s.Sees scope d d') (reference : String) :
    s.referredOn d' (some scope) reference = s.referredOn d (some scope) reference :=
  referredOn_eq (h.resolve reference) (h.name reference)
    fun e only => h.settled reference e (by simp [only])

/-- A rule finds the same where what it asks for leads to the same. -/
theorem foundOn_eq {scope : Option Element} {r : Rule} {q : Question}
    (same : ∀ c reference, s.catalog.get? r.name = some c → (c.judge q).Asks reference →
      s.referredOn d' scope reference = s.referredOn d scope reference) :
    s.foundOn d' scope r q = s.foundOn d scope r q := by
  unfold foundOn
  cases get : s.catalog.get? r.name with
  | none => rfl
  | some c => exact Judgement.settleWith_congr fun reference asks => same c reference get asks

theorem alike_rules {scope : Option Element}
    (same : ∀ r, s.referredOn d' scope r = s.referredOn d scope r) (f : Descriptor) (checked : Bool)
    (rules : List Rule) (p : Progress) :
    (rules.foldlM (s.applyRule f checked (s.lookup scope)) p).Alike d d' := by
  induction rules generalizing p with
  | nil => exact .pure p
  | cons r rules ih =>
    have applied := s.runs_applyRule f checked scope p r d'
    rw [foundOn_eq fun _ reference _ _ => same reference] at applied
    exact .bind (s.reads_applyRule (s.reads_lookup scope) f checked p r)
      (.of_runs (s.runs_applyRule f checked scope p r d) applied) fun p _ => ih p

/-- A field is judged alike if it has the same attributes and value, and those that it may be compared
with end in the same values. -/
theorem alike_examine {e scope : Element} (sees : s.Sees scope d d') (same : s.SameField e d d')
    (value : d'.value e = d.value e) : (s.examine e scope).Alike d d' := by
  unfold examine
  refine .bind (s.reads_describe e) (alike_describe same) fun f described => ?_
  have yields : (s.describe e).Yields d f ((s.describe e).on d).2 := Prod.ext described rfl
  obtain rfl : f.element = e := s.describe_element yields
  refine .bind (reads_value _) (.ask (congrArg Except.ok value)) fun v _ => ?_
  refine .bind (reads_tickedOf _ _) (alike_tickedOf same _) fun checked _ => ?_
  refine .bind (s.reads_rules (s.reads_lookup _) f checked f.rules _) ?_ fun p _ => .pure _
  exact alike_rules sees.referredOn f checked f.rules _

end Alike

end Setup

end FormGate
