import FormGate.Proofs.Document.Attribute
import FormGate.Proofs.Pass.Judging
import FormGate.Proofs.Rule.Spelling

/-!
# Rules that cannot be applied

A rule that cannot be read or applied changes nothing for the person who fills in a form: a field is
judged as if its rules were only those that could be applied (`Setup.validate_applicable`). The rules
of a field are read once more where the field is compared with, so that this holds for a field that is
compared with itself only if it does not hang on a value whether a rewriting rule can be applied.
-/

namespace FormGate

open Document Pass

/-- Whether a rule that is registered as rewriting can be applied does not hang on the value: where it
breaks off for one, it rewrites none. -/
def Catalog.Steady (c : Catalog) : Prop :=
  ∀ d ∈ c.definitions, d.replaces = true → ∀ (q : Question) (fault : Fault)
    (answers : String → Except Fault Referenced), (d.judge q).settleWith answers = .error fault →
      ∀ value, Setup.replaceAlone d { q with value } = none

/-- Rules that judge as built-in ones do are steady, under whatever names they are registered. -/
theorem Catalog.steady_of_builtin {c : Catalog}
    (builtin : ∀ d ∈ c.definitions, ∃ b : Builtin, d.judge = b.judge) : c.Steady := by
  intro d member _ q fault answers broken value
  obtain ⟨b, judge⟩ := builtin d member
  by_cases trims : b = .trim
  · rw [judge, trims] at broken
    cases broken
  · rw [Setup.replaceAlone, judge]
    cases found : (b.judge { q with value }).settleWith _ with
    | error e => rfl
    | ok v =>
      dsimp only
      rw [Option.eq_none_iff_forall_ne_some]
      exact fun w put => trims (Setup.eq_trim_of_puts (Judgement.puts_of_settleWith found put))

namespace Setup

variable (s : Setup)

/-! ## Applying rules on a page -/

section Fold

variable (f : Descriptor) (checked : Bool) (scope : Option Element) (d : Document)

/-- What a rule of a field finds about a value on a page. -/
def finds (value : String) (r : Rule) : Except Failure (Except Fault Verdict) :=
  ((s.judge (s.lookup scope) r ⟨value, f.kind, r.parameter, checked⟩).on d).1

theorem finds_eq (value : String) (r : Rule) : s.finds f checked scope d value r =
    .ok (s.foundOn d scope r ⟨value, f.kind, r.parameter, checked⟩) :=
  congrArg Prod.fst (s.runs_judge d scope r _).yields

/-- How far the rules have come after one more. -/
def advance (p : Progress) (r : Rule) : Progress :=
  match s.finds f checked scope d p.value r with
  | .ok (.ok v) => p.after (s.labelOf f) v
  | _ => p

theorem advance_eq (p : Progress) (r : Rule) : s.advance f checked scope d p r =
    p.step (s.labelOf f) (s.foundOn d scope r ⟨p.value, f.kind, r.parameter, checked⟩) := by
  rw [advance, finds_eq]
  cases s.foundOn d scope r ⟨p.value, f.kind, r.parameter, checked⟩ <;> rfl

/-- The rules among the given ones that can be applied, each to the value to which those before it
have led. -/
def applicable : Progress → List Rule → List Rule
  | _, [] => []
  | p, r :: rules =>
    match s.finds f checked scope d p.value r with
    | .ok (.ok _) => r :: applicable (s.advance f checked scope d p r) rules
    | _ => applicable (s.advance f checked scope d p r) rules

theorem exists_advance (p : Progress) (r : Rule) :
    ∃ ts, (s.applyRule f checked (s.lookup scope) p r).Runs d (s.advance f checked scope d p r) d ts := by
  rw [advance_eq]
  exact ⟨_, s.runs_applyRule f checked scope p r d⟩

theorem exists_foldl_advance (rules : List Rule) (p : Progress) :
    ∃ ts, (rules.foldlM (s.applyRule f checked (s.lookup scope)) p).Runs d
      (rules.foldl (s.advance f checked scope d) p) d ts := by
  induction rules generalizing p with
  | nil => exact ⟨[], .pure p d⟩
  | cons r rules ih =>
    obtain ⟨ts, first⟩ := s.exists_advance f checked scope d p r
    obtain ⟨ts', later⟩ := ih (s.advance f checked scope d p r)
    exact ⟨ts ++ ts', first.bind later⟩

/-- The rules come as far without those that cannot be applied. -/
theorem foldl_applicable (rules : List Rule) (p : Progress) :
    (s.applicable f checked scope d p rules).foldl (s.advance f checked scope d) p =
      rules.foldl (s.advance f checked scope d) p := by
  induction rules generalizing p with
  | nil => rfl
  | cons r rules ih =>
    rw [applicable, List.foldl_cons]
    split
    · exact ih _
    · rename_i broken
      have unchanged : s.advance f checked scope d p r = p := by
        unfold advance
        split
        · exact absurd ‹_› (broken _)
        · rfl
      rw [unchanged, ih]

theorem applicable_sublist (rules : List Rule) (p : Progress) :
    (s.applicable f checked scope d p rules).Sublist rules := by
  induction rules generalizing p with
  | nil => exact .slnil
  | cons r rules ih =>
    rw [applicable]
    split
    · exact (ih _).cons_cons r
    · exact (ih _).cons r

variable {s}

/-- A rule that cannot be applied settles no value where the catalog is steady. -/
theorem settled_of_foundOn_error (steady : s.catalog.Steady) {value : String} {r : Rule} {e : Fault}
    (broken : s.foundOn d scope r ⟨value, f.kind, r.parameter, checked⟩ = .error e) (v : String) :
    s.settled f.kind checked [r] v = v := by
  unfold foundOn at broken
  rw [settled_single]
  cases get : s.catalog.get? r.name with
  | none => rfl
  | some c =>
    rw [get] at broken
    dsimp only
    split_ifs with flagged
    · rw [Definition.makesAlone_eq, steady c (mem_definitions get) flagged _ e _ broken v]
      rfl
    · rfl

/-- The rules end in the same value without those that cannot be applied. -/
theorem settled_applicable (steady : s.catalog.Steady) (rules : List Rule) (p : Progress) (v : String) :
    s.settled f.kind checked (s.applicable f checked scope d p rules) v =
      s.settled f.kind checked rules v := by
  induction rules generalizing p v with
  | nil => rfl
  | cons r rules ih =>
    rw [applicable, settled_cons f.kind checked r rules, finds_eq]
    cases found : s.foundOn d scope r ⟨p.value, f.kind, r.parameter, checked⟩ with
    | ok w =>
      dsimp only
      rw [settled_cons, ih]
    | error e =>
      dsimp only
      rw [settled_of_foundOn_error f checked scope d steady found, ih]

end Fold

/-! ## Judging a field -/

section Field

variable (d : Document) (e : Element) (scope : Option Element)

/-- The scope in which the references of a field are looked up. -/
def scopeOf : Option Element :=
  scope.or (d.closestForm? e)

/-- How far the rules of a field come. -/
def progressOn : Progress :=
  (s.rulesOn d e).foldl
    (s.advance (s.descriptor d e) (d.ticked e (d.kind e)) (scopeOf d e scope) d) ⟨d.value e, []⟩

/-- The rules of a field that can be applied when it is judged. -/
def applicableOn : List Rule :=
  s.applicable (s.descriptor d e) (d.ticked e (d.kind e)) (scopeOf d e scope) d ⟨d.value e, []⟩
    (s.rulesOn d e)

/-- A rule of the field may ask for another field by a reference that leads back to the field. -/
def RefersBack : Prop :=
  ∃ r ∈ s.rulesOn d e, ∃ c, s.catalog.get? r.name = some c ∧ ∃ q reference,
    q.parameter = r.parameter ∧ (c.judge q).Asks reference ∧
      d.resolve reference (scopeOf d e scope) = [e]

/-- The outcome of a field whose rules have come to a progress. -/
def outcomeOf (value : String) (p : Progress) : Outcome :=
  ⟨p.errors, if p.value == value then none else some p.value⟩

/-- The page after the outcome of a field was written back. -/
def withOutcome (o : Outcome) : Document :=
  match o.replaced with
  | none => d
  | some v => d.setValue e v

variable {d e}

theorem validate_yields {raw : String} (field : d.attribute? e s.config.attributes.rules = some raw) :
    (s.validate e scope).Yields d
      (s.descriptor d e, outcomeOf (d.value e) (s.progressOn d e scope))
      (withOutcome d e (outcomeOf (d.value e) (s.progressOn d e scope))) := by
  obtain ⟨ts, described⟩ := s.exists_describe field
  obtain ⟨ts', applied⟩ := s.exists_foldl_advance (s.descriptor d e) (d.ticked e (d.kind e))
    (scopeOf d e scope) d (s.rulesOn d e) ⟨d.value e, []⟩
  have rest : (do
      let value ← ask (.value e)
      let checked ← tickedOf e (d.kind e)
      let p ← (s.rulesOn d e).foldlM
        (s.applyRule (s.descriptor d e) checked (s.lookup (scopeOf d e scope))) ⟨value, []⟩
      if p.value == value then return ⟨p.errors, none⟩
      else
        ask (.setValue e p.value)
        return ⟨p.errors, some p.value⟩ : Pass Outcome).Yields d
          (outcomeOf (d.value e) (s.progressOn d e scope))
          (withOutcome d e (outcomeOf (d.value e) (s.progressOn d e scope))) := by
    refine yields_bind.2 ⟨d.value e, d, rfl, ?_⟩
    refine yields_bind.2 ⟨_, d, (runs_tickedOf e (d.kind e) d).yields, ?_⟩
    refine yields_bind.2 ⟨s.progressOn d e scope, d, applied.yields, ?_⟩
    unfold withOutcome outcomeOf
    split_ifs with same
    · exact yields_pure.2 ⟨rfl, rfl⟩
    · exact yields_bind.2 ⟨(), _, rfl, yields_pure.2 ⟨rfl, rfl⟩⟩
  unfold validate
  refine yields_bind.2 ⟨_, d, described.yields, yields_bind.2 ⟨_, _, ?_, yields_pure.2 ⟨rfl, rfl⟩⟩⟩
  unfold evaluate
  cases scope with
  | none => exact yields_bind.2 ⟨d.closestForm? e, d, rfl, rest⟩
  | some around => exact rest

end Field

/-! ## The field with the rules that can be applied -/

section Rewritten

variable {s} {d : Document} {e : Element} {raw : String} (wf : d.WellFormed)
  (field : d.attribute? e s.config.attributes.rules = some raw)
  (apart : s.config.attributes.rules ∉ ["name", "type", "value", "id"])

/-- The page on which a field has the given rules. -/
def withRules (s : Setup) (d : Document) (e : Element) (rules : List Rule) : Document :=
  d.setAttribute e s.config.attributes.rules (Rule.join rules)

include apart in
theorem attribute?_withRules {a : String} (read : a ∈ ["name", "type", "value", "id"])
    (rules : List Rule) (x : Element) : (s.withRules d e rules).attribute? x a = d.attribute? x a := by
  have other : a ≠ s.config.attributes.rules := fun same => apart (same ▸ read)
  exact attribute?_setAttribute_of_ne d e _ other x

include apart in
theorem kind_withRules (rules : List Rule) (x : Element) :
    (s.withRules d e rules).kind x = d.kind x := by
  unfold Document.kind
  rw [attribute?_withRules apart (by simp), withRules, tagName_setAttribute]

include wf field in
theorem ticked_withRules (rules : List Rule) (x : Element) (kind : FieldKind) :
    (s.withRules d e rules).ticked x kind = d.ticked x kind := by
  cases kind with
  | checkbox => exact isChecked_setAttribute wf field _ x
  | text | other => rfl

theorem scopeOf_withRules (rules : List Rule) (scope : Option Element) :
    scopeOf (s.withRules d e rules) e scope = scopeOf d e scope := by
  rw [scopeOf, withRules, closestForm?_setAttribute, scopeOf]

theorem rulesOn_withRules_of_ne (rules : List Rule) {x : Element} (other : x ≠ e) :
    s.rulesOn (s.withRules d e rules) x = s.rulesOn d x := by
  unfold rulesOn withRules
  rw [attribute?_setAttribute_of_ne_element d _ _ other]

include field

/-- The rules of the field are then exactly these, if they are among those that it had. -/
theorem rulesOn_withRules {rules : List Rule} (among : ∀ r ∈ rules, r ∈ s.rulesOn d e) :
    s.rulesOn (s.withRules d e rules) e = rules := by
  have read : s.rulesOn d e = s.catalog.rules raw := by
    rw [rulesOn, field]
    rfl
  rw [read] at among
  unfold rulesOn withRules
  rw [attribute?_setAttribute_self _ field, Option.map_some, Option.getD_some,
    Catalog.rules_join among]

include apart in
theorem descriptor_withRules {rules : List Rule} (among : ∀ r ∈ rules, r ∈ s.rulesOn d e) :
    s.descriptor (s.withRules d e rules) e = { s.descriptor d e with rules } := by
  unfold descriptor
  rw [attribute?_withRules apart (by simp), kind_withRules apart, rulesOn_withRules field among]

include wf apart

theorem value_withRules (rules : List Rule) (x : Element) :
    (s.withRules d e rules).value x = d.value x :=
  value_setAttribute wf field (fun same => apart (same ▸ by simp)) _ x

/-- The rules of every field end in the same value as before, unless it is the one whose rules were
changed. -/
theorem settledOn_withRules {rules : List Rule} {x : Element}
    (kept : x = e → ∀ v,
      s.settled (d.kind e) (d.ticked e (d.kind e)) (s.rulesOn (s.withRules d e rules) e) v =
        s.settled (d.kind e) (d.ticked e (d.kind e)) (s.rulesOn d e) v) :
    s.settledOn (s.withRules d e rules) x = s.settledOn d x := by
  unfold settledOn
  rw [kind_withRules apart, ticked_withRules wf field, value_withRules wf field apart]
  by_cases same : x = e
  · rw [same]
    exact kept same _
  · rw [rulesOn_withRules_of_ne rules same]

variable (scope : Option Element)
  (steady : s.catalog.Steady ∨ ¬ s.RefersBack d e scope)
include steady

theorem finds_withRules {f : Descriptor} {checked : Bool} {r : Rule}
    (among : r ∈ s.applicableOn d e scope) (value : String) :
    s.finds f checked (scopeOf d e scope) (s.withRules d e (s.applicableOn d e scope)) value r =
      s.finds f checked (scopeOf d e scope) d value r := by
  have had : ∀ r ∈ s.applicableOn d e scope, r ∈ s.rulesOn d e := fun r hr =>
    (s.applicable_sublist _ _ _ _ _ _).subset hr
  have id : s.config.attributes.rules ≠ "id" := fun same => apart (same ▸ by simp)
  have name : s.config.attributes.rules ≠ "name" := fun same => apart (same ▸ by simp)
  rw [finds_eq, finds_eq]
  refine congrArg Except.ok (foundOn_eq fun c reference get asks => ?_)
  refine referredOn_eq (resolve_setAttribute _ name id reference _)
    (fun x _ => attribute?_withRules apart (by simp) _ x) fun x only => ?_
  refine settledOn_withRules wf field apart fun same v => ?_
  rcases steady with steady | apart
  · rw [rulesOn_withRules field had]
    exact settled_applicable (s.descriptor d e) (d.ticked e (d.kind e)) _ d steady _ _ v
  · subst same
    exact absurd ⟨r, had r among, c, get, _, reference, rfl, asks, only⟩ apart

theorem progressOn_withRules :
    s.progressOn (s.withRules d e (s.applicableOn d e scope)) e scope = s.progressOn d e scope := by
  have had : ∀ r ∈ s.applicableOn d e scope, r ∈ s.rulesOn d e := fun r hr =>
    (s.applicable_sublist _ _ _ _ _ _).subset hr
  have same : ∀ r ∈ s.applicableOn d e scope, ∀ p,
      s.advance { s.descriptor d e with rules := s.applicableOn d e scope } (d.ticked e (d.kind e))
        (scopeOf d e scope) (s.withRules d e (s.applicableOn d e scope)) p r =
      s.advance (s.descriptor d e) (d.ticked e (d.kind e)) (scopeOf d e scope) d p r := by
    intro r among p
    unfold advance
    rw [finds_withRules wf field apart scope steady among]
    rfl
  unfold progressOn
  rw [rulesOn_withRules field had, descriptor_withRules field apart had,
    kind_withRules apart, ticked_withRules wf field, scopeOf_withRules,
    value_withRules wf field apart, List.foldl_ext _ _ _ fun p r among => same r among p]
  exact s.foldl_applicable _ _ _ _ _ _

end Rewritten

/-- A field is judged with all its rules as it is with those only that can be applied to it: it has the
same outcome, the same value is written back, and the page is the same afterwards but for the
attribute that holds the rules. A field without a rule that can be applied is valid and keeps its
value. -/
theorem validate_applicable {d : Document} {e : Element} {raw : String} (wf : d.WellFormed)
    (field : d.attribute? e s.config.attributes.rules = some raw)
    (apart : s.config.attributes.rules ∉ ["name", "type", "value", "id"]) (scope : Option Element)
    (steady : s.catalog.Steady ∨ ¬ s.RefersBack d e scope) :
    ∃ (f : Descriptor) (o : Outcome) (after : Document),
      (s.validate e scope).Yields d (f, o) after ∧
      (s.validate e scope).Yields (s.withRules d e (s.applicableOn d e scope))
        ({ f with rules := s.applicableOn d e scope }, o)
        (s.withRules after e (s.applicableOn d e scope)) ∧
      (s.applicableOn d e scope = [] → o = {} ∧ after = d) := by
  have had : ∀ r ∈ s.applicableOn d e scope, r ∈ s.rulesOn d e := fun r hr =>
    (s.applicable_sublist _ _ _ _ _ _).subset hr
  have rewritten : (s.withRules d e (s.applicableOn d e scope)).attribute? e
      s.config.attributes.rules = some (Rule.join (s.applicableOn d e scope)) :=
    attribute?_setAttribute_self _ field
  have value : s.config.attributes.rules ≠ "value" := fun same => apart (same ▸ by simp)
  have again := s.validate_yields scope rewritten
  rw [descriptor_withRules field apart had, value_withRules wf field apart,
    progressOn_withRules wf field apart scope steady] at again
  refine ⟨s.descriptor d e, outcomeOf (d.value e) (s.progressOn d e scope), _,
    s.validate_yields scope field, ?_, ?_⟩
  · have written : withOutcome (s.withRules d e (s.applicableOn d e scope)) e
        (outcomeOf (d.value e) (s.progressOn d e scope)) =
          s.withRules (withOutcome d e (outcomeOf (d.value e) (s.progressOn d e scope))) e
            (s.applicableOn d e scope) := by
      unfold withOutcome
      cases (outcomeOf (d.value e) (s.progressOn d e scope)).replaced with
      | none => rfl
      | some v => exact setValue_setAttribute wf field value _ v
    rw [written] at again
    exact again
  · intro none
    have progress : s.progressOn d e scope = ⟨d.value e, []⟩ := by
      have folded := s.foldl_applicable (s.descriptor d e) (d.ticked e (d.kind e)) (scopeOf d e scope)
        d (s.rulesOn d e) ⟨d.value e, []⟩
      have none : s.applicable (s.descriptor d e) (d.ticked e (d.kind e)) (scopeOf d e scope) d
        ⟨d.value e, []⟩ (s.rulesOn d e) = [] := none
      rw [none] at folded
      exact folded.symm
    have outcome : outcomeOf (d.value e) (s.progressOn d e scope) = {} := by
      rw [progress, outcomeOf, if_pos (beq_self_eq_true _)]
    rw [outcome]
    exact ⟨rfl, rfl⟩

theorem steady_default : Catalog.default.Steady :=
  Catalog.steady_of_builtin fun d member => (builtin_default d member).imp fun _ judge => judge.1

/-- A form with one field. -/
def formAround (attributes : List (String × String)) : Document where
  tree := .cons ⟨0, .element "form", []⟩ "" (.cons ⟨1, .element "input", attributes⟩ "" .nil "" .nil)
    "" .nil
  fresh := 2

/-- A field of five rules, two of which can be applied. -/
def halfUsable : Document :=
  formAround [("name", "a"), ("value", " x "),
    ("data-validate-validation", "trim|bogus|required[1]|matches[#b]|min_length [ 3 ]")]

theorem validate_half_usable :
    ({} : Setup).applicableOn halfUsable 1 none = [⟨"trim", none⟩, ⟨"min_length", some "3"⟩] ∧
    ∃ (f : Descriptor) (o : Outcome) (after : Document),
      (({} : Setup).validate 1 none).Yields halfUsable (f, o) after ∧
      (({} : Setup).validate 1 none).Yields
        (({} : Setup).withRules halfUsable 1 (({} : Setup).applicableOn halfUsable 1 none))
        ({ f with rules := ({} : Setup).applicableOn halfUsable 1 none }, o)
        (({} : Setup).withRules after 1 (({} : Setup).applicableOn halfUsable 1 none)) ∧
      (({} : Setup).applicableOn halfUsable 1 none = [] → o = {} ∧ after = halfUsable) :=
  ⟨by decide +kernel, validate_applicable {} (by decide) rfl (by decide) none (.inl steady_default)⟩

/-! ## What the rules may not be -/

def messagesOn (s : Setup) (d : Document) (e : Element) : Option (List String) :=
  (((s.validate e none).on d).1.map (·.2.errors)).toOption

/-- The rules of a field are read from its name. -/
def rulesInName : Setup where
  config := { attributes := { rules := "name" } }

/-- A field whose name is a text of two rules. -/
def namedByRules : Document :=
  formAround [("name", "required|foo")]

/-- A rule that is not registered as rewriting, and one that is and can be applied to all values but
the one in which both of them end. -/
def fickleRules : Setup where
  catalog := ⟨[
    { name := "a", parameter := .none, judge := fun _ => .verdict (.replaced "x") },
    { name := "b", parameter := .none, replaces := true, judge := fun q =>
        if q.value = "x" then .fault RuleFault.nothingToMatch.toFault else .verdict (.replaced "x") },
    Catalog.builtin .matching .reference ""]⟩

/-- A field that is compared with itself. -/
def selfMatching : Document :=
  formAround [("name", "f"), ("value", "z"), ("data-validate-validation", "a|b|matches[f]")]

/-- Without the rules that cannot be applied a field is judged in another way where its name is what
holds its rules, and where it is compared with itself and a rule can be applied to some values only. -/
theorem messages_without_inapplicable :
    (rulesInName.messagesOn namedByRules 1 = some ["Required|foo is required"] ∧
      rulesInName.messagesOn (rulesInName.withRules namedByRules 1
        (rulesInName.applicableOn namedByRules 1 none)) 1 = some ["Required is required"]) ∧
    (fickleRules.messagesOn selfMatching 1 = some [] ∧
      fickleRules.messagesOn (fickleRules.withRules selfMatching 1
        (fickleRules.applicableOn selfMatching 1 none)) 1 = some ["F must match F."]) := by
  decide +kernel

end Setup

end FormGate
