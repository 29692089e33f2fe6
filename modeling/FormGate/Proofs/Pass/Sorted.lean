import FormGate.Proofs.Pass.Judging

/-!
# Fields whose values are rewritten first

Where the rules of a field that rewrite its value come before all others, these judge the value in
which the rules end. So the field comes to the same errors when it has that value already
(`Setup.Sorted.errors_judgedOn`).
-/

namespace FormGate

open Pass

theorem Pass.Runs.foldlM_append {α β : Type} {step : β → α → Pass β} {xs ys : List α} {b b₁ b₂ : β}
    {d d₁ d₂ : Document} {ts ts' : List (Failure × Context)}
    (first : (xs.foldlM step b).Runs d b₁ d₁ ts) (later : (ys.foldlM step b₁).Runs d₁ b₂ d₂ ts') :
    ((xs ++ ys).foldlM step b).Runs d b₂ d₂ (ts ++ ts') := by
  rw [List.foldlM_append]
  exact first.bind later

namespace Setup

variable {s : Setup}

/-- Rules that rewrite a value find nothing wrong with any. -/
def Uncritical (s : Setup) : Prop :=
  ∀ d ∈ s.catalog.definitions, d.Rewrites → ∀ q answers v,
    (d.judge q).settleWith answers = .ok v → v.valid = true

/-- Of the built-in rules the one that trims finds nothing wrong. -/
theorem uncritical_of_builtin (builtin : ∀ d ∈ s.catalog.definitions,
    ∃ b : Builtin, d.judge = b.judge) : s.Uncritical := by
  intro d hd rewrites q answers v found
  obtain ⟨b, judge⟩ := builtin d hd
  obtain ⟨q', w, puts⟩ := rewrites
  rw [judge] at puts found
  obtain rfl := eq_trim_of_puts puts
  cases found
  rfl

theorem uncritical_default : ({} : Setup).Uncritical :=
  uncritical_of_builtin fun d hd => (builtin_default d hd).imp fun _ h => h.1

/-- Rules of which those that rewrite come before all others. -/
def Sorted (s : Setup) (rules : List Rule) : Prop :=
  rules.Pairwise fun r r' => s.Rewriting r' → s.Rewriting r

theorem Sorted.exists_split {rules : List Rule} (sorted : s.Sorted rules) :
    ∃ first rest, rules = first ++ rest ∧ (∀ r ∈ first, s.Rewriting r) ∧
      ∀ r ∈ rest, ¬ s.Rewriting r := by
  induction rules with
  | nil => exact ⟨[], [], rfl, nofun, nofun⟩
  | cons r rules ih =>
    obtain ⟨later, sorted⟩ := List.pairwise_cons.1 sorted
    by_cases rewriting : s.Rewriting r
    · obtain ⟨first, rest, rfl, rewrite, others⟩ := ih sorted
      exact ⟨r :: first, rest, rfl, List.forall_mem_cons.2 ⟨rewriting, rewrite⟩, others⟩
    · have others : ∀ r' ∈ rules, ¬ s.Rewriting r' := fun r' hr' h => rewriting (later r' hr' h)
      exact ⟨[], r :: rules, rfl, nofun, List.forall_mem_cons.2 ⟨rewriting, others⟩⟩

section Rewriting

variable (normal : s.Normalises) (uncritical : s.Uncritical) (f : Descriptor) (checked : Bool)
  (scope : Option Element) (d : Document)
include normal uncritical

/-- A rule that rewrites settles the value, and adds no message. -/
theorem step_foundOn_of_rewriting {r : Rule} (rewriting : s.Rewriting r) (p : Progress) :
    p.step (s.labelOf f) (s.foundOn d scope r ⟨p.value, f.kind, r.parameter, checked⟩) =
      { p with value := s.settled f.kind checked [r] p.value } := by
  have value := normal.value_step f checked scope p r d
  have errors : (p.step (s.labelOf f)
      (s.foundOn d scope r ⟨p.value, f.kind, r.parameter, checked⟩)).errors = p.errors := by
    obtain ⟨c, get, rewrites⟩ := rewriting
    unfold foundOn
    rw [get]
    dsimp only
    cases found : (c.judge ⟨p.value, f.kind, r.parameter, checked⟩).settleWith (s.referredOn d scope) with
    | error e => rfl
    | ok v =>
      have valid := uncritical c (mem_definitions get) rewrites _ _ v found
      simp [Progress.step, Progress.after, Verdict.complaint?, valid]
  rw [← value, ← errors]

theorem exists_rules_of_rewriting {rules : List Rule} (rewriting : ∀ r ∈ rules, s.Rewriting r)
    (p : Progress) : ∃ ts, (rules.foldlM (s.applyRule f checked (s.lookup scope)) p).Runs d
      { p with value := s.settled f.kind checked rules p.value } d ts := by
  induction rules generalizing p with
  | nil => exact ⟨[], .pure p d⟩
  | cons r rules ih =>
    rw [List.forall_mem_cons] at rewriting
    have first := s.runs_applyRule f checked scope p r d
    rw [step_foundOn_of_rewriting normal uncritical f checked scope d rewriting.1 p] at first
    obtain ⟨ts, later⟩ := ih rewriting.2 { p with value := s.settled f.kind checked [r] p.value }
    exact ⟨_, first.bind later⟩

end Rewriting

/-- A field that is judged with the value in which its rules end comes to the errors to which it came
with the value before, if the rules that rewrite the value come first. -/
theorem Sorted.errors_judgedOn (normal : s.Normalises) (uncritical : s.Uncritical)
    {d d' : Document} {e scope : Element} (sees : s.Sees scope d d') (same : s.SameField e d d')
    (value : d'.value e = s.settledOn d e)
    (field : (d.attribute? e s.config.attributes.rules).isSome = true)
    (sorted : s.Sorted (s.rulesOn d e)) :
    (s.judgedOn d' scope e).2.errors = (s.judgedOn d scope e).2.errors := by
  obtain ⟨raw, field⟩ := Option.isSome_iff_exists.1 field
  obtain ⟨first, rest, rules, rewriting, others⟩ := sorted.exists_split
  obtain ⟨ts, described⟩ := s.exists_describe field
  obtain ⟨ts', described'⟩ := s.exists_describe (same.rules.trans field)
  rw [same.descriptor] at described'
  have ended : d'.value e = s.settled (d.kind e) (d.ticked e (d.kind e)) first (d.value e) := by
    rw [value, settledOn, rules, settled_append, settled_of_none others]
  -- when the rules that rewrite were applied, the value is the same on both pages
  obtain ⟨p, ts₁, ts₁', start, start'⟩ : ∃ p ts ts',
      (first.foldlM (s.applyRule (s.descriptor d e) (d.ticked e (d.kind e)) (s.lookup (some scope)))
        ⟨d.value e, []⟩).Runs d p d ts ∧
      (first.foldlM (s.applyRule (s.descriptor d e) (d.ticked e (d.kind e)) (s.lookup (some scope)))
        ⟨d'.value e, []⟩).Runs d' p d' ts' := by
    obtain ⟨ts, runs⟩ := exists_rules_of_rewriting normal uncritical (s.descriptor d e)
      (d.ticked e (d.kind e)) (some scope) d rewriting ⟨d.value e, []⟩
    obtain ⟨ts', runs'⟩ := exists_rules_of_rewriting normal uncritical (s.descriptor d e)
      (d.ticked e (d.kind e)) (some scope) d' rewriting ⟨d'.value e, []⟩
    have settled : s.settled (d.kind e) (d.ticked e (d.kind e)) first (d'.value e) =
        s.settled (d.kind e) (d.ticked e (d.kind e)) first (d.value e) := by
      rw [ended, normal.settles]
    exact ⟨_, ts, ts', runs, settled ▸ runs'⟩
  obtain ⟨q, told, later, -⟩ := exists_rules normal (s.descriptor d e) (d.ticked e (d.kind e))
    (some scope) rest p d
  have later' := (alike_rules sees.referredOn (s.descriptor d e) (d.ticked e (d.kind e)) rest p).runs
    (s.reads_rules (s.reads_lookup _) _ _ rest p) later
  have applied := start.foldlM_append later
  have applied' := start'.foldlM_append later'
  rw [← rules] at applied applied'
  have ticked := runs_tickedOf e (d.kind e) d'
  rw [same.ticked] at ticked
  have examined : ∃ o, (s.examine e scope).Runs d (s.descriptor d e, ⟨q.errors, o⟩) d _ :=
    ⟨_, described.bind (.bind_silent (.ask rfl) (.bind_silent (runs_tickedOf e _ d)
      (applied.bind (.pure _ d))))⟩
  have examined' : ∃ o, (s.examine e scope).Runs d' (s.descriptor d e, ⟨q.errors, o⟩) d' _ :=
    ⟨_, described'.bind (.bind_silent (.ask rfl) (.bind_silent ticked
      (applied'.bind (.pure _ d'))))⟩
  obtain ⟨o, examined⟩ := examined
  obtain ⟨o', examined'⟩ := examined'
  rw [judgedOn, judgedOn, show (s.examine e scope).on d = _ from examined.yields,
    show (s.examine e scope).on d' = _ from examined'.yields]

end Setup

end FormGate
