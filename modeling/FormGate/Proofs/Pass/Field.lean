import FormGate.Proofs.Pass.Effect

/-!
# What judging a field does to the page

Describing a field, applying its rules and looking up other fields only reads the page. The value in
the end is written back if it is not the one in the beginning.
-/

namespace FormGate

open Pass

namespace Pass

theorem reads_attributeOf (e : Element) (name : String) : (ask (.attributeOf e name)).Reads :=
  .ask fun _ => rfl

theorem reads_value (e : Element) : (ask (.value e)).Reads :=
  .ask fun _ => rfl

theorem reads_kindOf (e : Element) : (kindOf e).Reads := by
  refine .bind (.ask fun _ => rfl) fun tag => ?_
  split_ifs
  · exact .bind (reads_attributeOf e "type") fun _ => .pure _
  · exact .pure _
  · exact .pure _

theorem reads_tickedOf (e : Element) (kind : FieldKind) : (tickedOf e kind).Reads := by
  cases kind with
  | checkbox => exact .ask fun _ => rfl
  | text => exact .pure _
  | other => exact .pure _

end Pass

namespace Setup

variable (s : Setup)

theorem reads_describe (e : Element) : (s.describe e).Reads := by
  refine .bind (reads_attributeOf e _) fun name => .bind (reads_attributeOf e _) fun raw => ?_
  cases raw with
  | none => exact .throw _
  | some raw =>
    have rest : (do
        let kind ← kindOf e
        reportAll (s.readReports raw (name.filter (!·.isEmpty)))
        return ⟨e, name.filter (!·.isEmpty), kind, s.catalog.rules raw⟩ : Pass Descriptor).Reads :=
      .bind (reads_kindOf e) fun kind => .bind (.reportAll _) fun _ => .pure _
    dsimp only
    split_ifs
    · exact .bind (.report _ _) fun _ => rest
    · exact rest

theorem describe_element {e : Element} {d d' : Document} {r : Descriptor}
    (h : (s.describe e).Yields d r d') : r.element = e := by
  unfold describe at h
  obtain ⟨name, d₁, -, h⟩ := yields_bind.1 h
  obtain ⟨raw, d₂, -, h⟩ := yields_bind.1 h
  cases raw with
  | none => exact absurd h not_yields_throw
  | some raw =>
    dsimp only at h
    split_ifs at h
    · obtain ⟨-, d₃, -, h⟩ := yields_bind.1 h
      obtain ⟨kind, d₄, -, h⟩ := yields_bind.1 h
      obtain ⟨-, d₅, -, h⟩ := yields_bind.1 h
      obtain ⟨rfl, -⟩ := yields_pure.1 h
      rfl
    · obtain ⟨kind, d₄, -, h⟩ := yields_bind.1 h
      obtain ⟨-, d₅, -, h⟩ := yields_bind.1 h
      obtain ⟨rfl, -⟩ := yields_pure.1 h
      rfl

theorem reads_settledValue (e : Element) : (s.settledValue e).Reads := by
  refine .bind (reads_value e) fun value => .bind (reads_attributeOf e _) fun raw => ?_
  cases raw with
  | none => exact .pure _
  | some raw =>
    dsimp only
    split_ifs
    · exact .pure _
    · exact .bind (reads_kindOf e) fun kind => .bind (reads_tickedOf e kind) fun _ => .pure _

theorem reads_lookup (scope : Option Element) (reference : String) :
    (s.lookup scope reference).Reads := by
  unfold lookup
  refine .bind (.ask fun _ => rfl) fun found => ?_
  split
  · exact .throw _
  · refine .bind (reads_attributeOf _ _) fun name => ?_
    split
    · exact .throw _
    · split_ifs
      · exact .throw _
      · exact .bind (s.reads_settledValue _) fun _ => .pure _
  · exact .throw _

theorem reads_settle {lookup : String → Pass (Except Fault Referenced)} (hl : ∀ r, (lookup r).Reads)
    (j : Judgement) : (j.settle lookup).Reads := by
  induction j with
  | verdict v => exact .pure _
  | fault f => exact .pure _
  | consult reference next ih => exact .bind (hl reference) fun found => ih found

theorem reads_judge {lookup : String → Pass Referenced} (hl : ∀ r, (lookup r).Reads) (r : Rule)
    (q : Question) : (s.judge lookup r q).Reads := by
  unfold judge
  split
  · exact .pure _
  · exact reads_settle (fun reference => (hl reference).catchFault) _

theorem reads_applyRule {lookup : String → Pass Referenced} (hl : ∀ r, (lookup r).Reads)
    (d : Descriptor) (checked : Bool) (p : Progress) (r : Rule) :
    (s.applyRule d checked lookup p r).Reads := by
  refine .bind (s.reads_judge hl r _) fun found => ?_
  cases found with
  | ok v => exact .pure _
  | error f => exact .bind (.report _ _) fun _ => .pure _

theorem reads_rules {lookup : String → Pass Referenced} (hl : ∀ r, (lookup r).Reads)
    (d : Descriptor) (checked : Bool) (rules : List Rule) (p : Progress) :
    (rules.foldlM (s.applyRule d checked lookup) p).Reads := by
  induction rules generalizing p with
  | nil => exact .pure _
  | cons r rules ih => exact .bind (s.reads_applyRule hl d checked p r) fun p => ih p

/-- A page before and after a field was judged: its value was written back if it was replaced. -/
def Wrote (e : Element) (o : Outcome) (d d' : Document) : Prop :=
  match o.replaced with
  | none => d' = d
  | some v => d' = d.setValue e v

/-- Once its scope is known, applying the rules of a field changes at most its value. -/
theorem apply_wrote {f : Descriptor} {scope : Option Element} {d d' : Document} {o : Outcome}
    (h : (do
      let value ← ask (.value f.element)
      let checked ← tickedOf f.element f.kind
      let p ← f.rules.foldlM (s.applyRule f checked (s.lookup scope)) ⟨value, []⟩
      if p.value == value then return ⟨p.errors, none⟩
      else
        ask (.setValue f.element p.value)
        return ⟨p.errors, some p.value⟩ : Pass Outcome).Yields d o d') : Wrote f.element o d d' := by
  obtain ⟨value, d₁, read, h₁⟩ := yields_bind.1 h
  obtain rfl := (reads_value _).yields read
  obtain ⟨checked, d₂, ticked, h₂⟩ := yields_bind.1 h₁
  obtain rfl := (reads_tickedOf _ _).yields ticked
  obtain ⟨p, d₃, applied, h₃⟩ := yields_bind.1 h₂
  obtain rfl := (s.reads_rules (s.reads_lookup scope) f checked f.rules _).yields applied
  split_ifs at h₃
  · obtain ⟨rfl, rfl⟩ := yields_pure.1 h₃
    rfl
  · obtain ⟨u, d₄, written, h₄⟩ := yields_bind.1 h₃
    obtain ⟨rfl, rfl⟩ := yields_pure.1 h₄
    exact (congrArg Prod.snd (yields_ask.1 written)).symm

theorem evaluate_wrote {f : Descriptor} {scope : Option Element} {d d' : Document} {o : Outcome}
    (h : (s.evaluate f scope).Yields d o d') : Wrote f.element o d d' := by
  unfold evaluate at h
  cases scope with
  | some e =>
    obtain ⟨scope, d₁, found, rest⟩ := yields_bind.1 h
    obtain rfl := (Reads.pure _).yields found
    exact s.apply_wrote rest
  | none =>
    obtain ⟨scope, d₁, found, rest⟩ := yields_bind.1 h
    obtain rfl := Reads.yields (.ask fun _ => rfl) found
    exact s.apply_wrote rest

theorem validate_wrote {e : Element} {scope : Option Element} {d d' : Document}
    {r : Descriptor × Outcome} (h : (s.validate e scope).Yields d r d') :
    r.1.element = e ∧ Wrote e r.2 d d' := by
  unfold validate at h
  obtain ⟨f, d₁, described, rest⟩ := yields_bind.1 h
  obtain rfl := (s.reads_describe e).yields described
  obtain ⟨o, d₂, evaluated, done⟩ := yields_bind.1 rest
  obtain ⟨rfl, rfl⟩ := yields_pure.1 done
  have element := s.describe_element described
  exact ⟨element, element ▸ s.evaluate_wrote evaluated⟩

end Setup

end FormGate
