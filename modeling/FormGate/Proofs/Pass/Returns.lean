import FormGate.Proofs.Pass.Applicable
import FormGate.Proofs.Pass.Consistency
import FormGate.Proofs.Pass.OldElements
import FormGate.Proofs.Pass.Relined
import FormGate.Proofs.Pass.Result

/-!
# Passes that return

A pass over a form can only break off where a field has no parent, behind which its feedback would
stand, or where the namespace of an element cannot be read. On a receptive page this does not happen:
if every field of the form stands below some element, a pass over the form returns
(`Setup.returns_validateForm`), and it leaves a receptive page (`Setup.receptive_of_yields`).
-/

namespace FormGate

open Markup Document Pass

variable {α β : Type}

theorem Program.Ends.on {P : α → Prop} {x : Program α} (h : x.Ends P) (d : Document) :
    P (x.on d).1 := by
  induction x generalizing d with
  | done a => exact h
  | call c next ih => exact ih _ (h _) _
  | report e context next ih => exact ih h d

namespace Pass

theorem Gives.of_yields {P : α → Prop} {x : Pass α} (h : x.Gives P) {d d' : Document} {a : α}
    (yields : x.Yields d a d') : P a :=
  Program.Ends.on h d a (congrArg Prod.fst yields)

/-- A pass comes to a result on a page. -/
def Returns (x : Pass α) (d : Document) : Prop :=
  ∃ a d', x.Yields d a d'

variable {d : Document}

theorem Returns.pure (a : α) (d : Document) : (pure a : Pass α).Returns d :=
  ⟨a, d, rfl⟩

theorem Returns.ask {c : Call} {a : c.Answer} (h : (c.perform d).1 = .ok a) : (ask c).Returns d :=
  ⟨a, (c.perform d).2, yields_ask.2 (Prod.ext h rfl)⟩

theorem Returns.bind {x : Pass α} {f : α → Pass β} (hx : x.Returns d)
    (hf : ∀ a d', x.Yields d a d' → (f a).Returns d') : (x >>= f).Returns d := by
  obtain ⟨a, d', first⟩ := hx
  obtain ⟨b, d'', later⟩ := hf a d' first
  exact ⟨b, d'', yields_bind.2 ⟨a, d', first, later⟩⟩

theorem Returns.forM {f : α → Pass Unit} (hf : ∀ x d, (f x).Returns d) (xs : List α)
    (d : Document) : (xs.forM f).Returns d := by
  induction xs generalizing d with
  | nil => exact .pure () d
  | cons x xs ih => exact (hf x d).bind fun _ d' _ => ih d'

end Pass

namespace Markup

theorem Forest.cons_ne_nil {l : Label} {t : String} {c : Forest} {tail : String} {next : Forest} :
    cons l t c tail next ≠ nil :=
  fun impossible => by cases impossible

theorem Frame.plug_ne_nil {f : Forest} (some : f ≠ .nil) (K : Frame) : K.plug f ≠ .nil := by
  cases K with
  | here => exact some
  | inside | behind => exact Forest.cons_ne_nil

theorem Forest.exists_of_mem_nodes_mapLabels {k : Label → String → Forest → Label} {f : Forest}
    {n : Node} (h : n ∈ (f.mapLabels k).nodes) :
    ∃ m ∈ f.nodes, n.label = k m.label m.text m.children ∧ n.children = m.children.mapLabels k := by
  induction f with
  | nil => cases h
  | cons l t c tail next ihc ih =>
    rw [mapLabels, nodes, List.mem_cons, List.mem_append] at h
    rcases h with rfl | below | later
    · exact ⟨_, List.mem_cons_self, rfl, rfl⟩
    · obtain ⟨m, hm, same⟩ := ihc below
      exact ⟨m, List.mem_cons_of_mem _ (List.mem_append_left _ hm), same⟩
    · obtain ⟨m, hm, same⟩ := ih later
      exact ⟨m, List.mem_cons_of_mem _ (List.mem_append_right _ hm), same⟩

end Markup

namespace Setup

variable {s : Setup}

/-- A page that is ready, and in which namespaces can be read where a pass asks for them. -/
structure Receptive (s : Setup) (d : Document) : Prop extends s.Ready d where
  legible : ∀ n ∈ d.tree.nodes, s.Legible n

/-! ## Legible elements -/

theorem Legible.of_same {n n' : Node} (h : s.Legible n) (tag : n'.label.tag = n.label.tag)
    (shown : s.isFeedback n'.label = s.isFeedback n.label)
    (empty : n.children = .nil → n'.children = .nil) : s.Legible n' := by
  intro needed
  rw [shown] at needed
  rw [tag]
  exact h (needed.imp_right fun filled none => filled (empty none))

/-- An element around others is legible whatever it holds in place of them. -/
theorem Legible.around {l : Label} {t tail : String} {K : Frame} {f : Forest} (some : f ≠ .nil)
    (h : s.Legible ⟨l, t, K.plug f, tail⟩) (f' : Forest) : s.Legible ⟨l, t, K.plug f', tail⟩ :=
  fun needed => h (needed.imp_right fun _ => Frame.plug_ne_nil some K)

/-- What an element and all in it become when a value is written is legible. -/
theorem legible_of_refilled {l l' : Label} {t t' tail tail' : String} {c c' : Forest}
    {v : Option String} (refilled : Refilled l t c v l' t' c')
    (legible : ∀ n ∈ Node.nodes ⟨l, t, c, tail⟩, s.Legible n) :
    ∀ n ∈ Node.nodes ⟨l', t', c', tail'⟩, s.Legible n := by
  have shown : s.isFeedback l' = s.isFeedback l := by
    rw [isFeedback, refilled.classes, isFeedback]
  rw [Node.nodes, List.forall_mem_cons] at legible ⊢
  refine ⟨legible.1.of_same refilled.tag shown refilled.below_nil, ?_⟩
  cases refilled with
  | kept | value => exact legible.2
  | text => exact fun n hn => absurd hn List.not_mem_nil
  | options v =>
    intro n hn
    obtain ⟨m, hm, label, children⟩ := Forest.exists_of_mem_nodes_mapLabels hn
    refine (legible.2 m hm).of_same ?_ ?_ fun none => ?_
    · rw [label, tag_chooseOption]
    · rw [label, isFeedback_chooseOption]
    · rw [children, none]
      rfl

theorem Turn.receptive {o : Outcome} {d d' : Document} (T : s.Turn o d d') (distinct : s.Distinct)
    (named : '\x7b' ∉ s.config.presentation.feedbackTag.toList) (receptive : s.Receptive d)
    (wf : d'.WellFormed) : s.Receptive d' where
  toReady := T.ready' receptive.toReady distinct wf
  legible := by
    have old := receptive.legible
    rw [T.tree] at old
    rw [T.tree']
    have some : T.part ≠ .nil := Forest.cons_ne_nil
    refine Frame.forall_nodes_plug (fun l t k tail h => h.around some _) old fun old => ?_
    simp only [part, part', Forest.nodes, Forest.nodes_append, List.forall_mem_cons,
      List.forall_mem_append] at old ⊢
    obtain ⟨own, below, run, rest⟩ := old
    have filled : ∀ n ∈ Node.nodes ⟨T.filled, T.text', T.below', T.tail'⟩, s.Legible n :=
      legible_of_refilled T.refilled (List.forall_mem_cons.2 ⟨own, below⟩)
    rw [Node.nodes, List.forall_mem_cons] at filled
    refine ⟨?_, filled.2, T.renewed.legible named run, rest⟩
    exact filled.1.of_same (tag_mark o T.filled) (isFeedback_mark distinct o T.filled) id

/-- A change of a label that no feedback shows keeps elements legible. -/
theorem legible_modifyLabel {k : Label → Label} (unseen : s.Unseen k) (x : Element) {d : Document}
    (legible : ∀ n ∈ d.tree.nodes, s.Legible n) :
    ∀ n ∈ (d.modifyLabel x k).tree.nodes, s.Legible n := by
  show ∀ n ∈ (d.tree.modify x k).nodes, s.Legible n
  rw [Forest.nodes_modify, List.forall_mem_map]
  intro n hn
  refine (legible n hn).of_same ((unseen.only x).tag n.label) (unseen.isFeedback_modify x n) ?_
  intro none
  show n.children.modify x k = .nil
  rw [none]
  rfl

/-! ## Turns -/

section Head

variable {P : Place} {l : Label} {t : String} {c : Forest} {tail : String} {next : Forest}
  (wf : (P.put (.cons l t c tail next)).WellFormed)
  (legible : ∀ n ∈ (P.put (.cons l t c tail next)).tree.nodes, s.Legible n)
  (named : '\x7b' ∉ s.config.presentation.feedbackTag.toList)
include wf legible named

/-- What a page shows of an element below another one can be brought in line with every outcome. -/
theorem returns_applyFeedback (o : Outcome) :
    (s.applyFeedback l.id o).Returns (P.put (.cons l t c tail next)) := by
  obtain ⟨run, rest, rfl, -, shown, ends⟩ := Forest.exists_run (fun n => s.isFeedback n.label) next
  obtain ⟨space, spaced, -⟩ := space_container wf legible
  obtain ⟨run', relined, -⟩ :=
    exists_relined ⟨space, spaced⟩ named (spaced_of_legible legible shown) o P.page.fresh
  obtain ⟨gone, fresh, yields⟩ := yields_of_relined wf shown ends relined
  exact ⟨(), _, yields⟩

end Head

/-- A field that stands below another element has its turn. -/
theorem returns_validateField
    (named : '\x7b' ∉ s.config.presentation.feedbackTag.toList) {d : Document}
    (receptive : s.Receptive d) {l : Label} (hl : l ∈ d.labels) (field : s.isField l = true)
    {p : Element} (parent : d.parent? l.id = some p) (scope : Option Element) :
    (s.validateField l.id scope).Returns d := by
  have wf := receptive.wellFormed
  obtain ⟨raw, given⟩ : ∃ raw, l.get? s.config.attributes.rules = some raw := by
    rw [isField, Label.has_eq_isSome] at field
    exact Option.isSome_iff_exists.1 field
  have rules : d.attribute? l.id s.config.attributes.rules = some raw := by
    rw [attribute?, wf.label?_eq_some.2 ⟨hl, rfl⟩]
    exact given
  refine .bind ⟨_, _, s.validate_yields scope rules⟩ fun r d₁ validated => ?_
  refine .bind ?_ fun _ d₂ _ => .pure r d₂
  obtain ⟨-, wrote⟩ := s.validate_wrote validated
  obtain ⟨P, l₀, t, c, tail, next, rfl, id⟩ := Place.exists_put wf parent
  have member : l₀ ∈ (P.put (.cons l₀ t c tail next)).labels :=
    List.mem_append_left _ (Frame.labels_subset_plug P.whole _ List.mem_cons_self)
  obtain rfl := wf.unique member hl id
  have legible : ∀ n ∈ (P.whole.plug (.cons l₀ t c tail next)).nodes, s.Legible n :=
    receptive.legible
  have head : s.Sound ⟨l₀, t, c, tail⟩ :=
    receptive.sound _ (Frame.nodes_subset_plug P.whole _ List.mem_cons_self)
  obtain ⟨l', t', c', refilled, rfl⟩ := exists_refilled wf (head.textarea field) wrote
  rw [← refilled.kin.id]
  refine returns_applyFeedback (validated.descends wf).1 ?_ named r.2
  -- only the element itself and what it holds may be other ones than before
  have some : Forest.cons l₀ t c tail next ≠ .nil := Forest.cons_ne_nil
  refine Frame.forall_nodes_plug (K := P.whole) (P := s.Legible)
    (fun l t K tail h => h.around some _) legible fun old => ?_
  rw [Forest.nodes, ← List.cons_append, List.forall_mem_append] at old ⊢
  exact ⟨legible_of_refilled refilled old.1, old.2⟩

/-- The fields of a scope have their turns if each of them stands below another element. -/
theorem returns_turns (distinct : s.Distinct)
    (named : '\x7b' ∉ s.config.presentation.feedbackTag.toList) {scope : Element} {es : List Element}
    {d : Document} (receptive : s.Receptive d) (once : es.Nodup)
    (inside : ∀ e ∈ es, e ∈ d.carriers scope s.config.attributes.rules)
    (below : ∀ e ∈ es, ∃ p, d.parent? e = some p) :
    (es.mapM fun e => s.validateField e (some scope)).Returns d := by
  induction es generalizing d with
  | nil => exact .pure [] d
  | cons e es ih =>
    rw [List.nodup_cons] at once
    rw [List.forall_mem_cons] at inside below
    obtain ⟨n, found, l, hl, field, rfl⟩ := mem_select inside.1
    have hl := (labels_of_node? found).subset hl
    obtain ⟨p, parent⟩ := below.1
    rw [List.mapM_cons]
    refine (returns_validateField named receptive hl field parent _).bind
      fun r d₁ first => ?_
    obtain ⟨-, T, rfl⟩ := exists_turn distinct receptive.toReady hl field first
    have receptive₁ := T.receptive distinct named receptive
      (first.descends receptive.wellFormed).1
    have carriers := T.carriers_eq distinct receptive.toReady inside.1
    refine (ih receptive₁ once.2 (fun e he => carriers ▸ inside.2 e he) fun e he => ?_).bind
      fun rs d₂ _ => .pure _ d₂
    obtain ⟨n', found', l', hl', field', rfl⟩ := mem_select (inside.2 e he)
    have other : T.label.id ≠ l'.id := fun same => once.1 (same ▸ he)
    have apart := T.apart_of_field distinct receptive.toReady
      ((labels_of_node? found').subset hl') field' other
    rw [apart.parent?_eq]
    exact below.2 _ he

/-- A page is receptive after fields of a scope had their turns if it was before. -/
theorem receptive_of_turns (distinct : s.Distinct)
    (named : '\x7b' ∉ s.config.presentation.feedbackTag.toList) {scope : Element} {es : List Element}
    {rs : List (Descriptor × Outcome)} {d d' : Document} (receptive : s.Receptive d)
    (inside : ∀ e ∈ es, e ∈ d.carriers scope s.config.attributes.rules)
    (h : (es.mapM fun e => s.validateField e (some scope)).Yields d rs d') : s.Receptive d' := by
  induction es generalizing d rs with
  | nil =>
    obtain ⟨-, rfl⟩ := yields_pure.1 h
    exact receptive
  | cons e es ih =>
    obtain ⟨r, d₁, rs, first, later, rfl⟩ := yields_mapM_cons h
    rw [List.forall_mem_cons] at inside
    obtain ⟨n, found, l, hl, field, rfl⟩ := mem_select inside.1
    obtain ⟨-, T, rfl⟩ :=
      exists_turn distinct receptive.toReady ((labels_of_node? found).subset hl) field first
    have receptive₁ := T.receptive distinct named receptive
      (first.descends receptive.wellFormed).1
    have carriers := T.carriers_eq distinct receptive.toReady inside.1
    exact ih receptive₁ (fun e he => carriers ▸ inside.2 e he) later

theorem receptive_of_yields (distinct : s.Distinct)
    (named : '\x7b' ∉ s.config.presentation.feedbackTag.toList) {scope : Element} {o : FormOutcome}
    {d d' : Document} (receptive : s.Receptive d) (h : (s.validateForm scope).Yields d o d') :
    s.Receptive d' where
  toReady := (consistent_of_yields distinct receptive.toReady h).ready
  legible := by
    obtain ⟨es, d₁, asked, h⟩ := yields_bind.1 h
    obtain ⟨rfl, rfl⟩ := yields_carriers.1 asked
    obtain ⟨rs, d₂, turns, h⟩ := yields_bind.1 h
    obtain ⟨u, d₃, gate, done⟩ := yields_bind.1 h
    obtain ⟨-, rfl⟩ := yields_pure.1 done
    obtain rfl := yields_gateControls gate
    have receptive₂ := receptive_of_turns distinct named receptive (fun _ he => he) turns
    refine List.foldlRecOn (motive := fun d : Document => ∀ n ∈ d.tree.nodes, s.Legible n) _ _
      receptive₂.legible fun d legible e _ => ?_
    rw [setFlag_disabled]
    exact legible_modifyLabel (unseen_flagged distinct _) e legible

/-- A pass over a form whose fields all stand below other elements returns. -/
theorem returns_validateForm (distinct : s.Distinct)
    (named : '\x7b' ∉ s.config.presentation.feedbackTag.toList) {scope : Element} {d : Document}
    (receptive : s.Receptive d)
    (below : ∀ e ∈ d.carriers scope s.config.attributes.rules, ∃ p, d.parent? e = some p) :
    (s.validateForm scope).Returns d := by
  refine .bind (.ask rfl) fun elements d₁ asked => ?_
  obtain ⟨rfl, rfl⟩ := yields_carriers.1 asked
  have once := nodup_carriers receptive.wellFormed scope s.config.attributes.rules
  refine (returns_turns distinct named receptive once (fun _ he => he) below).bind fun rs d₂ _ => ?_
  have gated (valid : Bool) : (gateControls scope valid).Returns d₂ :=
    .bind (.ask rfl) fun controls d₃ _ => .forM (fun c d => .ask rfl) controls d₃
  exact (gated _).bind fun _ d₄ _ => .pure _ d₄

end Setup

end FormGate
