import FormGate.Proofs.Document.Labels
import FormGate.Proofs.Markup.Names
import FormGate.Proofs.Pass.Consistency

/-!
# Pages that can be written

A page can be written if no name on it opens a namespace and never closes it. No name on a page that
was read does so, and a pass that finds all fields of a form valid brings in no other names, as it
puts in no feedback (`Setup.writable_of_valid`).
-/

namespace FormGate

open Markup Document Pass

/-- No name in a label opens a namespace and never closes it. -/
def Markup.Label.Writable (l : Label) : Prop :=
  ∀ name ∈ Writer.namesOf l, Writer.isUnwritable name = false

namespace Markup

theorem writable_of_expanded {name : String} (h : Expanded name.toList) :
    Writer.isUnwritable name = false := by
  unfold Writer.isUnwritable
  rcases h with ⟨c, back, same, start⟩ | ⟨space, back, same, -⟩
  · have other : c ≠ '\x7b' := by
      rintro rfl
      revert start
      decide
    rw [same, List.head?_cons]
    simp [other]
  · rw [same]
    simp

theorem writable_behind_space {tag : Tag} {space : String} (h : tag.space = .ok space) (name : String)
    (bare : Writer.isUnwritable name = false) : Writer.isUnwritable (space ++ name) = false := by
  unfold Tag.space at h
  split at h
  · split at h
    · split_ifs at h
      cases h
      unfold Writer.isUnwritable
      simp
    · cases h
      rwa [String.empty_append]
  · cases h

theorem Label.Sourced.writable {l : Label} (h : l.Sourced) : l.Writable := by
  obtain ⟨name, tag, expanded⟩ := h.tag
  refine List.forall_mem_append.2 ⟨?_, fun name hname => ?_⟩
  · rw [tag]
    refine List.forall_mem_singleton.2 (writable_of_expanded ?_)
    rwa [String.toList_ofList]
  · obtain ⟨a, ha, rfl⟩ := List.mem_map.1 hname
    exact writable_of_expanded (h.attributes a ha).2

theorem Label.namesOf_set_subset (l : Label) (a v : String) :
    Writer.namesOf (l.set a v) ⊆ Writer.namesOf l ++ [a] := by
  unfold Writer.namesOf Label.set
  dsimp only
  split_ifs
  · rw [List.map_map]
    refine List.append_subset.2 ⟨fun x hx => by simp [hx], fun x hx => ?_⟩
    obtain ⟨p, hp, rfl⟩ := List.mem_map.1 hx
    rw [Function.comp_apply]
    split_ifs
    · simp
    · exact List.mem_append_left _ (List.mem_append_right _ (List.mem_map_of_mem hp))
  · rw [List.map_append, ← List.append_assoc]
    exact List.Subset.refl _

theorem Label.namesOf_erase_subset (l : Label) (a : String) :
    Writer.namesOf (l.erase a) ⊆ Writer.namesOf l := by
  refine List.append_subset.2 ⟨List.subset_append_left _ _, fun x hx => ?_⟩
  obtain ⟨p, hp, rfl⟩ := List.mem_map.1 hx
  exact List.mem_append_right _ (List.mem_map_of_mem (List.mem_filter.1 hp).1)

theorem Label.stable_writable : Label.Stable Label.Writable where
  set {l a} h listed v := by
    intro name hname
    rcases List.mem_append.1 (l.namesOf_set_subset a v hname) with old | new
    · exact h name old
    · obtain rfl := List.mem_singleton.1 new
      exact (show ∀ a ∈ touched, Writer.isUnwritable a = false by decide) name listed
  erase {l a} h _ := fun name hname => h name (l.namesOf_erase_subset a hname)
  holding {l} h lines := by
    obtain ⟨id, tag, attributes⟩ := l
    cases tag <;> exact h
  lineBreak {l space} _ spaced id := by
    refine List.forall_mem_singleton.2 ?_
    exact writable_behind_space spaced "br" rfl

end Markup

/-- A page without a name that never closes its namespace can be written. -/
theorem Document.text_of_writable {d : Document} (h : d.All Label.Writable) :
    ∃ text, d.text = .ok text := by
  have names : ((d.tree.labels.flatMap Writer.namesOf).any Writer.isUnwritable) = false := by
    rw [List.any_eq_false]
    intro name hname
    obtain ⟨l, hl, inside⟩ := List.mem_flatMap.1 hname
    rw [(all_iff.1 h).1 l hl name inside]
    exact Bool.false_ne_true
  unfold text Writer.page
  dsimp only
  rw [names, if_neg Bool.false_ne_true]
  split <;> exact ⟨_, rfl⟩

theorem Document.writable_ofText {text : String} {d : Document} (h : Document.ofText text = .ok d) :
    d.All Label.Writable :=
  fun l hl => (sourced_ofText h l hl).writable

namespace Setup

variable {s : Setup} {P : Label → Prop}

theorem all_removes (es : List Element) {d : Document} (h : d.All P) :
    (es.foldl Document.remove d).All P :=
  List.foldlRecOn es _ h fun _ all e _ => all.remove e

variable (stable : Label.Stable P)
include stable

theorem all_of_validateField {e : Element} {scope : Option Element} {d d' : Document}
    {r : Descriptor × Outcome} (h : (s.validateField e scope).Yields d r d') (valid : r.2.valid = true)
    (all : d.All P) : d'.All P := by
  unfold validateField at h
  obtain ⟨r, d₁, judged, h⟩ := yields_bind.1 h
  obtain ⟨u, d₂, shown, done⟩ := yields_bind.1 h
  obtain ⟨rfl, rfl⟩ := yields_pure.1 done
  have written : d₁.All P := by
    have wrote := (s.validate_wrote judged).2
    unfold Wrote at wrote
    split at wrote
    · rwa [wrote]
    · rw [wrote]
      exact all.setValue stable _ _
  obtain ⟨es, d₃, -, -, refreshing, rfl⟩ := s.yields_applyFeedback shown
  rw [s.mark_of_valid valid]
  refine Document.All.removeClass stable (?_ : d₃.All P) e _
  cases refreshing with
  | removed es _ => exact all_removes es written
  | inserted tag breaks invalid => exact absurd valid (by simp [invalid])
  | replaced f es d₁ invalid => exact absurd valid (by simp [invalid])

theorem all_of_turns {scope : Option Element} {es : List Element} {rs : List (Descriptor × Outcome)}
    {d d' : Document} (h : (es.mapM fun e => s.validateField e scope).Yields d rs d')
    (valid : ∀ r ∈ rs, r.2.valid = true) (all : d.All P) : d'.All P := by
  induction es generalizing d rs with
  | nil =>
    obtain ⟨-, rfl⟩ := yields_pure.1 h
    exact all
  | cons e es ih =>
    obtain ⟨r, d₁, rs, first, later, rfl⟩ := yields_mapM_cons h
    obtain ⟨own, others⟩ := List.forall_mem_cons.1 valid
    exact ih later others (all_of_validateField stable first own all)

/-- A pass over a form that finds all fields valid keeps what is stable. -/
theorem all_of_validateForm {scope : Element} {o : FormOutcome} {d d' : Document}
    (h : (s.validateForm scope).Yields d o d') (valid : o.valid = true) (all : d.All P) :
    d'.All P := by
  unfold validateForm at h
  obtain ⟨elements, d₁, asked, h⟩ := yields_bind.1 h
  obtain ⟨rfl, rfl⟩ := yields_carriers.1 asked
  obtain ⟨rs, d₂, turns, h⟩ := yields_bind.1 h
  obtain ⟨u, d₃, gate, done⟩ := yields_bind.1 h
  obtain ⟨rfl, rfl⟩ := yields_pure.1 done
  obtain rfl := yields_gateControls gate
  have judged : ∀ r ∈ rs, r.2.valid = true := by simpa [FormOutcome.valid] using valid
  exact List.foldlRecOn _ _ (all_of_turns stable turns judged all) fun _ all c _ =>
    all.setFlag stable (by decide) c _

omit stable in
theorem writable_of_valid {scope : Element} {o : FormOutcome} {d d' : Document}
    (h : (s.validateForm scope).Yields d o d') (valid : o.valid = true)
    (writable : d.All Label.Writable) : ∃ text, d'.text = .ok text :=
  text_of_writable (all_of_validateForm Label.stable_writable h valid writable)

end Setup

end FormGate
