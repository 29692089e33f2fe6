import FormGate.Markup.Forest
import Mathlib.Data.List.Basic

/-!
# Attributes of labels

An attribute that is set or erased can be read back, and all others keep their values.
-/

namespace FormGate.Markup.Label

variable {l : Label} {a b : String}

theorem lookup_map_of_ne (as : List (String × String)) (value : String) (h : b ≠ a) :
    (as.map fun p => if p.1 == a then (a, value) else p).lookup b = as.lookup b := by
  induction as with
  | nil => rfl
  | cons p as ih =>
    obtain ⟨k, v⟩ := p
    rw [List.map_cons, List.lookup_cons]
    by_cases same : k = a
    · have ne : (b == a) = false := by simpa using h
      rw [if_pos (by simpa using same), List.lookup_cons, same, ne]
      exact ih
    · rw [if_neg (by simpa using same), List.lookup_cons, ih]

theorem lookup_map_self (as : List (String × String)) (value : String)
    (h : as.any (·.1 == a) = true) :
    (as.map fun p => if p.1 == a then (a, value) else p).lookup a = some value := by
  induction as with
  | nil => cases h
  | cons p as ih =>
    obtain ⟨k, v⟩ := p
    by_cases same : k = a
    · simp [same]
    · have ne : (a == k) = false := by simpa using fun e => same e.symm
      have later : as.any (·.1 == a) = true := by simpa [same] using h
      simpa [same, List.lookup_cons, ne] using ih later

theorem lookup_filter_of_ne {β : Type} (as : List (String × β)) (h : b ≠ a) :
    (as.filter (·.1 != a)).lookup b = as.lookup b := by
  induction as with
  | nil => rfl
  | cons p as ih =>
    obtain ⟨k, v⟩ := p
    by_cases same : k = a
    · have ne : (b == a) = false := by simpa using h
      simp [same, List.lookup_cons, ih, ne]
    · simp [same, List.lookup_cons, ih]

theorem get?_eq_none : l.get? a = none ↔ l.has a = false := by
  unfold get? has
  rw [List.lookup_eq_none_iff, List.any_eq_false]
  refine forall₂_congr fun p _ => ?_
  rw [bne_iff_ne, beq_iff_eq]
  exact not_congr eq_comm

theorem has_eq_isSome : l.has a = (l.get? a).isSome := by
  cases h : l.get? a with
  | none => rw [get?_eq_none.1 h]; rfl
  | some v =>
    cases absent : l.has a with
    | true => rfl
    | false => rw [← get?_eq_none, h] at absent; cases absent

theorem get?_set_of_ne (value : String) (h : b ≠ a) : (l.set a value).get? b = l.get? b := by
  unfold set get?
  split
  · exact lookup_map_of_ne l.attributes value h
  · have ne : (b == a) = false := by simpa using h
    simp [List.lookup_append, List.lookup_cons, ne]

@[simp] theorem get?_set_self (value : String) : (l.set a value).get? a = some value := by
  by_cases present : l.has a = true
  · unfold set get?
    rw [if_pos present]
    exact lookup_map_self l.attributes value present
  · have absent : l.get? a = none := get?_eq_none.2 (by simpa using present)
    unfold set get?
    rw [if_neg present, List.lookup_append]
    unfold get? at absent
    simp [absent]

theorem get?_erase_of_ne (h : b ≠ a) : (l.erase a).get? b = l.get? b :=
  lookup_filter_of_ne l.attributes h

@[simp] theorem get?_erase_self : (l.erase a).get? a = none := by
  rw [get?_eq_none]
  simp [has, erase]

theorem set_set (value : String) : (l.set a value).set a value = l.set a value := by
  have again : (l.set a value).has a = true := by
    rw [has_eq_isSome, get?_set_self]
    rfl
  have map_map (as : List (String × String)) :
      (as.map fun b => if b.1 == a then (a, value) else b).map
          (fun b => if b.1 == a then (a, value) else b) =
        as.map fun b => if b.1 == a then (a, value) else b := by
    rw [List.map_map]
    refine List.map_congr_left fun b _ => ?_
    rw [Function.comp_apply]
    split_ifs <;> simp_all
  rw [set, if_pos again]
  unfold set
  dsimp only
  split_ifs with present
  · rw [map_map]
  · have others : l.attributes.map (fun b => if b.1 == a then (a, value) else b) = l.attributes := by
      refine (List.map_congr_left fun b hb => if_neg fun same => present ?_).trans (List.map_id _)
      exact List.any_eq_true.2 ⟨b, hb, same⟩
    rw [List.map_append, others]
    simp

theorem erase_erase : (l.erase a).erase a = l.erase a := by
  simp [erase]

/-! ## Attributes of other names -/

section Filter

variable {p : String → Bool} (h : p a = false)
include h

theorem filter_set (value : String) :
    (l.set a value).attributes.filter (fun b => p b.1) = l.attributes.filter fun b => p b.1 := by
  unfold set
  dsimp only
  split
  · induction l.attributes with
    | nil => rfl
    | cons b bs ih =>
      rw [List.map_cons]
      by_cases same : b.1 = a
      · rw [if_pos (by simp [same]), List.filter_cons_of_neg (by simp [h]),
          List.filter_cons_of_neg (by simp [same, h]), ih]
      · rw [if_neg (by simp [same]), List.filter_cons, List.filter_cons, ih]
  · rw [List.filter_append]
    simp [h]

theorem filter_erase :
    (l.erase a).attributes.filter (fun b => p b.1) = l.attributes.filter fun b => p b.1 := by
  rw [erase, List.filter_filter]
  refine List.filter_congr fun b _ => ?_
  by_cases same : b.1 = a
  · simp [same, h]
  · simp [same]

end Filter

end FormGate.Markup.Label
