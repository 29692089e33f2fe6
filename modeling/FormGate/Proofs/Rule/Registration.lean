import FormGate.Rule.Catalog
import Mathlib.Data.List.Nodup
import Mathlib.Tactic.SplitIfs

/-!
# Courses of registrations

A catalog is filled by requests to register a rule, of which some are refused. Whatever the course
of requests, the catalog lists every registered name at the place of its first registration, with
the definition of its latest one (`Catalog.registered_in_order`). A refused request changes nothing.
-/

namespace FormGate

namespace Catalog

/-! ## Requests and their answers -/

/-- The definition that a request asks for, unless there is no such kind of parameter. -/
def Registration.definition (r : Registration) : Except Failure Definition :=
  match ParameterKind.ofName? r.parameterKind with
  | none => .error (notAMember r.parameterKind "ParameterKind")
  | some kind => .ok ⟨r.name, kind, r.judge, r.description, r.replaces⟩

/-- A request is refused where there is no kind of parameter of the given name. -/
theorem definition_eq_error_iff (r : Registration) :
    (∃ e, r.definition = .error e) ↔ r.parameterKind ∉ ["none", "integer", "reference"] := by
  unfold Registration.definition
  cases kind : ParameterKind.ofName? r.parameterKind with
  | none =>
    refine iff_of_true ⟨_, rfl⟩ fun listed => ?_
    obtain ⟨k, same⟩ : ∃ k : ParameterKind, k.name = r.parameterKind := by
      simp only [List.mem_cons, List.not_mem_nil, or_false] at listed
      rcases listed with none | integer | reference
      · exact ⟨.none, none.symm⟩
      · exact ⟨.integer, integer.symm⟩
      · exact ⟨.reference, reference.symm⟩
    exact List.find?_eq_none.1 kind k (by cases k <;> simp) (beq_iff_eq.2 same)
  | some k =>
    have same : k.name = r.parameterKind := by simpa using List.find?_some kind
    rw [← same]
    cases k <;> simp [ParameterKind.name]

/-- Enters the definition of a request into the catalog at hand and answers with it. What was
changed before a failure would stay changed. -/
def enter (r : Registration) : ExceptT Failure (StateM Catalog) Definition := do
  let d ← liftM r.definition
  modify (·.insert d)
  return d

/-- Makes requests one after the other, and goes on after a refused one: the answers, and the catalog
afterwards. -/
def enterAll : List Registration → Catalog → List (Except Failure Definition) × Catalog
  | [], c => ([], c)
  | r :: rs, c =>
    (((enter r).run.run c).1 :: (enterAll rs ((enter r).run.run c).2).1,
      (enterAll rs ((enter r).run.run c).2).2)

/-- A request either registers its definition, or it is refused and the catalog is as before. -/
theorem enter_run (r : Registration) (c : Catalog) : (enter r).run.run c =
    match c.register r with
    | .ok (d, c') => (.ok d, c')
    | .error e => (.error e, c) := by
  unfold enter register Registration.definition
  cases ParameterKind.ofName? r.parameterKind <;> rfl

theorem enter_run_of_ok {r : Registration} {d : Definition} (h : r.definition = .ok d) (c : Catalog) :
    (enter r).run.run c = (.ok d, c.insert d) := by
  unfold enter
  rw [h]
  rfl

theorem enter_run_of_error {r : Registration} {e : Failure} (h : r.definition = .error e)
    (c : Catalog) : (enter r).run.run c = (.error e, c) := by
  unfold enter
  rw [h]
  rfl

/-- The answers do not depend on the catalog, and the definitions among them are inserted. -/
theorem enterAll_eq (rs : List Registration) (c : Catalog) :
    enterAll rs c = (rs.map Registration.definition,
      ((rs.map Registration.definition).filterMap Except.toOption).foldl insert c) := by
  induction rs generalizing c with
  | nil => rfl
  | cons r rs ih =>
    unfold enterAll
    cases answer : r.definition with
    | ok d =>
      rw [enter_run_of_ok answer, ih, List.map_cons, answer]
      rfl
    | error e =>
      rw [enter_run_of_error answer, ih, List.map_cons, answer]
      rfl

/-! ## What a catalog tells -/

theorem contains_iff (c : Catalog) (name : String) : c.contains name = true ↔ name ∈ c.names := by
  unfold contains names
  simp only [List.any_eq_true, beq_iff_eq, List.mem_map]

theorem names_insert (c : Catalog) (d : Definition) :
    (c.insert d).names = if c.contains d.name then c.names else c.names ++ [d.name] := by
  unfold insert
  split_ifs with known
  · unfold names
    rw [List.map_map]
    refine List.map_congr_left fun e _ => ?_
    rw [Function.comp_apply]
    split_ifs with same
    · exact (beq_iff_eq.1 same).symm
    · rfl
  · unfold names
    rw [List.map_append, List.map_singleton]

section

variable {ds : List Definition} {d : Definition}

theorem find?_replaced_self (known : ds.any (·.name == d.name) = true) :
    (ds.map fun e => if e.name == d.name then d else e).find? (·.name == d.name) = some d := by
  induction ds with
  | nil => cases known
  | cons e ds ih =>
    rw [List.map_cons, List.find?_cons]
    by_cases here : e.name = d.name
    · simp [here]
    · have later : ds.any (·.name == d.name) = true := by simpa [here] using known
      have skipped : (e.name == d.name) = false := by simpa using here
      simp only [skipped, Bool.false_eq_true, if_false]
      exact ih later

/-- Under any other name the same definition is found as before. -/
theorem find?_replaced_of_ne {name : String} (other : name ≠ d.name) :
    (ds.map fun e => if e.name == d.name then d else e).find? (·.name == name) =
      ds.find? (·.name == name) := by
  induction ds with
  | nil => rfl
  | cons e ds ih =>
    rw [List.map_cons, List.find?_cons, List.find?_cons, ih]
    by_cases here : e.name = d.name
    · have skipped : (d.name == name) = false := by simpa using other.symm
      simp [here, skipped]
    · simp [here]

end

theorem get?_insert_self (c : Catalog) (d : Definition) : (c.insert d).get? d.name = some d := by
  unfold insert get?
  split_ifs with known
  · exact find?_replaced_self known
  · have absent : c.definitions.find? (·.name == d.name) = none := by
      rw [List.find?_eq_none]
      intro e member found
      exact known (List.any_eq_true.2 ⟨e, member, found⟩)
    rw [List.find?_append, absent]
    simp

theorem get?_insert_of_ne (c : Catalog) {d : Definition} {name : String} (other : name ≠ d.name) :
    (c.insert d).get? name = c.get? name := by
  unfold insert get?
  split_ifs with known
  · exact find?_replaced_of_ne other
  · rw [List.find?_append]
    simp [other.symm]

theorem contains_eq (c : Catalog) (name : String) : c.contains name = (c.get? name).isSome := by
  unfold contains get?
  rw [Bool.eq_iff_iff, List.find?_isSome, List.any_eq_true]

/-- Where no two definitions share a name, each is found under its own. -/
theorem get?_of_mem {c : Catalog} (distinct : c.names.Nodup) {d : Definition}
    (member : d ∈ c.definitions) : c.get? d.name = some d := by
  obtain ⟨early, late, split⟩ := List.append_of_mem member
  unfold names at distinct
  rw [split, List.map_append, List.map_cons, List.nodup_middle, List.nodup_cons] at distinct
  unfold get?
  rw [List.find?_eq_some_iff_append]
  refine ⟨beq_self_eq_true _, early, late, split, fun e before => ?_⟩
  have other : e.name ≠ d.name := by
    intro same
    exact distinct.1 (List.mem_append_left _ (same ▸ List.mem_map_of_mem before))
  simpa using other

/-! ## Courses of registrations -/

/-- What a catalog tells after definitions were registered in it one after the other: every name once,
in the order of the first registrations, and under every name the definition of the latest one. -/
structure Tells (c : Catalog) (registered : List Definition) : Prop where
  distinct : c.names.Nodup
  ordered : c.names.Pairwise fun a b =>
    (registered.map (·.name)).idxOf a < (registered.map (·.name)).idxOf b
  latest : ∀ name d, c.get? name = some d ↔ ∃ early late, registered = early ++ d :: late ∧
    d.name = name ∧ ∀ e ∈ late, e.name ≠ name
  unknown : ∀ name, c.get? name = none ↔ ∀ d ∈ registered, d.name ≠ name
  contained : ∀ name, c.contains name = (c.get? name).isSome
  listed : ∀ name, name ∈ c.names ↔ (c.get? name).isSome
  iterated : c.names.map c.get? = c.definitions.map some
  counted : c.size = c.names.length

/-- The last of a list that satisfies a condition has only others behind it. -/
theorem find?_reverse_eq_some_iff {α : Type} {p : α → Bool} {xs : List α} {x : α} :
    xs.reverse.find? p = some x ↔
      ∃ early late, xs = early ++ x :: late ∧ p x = true ∧ ∀ y ∈ late, p y = false := by
  rw [List.find?_eq_some_iff_append]
  constructor
  · rintro ⟨holds, late, early, split, others⟩
    refine ⟨early.reverse, late.reverse, ?_, holds, fun y after => ?_⟩
    · rw [← List.reverse_reverse xs, split]
      simp
    · simpa using others y (List.mem_reverse.1 after)
  · rintro ⟨early, late, rfl, holds, others⟩
    refine ⟨holds, late.reverse, early.reverse, by simp, fun y after => ?_⟩
    simpa using others y (List.mem_reverse.1 after)

/-- A catalog that holds what was registered. Its names stand in the order of their first
registrations, and under every name the last definition of that name is found. -/
structure Holds (c : Catalog) (registered : List Definition) : Prop where
  distinct : c.names.Nodup
  ordered : c.names.Pairwise fun a b =>
    (registered.map (·.name)).idxOf a < (registered.map (·.name)).idxOf b
  found : ∀ name, c.get? name = registered.reverse.find? (·.name == name)

section

variable {c : Catalog} {registered : List Definition}

theorem Holds.mem_names_iff (h : c.Holds registered) (name : String) :
    name ∈ c.names ↔ name ∈ registered.map (·.name) := by
  rw [← contains_iff, contains_eq, h.found, List.find?_isSome]
  simp

/-- One more registration replaces the definition of a known name, and puts a new name last. -/
theorem Holds.insert (h : c.Holds registered) (d : Definition) :
    (c.insert d).Holds (registered ++ [d]) := by
  constructor
  · rw [names_insert]
    split_ifs with known
    · exact h.distinct
    · rw [contains_iff] at known
      rw [← List.concat_eq_append]
      exact h.distinct.concat known
  · have earlier : ∀ a ∈ c.names, ((registered ++ [d]).map (·.name)).idxOf a =
        (registered.map (·.name)).idxOf a := by
      intro a listed
      rw [List.map_append]
      exact List.idxOf_append_of_mem ((h.mem_names_iff a).1 listed)
    have kept : c.names.Pairwise fun a b => ((registered ++ [d]).map (·.name)).idxOf a <
        ((registered ++ [d]).map (·.name)).idxOf b := by
      refine h.ordered.imp_of_mem fun listed listed' less => ?_
      rwa [earlier _ listed, earlier _ listed']
    rw [names_insert]
    split_ifs with known
    · exact kept
    · rw [contains_iff, h.mem_names_iff] at known
      refine List.pairwise_append.2 ⟨kept, List.pairwise_singleton _ _, ?_⟩
      intro a listed b last
      have here := List.idxOf_lt_length_iff.2 ((h.mem_names_iff a).1 listed)
      rw [earlier a listed, List.mem_singleton.1 last, List.map_append,
        List.idxOf_append_of_notMem known]
      omega
  · intro name
    rw [List.reverse_append, List.reverse_singleton, List.singleton_append, List.find?_cons]
    by_cases own : name = d.name
    · subst own
      rw [get?_insert_self, beq_self_eq_true]
    · have other : (d.name == name) = false := by simpa using fun same => own same.symm
      rw [get?_insert_of_ne c own, h.found, other]

theorem Holds.insertAll (h : c.Holds registered) (ds : List Definition) :
    (ds.foldl Catalog.insert c).Holds (registered ++ ds) := by
  induction ds generalizing c registered with
  | nil =>
    rw [List.append_nil]
    exact h
  | cons d ds ih =>
    have rest := ih (h.insert d)
    rw [List.append_assoc] at rest
    exact rest

theorem Holds.tells (h : c.Holds registered) : c.Tells registered where
  distinct := h.distinct
  ordered := h.ordered
  latest name d := by
    rw [h.found, find?_reverse_eq_some_iff]
    simp
  unknown name := by
    rw [h.found, List.find?_eq_none]
    simp
  contained := c.contains_eq
  listed name := by
    rw [← contains_iff, contains_eq]
  iterated := by
    unfold names
    rw [List.map_map]
    exact List.map_congr_left fun d member => get?_of_mem h.distinct member
  counted := by
    unfold size names
    rw [List.length_map]

end

theorem holds_empty : Holds {} [] where
  distinct := List.nodup_nil
  ordered := List.Pairwise.nil
  found _ := rfl

/-- The catalog of the built-in rules is what their registration makes of an empty one. -/
theorem foldl_insert_default : default.definitions.foldl insert {} = default := by
  rfl

theorem holds_default : default.Holds default.definitions := by
  have filled := holds_empty.insertAll default.definitions
  rwa [foldl_insert_default, List.nil_append] at filled

/-- Whatever is requested of an empty catalog or of that of the built-in rules, with refusals at any
point, the catalog tells what was registered in it: its own rules first, and then those that the
requests were answered with. A request is refused exactly where its kind of parameter is none of the
three, whatever came before, and leaves the catalog exactly as it was. -/
theorem registered_in_order {start : Catalog} (known : start = {} ∨ start = .default)
    (rs : List Registration) :
    let course := enterAll rs start
    course.2.Tells (start.definitions ++ course.1.filterMap Except.toOption) ∧
      course.1 = rs.map Registration.definition ∧
      (∀ r : Registration, (∃ e, r.definition = .error e) ↔
        r.parameterKind ∉ ["none", "integer", "reference"]) ∧
      ∀ (c : Catalog) (r : Registration), match (enter r).run.run c with
        | (.ok d, c') => c.register r = .ok (d, c')
        | (.error e, c') => c.register r = .error e ∧ c' = c := by
  have own : start.Holds start.definitions := by
    rcases known with rfl | rfl
    · exact holds_empty
    · exact holds_default
  refine ⟨?_, ?_, definition_eq_error_iff, fun c r => ?_⟩
  · rw [enterAll_eq]
    exact (own.insertAll _).tells
  · rw [enterAll_eq]
  · rw [enter_run]
    cases c.register r with
    | ok made => rfl
    | error e => exact ⟨rfl, rfl⟩

/-- A request for a rule that judges as a built-in one does. -/
private def like (name parameterKind : String) (b : Builtin) : Registration where
  name
  parameterKind
  judge := b.judge
  description := "own"

/-- Requests for a new rule and for a built-in one, a refused one for the built-in one, and one more for
the new rule. -/
private def revisions : List Registration :=
  [like "zip" "integer" .minLength, like "email" "none" .required, like "email" "radio" .trim,
    like "zip" "none" .number]

/-- A built-in rule keeps its place when it is registered anew, and its new definition when a request
for it is refused later. A new rule stands behind all of them, also when it is registered twice. -/
theorem registered_over_default :
    (enterAll revisions .default).2.names =
        ["trim", "required", "email", "number", "min_length", "max_length", "matches", "zip"] ∧
      (enterAll revisions .default).2.get? "email" =
        some ⟨"email", .none, Builtin.required.judge, "own", false⟩ ∧
      (enterAll revisions .default).2.get? "zip" =
        some ⟨"zip", .none, Builtin.number.judge, "own", false⟩ := by
  have told := (registered_in_order (.inr rfl) revisions).1
  refine ⟨rfl, (told.latest _ _).2 ?_, (told.latest _ _).2 ?_⟩
  · exact ⟨default.definitions ++ [⟨"zip", .integer, Builtin.minLength.judge, "own", false⟩],
      [⟨"zip", .none, Builtin.number.judge, "own", false⟩], rfl, rfl, by simp⟩
  · exact ⟨default.definitions ++ [⟨"zip", .integer, Builtin.minLength.judge, "own", false⟩,
      ⟨"email", .none, Builtin.required.judge, "own", false⟩], [], rfl, rfl, by simp⟩

end Catalog

end FormGate
