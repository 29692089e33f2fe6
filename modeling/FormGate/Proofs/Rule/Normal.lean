import FormGate.Pass.Field
import Mathlib.Data.List.DropRight
import Mathlib.Tactic.SplitIfs

/-!
# Rules that rewrite a value

A rule rewrites if it may put another value in place of the one that it judges. Where each rule that
rewrites is registered as such, does not look at other fields for it, leaves alone what it made, and
commutes with the others, the value in which the rules of a field end is the one that other fields are
compared with, and it stays as it is when the rules apply again (`Setup.Normalises.settles`). Of the
built-in rules only the one that trims rewrites, and what was trimmed stays as it is.
-/

namespace FormGate

namespace Text

theorem trimChars_trimChars (cs : List Char) : trimChars (trimChars cs) = trimChars cs := by
  have kept : (trimChars cs).dropWhile isBlank = trimChars cs := by
    rw [List.dropWhile_eq_self_iff]
    intro nonempty
    -- the first character that is left is the first one behind the blanks in front
    have front : trimChars cs <+: cs.dropWhile isBlank :=
      List.rdropWhile_prefix isBlank (cs.dropWhile isBlank)
    have first := front.getElem nonempty
    have behind : 0 < (cs.dropWhile isBlank).length := Nat.lt_of_lt_of_le nonempty front.length_le
    rw [first]
    exact List.dropWhile_get_zero_not isBlank cs behind
  have ends : (trimChars cs).reverse.dropWhile isBlank = (trimChars cs).reverse := by
    unfold trimChars
    rw [List.reverse_reverse, List.dropWhile_idempotent]
  rw [trimChars, kept, ends, List.reverse_reverse]

theorem trim_trim (v : String) : trim (trim v) = trim v := by
  rw [trim, toList_trim, trimChars_trimChars, ← toList_trim, String.ofList_toList]

end Text

namespace Judgement

variable {answers : String → Except Fault Referenced}

@[simp] theorem settleWith_verdict (v : Verdict) : (verdict v).settleWith answers = .ok v := rfl

@[simp] theorem settleWith_fault (f : Fault) : (fault f).settleWith answers = .error f := rfl

@[simp] theorem settleWith_consult (reference : String) (next : Except Fault Referenced → Judgement) :
    (consult reference next).settleWith answers = (next (answers reference)).settleWith answers := rfl

/-- Whether following a judgement may end in a value in place of the given one. -/
inductive Puts (w : String) : Judgement → Prop
  | verdict {v : Verdict} (put : v.replacement = some w) : Puts w (.verdict v)
  | consult (reference : String) {next : Except Fault Referenced → Judgement}
      (found : Except Fault Referenced) : Puts w (next found) → Puts w (.consult reference next)

/-- Whether following a judgement may lead to a question for another field. -/
inductive Asks (reference : String) : Judgement → Prop
  | here (next : Except Fault Referenced → Judgement) : Asks reference (.consult reference next)
  | later (first : String) {next : Except Fault Referenced → Judgement}
      (found : Except Fault Referenced) : Asks reference (next found) →
        Asks reference (.consult first next)

theorem puts_of_settleWith {j : Judgement} {v : Verdict} {w : String}
    (found : j.settleWith answers = .ok v) (put : v.replacement = some w) : j.Puts w := by
  induction j with
  | verdict v' =>
    cases found
    exact .verdict put
  | fault f => cases found
  | consult reference next ih => exact .consult reference _ (ih _ found)

/-- A judgement comes to the same where what it asks for is the same. -/
theorem settleWith_congr {answers' : String → Except Fault Referenced} {j : Judgement}
    (same : ∀ reference, j.Asks reference → answers' reference = answers reference) :
    j.settleWith answers' = j.settleWith answers := by
  induction j with
  | verdict v => rfl
  | fault f => rfl
  | consult reference next ih =>
    rw [settleWith_consult, settleWith_consult, same reference (.here next)]
    exact ih _ fun later asks => same later (.later reference _ asks)

end Judgement

namespace Definition

/-- A rule that may put another value in place of a field's. -/
def Rewrites (d : Definition) : Prop :=
  ∃ q w, (d.judge q).Puts w

/-- What a rule makes of a value where it is known what each lookup finds. -/
def makes (d : Definition) (answers : String → Except Fault Referenced) (q : Question) : String :=
  match (d.judge q).settleWith answers with
  | .ok v => v.replacement.getD q.value
  | .error _ => q.value

/-- What a rule makes of a value when it may not look up other fields. -/
def makesAlone (d : Definition) (q : Question) : String :=
  d.makes (fun reference => .error (RuleFault.notFollowed reference).toFault) q

theorem makesAlone_eq (d : Definition) (q : Question) :
    d.makesAlone q = (Setup.replaceAlone d q).getD q.value := by
  unfold makesAlone makes Setup.replaceAlone
  cases (d.judge q).settleWith _ <;> rfl

theorem makes_of_not_rewrites {d : Definition} (h : ¬ d.Rewrites)
    (answers : String → Except Fault Referenced) (q : Question) : d.makes answers q = q.value := by
  unfold makes
  cases found : (d.judge q).settleWith answers with
  | error f => rfl
  | ok v =>
    cases put : v.replacement with
    | none => simp [put]
    | some w => exact absurd ⟨q, w, Judgement.puts_of_settleWith found put⟩ h

end Definition

namespace Setup

variable {s : Setup}

/-- What is asked of the rules of a catalog that rewrite: each is registered as rewriting, makes the
same of a value whatever other fields hold, leaves alone what it made, and commutes with every
other. -/
structure Normalises (s : Setup) : Prop where
  flagged : ∀ c ∈ s.catalog.definitions, c.Rewrites → c.replaces = true
  alone : ∀ c ∈ s.catalog.definitions, c.Rewrites → ∀ answers q, c.makes answers q = c.makesAlone q
  idempotent : ∀ c ∈ s.catalog.definitions, c.Rewrites → ∀ q,
    c.makesAlone { q with value := c.makesAlone q } = c.makesAlone q
  commute : ∀ c ∈ s.catalog.definitions, c.Rewrites → ∀ c' ∈ s.catalog.definitions, c'.Rewrites →
    ∀ value kind parameter parameter' checked,
      c'.makesAlone ⟨c.makesAlone ⟨value, kind, parameter, checked⟩, kind, parameter', checked⟩ =
        c.makesAlone ⟨c'.makesAlone ⟨value, kind, parameter', checked⟩, kind, parameter, checked⟩

theorem mem_definitions {name : String} {d : Definition} (h : s.catalog.get? name = some d) :
    d ∈ s.catalog.definitions :=
  List.mem_of_find?_eq_some h

theorem settled_cons (kind : FieldKind) (checked : Bool) (r : Rule) (rules : List Rule) (v : String) :
    s.settled kind checked (r :: rules) v =
      s.settled kind checked rules (s.settled kind checked [r] v) := rfl

theorem settled_append (kind : FieldKind) (checked : Bool) (rules rules' : List Rule) (v : String) :
    s.settled kind checked (rules ++ rules') v =
      s.settled kind checked rules' (s.settled kind checked rules v) :=
  List.foldl_append

theorem settled_single (kind : FieldKind) (checked : Bool) (r : Rule) (v : String) :
    s.settled kind checked [r] v =
      match s.catalog.get? r.name with
      | some c => if c.replaces then c.makesAlone ⟨v, kind, r.parameter, checked⟩ else v
      | none => v := by
  simp only [Definition.makesAlone_eq]
  rfl

/-- A rule of a field that rewrites its value. -/
def Rewriting (s : Setup) (r : Rule) : Prop :=
  ∃ d, s.catalog.get? r.name = some d ∧ d.Rewrites

theorem settled_of_not_rewriting {r : Rule} (h : ¬ s.Rewriting r) (kind : FieldKind)
    (checked : Bool) (v : String) : s.settled kind checked [r] v = v := by
  rw [settled_single]
  cases found : s.catalog.get? r.name with
  | none => rfl
  | some d =>
    dsimp only
    split_ifs
    · exact Definition.makes_of_not_rewrites (fun rewrites => h ⟨d, found, rewrites⟩) _ _
    · rfl

theorem settled_of_none {rules : List Rule} (h : ∀ r ∈ rules, ¬ s.Rewriting r) (kind : FieldKind)
    (checked : Bool) (v : String) : s.settled kind checked rules v = v := by
  induction rules generalizing v with
  | nil => rfl
  | cons r rules ih =>
    rw [List.forall_mem_cons] at h
    rw [settled_cons, settled_of_not_rewriting h.1, ih h.2]

namespace Normalises

variable (normal : s.Normalises) (kind : FieldKind) (checked : Bool)
include normal

/-- A rule of the catalog settles a value as what it makes of it, whatever it finds when it looks up
other fields. -/
theorem settled_of_get? {r : Rule} {c : Definition} (get : s.catalog.get? r.name = some c)
    (answers : String → Except Fault Referenced) (v : String) :
    s.settled kind checked [r] v = c.makes answers ⟨v, kind, r.parameter, checked⟩ := by
  by_cases rewrites : c.Rewrites
  · rw [settled_single, get]
    dsimp only
    rw [if_pos (normal.flagged c (mem_definitions get) rewrites),
      normal.alone c (mem_definitions get) rewrites]
  · rw [Definition.makes_of_not_rewrites rewrites, settled_of_not_rewriting]
    rintro ⟨c', get', rewrites'⟩
    rw [get, Option.some.injEq] at get'
    exact rewrites (get' ▸ rewrites')

theorem settled_alone {r : Rule} {c : Definition} (get : s.catalog.get? r.name = some c) (v : String) :
    s.settled kind checked [r] v = c.makesAlone ⟨v, kind, r.parameter, checked⟩ :=
  normal.settled_of_get? kind checked get _ v

theorem settled_single_settled (r : Rule) (v : String) :
    s.settled kind checked [r] (s.settled kind checked [r] v) = s.settled kind checked [r] v := by
  by_cases rewriting : s.Rewriting r
  · obtain ⟨c, get, rewrites⟩ := rewriting
    rw [normal.settled_alone kind checked get, normal.settled_alone kind checked get]
    exact normal.idempotent c (mem_definitions get) rewrites _
  · rw [settled_of_not_rewriting rewriting]

theorem settled_single_comm (r r' : Rule) (v : String) :
    s.settled kind checked [r'] (s.settled kind checked [r] v) =
      s.settled kind checked [r] (s.settled kind checked [r'] v) := by
  by_cases rewriting : s.Rewriting r
  · by_cases rewriting' : s.Rewriting r'
    · obtain ⟨c, get, rewrites⟩ := rewriting
      obtain ⟨c', get', rewrites'⟩ := rewriting'
      simp only [normal.settled_alone kind checked get, normal.settled_alone kind checked get']
      exact normal.commute c (mem_definitions get) rewrites c' (mem_definitions get') rewrites' _ _ _ _ _
    · simp only [settled_of_not_rewriting rewriting']
  · simp only [settled_of_not_rewriting rewriting]

theorem settled_past (r : Rule) (rules : List Rule) (v : String) :
    s.settled kind checked [r] (s.settled kind checked rules v) =
      s.settled kind checked rules (s.settled kind checked [r] v) := by
  induction rules generalizing v with
  | nil => rfl
  | cons r' rules ih =>
    rw [settled_cons kind checked r' rules, ih, normal.settled_single_comm,
      ← settled_cons kind checked r' rules]

/-- The rules of a field leave a value alone in which they ended before. -/
theorem settles (rules : List Rule) (v : String) :
    s.settled kind checked rules (s.settled kind checked rules v) = s.settled kind checked rules v := by
  induction rules generalizing v with
  | nil => rfl
  | cons r rules ih =>
    calc s.settled kind checked (r :: rules) (s.settled kind checked (r :: rules) v)
        = s.settled kind checked rules (s.settled kind checked rules
            (s.settled kind checked [r] (s.settled kind checked [r] v))) := by
          rw [settled_cons kind checked r rules, settled_cons kind checked r rules,
            normal.settled_past]
      _ = s.settled kind checked (r :: rules) v := by
          rw [normal.settled_single_settled, ih, ← settled_cons kind checked r rules]

end Normalises

/-! ## Catalogs of built-in rules -/

theorem not_puts_check {w : String} (holds : Bool) (rest : String) :
    ¬ (Builtin.check holds rest).Puts w := by
  unfold Builtin.check
  rintro ⟨put⟩
  cases holds <;> cases put

theorem not_puts_withNumber {w name : String} {parameter : Option String} {next : Int → Judgement}
    (later : ∀ n, ¬ (next n).Puts w) : ¬ (Builtin.withNumber name parameter next).Puts w := by
  unfold Builtin.withNumber
  split
  · exact later _
  · exact nofun

theorem eq_trim_of_puts {b : Builtin} {q : Question} {w : String} (h : (b.judge q).Puts w) :
    b = .trim := by
  cases b with
  | trim => rfl
  | required => exact absurd h (not_puts_check _ _)
  | email => exact absurd h (not_puts_check _ _)
  | number => exact absurd h (not_puts_check _ _)
  | minLength => exact absurd h (not_puts_withNumber fun _ => not_puts_check _ _)
  | maxLength => exact absurd h (not_puts_withNumber fun _ => not_puts_check _ _)
  | matching =>
    unfold Builtin.judge at h
    dsimp only at h
    split at h
    · cases h
    · split_ifs at h
      · cases h
      · cases h with
        | consult reference found inside =>
          cases found with
          | ok other => exact absurd inside (not_puts_check _ _)
          | error f => cases inside

theorem makes_of_trims {c : Definition} (judge : c.judge = Builtin.trim.judge)
    (answers : String → Except Fault Referenced) (q : Question) :
    c.makes answers q = Text.trim q.value := by
  rw [Definition.makes, judge]
  rfl

/-- Rules that judge as built-in ones do, under whatever names, normalise if those that trim are
registered as rewriting. -/
theorem normalises_of_builtin (builtin : ∀ c ∈ s.catalog.definitions,
    ∃ b : Builtin, c.judge = b.judge ∧ (b = .trim → c.replaces = true)) : s.Normalises := by
  have trims : ∀ c ∈ s.catalog.definitions, c.Rewrites →
      c.judge = Builtin.trim.judge ∧ c.replaces = true := by
    rintro c hc ⟨q, w, puts⟩
    obtain ⟨b, judge, flagged⟩ := builtin c hc
    rw [judge] at puts
    obtain rfl := eq_trim_of_puts puts
    exact ⟨judge, flagged rfl⟩
  have made {c : Definition} (hc : c ∈ s.catalog.definitions) (rewrites : c.Rewrites) (q : Question) :
      c.makesAlone q = Text.trim q.value :=
    makes_of_trims (trims c hc rewrites).1 _ q
  constructor
  · exact fun c hc rewrites => (trims c hc rewrites).2
  · intro c hc rewrites answers q
    rw [made hc rewrites, makes_of_trims (trims c hc rewrites).1]
  · intro c hc rewrites q
    simp only [made hc rewrites, Text.trim_trim]
  · intro c hc rewrites c' hc' rewrites' value kind parameter parameter' checked
    simp only [made hc rewrites, made hc' rewrites']

theorem builtin_default : ∀ d ∈ Catalog.default.definitions,
    ∃ b : Builtin, d.judge = b.judge ∧ (b = .trim → d.replaces = true) := by
  intro d hd
  simp only [Catalog.default, List.mem_cons, List.not_mem_nil, or_false] at hd
  rcases hd with rfl | rfl | rfl | rfl | rfl | rfl | rfl
  · exact ⟨.trim, rfl, fun _ => rfl⟩
  · exact ⟨.required, rfl, nofun⟩
  · exact ⟨.email, rfl, nofun⟩
  · exact ⟨.number, rfl, nofun⟩
  · exact ⟨.minLength, rfl, nofun⟩
  · exact ⟨.maxLength, rfl, nofun⟩
  · exact ⟨.matching, rfl, nofun⟩

theorem normalises_default : ({} : Setup).Normalises :=
  normalises_of_builtin builtin_default

/-! ## Rules that do not normalise -/

/-- A rule that rewrites every value, registered as such. -/
def rewriter (name : String) (rewrite : List Char → List Char) : Definition where
  name := name
  parameter := .none
  judge q := .verdict (.replaced (.ofList (rewrite q.value.toList)))
  replaces := true

/-- A rule that makes a value shorter each time, two that leave alone what they made but not what the
other one makes of it, and one that takes over the value of another field. -/
def restless : Setup where
  catalog := ⟨[
    rewriter "shorten" (List.drop 1),
    rewriter "no_a" (List.rdropWhile (· == 'a')),
    rewriter "no_b" (List.rdropWhile (· == 'b')),
    { name := "copy", parameter := .reference, replaces := true, judge := fun q =>
        .consult (q.parameter.getD "") fun
          | .ok other => .verdict (.replaced other.value)
          | .error f => .fault f },
    Catalog.builtin .matching .reference ""]⟩

theorem flagged_restless : ∀ c ∈ restless.catalog.definitions, c.Rewrites → c.replaces = true := by
  simp only [restless, List.forall_mem_cons]
  refine ⟨fun _ => rfl, fun _ => rfl, fun _ => rfl, fun _ => trivial, ?_,
    fun _ none => absurd none List.not_mem_nil⟩
  rintro ⟨q, w, puts⟩
  cases eq_trim_of_puts (b := .matching) puts

/-- A form with two fields. -/
def twoFields (form : List (String × String)) (rules value rules' value' : String) : Document where
  tree := .cons ⟨0, .element "form", form⟩ ""
    (.cons ⟨1, .element "input", [("name", "a"), ("value", value),
        ("data-validate-validation", rules)]⟩ "" .nil ""
      (.cons ⟨2, .element "input", [("name", "b"), ("value", value'),
          ("data-validate-validation", rules')]⟩ "" .nil "" .nil)) "" .nil
  fresh := 3

end Setup

end FormGate
