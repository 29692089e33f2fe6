import FormGate.Markup.Token
import FormGate.Markup.Writer
import Mathlib.Data.List.Basic

/-!
# Reading what was written

A value that is written between quotes is read back as it was, and so are the names and attributes of a
tag and the text between tags: what the writer escapes is read as one character each, and everything
else stands for itself.
-/

namespace FormGate.Markup

/-! ## Names -/

/-- A name without a prefix. -/
structure IsPlainName (cs : List Char) : Prop where
  start : ∃ c back, cs = c :: back ∧ isNameStart c = true
  chars : ∀ c ∈ cs, isNameChar c = true

theorem isPlainName_iff {cs : List Char} :
    IsPlainName cs ↔ (cs.head?.any isNameStart && cs.all isNameChar) = true := by
  rw [Bool.and_eq_true, List.all_eq_true]
  cases cs with
  | nil => exact ⟨fun plain => by simpa using plain.start, fun impossible => by simp at impossible⟩
  | cons c back =>
    constructor
    · rintro ⟨⟨_, _, same, start⟩, chars⟩
      cases same
      exact ⟨start, chars⟩
    · rintro ⟨start, chars⟩
      exact ⟨⟨c, back, rfl, start⟩, chars⟩

instance (cs : List Char) : Decidable (IsPlainName cs) :=
  decidable_of_iff _ isPlainName_iff.symm

/-- What follows a name that is written: not another character of it, nor a colon. -/
def EndsName (rest : List Char) : Prop :=
  ∀ c ∈ rest.head?, isNameChar c = false ∧ c ≠ ':'

theorem plainName?_append {name rest : List Char} (plain : IsPlainName name) (ends : EndsName rest) :
    plainName? (name ++ rest) = some (name, rest) := by
  obtain ⟨c, back, rfl, start⟩ := plain.start
  have chars := (List.forall_mem_cons.1 plain.chars).2
  have none : rest.takeWhile isNameChar = [] ∧ rest.dropWhile isNameChar = rest := by
    cases rest with
    | nil => exact ⟨rfl, rfl⟩
    | cons d rest =>
      have other := (ends d rfl).1
      exact ⟨List.takeWhile_cons_of_neg (by simp [other]), List.dropWhile_cons_of_neg (by simp [other])⟩
  rw [List.cons_append, plainName?, if_pos start, List.takeWhile_append_of_pos chars,
    List.dropWhile_append_of_pos chars, none.1, none.2, List.append_nil]

theorem qualifiedName?_append {name rest : List Char} (plain : IsPlainName name)
    (ends : EndsName rest) : qualifiedName? (name ++ rest) = some (name, rest) := by
  unfold qualifiedName?
  rw [plainName?_append plain ends]
  split
  · rename_i same
    cases same
    exact absurd rfl (ends ':' rfl).2
  · rfl

/-! ## References -/

theorem escapeText_cases (c : Char) :
    (∃ body, Writer.escapeText c = '&' :: body ∧
      ∀ rest, reference? (body ++ rest) = some (.char c, rest)) ∨
    Writer.escapeText c = [c] ∧ c ≠ '&' ∧ c ≠ '<' ∧ c ≠ '>' := by
  unfold Writer.escapeText
  split_ifs with amp lt gt
  · exact .inl ⟨_, rfl, fun rest => by rw [amp]; rfl⟩
  · exact .inl ⟨_, rfl, fun rest => by rw [lt]; rfl⟩
  · exact .inl ⟨_, rfl, fun rest => by rw [gt]; rfl⟩
  · exact .inr ⟨rfl, amp, lt, gt⟩

theorem escapeValue_cases (c : Char) :
    (∃ body, Writer.escapeValue c = '&' :: body ∧
      ∀ rest, reference? (body ++ rest) = some (.char c, rest)) ∨
    Writer.escapeValue c = [c] ∧ c ≠ '&' ∧ c ≠ '<' ∧ c ≠ '"' ∧ c ≠ '\r' ∧ (isSpace c = true → c = ' ') := by
  unfold Writer.escapeValue
  split_ifs with quote cr lf tab
  · exact .inl ⟨_, rfl, fun rest => by rw [quote]; rfl⟩
  · exact .inl ⟨_, rfl, fun rest => by rw [cr]; rfl⟩
  · exact .inl ⟨_, rfl, fun rest => by rw [lf]; rfl⟩
  · exact .inl ⟨_, rfl, fun rest => by rw [tab]; rfl⟩
  · refine (escapeText_cases c).imp_right ?_
    rintro ⟨bare, amp, lt, -⟩
    exact ⟨bare, amp, lt, quote, cr, by simp [isSpace, cr, lf, tab]⟩

/-! ## Values -/

theorem attributeValue?_written (lenient : Bool) {value : List Char}
    (legal : ∀ c ∈ value, isLegal c = true) (rest : List Char) {fuel : Nat}
    (enough : (value.flatMap Writer.escapeValue).length < fuel) :
    attributeValue? lenient '"' fuel (value.flatMap Writer.escapeValue ++ '"' :: rest) =
      some (value, rest) := by
  induction value generalizing fuel with
  | nil =>
    obtain ⟨fuel, rfl⟩ := Nat.exists_eq_succ_of_ne_zero (Nat.ne_of_gt enough)
    rw [List.flatMap_nil, List.nil_append, attributeValue?, if_pos rfl]
  | cons c value ih =>
    obtain ⟨own, others⟩ := List.forall_mem_cons.1 legal
    obtain ⟨fuel, rfl⟩ := Nat.exists_eq_succ_of_ne_zero (Nat.ne_of_gt (Nat.zero_lt_of_lt enough))
    rw [List.flatMap_cons, List.append_assoc]
    rw [List.flatMap_cons, List.length_append] at enough
    rcases escapeValue_cases c with ⟨body, written, refers⟩ | ⟨written, amp, lt, quote, cr, space⟩
    · rw [written, List.length_cons] at enough
      rw [written, List.cons_append, attributeValue?, if_neg (by decide), if_pos rfl, refers]
      dsimp only
      rw [ih others (by omega)]
      rfl
    · rw [written, List.length_singleton] at enough
      rw [written, List.singleton_append, attributeValue?, if_neg quote, if_neg amp,
        if_neg (by simp [lt, own]), if_neg (by simp [cr]), ih others (by omega)]
      by_cases blank : isSpace c = true
      · rw [if_pos blank, space blank]
        rfl
      · rw [if_neg blank]
        rfl

/-! ## Attributes -/

theorem skipSpace_of_ne {c : Char} {rest : List Char} (h : isSpace c = false) :
    skipSpace (c :: rest) = c :: rest :=
  List.dropWhile_cons_of_neg (by simp [h])

theorem marks_of_start {c : Char} (start : isNameStart c = true) :
    isSpace c = false ∧ c ≠ '>' ∧ c ≠ '/' ∧ c ≠ '!' ∧ c ≠ '?' := by
  have other (d : Char) (h : isNameStart d = false) : c ≠ d := by
    rintro rfl
    rw [start] at h
    cases h
  have spaces : c ≠ ' ' ∧ c ≠ '\t' ∧ c ≠ '\n' ∧ c ≠ '\r' :=
    ⟨other _ (by decide), other _ (by decide), other _ (by decide), other _ (by decide)⟩
  refine ⟨by simp [isSpace, spaces], ?_⟩
  exact ⟨other _ (by decide), other _ (by decide), other _ (by decide), other _ (by decide)⟩

/-- An attribute whose name has no prefix, and all whose characters a page may hold. -/
structure IsPlainAttribute (a : String × String) : Prop where
  name : IsPlainName a.1.toList
  value : ∀ c ∈ a.2.toList, isLegal c = true

instance (a : String × String) : Decidable (IsPlainAttribute a) :=
  decidable_of_iff (IsPlainName a.1.toList ∧ a.2.toList.all isLegal = true)
    ⟨fun h => ⟨h.1, List.all_eq_true.1 h.2⟩, fun h => ⟨h.name, List.all_eq_true.2 h.value⟩⟩

def writtenAttributes (as : List (String × String)) : List Char :=
  as.flatMap fun a => Writer.assignment a.1 a.2

abbrev rawAttributes (as : List (String × String)) : List RawAttribute :=
  as.map fun a => (a.1.toList, a.2.toList)

theorem length_le_writtenAttributes (as : List (String × String)) :
    as.length ≤ (writtenAttributes as).length := by
  induction as with
  | nil => exact Nat.zero_le _
  | cons a as ih =>
    simp only [writtenAttributes, Writer.assignment, List.flatMap_cons, List.length_append,
      List.length_cons] at ih ⊢
    omega

/-- What ends an opening tag, and whether it closes its element. -/
def tagEnd (closed : Bool) : List Char :=
  if closed then " />".toList else ['>']

theorem attributes?_written (lenient : Bool) {as : List (String × String)}
    (plain : ∀ a ∈ as, IsPlainAttribute a) (closed : Bool) (rest : List Char) {fuel : Nat}
    (enough : as.length < fuel) :
    attributes? lenient fuel (writtenAttributes as ++ (tagEnd closed ++ rest)) =
      some (rawAttributes as, closed, rest) := by
  induction as generalizing fuel with
  | nil =>
    obtain ⟨fuel, rfl⟩ := Nat.exists_eq_succ_of_ne_zero (Nat.ne_of_gt enough)
    cases closed <;> rfl
  | cons a as ih =>
    obtain ⟨own, others⟩ := List.forall_mem_cons.1 plain
    obtain ⟨fuel, rfl⟩ := Nat.exists_eq_succ_of_ne_zero (Nat.ne_of_gt (Nat.zero_lt_of_lt enough))
    have written : writtenAttributes (a :: as) ++ (tagEnd closed ++ rest) =
        ' ' :: (a.1.toList ++ ('=' :: '"' :: (a.2.toList.flatMap Writer.escapeValue ++
          ('"' :: (writtenAttributes as ++ (tagEnd closed ++ rest)))))) := by
      simp [writtenAttributes, Writer.assignment]
    obtain ⟨c, back, name, start⟩ := own.name.start
    obtain ⟨solid, angle, slash, -⟩ := marks_of_start start
    have skipped (rest : List Char) : skipSpace (' ' :: (a.1.toList ++ rest)) = a.1.toList ++ rest := by
      rw [name, List.cons_append]
      exact skipSpace_of_ne solid
    rw [written, attributes?, skipped]
    split
    · rename_i same
      rw [name, List.cons_append] at same
      exact absurd (List.cons.inj same).1 angle
    · rename_i same
      rw [name, List.cons_append] at same
      exact absurd (List.cons.inj same).1 slash
    · rw [if_neg (by rw [List.head?_cons]; decide),
        qualifiedName?_append own.name (by simp [EndsName]; decide)]
      dsimp only
      rw [skipSpace_of_ne (by decide)]
      split
      · rename_i same
        obtain rfl := (List.cons.inj same).2
        rw [skipSpace_of_ne (by decide)]
        dsimp only
        rw [if_pos (by decide), attributeValue?_written lenient own.value _
          (by rw [List.length_append]; omega)]
        dsimp only
        rw [ih others (by simpa using enough)]
        rfl
      · rename_i other
        exact absurd rfl (other _)

/-! ## Tags -/

namespace Token

theorem endsName_attributes (as : List (String × String)) (closed : Bool) (rest : List Char) :
    EndsName (writtenAttributes as ++ (tagEnd closed ++ rest)) := by
  cases as with
  | nil => cases closed <;> simp [EndsName, writtenAttributes, tagEnd] <;> decide
  | cons a as =>
    simp only [EndsName, writtenAttributes, Writer.assignment, List.flatMap_cons, List.cons_append,
      List.head?_cons, Option.mem_def, Option.some.injEq, forall_eq']
    decide

theorem openingTag?_written (lenient : Bool) {name : List Char} (plain : IsPlainName name)
    {as : List (String × String)} (attributes : ∀ a ∈ as, IsPlainAttribute a) (closed : Bool)
    (rest : List Char) :
    openingTag? lenient (name ++ (writtenAttributes as ++ (tagEnd closed ++ rest))) =
      some (opening name (rawAttributes as) :: if closed then [closing name] else [], rest) := by
  have enough : as.length < (writtenAttributes as ++ (tagEnd closed ++ rest)).length.succ := by
    rw [List.length_append]
    exact Nat.lt_succ_of_le (Nat.le_add_right_of_le (length_le_writtenAttributes as))
  unfold openingTag?
  rw [qualifiedName?_append plain (endsName_attributes as closed rest)]
  dsimp only
  rw [attributes?_written lenient attributes closed rest enough]

theorem closingTag?_written {name : List Char} (plain : IsPlainName name) (rest : List Char) :
    closingTag? (name ++ '>' :: rest) = some ([closing name], rest) := by
  have inside : ∀ c ∈ name, (isNameChar c || c == ':') = true := fun c hc => by
    rw [plain.chars c hc, Bool.true_or]
  unfold closingTag?
  dsimp only
  rw [List.dropWhile_append_of_pos inside, List.takeWhile_append_of_pos inside,
    List.dropWhile_cons_of_neg (by decide), List.takeWhile_cons_of_neg (by decide), List.append_nil,
    skipSpace_of_ne (by decide)]
  rfl

/-! ## Content -/

/-- What comes next is an opening tag where a name follows the angle. -/
theorem next?_opening (lenient : Bool) {name : List Char} (plain : IsPlainName name) (rest : List Char) :
    next? lenient ('<' :: (name ++ rest)) = openingTag? lenient (name ++ rest) := by
  obtain ⟨c, back, rfl, start⟩ := plain.start
  obtain ⟨-, angle, slash, bang, question⟩ := marks_of_start start
  rw [List.cons_append]
  unfold next?
  split <;> try simp_all
  rename_i other _ _ _ same
  exact absurd same.1.symm other

theorem next?_closing (lenient : Bool) (cs : List Char) :
    next? lenient ('<' :: '/' :: cs) = closingTag? cs := rfl

/-- A character of text is read as it was written, before the next tag. -/
theorem next?_text (lenient : Bool) {c : Char} (legal : isLegal c = true) (solid : c ≠ '\r')
    {rest : List Char} (ends : ∀ more, rest ≠ ']' :: '>' :: more) :
    next? lenient (Writer.escapeText c ++ rest) = some ([char c], rest) := by
  rcases escapeText_cases c with ⟨body, written, refers⟩ | ⟨written, amp, lt, gt⟩
  · rw [written, List.cons_append]
    show reference? (body ++ rest) = _
    unfold reference?
    rw [refers]
  · rw [written, List.singleton_append]
    unfold next?
    split <;> simp_all

/-- The tokens of what is written, up to the closing tag of the outermost of the open elements, and what
follows it. -/
def Contents (lenient : Bool) (depth : Nat) (cs : List Char) (ts : List Token) (rest : List Char) :
    Prop :=
  ∀ fuel, cs.length < fuel → content? lenient fuel depth cs = some (ts, rest)

namespace Contents

variable {lenient : Bool} {depth : Nat} {cs mid rest : List Char} {ts ts' : List Token}

theorem done (cs : List Char) : Contents lenient 0 cs [] cs := by
  intro fuel enough
  cases fuel <;> rfl

theorem step (first : next? lenient cs = some (ts, mid)) (shorter : mid.length < cs.length)
    (later : Contents lenient (ts.foldl depthAfter (depth + 1)) mid ts' rest) :
    Contents lenient (depth + 1) cs (ts ++ ts') rest := by
  intro fuel enough
  obtain ⟨fuel, rfl⟩ := Nat.exists_eq_succ_of_ne_zero (Nat.ne_of_gt (Nat.zero_lt_of_lt enough))
  rw [content?, first]
  dsimp only
  rw [later fuel (by omega)]
  rfl

/-- In front of a tag no text is written so that it starts with an angle, nor with one behind a
bracket. -/
theorem ne_angle_of_text (t : List Char) (cs : List Char) :
    (∀ more, t.flatMap Writer.escapeText ++ '<' :: cs ≠ '>' :: more) ∧
      ∀ more, t.flatMap Writer.escapeText ++ '<' :: cs ≠ ']' :: '>' :: more := by
  induction t with
  | nil => simp
  | cons c t ih =>
    rw [List.flatMap_cons, List.append_assoc]
    rcases escapeText_cases c with ⟨body, written, -⟩ | ⟨written, -, -, gt⟩
    · simp [written]
    · simp only [written, List.singleton_append, ne_eq, List.cons.injEq, not_and]
      exact ⟨fun more angle => absurd angle gt, fun more _ => ih.1 more⟩

/-- A text that is written in front of a tag is read character by character. -/
theorem text {t : List Char} (legal : ∀ c ∈ t, isLegal c = true ∧ c ≠ '\r')
    (tag : ∃ more, cs = '<' :: more) (later : Contents lenient (depth + 1) cs ts rest) :
    Contents lenient (depth + 1) (t.flatMap Writer.escapeText ++ cs) (t.map char ++ ts) rest := by
  obtain ⟨more, rfl⟩ := tag
  induction t with
  | nil => exact later
  | cons c t ih =>
    obtain ⟨own, others⟩ := List.forall_mem_cons.1 legal
    rw [List.flatMap_cons, List.append_assoc]
    show Contents lenient (depth + 1) _ ([char c] ++ (t.map char ++ ts)) rest
    refine .step (next?_text lenient own.1 own.2 (ne_angle_of_text t more).2) ?_ (ih others)
    simp only [List.length_append]
    have shown : 0 < (Writer.escapeText c).length := by
      rcases escapeText_cases c with ⟨body, written, -⟩ | ⟨written, -⟩ <;> simp [written]
    omega

end Contents

end Token

end FormGate.Markup
