import FormGate.Proofs.Markup.Lexing
import Mathlib.Data.List.Flatten

/-!
# The tokens of a forest

A forest without comments whose names have no prefix when they are written is read as its tokens: one
for each tag and one for each character of its texts (`Token.element?_written`). An element that is
written as one tag counts as two all the same.
-/

namespace FormGate.Markup

/-- A text that can be read back. A carriage return would be read as another line end. -/
def Readable (text : String) : Prop :=
  ∀ c ∈ text.toList, isLegal c = true ∧ c ≠ '\r'

instance (text : String) : Decidable (Readable text) :=
  decidable_of_iff ((text.toList.all fun c => isLegal c && c != '\r') = true) (by simp [Readable])

/-- An element that is written with plain names, and all of whose texts can be read back. -/
structure Node.Spelt (written : String → String) (n : Node) : Prop where
  tag : ∃ name, n.label.tag = .element name ∧ IsPlainName (written name).toList
  attributes : ∀ a ∈ n.label.attributes, written a.1 = a.1 ∧ IsPlainAttribute a
  text : Readable n.text
  tail : Readable n.tail

/-- A forest all of whose elements are written with plain names. -/
def Forest.Spelt (written : String → String) (f : Forest) : Prop :=
  ∀ n ∈ f.nodes, n.Spelt written

namespace Forest

variable {written : String → String} {l : Label} {t tail : String} {c next : Forest}

theorem spelt_cons : (cons l t c tail next).Spelt written ↔
    Node.Spelt written ⟨l, t, c, tail⟩ ∧ c.Spelt written ∧ next.Spelt written := by
  unfold Spelt
  rw [nodes, List.forall_mem_cons, List.forall_mem_append]

/-- The tokens of a forest, with more attributes in front on the outermost elements. -/
def tokens (written : String → String) : (first : List (String × String)) → Forest → List Token
  | _, nil => []
  | first, cons l t c tail next =>
    match l.tag with
    | .comment _ => tokens written first next
    | .element name =>
      .opening (written name).toList (rawAttributes (first ++ l.attributes)) ::
        (t.toList.map .char ++ (tokens written [] c ++ .closing (written name).toList ::
          (tail.toList.map .char ++ tokens written first next)))

/-- An element as it is written: as one tag where it is empty, and else as two. -/
theorem write_cons (own : Node.Spelt written ⟨l, t, c, tail⟩) {name : String}
    (tag : l.tag = .element name) (first : List (String × String)) :
    Writer.write written (writtenAttributes first) (cons l t c tail next) =
      '<' :: ((written name).toList ++ (writtenAttributes (first ++ l.attributes) ++
        if t.isEmpty && c == nil then
          tagEnd true ++ (tail.toList.flatMap Writer.escapeText ++
            Writer.write written (writtenAttributes first) next)
        else
          tagEnd false ++ (t.toList.flatMap Writer.escapeText ++ (Writer.write written [] c ++
            ('<' :: '/' :: ((written name).toList ++ '>' ::
              (tail.toList.flatMap Writer.escapeText ++
                Writer.write written (writtenAttributes first) next))))))) := by
  have attributes : (l.attributes.flatMap fun a => Writer.assignment (written a.1) a.2) =
      writtenAttributes l.attributes :=
    List.flatMap_congr fun a ha => by rw [(own.attributes a ha).1]
  have both : writtenAttributes (first ++ l.attributes) =
      writtenAttributes first ++ writtenAttributes l.attributes := List.flatMap_append
  rw [Writer.write, tag]
  dsimp only
  rw [attributes, both]
  split_ifs <;> simp [tagEnd]

end Forest

namespace Token

open Forest

variable {lenient : Bool} {written : String → String}

/-- What is written of a forest in front of a tag starts with a tag. -/
theorem exists_angle {f : Forest} (spelt : f.Spelt written) (first : List (String × String))
    (cs : List Char) :
    ∃ more, Writer.write written (writtenAttributes first) f ++ '<' :: cs = '<' :: more := by
  cases f with
  | nil => exact ⟨cs, rfl⟩
  | cons l t c tail next =>
    have own := (spelt_cons.1 spelt).1
    obtain ⟨name, tag, -⟩ := own.tag
    rw [write_cons own tag]
    exact ⟨_, rfl⟩

/-- What is written of a forest is read as its tokens, inside an open element and in front of a tag. -/
theorem Contents.forest {f : Forest} (spelt : f.Spelt written) {depth : Nat} {cs rest : List Char}
    {ts : List Token} (tag : ∃ more, cs = '<' :: more)
    (later : Contents lenient (depth + 1) cs ts rest) :
    Contents lenient (depth + 1) (Writer.write written [] f ++ cs) (f.tokens written [] ++ ts) rest := by
  induction f generalizing depth cs ts with
  | nil => exact later
  | cons l t c tail next ihc ih =>
    obtain ⟨own, inside, after⟩ := spelt_cons.1 spelt
    obtain ⟨name, tagged, plain⟩ := own.tag
    obtain ⟨more, opens⟩ := tag
    -- what follows the element, with the text behind it
    have behind : Contents lenient (depth + 1)
        (tail.toList.flatMap Writer.escapeText ++ (Writer.write written [] next ++ cs))
        (tail.toList.map char ++ (next.tokens written [] ++ ts)) rest := by
      refine .text own.tail ?_ (ih after ⟨more, opens⟩ later)
      rw [opens]
      exact exists_angle after [] more
    have attributes : ∀ a ∈ [] ++ l.attributes, IsPlainAttribute a := fun a ha => (own.attributes a ha).2
    rw [show Writer.write written [] = Writer.write written (writtenAttributes []) from rfl,
      write_cons own tagged, tokens, tagged]
    dsimp only
    split_ifs with empty
    · obtain ⟨rfl, rfl⟩ : t = "" ∧ c = .nil := by simpa using empty
      simp only [List.cons_append, List.append_assoc]
      have read := (next?_opening lenient plain _).trans
        (openingTag?_written lenient plain attributes true
          (tail.toList.flatMap Writer.escapeText ++ (Writer.write written [] next ++ cs)))
      refine Contents.step read ?_ behind
      simp
      omega
    · simp only [List.cons_append, List.append_assoc]
      have read := (next?_opening lenient plain _).trans
        (openingTag?_written lenient plain attributes false
          (t.toList.flatMap Writer.escapeText ++ (Writer.write written [] c ++
            '<' :: '/' :: ((written name).toList ++ '>' ::
              (tail.toList.flatMap Writer.escapeText ++ (Writer.write written [] next ++ cs))))))
      have closed := (next?_closing lenient _).trans (closingTag?_written plain
        (tail.toList.flatMap Writer.escapeText ++ (Writer.write written [] next ++ cs)))
      refine Contents.step read ?_ (.text own.text (exists_angle inside [] _) (ihc inside ⟨_, rfl⟩ ?_))
      · simp
        omega
      · refine Contents.step closed ?_ behind
        simp
        omega

theorem element?_written (lenient : Bool) {l : Label} {t : String} {c : Forest}
    (spelt : (Forest.cons l t c "" .nil).Spelt written) {first : List (String × String)}
    (plain : ∀ a ∈ first, IsPlainAttribute a) :
    ∃ name body, IsPlainName name ∧
      Writer.write written (writtenAttributes first) (.cons l t c "" .nil) = '<' :: (name ++ body) ∧
      element? lenient (name ++ body) = some ((Forest.cons l t c "" .nil).tokens written first, []) := by
  obtain ⟨own, inside, -⟩ := spelt_cons.1 spelt
  obtain ⟨name, tagged, named⟩ := own.tag
  have attributes : ∀ a ∈ first ++ l.attributes, IsPlainAttribute a :=
    List.forall_mem_append.2 ⟨plain, fun a ha => (own.attributes a ha).2⟩
  refine ⟨(written name).toList, _, named, write_cons own tagged first, ?_⟩
  unfold element?
  rw [tokens, tagged]
  dsimp only
  split_ifs with empty
  · obtain ⟨rfl, rfl⟩ : t = "" ∧ c = .nil := by simpa using empty
    rw [openingTag?_written lenient named attributes true]
    rfl
  · rw [openingTag?_written lenient named attributes false]
    dsimp only
    have closed := (next?_closing lenient _).trans (closingTag?_written named [])
    have ends : Contents lenient (0 + 1) _ ([closing (written name).toList] ++ []) [] :=
      .step closed (by simp) (.done [])
    have content := Contents.text own.text (exists_angle inside [] _) (.forest inside ⟨_, rfl⟩ ends)
    have behind : "".toList.flatMap Writer.escapeText ++
        Writer.write written (writtenAttributes first) .nil = [] := rfl
    rw [behind]
    exact congrArg (Option.map _) (content _ (Nat.lt_succ_self _))

end Token

end FormGate.Markup
