import FormGate.Document.Basic
import FormGate.Proofs.Markup.Misc

/-!
# Documents that declare an entity

A document type may declare entities in brackets. It is set aside up to its first angle before anything
reads the declarations, so what decides is where that angle stands (`Declaring.ofText_text`). Where it ends
one of the pieces in the brackets, what is left of them stands in front of the element and there is no
document, whatever follows. An angle in the identifier of a document type, in a comment or in the value of
an entity leaves what follows it to be read as a page.
-/

namespace FormGate.Markup

open Page

/-! ## Between brackets -/

/-- What may stand between the brackets of a document type: a declaration of some kind, a comment, an
instruction, or a single character, of white space or of a reference to further declarations. -/
inductive Piece
  | character (c : Char)
  | comment (text : List Char)
  | instruction (text : List Char)
  | declaration (kind : String) (body : List Char)
  deriving DecidableEq

namespace Piece

/-- The kinds of declaration between brackets. -/
def kinds : List String := ["ENTITY", "ELEMENT", "ATTLIST", "NOTATION"]

/-- How a piece stands in a page. -/
def written : Piece → List Char
  | character c => [c]
  | comment text => '<' :: '!' :: '-' :: '-' :: (text ++ ['-', '-', '>'])
  | instruction text => '<' :: '?' :: (text ++ ['?', '>'])
  | declaration kind body => '<' :: '!' :: (kind.toList ++ body ++ ['>'])

/-- Whether a piece is one of its kind: it opens no other, and nothing closes it before its end. The body
of a declaration may be anything. -/
def Valid : Piece → Prop
  | character c => c ∉ ['<', '\uFEFF']
  | comment text => ¬ ['-', '-'] <:+: text ++ ['-']
  | instruction text => ¬ ['?', '>'] <:+: text ++ ['?']
  | declaration kind _ => kind ∈ kinds

instance : DecidablePred Valid
  | character c => inferInstanceAs (Decidable (c ∉ ['<', '\uFEFF']))
  | comment text => inferInstanceAs (Decidable (¬ ['-', '-'] <:+: text ++ ['-']))
  | instruction text => inferInstanceAs (Decidable (¬ ['?', '>'] <:+: text ++ ['?']))
  | declaration kind _ => inferInstanceAs (Decidable (kind ∈ kinds))

/-- Whether a piece is a declaration. -/
def Declares (p : Piece) : Prop :=
  ∃ kind body, p = declaration kind body

variable {p : Piece} {ps : List Piece} {rest : List Char}

theorem unrooted_of_declares (valid : p.Valid) (declares : p.Declares) :
    Unrooted (p.written ++ rest) := by
  obtain ⟨kind, body, rfl⟩ := declares
  obtain ⟨c, back, opens, other⟩ : ∃ c back, kind.toList = c :: back ∧ c ∉ ['-', 'D'] := by
    have listed : kind ∈ kinds := valid
    simp only [kinds, List.mem_cons, List.not_mem_nil, or_false] at listed
    rcases listed with rfl | rfl | rfl | rfl <;> exact ⟨_, _, rfl, by decide +kernel⟩
  rw [written, opens]
  exact .declaration _ other

theorem unrooted_written (valid : p.Valid) (later : Unrooted rest) : Unrooted (p.written ++ rest) := by
  cases p with
  | character c =>
    by_cases space : isSpace c = true
    · exact .blank space later
    · exact .mark rest valid (by simpa using space)
  | comment text =>
    have unrooted := Unrooted.comment valid later
    simpa [written] using unrooted
  | instruction text =>
    have unrooted := Unrooted.instruction valid later
    simpa [written] using unrooted
  | declaration kind body => exact unrooted_of_declares valid ⟨kind, body, rfl⟩

/-- No page starts among pieces, where a declaration is one of them or none starts behind them. -/
theorem unrooted_pieces (valid : ∀ p ∈ ps, p.Valid) (ends : (∃ p ∈ ps, p.Declares) ∨ Unrooted rest) :
    Unrooted (ps.flatMap written ++ rest) := by
  induction ps with
  | nil =>
    rcases ends with ⟨p, inside, -⟩ | later
    · cases inside
    · exact later
  | cons p ps ih =>
    obtain ⟨own, others⟩ := List.forall_mem_cons.1 valid
    rw [List.flatMap_cons, List.append_assoc]
    rcases ends with ⟨q, inside, declares⟩ | later
    · rcases List.mem_cons.1 inside with rfl | inside
      · exact unrooted_of_declares own declares
      · exact unrooted_written own (ih others (.inl ⟨q, inside, declares⟩))
    · exact unrooted_written own (ih others (.inr later))

end Piece

/-! ## In front of the document type -/

namespace Page

/-- Blanks in front of something that starts no page start none. -/
theorem Unrooted.blanks {lead rest : List Char} (blank : ∀ c ∈ lead, Text.isBlank c = true)
    (later : Unrooted rest) : Unrooted (lead ++ rest) := by
  induction lead with
  | nil => exact later
  | cons c lead ih =>
    obtain ⟨own, others⟩ := List.forall_mem_cons.1 blank
    by_cases space : isSpace c = true
    · exact .blank space (ih others)
    · refine .mark _ ?_ (by simpa using space)
      intro inside
      simp only [List.mem_cons, List.not_mem_nil, or_false] at inside
      rcases inside with rfl | rfl <;> exact absurd own (by decide)

theorem Unrooted.front {lead opening rest : List Char} (front : IsFront lead opening)
    (later : Unrooted rest) : Unrooted (lead ++ opening ++ rest) := by
  rw [List.append_assoc]
  refine .blanks front.blank ?_
  rcases front.opens with rfl | ⟨word, inside, blanks, rfl, known, solid, blank⟩
  · exact later
  · have bare := angle_not_mem known (by decide)
    obtain ⟨back, rfl⟩ := exists_marks (d := '?') (by decide) known
    simp only [List.mem_cons, not_or] at bare
    have closed : ¬ ['?', '>'] <:+: back ++ inside ++ ['?'] := fun marks => by
      have angle : '>' ∈ back ++ inside ++ ['?'] := marks.subset (by simp)
      simp [bare.2.2, solid] at angle
    have unrooted := Unrooted.instruction closed (later.blanks blank)
    simpa using unrooted

/-- Up to its first angle a document type is set aside, and what follows is read behind what stood in
front of it. -/
theorem read_cut {lead opening word more : List Char} (front : IsFront lead opening)
    (known : word.map Char.toLower = "<!doctype".toList) (solid : '>' ∉ more) (rest : List Char) :
    read (.ofList (lead ++ opening ++ (word ++ more ++ ['>']) ++ rest)) =
      (forest (replaceNames 0 (lead ++ opening ++ rest))).map
        fun f => (some (.ofList (word ++ more ++ ['>'])), f) := by
  unfold read
  rw [String.toList_ofList, splitDoctype_append front ⟨word, more, rfl, known, solid⟩]
  dsimp only
  cases forest (replaceNames 0 (lead ++ opening ++ rest)) <;> rfl

end Page

/-- A page in front of which a document type declares an entity in brackets. Whether the brackets are
closed is left to what comes `after`. -/
structure Declaring where
  lead : List Char
  opening : List Char
  word : List Char
  head : List Char
  pieces : List Piece
  after : List Char
  front : IsFront lead opening
  typed : word.map Char.toLower = "<!doctype".toList
  valid : ∀ p ∈ pieces, p.Valid
  entity : ∃ body, .declaration "ENTITY" body ∈ pieces

namespace Declaring

variable (d : Declaring)

/-- What stands behind the keyword of the document type. -/
def inside : List Char :=
  d.head ++ '[' :: (d.pieces.flatMap Piece.written ++ d.after)

/-- The page as it stands. -/
def text : String :=
  .ofList (d.lead ++ d.opening ++ d.word ++ d.inside)

/-- Whether the first angle of the page ends a piece, behind which the brackets are closed or a
declaration is left over. -/
def EndsPiece : Prop :=
  ∃ earlier body piece later, d.pieces = earlier ++ piece :: later ∧ piece.written = body ++ ['>'] ∧
    '>' ∉ d.head ++ earlier.flatMap Piece.written ++ body ∧
    ((∃ p ∈ later, p.Declares) ∨ ∃ tail, d.after = ']' :: tail)

theorem angle_mem_inside : '>' ∈ d.inside := by
  obtain ⟨body, declared⟩ := d.entity
  have piece : '>' ∈ d.pieces.flatMap Piece.written :=
    List.mem_flatMap.2 ⟨_, declared, by simp [Piece.written]⟩
  simp [inside, piece]

/-- A document type that declares an entity is cut at the first angle of the page, and the document is
what is read without the part in front of it. There is none where that angle ends a piece between the
brackets. -/
theorem ofText_text :
    (∃ more rest, d.inside = more ++ '>' :: rest ∧ '>' ∉ more ∧
      Document.ofText d.text = (forest (replaceNames 0 (d.lead ++ d.opening ++ rest))).map fun f =>
        { tree := f, fresh := f.labels.length, doctype := some (.ofList (d.word ++ more ++ ['>'])) }) ∧
    (d.EndsPiece → Document.ofText d.text = .error .malformed) := by
  have cut {more rest : List Char} (parts : d.inside = more ++ '>' :: rest) (solid : '>' ∉ more) :
      read d.text = (forest (replaceNames 0 (d.lead ++ d.opening ++ rest))).map
        fun f => (some (.ofList (d.word ++ more ++ ['>'])), f) := by
    rw [← read_cut d.front d.typed solid, text, parts]
    simp
  constructor
  · obtain ⟨more, rest, parts, solid⟩ := List.eq_append_cons_of_mem d.angle_mem_inside
    refine ⟨more, rest, parts, solid, ?_⟩
    rw [Document.ofText, cut parts solid]
    cases forest (replaceNames 0 (d.lead ++ d.opening ++ rest)) <;> rfl
  · rintro ⟨earlier, body, piece, later, pieces, ends, solid, left⟩
    have parts : d.inside = (d.head ++ '[' :: (earlier.flatMap Piece.written ++ body)) ++
        '>' :: (later.flatMap Piece.written ++ d.after) := by
      simp [inside, pieces, ends]
    have closed : '>' ∉ d.head ++ '[' :: (earlier.flatMap Piece.written ++ body) := by
      simpa using solid
    have valid : ∀ p ∈ later, p.Valid := fun p inside => d.valid p (by simp [pieces, inside])
    have behind : Unrooted (later.flatMap Piece.written ++ d.after) := by
      refine Piece.unrooted_pieces valid (left.imp_right ?_)
      rintro ⟨tail, bracket⟩
      rw [bracket]
      exact .mark _ (by decide) (by decide)
    rw [Document.ofText, cut parts closed, forest_of_unrooted (.front d.front behind)]
    rfl

/-- A page that starts with its document type, in which `head` stands between the keyword and the
brackets. -/
def leading (head : String) (pieces : List Piece) (after : String) (valid : ∀ p ∈ pieces, p.Valid)
    (entity : ∃ body, .declaration "ENTITY" body ∈ pieces) : Declaring where
  lead := []
  opening := []
  word := "<!DOCTYPE".toList
  head := head.toList
  pieces := pieces
  after := after.toList
  front := .bare
  typed := by decide +kernel
  valid := valid
  entity := entity

/-- A page that opens with a declaration and refers to the entity that it declares. -/
def boom : Declaring :=
  { leading " x " [.declaration "ENTITY" " e \"boom\"".toList] "]><form>&e;</form>" (by decide +kernel)
      ⟨_, List.mem_singleton_self _⟩ with
    opening := "<?xml version=\"1.0\"?>".toList
    front :=
      { blank := fun c none => (List.not_mem_nil none).elim
        opens := .inr ⟨"<?xml".toList, " version=\"1.0\"".toList, [], by decide +kernel, by decide +kernel,
          by decide +kernel, fun c none => (List.not_mem_nil none).elim⟩ } }

theorem ofText_boom :
    boom.text = "<?xml version=\"1.0\"?><!DOCTYPE x [<!ENTITY e \"boom\">]><form>&e;</form>" ∧
      Document.ofText boom.text = .error .malformed :=
  ⟨by decide +kernel, boom.ofText_text.2
    ⟨[], "<!ENTITY e \"boom\"".toList, _, [], rfl, by decide +kernel, by decide +kernel, .inr ⟨_, rfl⟩⟩⟩

/-- Whether a page that declares an entity is read as the element `a`, with so much of its document type. -/
def Slips (page doctype : String) : Prop :=
  (∃ d : Declaring, d.text = page) ∧ Document.ofText page = .ok
    { tree := .cons ⟨0, .element "a", []⟩ "" .nil "" .nil, fresh := 1, doctype := some doctype }

/-- A document is read although an entity is declared in front of its element: where the first angle
stands in the identifier of the document type, where nothing closes the brackets, and where a comment holds
it. -/
theorem document_despite_entity :
    Slips "<!DOCTYPE a SYSTEM \"><?p \" [<!ENTITY b \"c\">]><?q ?><a/>" "<!DOCTYPE a SYSTEM \">" ∧
      Slips "<!DOCTYPE a [<!ENTITY b \"c\"><a/>" "<!DOCTYPE a [<!ENTITY b \"c\">" ∧
      Slips "<!DOCTYPE a [<!-- ><?x --><!ENTITY b \"c\"><!-- ?><a/><?y -->]><a/><?z?>"
        "<!DOCTYPE a [<!-- >" := by
  refine ⟨⟨⟨?literal, ?_⟩, ?_⟩, ⟨⟨?unclosed, ?_⟩, ?_⟩, ⟨?comment, ?_⟩, ?_⟩
  case literal =>
    exact leading " a SYSTEM \"><?p \" " [.declaration "ENTITY" " b \"c\"".toList] "]><?q ?><a/>"
      (by decide +kernel) ⟨_, .head _⟩
  case unclosed =>
    exact leading " a " [.declaration "ENTITY" " b \"c\"".toList] "<a/>" (by decide +kernel) ⟨_, .head _⟩
  case comment =>
    exact leading " a " [.comment " ><?x ".toList, .declaration "ENTITY" " b \"c\"".toList,
      .comment " ?><a/><?y ".toList] "]><a/><?z?>" (by decide +kernel) ⟨_, .tail _ (.head _)⟩
  all_goals decide +kernel

end Declaring

end FormGate.Markup
