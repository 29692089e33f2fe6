import FormGate.Proofs.Diagnostic.Window
import FormGate.Proofs.Rule.Grammar

/-!
# Reading a rule text token by token

A rule text is read as its tokens are read one after the other, wherever it is cut at a bar, be it inside
brackets or beside a blank (`Catalog.read_tokenwise`). A token that is not blank gives one rule, or it is
reported once under its own name; a blank one gives nothing. Where the dropped tokens are not to be
reported, the same rules are read.
-/

namespace FormGate

/-- What a diagnostic says of a rule: its code, its message, and the rule. -/
def Diagnostic.gist (d : Diagnostic) : String × String × Option String :=
  (d.code, d.message, d.context.rule)

namespace Rule

/-! ## Pieces and tokens -/

/-- The pieces of a rule text between its bars. -/
def pieces (raw : String) : List String :=
  (raw.toList.splitOn '|').map .ofList

theorem pieces_append (a b : String) : pieces (a ++ "|" ++ b) = pieces a ++ pieces b := by
  have chars : (a ++ "|" ++ b).toList = a.toList ++ '|' :: b.toList := by simp
  have cut : (a.toList ++ '|' :: b.toList).splitOn '|' = a.toList.splitOn '|' ++ b.toList.splitOn '|' :=
    List.splitOnP_append_cons _ _ (by decide)
  rw [pieces, chars, cut, List.map_append]
  rfl

theorem bar_not_mem {raw piece : String} (h : piece ∈ pieces raw) : '|' ∉ piece.toList := by
  obtain ⟨cs, member, rfl⟩ := List.mem_map.1 h
  intro bar
  rw [String.toList_ofList] at bar
  exact absurd (Text.not_of_mem_splitOnP cs member '|' bar) (by decide)

/-- The tokens of a text are its pieces without outer blanks, as far as anything is left of them. -/
theorem tokens_eq (raw : String) :
    tokens raw = ((pieces raw).map Text.trim).filter (!·.isEmpty) := by
  have trimmed : Text.trim ∘ String.ofList = fun cs => String.ofList (Text.trimChars cs) := by
    funext cs
    simp [Text.trim]
  rw [tokens, pieces, List.map_map, trimmed]

theorem tokens_append (a b : String) : tokens (a ++ "|" ++ b) = tokens a ++ tokens b := by
  rw [tokens_eq, tokens_eq, tokens_eq, pieces_append, List.map_append, List.filter_append]

theorem pieces_of_not_mem {t : String} (bar : '|' ∉ t.toList) : pieces t = [t] := by
  have single : t.toList.splitOn '|' = [t.toList] :=
    List.splitOnP_eq_singleton fun c hc => by
      rw [beq_eq_false_iff_ne]
      rintro rfl
      exact bar hc
  rw [pieces, single, List.map_singleton, String.ofList_toList]

theorem tokens_of_blank {t : String} (bar : '|' ∉ t.toList) (blank : Text.trim t = "") :
    tokens t = [] := by
  rw [tokens_eq, pieces_of_not_mem bar, List.map_singleton, blank]
  rfl

theorem tokens_of_visible {t : String} (bar : '|' ∉ t.toList) (visible : Text.trim t ≠ "") :
    tokens t = [Text.trim t] := by
  rw [tokens_eq, pieces_of_not_mem bar, List.map_singleton,
    List.filter_cons_of_pos (by simpa using visible), List.filter_nil]

theorem tokens_eq_flatMap (raw : String) : tokens raw = (pieces raw).flatMap tokens := by
  have each : ∀ ps : List String, (∀ t ∈ ps, '|' ∉ t.toList) →
      (ps.map Text.trim).filter (!·.isEmpty) = ps.flatMap tokens := by
    intro ps
    induction ps with
    | nil => exact fun _ => rfl
    | cons t ps ih =>
      intro bars
      obtain ⟨bar, others⟩ := List.forall_mem_cons.1 bars
      rw [List.map_cons, List.flatMap_cons, ← ih others]
      by_cases blank : Text.trim t = ""
      · rw [tokens_of_blank bar blank, List.filter_cons_of_neg (by simp [blank]), List.nil_append]
      · rw [tokens_of_visible bar blank, List.filter_cons_of_pos (by simpa using blank)]
        rfl
  rw [tokens_eq, each _ fun t ht => bar_not_mem ht]

end Rule

namespace Catalog

variable (c : Catalog)

/-- The diagnostics of the tokens that are dropped from a rule text. -/
def notices (raw : String) (field : Option String) : List Diagnostic :=
  (c.faults raw).map fun p => .warning (.fault (p.2.toFault (some p.1)), readContext raw field p.1)

/-- What is said of a dropped token hangs on the token alone. -/
theorem map_gist_notices (raw : String) (field : Option String) :
    (c.notices raw field).map Diagnostic.gist =
      (c.faults raw).map fun p => (p.2.kind.code, p.2.message, some p.1) := by
  rw [notices, List.map_map]
  rfl

theorem reportFaults_eq (raw : String) (field : Option String) (k : Collector) :
    c.reportFaults raw field k = k.addAll (c.notices raw field) := by
  rw [reportFaults, Collector.addAll, notices, List.foldl_map]
  rfl

/-! ## Tokens one after the other -/

theorem rules_append (a b : String) : c.rules (a ++ "|" ++ b) = c.rules a ++ c.rules b := by
  rw [rules, Rule.tokens_append, List.filterMap_append]
  rfl

theorem faults_append (a b : String) : c.faults (a ++ "|" ++ b) = c.faults a ++ c.faults b := by
  rw [faults, Rule.tokens_append, List.filterMap_append]
  rfl

theorem rules_eq_flatMap (raw : String) : c.rules raw = (Rule.pieces raw).flatMap c.rules := by
  rw [rules, Rule.tokens_eq_flatMap, List.filterMap_flatMap]
  rfl

theorem faults_eq_flatMap (raw : String) : c.faults raw = (Rule.pieces raw).flatMap c.faults := by
  rw [faults, Rule.tokens_eq_flatMap, List.filterMap_flatMap]
  rfl

theorem rules_of_visible {t : String} (bar : '|' ∉ t.toList) (visible : Text.trim t ≠ "") :
    (∃ r, c.readToken (Text.trim t) = .ok r ∧ c.rules t = [r] ∧ c.faults t = []) ∨
      ∃ f, c.readToken (Text.trim t) = .error f ∧ c.rules t = [] ∧ c.faults t = [(Text.trim t, f)] := by
  unfold rules faults
  rw [Rule.tokens_of_visible bar visible]
  cases read : c.readToken (Text.trim t) with
  | ok r =>
    refine .inl ⟨r, rfl, ?_, ?_⟩
    · rw [List.filterMap_cons, read]
      rfl
    · rw [List.filterMap_cons, read]
      rfl
  | error f =>
    refine .inr ⟨f, rfl, ?_, ?_⟩
    · rw [List.filterMap_cons, read]
      rfl
    · rw [List.filterMap_cons, read]
      rfl

/-- Reading a rule text adds the diagnostics of its dropped tokens to a collector and gives the other
ones as rules, and read in silence it gives the same rules and adds none. Two texts with a bar between
them are read as the first and then the second, and every text as its pieces in order. A piece of a text
gives nothing where it is blank, and otherwise one rule or one diagnostic, which is said of the piece
without its outer blanks. -/
theorem read_tokenwise (field : Option String) :
    (∀ raw k, c.read raw field true k = (c.rules raw, k.addAll (c.notices raw field)) ∧
      c.read raw field false k = (c.rules raw, k)) ∧
    (∀ a b, c.rules (a ++ "|" ++ b) = c.rules a ++ c.rules b ∧
      (c.notices (a ++ "|" ++ b) field).map Diagnostic.gist =
        (c.notices a field).map Diagnostic.gist ++ (c.notices b field).map Diagnostic.gist) ∧
    ∀ raw, c.rules raw = (Rule.pieces raw).flatMap c.rules ∧
      (c.notices raw field).map Diagnostic.gist =
        (Rule.pieces raw).flatMap (fun t => (c.notices t field).map Diagnostic.gist) ∧
      ∀ t ∈ Rule.pieces raw,
        (Text.trim t = "" → c.rules t = [] ∧ c.notices t field = []) ∧
        (Text.trim t ≠ "" →
          (∃ r, c.rules t = [r] ∧ c.notices t field = []) ∨
            ∃ d, c.rules t = [] ∧ c.notices t field = [d] ∧ d.context.rule = some (Text.trim t)) := by
  refine ⟨fun raw k => ⟨?_, rfl⟩, fun a b => ⟨c.rules_append a b, ?_⟩,
    fun raw => ⟨c.rules_eq_flatMap raw, ?_, fun t member => ⟨fun blank => ?_, fun visible => ?_⟩⟩⟩
  · rw [← reportFaults_eq]
    rfl
  · simp only [map_gist_notices, faults_append, List.map_append]
  · simp only [map_gist_notices]
    rw [faults_eq_flatMap, List.map_flatMap]
  · rw [rules, notices, faults, Rule.tokens_of_blank (Rule.bar_not_mem member) blank]
    exact ⟨rfl, rfl⟩
  · rcases c.rules_of_visible (Rule.bar_not_mem member) visible with ⟨r, -, own, none⟩ | ⟨f, -, none, own⟩
    · exact .inl ⟨r, own, by rw [notices, none, List.map_nil]⟩
    · exact .inr ⟨_, none, by rw [notices, own, List.map_singleton], rfl⟩

/-- A text that is cut inside brackets: what stands in front of the cut and what stands behind it are
both dropped, and so is a token between blanks. -/
theorem read_tokenwise_cut :
    let a := " trim | matches[x"
    let b := "y] ||bogus | min_length[ 05 ]"
    default.rules (a ++ "|" ++ b) = [⟨"trim", none⟩, ⟨"min_length", some "05"⟩] ∧
      ((default.notices a none).map Diagnostic.gist ++
        (default.notices b none).map Diagnostic.gist).map (·.2.2) =
          [some "matches[x", some "y]", some "bogus"] ∧
      "bogus " ∈ Rule.pieces (a ++ "|" ++ b) ∧ Text.trim "bogus " ≠ "" ∧
      ((∃ r, default.rules "bogus " = [r] ∧ default.notices "bogus " none = []) ∨
        ∃ d, default.rules "bogus " = [] ∧ default.notices "bogus " none = [d] ∧
          d.context.rule = some (Text.trim "bogus ")) := by
  intro a b
  have member : "bogus " ∈ Rule.pieces (a ++ "|" ++ b) := by decide +kernel
  have visible : Text.trim "bogus " ≠ "" := by decide +kernel
  obtain ⟨-, cut, pieces⟩ := default.read_tokenwise none
  refine ⟨by decide +kernel, ?_, member, visible, ((pieces (a ++ "|" ++ b)).2.2 _ member).2 visible⟩
  rw [← (cut a b).2]
  decide +kernel

end Catalog

end FormGate
