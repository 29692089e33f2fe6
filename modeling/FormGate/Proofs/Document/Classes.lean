import FormGate.Document.Feedback
import FormGate.Proofs.Markup.Label
import Mathlib.Tactic.SplitIfs

/-!
# Classes

The classes of a label are the words of its `class` attribute. Adding or removing a class leaves the
other classes as they were.
-/

namespace FormGate

namespace Text

/-! ## Words -/

theorem words_append_space (s t : String) : words (s ++ " " ++ t) = words s ++ words t := by
  have blank : isBlank ' ' = true := by decide
  have chars : (s ++ " " ++ t).toList = s.toList ++ ' ' :: t.toList := by simp
  rw [words, wordsOf, chars, List.splitOnP_append_cons _ _ blank, List.filter_append,
    List.map_append]
  rfl

theorem words_intercalate (ws : List String) : words (" ".intercalate ws) = ws.flatMap words := by
  induction ws with
  | nil => decide
  | cons w ws ih =>
    by_cases last : ws = []
    · simp [last]
    · rw [String.intercalate_cons_of_ne_nil last, words_append_space, ih, List.flatMap_cons]

theorem words_of_isWord {s : String} (h : isWord s = true) : words s = [s] := by
  unfold isWord at h
  simp only [Bool.and_eq_true, Bool.not_eq_true', List.any_eq_false] at h
  have nonempty : s.toList.isEmpty = false := by
    cases chars : s.toList with
    | nil =>
      have : s = "" := String.toList_inj.1 (by simpa using chars)
      simp [this] at h
    | cons c cs => rfl
  rw [words, wordsOf, List.splitOnP_eq_singleton fun c hc => by simpa using h.2 c hc]
  simp [nonempty]

theorem not_of_mem_splitOnP {p : Char → Bool} {cs : List Char} :
    ∀ piece ∈ cs.splitOnP p, ∀ c ∈ piece, p c = false := by
  induction cs with
  | nil => simp
  | cons c cs ih =>
    rw [List.splitOnP_cons_eq_if_modifyHead]
    split_ifs with blank
    · simpa using ih
    · rcases pieces : cs.splitOnP p with _ | ⟨first, pieces⟩
      · exact absurd pieces (List.splitOnP_ne_nil p cs)
      · rw [pieces] at ih
        simp only [List.modifyHead_cons, List.forall_mem_cons] at ih ⊢
        exact ⟨⟨by simpa using blank, ih.1⟩, ih.2⟩

theorem isWord_of_mem_words {s w : String} (h : w ∈ words s) : isWord w = true := by
  obtain ⟨piece, member, rfl⟩ := List.mem_map.1 h
  obtain ⟨member, nonempty⟩ := List.mem_filter.1 member
  have plain := not_of_mem_splitOnP piece member
  have some : String.ofList piece ≠ "" := by
    rintro none
    have := congrArg String.toList none
    simp only [String.toList_ofList] at this
    rw [this] at nonempty
    cases nonempty
  simpa [isWord, some] using plain

/-- Words that are joined by spaces are cut back into the same words. -/
theorem words_intercalate_of_isWord {ws : List String} (h : ∀ w ∈ ws, isWord w = true) :
    words (" ".intercalate ws) = ws := by
  rw [words_intercalate]
  induction ws with
  | nil => rfl
  | cons w ws ih =>
    rw [List.flatMap_cons, words_of_isWord (h w List.mem_cons_self),
      ih fun w hw => h w (List.mem_cons_of_mem _ hw)]
    rfl

end Text

namespace Document

open Markup

/-! ## Classes of labels -/

variable {l : Label} {name : String}

theorem isWord_of_mem_classesOf {c : String} (h : c ∈ classesOf l) : Text.isWord c = true :=
  Text.isWord_of_mem_words h

theorem classesOf_withClasses {cs : List String} (h : ∀ c ∈ cs, Text.isWord c = true) :
    classesOf (withClasses l cs) = cs := by
  unfold withClasses
  split_ifs with empty
  · rw [List.isEmpty_iff.1 empty, classesOf, Label.get?_erase_self]
    decide
  · rw [classesOf, Label.get?_set_self]
    exact Text.words_intercalate_of_isWord h

theorem classesOf_labelWithClass (word : Text.isWord name = true) :
    classesOf (labelWithClass name l) =
      if (classesOf l).contains name then classesOf l else classesOf l ++ [name] := by
  unfold labelWithClass
  split_ifs with present
  · rfl
  · refine classesOf_withClasses fun c hc => ?_
    rcases List.mem_append.1 hc with hc | hc
    · exact isWord_of_mem_classesOf hc
    · rwa [List.mem_singleton.1 hc]

theorem classesOf_labelWithoutClass :
    classesOf (labelWithoutClass name l) = (classesOf l).filter (· != name) := by
  unfold labelWithoutClass
  split_ifs with present
  · exact classesOf_withClasses fun c hc => isWord_of_mem_classesOf (List.mem_of_mem_filter hc)
  · refine (List.filter_eq_self.2 fun c hc => ?_).symm
    simp only [List.contains_iff_mem] at present
    simp only [bne_iff_ne]
    rintro rfl
    exact present hc

theorem tag_withClasses (l : Label) (classes : List String) : (withClasses l classes).tag = l.tag := by
  unfold withClasses
  split_ifs <;> rfl

theorem tag_labelWithClass (name : String) (l : Label) : (labelWithClass name l).tag = l.tag := by
  unfold labelWithClass
  split_ifs
  · rfl
  · exact tag_withClasses l _

theorem tag_labelWithoutClass (name : String) (l : Label) :
    (labelWithoutClass name l).tag = l.tag := by
  unfold labelWithoutClass
  split_ifs
  · exact tag_withClasses l _
  · rfl

end Document

end FormGate
