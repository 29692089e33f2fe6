import FormGate.Host.Call

/-!
# Edits written out

Lines are put into an element, and a feedback element into a page, in steps of which some may fail.
Here both are written out as functions of the page. It follows that no call to the host touches the
document type, the submissions or the scrolls of a page.
-/

namespace FormGate

open Markup

namespace Document

/-! ## The two edits as functions -/

/-- The page in which an element was given its first line, and the tag that goes with the lines. -/
def withFirstLine (d : Document) (e : Element) (lines : List String) : Document :=
  (d.setText e (lines.headD "")).modifyLabel e fun l => { l with tag := l.tag.holding lines }

/-- The tag of an element, and that of an element without a name where it is unknown. -/
def tagOf (d : Document) (e : Element) : Tag :=
  ((d.label? e).map (·.tag)).getD (.element "")

/-- The page in which an element holds its first line and these line breaks. -/
def withBreaks (d : Document) (e : Element) (line : String) (breaks : Forest) : Document :=
  { d.mapForests (Forest.fill e line breaks) with fresh := d.fresh + breaks.labels.length }

/-- A feedback element with its first line and its line breaks. -/
def feedbackNode (id : Nat) (tag : Tag) (classes lines : List String) (breaks : Forest) : Node :=
  ⟨⟨id, tag, [("class", " ".intercalate classes)]⟩, lines.headD "", breaks, ""⟩

/-- The page with a node behind an element, which numbers from `fresh` on were given to. -/
def withBehind (d : Document) (e : Element) (n : Node) : Document :=
  { d with tree := d.tree.insertAfter e n, fresh := d.fresh + 1 + n.children.labels.length }

namespace Edit

variable {α β : Type}

theorem run_get_bind (f : Document → Edit β) (d : Document) :
    (get >>= f).run.run d = (f d).run.run d := rfl

theorem run_set_bind (d' : Document) (f : PUnit → Edit β) (d : Document) :
    (set d' >>= f).run.run d = (f ⟨⟩).run.run d' := rfl

theorem run_lift_bind (x : Except Failure α) (f : α → Edit β) (d : Document) :
    ((liftM x : Edit α) >>= f).run.run d =
      match x with
      | .error e => (.error e, d)
      | .ok a => (f a).run.run d := by
  cases x <;> rfl

end Edit

theorem setLines_run (e : Element) (lines : List String) (d : Document) :
    (setLines e lines).run.run d =
      match breaksIn ((d.withFirstLine e lines).tagOf e) (d.withFirstLine e lines).fresh lines with
      | .error f => (.error f, d.withFirstLine e lines)
      | .ok breaks => (.ok (), (d.withFirstLine e lines).withBreaks e (lines.headD "") breaks) := by
  unfold setLines
  rw [Edit.run_get_bind]
  dsimp only
  rw [Edit.run_set_bind]
  show ExceptT.run ((liftM (breaksIn ((d.withFirstLine e lines).tagOf e)
    (d.withFirstLine e lines).fresh lines) : Edit Forest) >>= _) (d.withFirstLine e lines) = _
  cases breaksIn ((d.withFirstLine e lines).tagOf e) (d.withFirstLine e lines).fresh lines <;> rfl

theorem insertFeedback_run (e : Element) (tag : String) (classes lines : List String)
    (d : Document) :
    (insertFeedback e tag classes lines).run.run d =
      match d.space (d.container e) with
      | .error f => (.error f, d)
      | .ok space =>
        match breaksIn (.element (space ++ tag)) (d.fresh + 1) lines with
        | .error f => (.error f, d)
        | .ok breaks =>
          match d.siblingsAfter e with
          | .error f => (.error f, d)
          | .ok _ =>
            (.ok d.fresh, d.withBehind e
              (feedbackNode d.fresh (.element (space ++ tag)) classes lines breaks)) := by
  unfold insertFeedback
  rw [Edit.run_get_bind, Edit.run_lift_bind]
  cases d.space (d.container e) with
  | error f => rfl
  | ok space =>
    dsimp only
    rw [Edit.run_lift_bind]
    cases breaksIn (.element (space ++ tag)) (d.fresh + 1) lines with
    | error f => rfl
    | ok breaks =>
      dsimp only
      rw [Edit.run_lift_bind]
      cases d.siblingsAfter e <;> rfl

/-! ## The log of a page -/

/-- Two pages of one document type on which the same was submitted and scrolled to. -/
structure SameLog (d d' : Document) : Prop where
  doctype : d'.doctype = d.doctype
  submissions : d'.submissions = d.submissions
  scrolls : d'.scrolls = d.scrolls

namespace SameLog

theorem refl (d : Document) : SameLog d d := ⟨rfl, rfl, rfl⟩

theorem symm {a b : Document} (h : SameLog a b) : SameLog b a :=
  ⟨h.doctype.symm, h.submissions.symm, h.scrolls.symm⟩

theorem trans {a b c : Document} (h : SameLog a b) (h' : SameLog b c) : SameLog a c :=
  ⟨h'.doctype.trans h.doctype, h'.submissions.trans h.submissions, h'.scrolls.trans h.scrolls⟩

end SameLog

theorem sameLog_setValue (d : Document) (e : Element) (v : String) :
    SameLog d (d.setValue e v) := by
  unfold setValue
  cases d.node? e with
  | none => exact SameLog.refl d
  | some n =>
    dsimp only
    split <;> exact ⟨rfl, rfl, rfl⟩

theorem sameLog_setFlag (d : Document) (e : Element) (name : String) (on : Bool) :
    SameLog d (d.setFlag e name on) := by
  cases on <;> exact ⟨rfl, rfl, rfl⟩

theorem sameLog_remove (d : Document) (e : Element) : SameLog d (d.remove e) := by
  unfold remove
  split <;> exact ⟨rfl, rfl, rfl⟩

theorem sameLog_setLines (d : Document) (e : Element) (lines : List String) :
    SameLog d ((setLines e lines).run.run d).2 := by
  rw [setLines_run]
  split <;> exact ⟨rfl, rfl, rfl⟩

theorem sameLog_insertFeedback (d : Document) (e : Element) (tag : String)
    (classes lines : List String) :
    SameLog d ((insertFeedback e tag classes lines).run.run d).2 := by
  rw [insertFeedback_run]
  cases d.space (d.container e) with
  | error f => exact SameLog.refl d
  | ok space =>
    dsimp only
    split
    · exact SameLog.refl d
    · split <;> exact ⟨rfl, rfl, rfl⟩

end Document

/-- No call submits, scrolls or changes the document type. -/
theorem Call.sameLog_perform (c : Call) (d : Document) : d.SameLog (c.perform d).2 := by
  cases c with
  | setValue e v => exact d.sameLog_setValue e v
  | addClass e name => exact ⟨rfl, rfl, rfl⟩
  | removeClass e name => exact ⟨rfl, rfl, rfl⟩
  | insertFeedback e tag classes lines => exact d.sameLog_insertFeedback e tag classes lines
  | setLines e lines => exact d.sameLog_setLines e lines
  | remove e => exact d.sameLog_remove e
  | setDisabled e disabled => exact d.sameLog_setFlag e "disabled" disabled
  | _ => exact Document.SameLog.refl d

end FormGate
