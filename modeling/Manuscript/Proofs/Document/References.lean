import Manuscript.Proofs.Document.Acceptance
import Manuscript.Proofs.Document.Citing
import Manuscript.Proofs.Document.Nesting

/-!
# The reference list

The end of the body writes the reference list: an entry for each work, in order
(`Session.perform_endBody`). Nothing else that is called makes use of the markup of the list
(`Session.run_withReferences`), so what stands in front of it holds none of that.
-/

namespace Manuscript

namespace Backend

/-- The entry of a work in the reference list. -/
def entry (backend : Backend) (work : CitedWork) (number : Nat) : Passage :=
  ⟨backend.bibliographyEntryStart work.key number, ""⟩ ++ backend.passage work.record.entry ++
    ⟨backend.bibliographyEntryEnd, ""⟩

/-- The entries of works, of which the first has a number. -/
def entries (backend : Backend) (number : Nat) (works : List CitedWork) : Passage :=
  Passage.join ((works.zipIdx number).map fun (work, number) ↦ backend.entry work number)

/-- The reference list behind a line break, nothing without any works. -/
def references (backend : Backend) (lineBreak : String) (works : List CitedWork) : Passage :=
  if works = [] then {}
  else ⟨lineBreak ++ backend.bibliographyStart, ""⟩ ++ backend.entries 1 works ++
    ⟨backend.bibliographyEnd, ""⟩

end Backend

namespace Document

theorem append_append (d : Document) (first second : Passage) :
    (d.append first).append second = d.append (first ++ second) := by
  simp only [append, Output.write_append]

theorem append_empty (d : Document) : d.append {} = d := by
  simp only [append, Output.write_empty]

/-- The document with the reference list and the end of the body written. -/
def endBody (backend : Backend) (d : Document) : Document :=
  { d.append (backend.references d.lineBreak d.bibliography.works ++ ⟨backend.bodyEnd, ""⟩) with
    phase := .done }

end Document

namespace Session

open Action

variable {backend : Backend} {s : Session}

/-! ### What the end of the body writes -/

theorem writeEntry_eq (work : CitedWork) (number : Nat) (s : Session) :
    writeEntry backend work number s =
      .ok () (s.modifyDocument (·.append (backend.entry work number))) := by
  simp only [Backend.entry, ← Document.append_append]
  rfl

theorem writeEntries_eq (number : Nat) (works : List CitedWork) (s : Session) :
    writeEntries backend number works s =
      .ok () (s.modifyDocument (·.append (backend.entries number works))) := by
  induction works generalizing number s with
  | nil =>
    change EStateM.Result.ok () s = .ok () (s.modifyDocument (·.append {}))
    rw [modifyDocument, Document.append_empty]
  | cons work others ih =>
    have split : backend.entries number (work :: others) =
        backend.entry work number ++ backend.entries (number + 1) others := rfl
    change EStateM.bind (writeEntry backend work number)
      (fun _ ↦ writeEntries backend (number + 1) others) s = _
    rw [EStateM.bind, writeEntry_eq]
    dsimp only
    rw [ih, split]
    simp only [modifyDocument, Document.append_append]

theorem writeReferences_eq (s : Session) :
    writeReferences backend s = .ok () (s.modifyDocument fun d ↦
      d.append (backend.references d.lineBreak d.bibliography.works)) := by
  rw [writeReferences, bind_current]
  by_cases hw : s.document.bibliography.works = []
  · simp only [modifyDocument, hw, Backend.references, if_pos, Document.append_empty]
    rfl
  · have some_ : s.document.bibliography.works.isEmpty = false := by simpa using hw
    simp only [some_, modifyDocument, hw, Backend.references, if_neg, not_false_eq_true,
      ← Document.append_append]
    change EStateM.bind (writeEntries backend 1 s.document.bibliography.works) _
      (s.modifyDocument (·.emitLine backend.bibliographyStart)) = _
    rw [EStateM.bind, writeEntries_eq]
    rfl

theorem closeBody_eq (s : Session) :
    closeBody backend s = .ok () (s.modifyDocument (Document.endBody backend)) := by
  have written (d : Document) : d.endBody backend =
      { (d.append (backend.references d.lineBreak d.bibliography.works)).emit backend.bodyEnd with
        phase := .done } := by
    rw [Document.endBody, Document.emit, Document.append_append]
  change EStateM.bind (writeReferences backend) _ s = _
  rw [EStateM.bind, writeReferences_eq, modifyDocument, modifyDocument, written]
  rfl

/-- The body can be ended when it is the innermost element, and then nothing is open any more. -/
theorem perform_endBody (nested : s.document.Nested) (h : s.document.innermost = some .body) :
    s.document.output.captures = [] ∧
    s.perform backend (.endElement .body) = (.ok .done, s.modifyDocument fun d ↦
      (Document.endBody backend { d with frames := [], tagDepth := 0 }).stream) := by
  obtain ⟨⟨kind, captured, state⟩, hd, rfl, rfl, root⟩ :=
    nested.exists_outermost h (fun _ ↦ rfl) (by decide) rfl
  have frames := nested.frames
  have depth := nested.tagDepth_eq
  rw [hd] at frames depth
  obtain rfl : state = .plain :=
    FrameState.eq_plain_of_suits rfl (fun hk ↦ by cases hk) frames.1.suits
  have ended : endElement backend .body s = .ok () (s.modifyDocument fun d ↦
      (Document.endBody backend { d with frames := [], tagDepth := 0 }).stream) := by
    rw [endElement, bind_current, hd]
    change EStateM.bind (closeBody backend) (fun _ ↦ change Document.stream)
      (s.modifyDocument fun d ↦ { d with frames := [], tagDepth := d.tagDepth - 1 }) = _
    rw [EStateM.bind, closeBody_eq]
    simp only [modifyDocument, depth]
    rfl
  exact ⟨root, perform_of_ok rfl ended⟩

end Session

/-! ### What makes no use of the list -/

/-- The backend without what stands around the content of the body. -/
def Backend.inside (backend : Backend) : Backend :=
  { backend with
    documentStart := ""
    head := fun _ _ _ ↦ ""
    bodyStart := ""
    titleBlock := fun _ _ _ ↦ ""
    bodyEnd := ""
    bibliographyStart := ""
    bibliographyEntryStart := fun _ _ ↦ ""
    bibliographyEntryEnd := ""
    bibliographyEnd := "" }

/-- How a reference list is marked up. -/
structure ReferenceMarkup where
  start : String
  entryStart : (key : String) → (number : Nat) → String
  entryEnd : String
  finish : String

/-- The backend with another way to mark up the reference list. -/
def Backend.withReferences (backend : Backend) (markup : ReferenceMarkup) : Backend :=
  { backend with
    bibliographyStart := markup.start
    bibliographyEntryStart := markup.entryStart
    bibliographyEntryEnd := markup.entryEnd
    bibliographyEnd := markup.finish }

namespace Session

open Action

variable {s : Session} (backend : Backend) (markup : ReferenceMarkup)

theorem seriesPages_inside (number index : Nat) (groups : List (List PendingFigure)) :
    seriesPages backend.inside number index groups = seriesPages backend number index groups := by
  have cells (index : Nat) (figures : List PendingFigure) :
      seriesCells backend.inside number index figures =
        seriesCells backend number index figures := by
    induction figures generalizing index with
    | nil => rfl
    | cons figure others ih => simp only [seriesCells, ih]; rfl
  induction groups generalizing index with
  | nil => rfl
  | cons group others ih => simp only [seriesPages, cells, ih]

/-- Nothing but the ends of the header and of the body makes use of what stands around the
content. -/
theorem closeFrame_inside (frame : Frame) (captured : Passage)
    (hk : frame.state = .plain → frame.kind ≠ .header ∧ frame.kind ≠ .body) :
    closeFrame backend.inside frame captured = closeFrame backend frame captured := by
  obtain ⟨kind, held, state⟩ := frame
  cases state with
  | plain =>
    cases kind with
    | header => exact absurd rfl (hk rfl).1
    | body => exact absurd rfl (hk rfl).2
    | _ => rfl
  | figureSeries series =>
    simp only [closeFrame, closeSeries, seriesPages_inside]
    rfl
  | _ => rfl

/-- Nothing but the end of the body makes use of the list. -/
theorem closeFrame_withReferences (frame : Frame) (captured : Passage) (hk : frame.kind ≠ .body) :
    closeFrame (backend.withReferences markup) frame captured =
      closeFrame backend frame captured := by
  by_cases hh : frame.state = .plain ∧ frame.kind = .header
  · obtain ⟨kind, held, state⟩ := frame
    obtain ⟨rfl, rfl⟩ := hh
    rfl
  · have inside (hp : frame.state = .plain) : frame.kind ≠ .header ∧ frame.kind ≠ .body :=
      ⟨fun hk ↦ hh ⟨hp, hk⟩, hk⟩
    exact (closeFrame_inside _ frame captured inside).symm.trans
      (closeFrame_inside backend frame captured inside)

/-- Ends that do the same have the same answer. -/
theorem perform_eq_of_endElement {backend backend' : Backend} {kind : Kind}
    (h : endElement backend' kind s = endElement backend kind s) :
    s.perform backend' (.endElement kind) = s.perform backend (.endElement kind) := by
  cases ha : endElement backend kind s with
  | ok _ t => exact (perform_of_ok rfl (h.trans ha)).trans (perform_of_ok rfl ha).symm
  | error error t => exact (perform_of_error rfl (h.trans ha)).trans (perform_of_error rfl ha).symm

theorem endElement_withReferences {kind : Kind}
    (h : s.document.innermost = some .body → kind ≠ .body) :
    endElement (backend.withReferences markup) kind s = endElement backend kind s := by
  rw [endElement, endElement, bind_current, bind_current]
  cases hd : s.document.frames with
  | nil => rfl
  | cons frame outer =>
    by_cases hk : frame.kind = kind
    · have other : frame.kind ≠ .body := by
        intro hb
        apply h
        · rw [Document.innermost, hd, ← hb]
          rfl
        · exact hk ▸ hb
      simp only [closeFrame_withReferences backend markup frame _ other]
    · simp only [if_neg hk]

theorem perform_withReferences {call : Call}
    (h : s.document.innermost = some .body → call ≠ .endElement .body) :
    s.perform (backend.withReferences markup) call = s.perform backend call := by
  cases call with
  | endElement kind =>
    have ended : endElement (backend.withReferences markup) kind s = endElement backend kind s :=
      endElement_withReferences backend markup fun hb hk ↦ h hb (hk ▸ rfl)
    exact perform_eq_of_endElement ended
  | _ => rfl

/-- Until the body ends a run does not depend on how the reference list is marked up. -/
theorem run_withReferences {calls : List Call}
    (h : ∀ before after, calls = before ++ .endElement .body :: after →
      (s.run backend before).document.innermost ≠ some .body) :
    s.run (backend.withReferences markup) calls = s.run backend calls := by
  induction calls generalizing s with
  | nil => simp only [run, List.foldl_nil]
  | cons call calls ih =>
    have first : s.perform (backend.withReferences markup) call = s.perform backend call := by
      apply perform_withReferences
      intro hb hc
      exact h [] calls (hc ▸ rfl) hb
    rw [run_cons, run_cons, first]
    apply ih
    intro before after hc
    rw [← run_cons]
    exact h (call :: before) after (congrArg (call :: ·) hc)

end Session

end Manuscript
