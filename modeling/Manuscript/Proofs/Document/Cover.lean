import Manuscript.Proofs.Document.Headline
import Manuscript.Proofs.Document.References

/-!
# What stands around the content of a document

The start of the document, the head, the start of the body with the title block, and the end of the
body make up its cover (`Cover`). Each part is written by one turn of the document, the beginning or
the end of its header or of its body, and no other call makes use of it
(`Session.perform_withCover`).
-/

namespace Manuscript

/-- What a backend puts around the content of a document. -/
structure Cover where
  documentStart : String
  /-- The rest of the head, from plain text. -/
  head : (title authors date : Option String) → String
  bodyStart : String
  /-- The title block, from markup. -/
  titleBlock : (title authors date : Option String) → String
  bodyEnd : String

/-- The cover of the backend. -/
def Backend.cover (backend : Backend) : Cover :=
  ⟨backend.documentStart, backend.head, backend.bodyStart, backend.titleBlock, backend.bodyEnd⟩

/-- The backend with another cover. -/
def Backend.withCover (backend : Backend) (cover : Cover) : Backend :=
  { backend with
    documentStart := cover.documentStart
    head := cover.head
    bodyStart := cover.bodyStart
    titleBlock := cover.titleBlock
    bodyEnd := cover.bodyEnd }

theorem Backend.withCover_cover (backend : Backend) : backend.withCover backend.cover = backend := rfl

namespace Cover

/-- The rest of the head, with the plain text of what the header said. -/
def metadata (cover : Cover) (head : Head) : String :=
  cover.head (head.title.map Passage.text) (head.byline Passage.text) (head.date.map Passage.text)

/-- The start of the body and the title block, with the markup of what the header said. -/
def title (cover : Cover) (head : Head) : String :=
  cover.bodyStart ++ cover.titleBlock (head.title.map Passage.markup)
    (head.byline Passage.markup) (head.date.map Passage.markup)

/-- What stands in front of the content. -/
def opening (cover : Cover) (head : Head) : String :=
  cover.documentStart ++ cover.metadata head ++ cover.title head

/-- All that stands in a document that has come so far, with the content so far. -/
def page (cover : Cover) (head : Head) (content : String) : Phase → String
  | .start => ""
  | .header => cover.documentStart
  | .headerDone => cover.documentStart ++ cover.metadata head
  | .body => cover.opening head ++ content
  | .done => cover.opening head ++ content ++ cover.bodyEnd

end Cover

namespace Document

/-- The document with its header begun. -/
def beginHeader (backend : Backend) (d : Document) : Document :=
  ({ d with phase := .header }.emit backend.documentStart).push ⟨.header, false, .plain⟩

/-- The document with its header ended. -/
def endHeader (backend : Backend) (d : Document) : Document :=
  ({ d.pop.emit (backend.cover.metadata d.head) with phase := .headerDone } : Document).stream

/-- The document with its body begun. -/
def beginBody (backend : Backend) (d : Document) : Document :=
  ({ d with phase := .body }.emit (backend.cover.title d.head)).push ⟨.body, false, .plain⟩

end Document

/-- Whether the call may bring a document into another phase. -/
def Call.turns : Call → Bool
  | .beginElement element => element.kind == .header || element.kind == .body
  | .endElement kind => kind == .header || kind == .body
  | _ => false

namespace Session

open Action

variable {backend : Backend} {cover : Cover} {s : Session}

/-! ### Turns -/

theorem perform_beginHeader (fits : s.document.Receives .header) :
    s.perform backend (.beginElement .header) =
      (.ok .done, s.modifyDocument (Document.beginHeader backend)) := perform_begin fits rfl rfl

theorem perform_beginBody (fits : s.document.Receives .body) :
    s.perform backend (.beginElement .body) =
      (.ok .done, s.modifyDocument (Document.beginBody backend)) := perform_begin fits rfl rfl

/-- The header can be ended when it is the innermost element. -/
theorem perform_endHeader (nested : s.document.Nested) (h : s.document.innermost = some .header) :
    s.perform backend (.endElement .header) =
      (.ok .done, s.modifyDocument (Document.endHeader backend)) := by
  obtain ⟨frame, outer, hf, hk⟩ := Document.exists_of_innermost h
  have frames := nested.frames
  rw [hf] at frames
  have ended : endElement backend frame.kind s = _ := endElement_eq hf nested
  obtain ⟨kind, captured, state⟩ := frame
  obtain rfl : kind = .header := hk
  obtain rfl : state = .plain :=
    FrameState.eq_plain_of_suits rfl (fun hk ↦ by cases hk) frames.1.suits
  have head : s.document.pop.head = s.document.head := by rw [Document.pop, hf]
  refine perform_of_ok rfl (ended.trans ?_)
  simp only [Session.modifyDocument, Document.endHeader, ← head]
  rfl

/-- The end of the body writes the reference list and the end of the body, and leaves nothing
open. -/
theorem perform_endBody_withCover (nested : s.document.Nested)
    (h : s.document.innermost = some .body) :
    s.perform (backend.withCover cover) (.endElement .body) =
      (.ok .done, s.modifyDocument fun d ↦
        { d with
          frames := []
          tagDepth := 0
          phase := .done
          output := (d.output.write (backend.references
            ({ d with frames := [], tagDepth := 0 } : Document).lineBreak d.bibliography.works ++
              ⟨cover.bodyEnd, ""⟩)).stream }) :=
  (perform_endBody nested h).2

/-! ### Everything else -/

/-- The cover has no part in what is called, but for turns of the document that are accepted. -/
theorem perform_withCover {call : Call} (nested : s.document.Nested)
    (h : (s.perform backend call).1.isOk = true → call.turns = false) :
    s.perform (backend.withCover cover) call = s.perform backend call := by
  cases call with
  | beginElement element =>
    by_cases fits : s.document.Receives element
    · cases element with
      | header =>
        rw [perform_beginHeader fits] at h
        cases h rfl
      | body =>
        rw [perform_beginBody fits] at h
        cases h rfl
      | _ => rfl
    · obtain ⟨error, refused⟩ := exists_of_not_receives fits
      rw [perform_of_error rfl (refused _), perform_of_error rfl (refused _)]
  | endElement kind =>
    by_cases hi : s.document.innermost = some kind
    · by_cases ht : kind = .header ∨ kind = .body
      · -- The ends of the header and of the body are turns, and they are accepted.
        rcases ht with rfl | rfl
        · rw [perform_endHeader nested hi] at h
          cases h rfl
        · rw [(perform_endBody nested hi).2] at h
          cases h rfl
      · obtain ⟨frame, outer, hf, rfl⟩ := Document.exists_of_innermost hi
        have inside (_ : frame.state = .plain) : frame.kind ≠ .header ∧ frame.kind ≠ .body :=
          not_or.mp ht
        have closed : closeFrame (backend.withCover cover) frame s.document.held =
            closeFrame backend frame s.document.held :=
          (closeFrame_inside (backend.withCover cover) frame _ inside).symm.trans
            (closeFrame_inside backend frame _ inside)
        have ended : endElement (backend.withCover cover) frame.kind s =
            endElement backend frame.kind s := by
          rw [endElement_eq hf nested, endElement_eq hf nested, closed]
        exact perform_eq_of_endElement ended
    · rw [perform_endElement_unbalanced hi, perform_endElement_unbalanced hi]
  | _ => rfl

end Session

end Manuscript
