import Manuscript.Press.Context
import Manuscript.Proofs.Document.Refusal
import Manuscript.Xhtml.Backend

/-!
# Rejected calls

A call that is rejected leaves the whole session as it was (`Session.perform_rejected`). Ending an
element that is the innermost one is no such call: it takes the element off first, and may still be
refused while the element is closed. So what is said of ends is said of unbalanced ones alone.
-/

namespace Manuscript

namespace Session

open Action

/-! ### Writing -/

theorem careful_writePhrase (backend : Backend) (phrase : Phrase) :
    Careful (writePhrase backend phrase) :=
  careful_current fun _ ↦ .behind keeps_refuse fun _ ↦ certain_change.careful

/-- Streaming behind a phrase is no reason to refuse it. -/
theorem careful_streamedPhrase (backend : Backend) (phrase : Phrase) :
    Careful (do writePhrase backend phrase; change Document.stream) :=
  (careful_writePhrase backend phrase).bind fun _ ↦ certain_change

theorem careful_reference (backend : Backend) (joiner : Joiner) (bound : Bool)
    (labels : List Label) : Careful (reference backend joiner bound labels) :=
  .behind (keeps_labelStates labels) fun _ ↦ careful_streamedPhrase backend _

/-- Where text is allowed a phrase is written. -/
theorem ensures_writePhrase_certain (backend : Backend) (phrase : Phrase) :
    Ensures (·.document.textError = none) (writePhrase backend phrase) (fun _ _ ↦ True)
      fun _ _ ↦ False := by
  refine ensures_current fun d ↦ Ensures.through (fun _ _ ↦ True)
    (ensures_refuse (fun _ _ _ ↦ trivial) fun error he s hs ↦ ?_) fun _ ↦
      ensures_change fun _ _ ↦ trivial
  obtain ⟨hn, rfl⟩ := hs
  rw [hn] at he
  cases he

/-- The works are noted between two looks at the innermost element, and noting them does not change
what the second look finds. -/
theorem careful_cite (backend : Backend) (style : CitationStyle) (records : List Record) :
    Careful (cite backend style records) := by
  unfold cite
  split
  · exact Certain.careful certain_pure
  · intro s
    refine ensures_current fun d ↦ ensures_of_forall fun t ht ↦ ?_
    obtain ⟨rfl, rfl⟩ := ht
    refine Ensures.through (fun _ u ↦ u.document.textError = none)
      (ensures_refuse (fun hn u hu ↦ hu ▸ hn) fun _ _ _ hu ↦ hu) fun _ ↦ ?_
    have registered : Keeps (·.document.textError) (registerWorks records) :=
      keeps_registerWorks records fun _ _ ↦ rfl
    have noted : Certain (registerWorks records) :=
      certain_current fun _ ↦ certain_change.bind fun _ ↦ certain_pure
    refine Ensures.bind ((registered none).and noted |>.mono (fun _ hu ↦ ⟨hu, trivial⟩)
      (fun _ _ hu ↦ hu.1) fun _ _ hf ↦ hf.2.elim) fun _ ↦ ?_
    exact Ensures.bind ((ensures_writePhrase_certain backend _).mono (fun _ hu ↦ hu)
      (fun _ _ hu ↦ hu) fun _ _ hf ↦ hf.elim) fun _ ↦ ensures_change fun _ _ ↦ trivial

theorem careful_paint (fills : List Fill) : Careful (paint fills) := by
  refine careful_current fun d ↦ ?_
  split
  · exact Certain.careful (certain_change.bind fun _ ↦ certain_pure)
  · exact careful_throw

theorem certain_createLabel (target : Target) : Certain (createLabel target) :=
  certain_current fun _ ↦ certain_change.bind fun _ ↦ certain_pure

/-- No call but the end of an element changes anything before it is refused. -/
theorem careful_action (backend : Backend) (call : Call)
    (he : ∀ kind, call ≠ .endElement kind) : Careful (call.action backend) := by
  have done {act : Action Unit} (h : Careful act) : Careful (do act; return Reply.done) :=
    h.bind fun _ ↦ certain_pure
  cases call with
  | createLabel target =>
    exact Certain.careful ((certain_createLabel target).bind fun _ ↦ certain_pure)
  | beginElement element => exact done (careful_beginElement backend element)
  | endElement kind => exact absurd rfl (he kind)
  | write text => exact done (careful_streamedPhrase backend _)
  | writeNumber number => exact done (careful_streamedPhrase backend _)
  | writeSpace => exact done (careful_writePhrase backend _)
  | writeSeries joiner bound items => exact done (careful_streamedPhrase backend _)
  | reference joiner bound labels => exact done (careful_reference backend joiner bound labels)
  | cite style records => exact done (careful_cite backend style records)
  | paint fills => exact (careful_paint fills).bind fun _ ↦ certain_pure

/-! ### Unbalanced ends -/

/-- Once an element has been taken off, it is not found to be unbalanced any more. -/
theorem refuses_endFrame (backend : Backend) (frame : Frame) :
    Refuses (fun error ↦ ∀ innermost kind, error ≠ .unbalancedEnd innermost kind) (do
      let captured ← release frame
      change fun d ↦ { d with tagDepth := d.tagDepth - 1 }
      closeFrame backend frame captured
      change Document.stream) := by
  refine Ensures.through (fun _ _ ↦ True) ?_ fun captured ↦
    Ensures.through (fun _ _ ↦ True) (ensures_change fun _ _ ↦ trivial) fun _ ↦
      Ensures.through (fun _ _ ↦ True) ?_ fun _ ↦ ensures_change fun _ _ ↦ trivial
  · unfold release
    split
    · refine ensures_current fun d ↦ ?_
      split
      · exact ensures_throw fun _ _ _ _ he ↦ by cases he
      · exact Ensures.through (fun _ _ ↦ True) (ensures_change fun _ _ ↦ trivial) fun _ ↦
          ensures_pure fun _ _ ↦ trivial
    · exact ensures_pure fun _ _ ↦ trivial
  · refine (composed_closeFrame backend frame captured).refuses.mono (fun _ h ↦ h)
      (fun _ _ h ↦ h) fun error _ closing innermost kind he ↦ ?_
    subst he
    cases closing

/-- An end that is unbalanced leaves the session as it was. -/
theorem ensures_endElement_unbalanced (backend : Backend) (kind : Kind) (s : Session) :
    Ensures (· = s) (endElement backend kind) (fun _ _ ↦ True)
      fun error t ↦ (∃ innermost, error = .unbalancedEnd innermost kind) → t = s := by
  rintro s rfl
  by_cases top : s.document.innermost = some kind
  · obtain ⟨frame, outer, hf, rfl⟩ := Document.exists_of_innermost top
    have ended : Ensures (· = s.modifyDocument ({ · with frames := outer })) _ (fun _ _ ↦ True)
        fun error t ↦ (∃ innermost, error = .unbalancedEnd innermost frame.kind) → t = s :=
      (refuses_endFrame backend frame).mono (fun _ _ ↦ trivial) (fun _ _ h ↦ h)
        fun _ _ balanced ⟨innermost, he⟩ ↦ absurd he (balanced innermost frame.kind)
    rw [endElement_cons hf]
    exact ended _ rfl
  · rw [endElement_of_ne top]
    exact fun _ ↦ rfl

/-! ### Calls -/

/-- A call that is rejected leaves the session as it was: the document with all that is open,
gathered, counted and noted in it, and the file system. Of the ends this is said if they are
unbalanced. In particular the label of an element that has passed its check is attached once the
start of the element has been written. -/
theorem perform_rejected (backend : Backend) (s : Session) :
    (∀ call error, (s.perform backend call).1 = .error error →
      (∀ kind, call = .endElement kind → ∃ innermost, error = .unbalancedEnd innermost kind) →
      (s.perform backend call).2 = s) ∧
    (∀ element answer t, s.document.attachError element = none →
      start backend element s = .ok answer t →
      ∃ u, attach element.kind element.label? t = .ok () u) := by
  constructor
  · intro call error hr unbalanced
    by_cases he : ∃ kind, call = .endElement kind
    · obtain ⟨kind, rfl⟩ := he
      have ended : Ensures (· = s) ((Call.endElement kind).action backend) (fun _ _ ↦ True)
          fun error t ↦ (∃ innermost, error = .unbalancedEnd innermost kind) → t = s :=
        (ensures_endElement_unbalanced backend kind s).bind fun _ ↦ ensures_pure fun _ _ ↦ trivial
      exact perform_eq_of_ensures ended hr (unbalanced kind rfl)
    · exact perform_eq_of_careful (careful_action backend call fun kind hk ↦ he ⟨kind, hk⟩) hr
  · intro element answer t checked started
    have labels := ((free_start backend element).keeps.comp Standing.labels) s.document.labels s rfl
    rw [started] at labels
    have attached := ensures_attach (Document.attachFault_eq_none checked) t labels
    cases ha : attach element.kind element.label? t with
    | ok _ u => exact ⟨u, rfl⟩
    | error error u => rw [ha] at attached; exact attached.elim

/-- A figure with a label is rejected inside a paragraph, and its label is attached in the body. -/
theorem perform_rejected_figure :
    let element : Element := .figure (some ⟨0, 0, 1, .figure⟩)
    let body : Session := run Xhtml.backend
      [.createLabel .figure, .beginElement .header, .endElement .header, .beginElement .body]
      ⟨(⟨⟨"/"⟩, "index", {}, false⟩ : Context).document ⟨"/index.xhtml"⟩ ["index.xhtml"] 0, {}⟩
    let paragraph := body.run Xhtml.backend [.beginElement .paragraph, .write "text"]
    (paragraph.perform Xhtml.backend (.beginElement element)).1 =
      .error (.illegalNesting .figure (some .paragraph)) ∧
    (paragraph.perform Xhtml.backend (.beginElement element)).2 = paragraph ∧
    body.document.attachError element = none ∧
    ∃ answer t u, start Xhtml.backend element body = .ok answer t ∧
      attach element.kind element.label? t = .ok () u := by
  intro element body paragraph
  have rejected : (paragraph.perform Xhtml.backend (.beginElement element)).1 =
    .error (.illegalNesting .figure (some .paragraph)) := rfl
  have checked : body.document.attachError element = none := rfl
  have started : start Xhtml.backend element body =
    .ok (.figure { label := element.label? }, false) body := rfl
  have kept := (perform_rejected Xhtml.backend paragraph).1 _ _ rejected fun kind hk ↦ nomatch hk
  obtain ⟨u, attached⟩ := (perform_rejected Xhtml.backend body).2 element _ _ checked started
  exact ⟨rejected, kept, checked, _, _, u, started, attached⟩

end Session

end Manuscript
