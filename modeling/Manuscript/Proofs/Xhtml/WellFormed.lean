import Manuscript.Proofs.Xhtml.Running

/-!
# Well-formed output

Whatever is called on a document, and whichever of the calls are refused, the file of the closed
document is well-formed behind the prolog (`Session.wellFormed_run`). So is everything that was held
back for an element when the element ends, where the markers of macro parameters are characters.
-/

namespace Manuscript

open Markup Xhtml

namespace Session

/-- What is held back for the innermost element of a settled document is closed markup. -/
theorem exists_release_of_settled {loose : String → Prop} {d : Document} (h : d.Settled loose)
    {frame : Frame} {outer : Frames} (hf : d.frames = frame :: outer)
    (hc : frame.captured = true) :
    ∃ captured output, d.output.release? = some (captured, output) ∧
      Closed loose captured.markup [] := by
  have sheets := h.legible.sheets
  rw [hf] at sheets
  unfold Output.release?
  generalize d.output.captures = captures at sheets
  cases sheets with
  | within hcap _ =>
    rw [hcap] at hc
    cases hc
  | apart _ closed _ _ => exact ⟨_, _, rfl, closed⟩

/-- Whatever calls a document gets, also if they are refused, what was held back for the innermost
element is well-formed whenever the element may end, and the file of the document is well-formed
behind the prolog when the document has been closed. -/
theorem wellFormed_run (context used : Context) (serial : Nat) (files : FileSystem) (s : Session)
    (hs : context.createDocument backend serial files = .ok (s, used)) (calls : List Call) :
    let t := s.run backend calls
    (∀ frame outer, t.document.frames = frame :: outer → frame.captured = true →
      ∃ captured output, t.document.output.release? = some (captured, output) ∧
        WellFormed captured.markup) ∧
    (∀ summary final, t.close backend = (.ok summary, final) →
      ∃ text, final.node? s.document.place = some (.text (prolog ++ text)) ∧ WellFormed text) := by
  intro t
  have start : s.document.Settled fun _ ↦ True := by
    obtain ⟨path, place, hd⟩ := context.exists_document_of_createDocument hs
    exact hd ▸ context.settled_document path place serial
  have ending := context.endsIn_createDocument hs (c := 'l') (by decide) (by decide) (by decide)
  have settled : t.document.Settled fun _ ↦ True :=
    settled_run start fun _ _ _ _ _ ↦ Document.welcomes_of_forall (fun _ ↦ trivial) _ _
  have place : t.document.place = s.document.place :=
    congrArg (·.2.2.2.2) (run_keeps (keeps_origin_action backend) calls s)
  constructor
  · intro frame outer hf hc
    obtain ⟨captured, output, hr, ids, reads, _⟩ := exists_release_of_settled settled hf hc
    exact ⟨captured, output, hr, reads.wellFormed⟩
  · intro summary final hc
    rw [← place] at ending ⊢
    obtain ⟨text, hn, ids, reads, _⟩ := exists_text_of_close settled ending hc
    exact ⟨text, hn, reads.wellFormed⟩

/-- A document with a paragraph whose text has to be escaped is made, closed, and well-formed. -/
theorem wellFormed_run_paragraph :
    ∃ s used summary final text,
      (⟨⟨"/"⟩, "index", {}, false⟩ : Context).createDocument backend 0 {} = .ok (s, used) ∧
      (s.run backend [.beginElement .header, .endElement .header, .beginElement .body,
        .beginElement .paragraph, .write "1 < \"2\" & 3", .endElement .paragraph,
        .endElement .body]).close backend = (.ok summary, final) ∧
      final.node? s.document.place = some (.text (prolog ++ text)) ∧ WellFormed text := by
  obtain ⟨s, used, made, closed⟩ : ∃ s used,
      (⟨⟨"/"⟩, "index", {}, false⟩ : Context).createDocument backend 0 {} = .ok (s, used) ∧
      ((s.run backend [.beginElement .header, .endElement .header, .beginElement .body,
        .beginElement .paragraph, .write "1 < \"2\" & 3", .endElement .paragraph,
        .endElement .body]).close backend).1.isOk = true :=
    ⟨_, _, rfl, by decide +kernel⟩
  cases hc : (s.run backend _).close backend with
  | mk answer final =>
    rw [hc] at closed
    cases answer with
    | error error => cases closed
    | ok summary =>
      obtain ⟨text, hn, hw⟩ := (wellFormed_run _ used 0 {} s made _).2 summary final hc
      exact ⟨s, used, summary, final, text, made, hc, hn, hw⟩

end Session

end Manuscript
