import Manuscript.Document.Close
import Manuscript.Proofs.Document.AlikeEnds
import Manuscript.Proofs.Document.AlikeStarts
import Manuscript.Proofs.Storage.Besides

/-!
# Runs on documents that are alike

Documents that are alike give the same answer to every call and stay alike (`Session.alike_perform`),
and so they do over a whole run (`Session.alike_run`). The numbers of floats that do not reach the
root, because something is held back or because the float is refused, have to be aside.
-/

namespace Manuscript

namespace Session

open Action

variable {L : Likeness} {Q : (Counter → Nat) → String → String → Prop}
  {aside : Counter → Nat → Prop} {backend : Backend} {s s' : Session}

/-- The call takes a number for a float that does not reach the root: something is held back, or the
float is refused. -/
structure SetsAside (backend : Backend) (s : Session) (call : Call) (counter : Counter)
    (number : Nat) : Prop where
  next : number = s.document.count counter + 1
  taken : (s.perform backend call).2.document.count counter = number
  away : (s.perform backend call).1.isOk = false ∨
    (s.perform backend call).2.document.output.captures ≠ []

section Calls

variable (hB : L.Respects backend) (hQ : L.Follows aside Q)

include hB hQ

/-- Whatever a call does but to end an element, it does the same to documents that are alike. -/
theorem alike_action (call : Call) (he : ∀ kind, call ≠ .endElement kind) :
    Action.Alike L Q (· = ·) (call.action backend) (call.action backend) := by
  cases call with
  | createLabel target =>
    exact (alike_createLabel target).bind fun _ _ h ↦ alike_pure (congrArg Reply.label h)
  | beginElement element =>
    exact (alike_beginElement hB hQ element).bind fun _ _ _ ↦ alike_pure rfl
  | endElement kind => exact absurd rfl (he kind)
  | write text => exact (alike_streamedPhrase hB hQ _).bind fun _ _ _ ↦ alike_pure rfl
  | writeNumber number => exact (alike_streamedPhrase hB hQ _).bind fun _ _ _ ↦ alike_pure rfl
  | writeSpace => exact (alike_writePhrase hB hQ _).bind fun _ _ _ ↦ alike_pure rfl
  | writeSeries joiner bound items =>
    exact (alike_streamedPhrase hB hQ _).bind fun _ _ _ ↦ alike_pure rfl
  | reference joiner bound labels =>
    have written : Action.Alike L Q (fun _ _ ↦ True) (reference backend joiner bound labels)
        (reference backend joiner bound labels) :=
      (alike_labelStates labels).bind fun _ _ h ↦ h ▸ alike_streamedPhrase hB hQ _
    exact written.bind fun _ _ _ ↦ alike_pure rfl
  | cite style records =>
    have written : Action.Alike L Q (fun _ _ ↦ True) (cite backend style records)
        (cite backend style records) := by
      unfold cite
      split
      · exact alike_pure trivial
      · refine alike_current fun d d' hd ↦ ?_
        have error : d.textError = d'.textError := by
          unfold Document.textError
          rw [hd.innermost_eq]
        exact (alike_refuse error).bind fun _ _ _ ↦
          (alike_registerWorks records).bind fun _ _ h ↦ h ▸ alike_streamedPhrase hB hQ _
    exact written.bind fun _ _ _ ↦ alike_pure rfl
  | paint fills =>
    exact (alike_paint fills).bind fun _ _ h ↦ alike_pure (by rw [h])

/-- Whatever a call does, it does to both documents. -/
theorem agree_action (hs : s.Alike L Q s') (call : Call) :
    Agree (fun t t' ↦ t = s ∧ t' = s') (call.action backend) (call.action backend)
      (fun reply reply' t t' ↦ reply = reply' ∧
        AlikeUnless L Q aside s.document.count False t t')
      (AlikeUnless L Q aside s.document.count True) := by
  by_cases he : ∃ kind, call = .endElement kind
  · obtain ⟨kind, rfl⟩ := he
    exact (agree_endElement hB hQ hs kind).bind fun _ _ t t' ht ↦ ⟨rfl, ht⟩
  · refine (alike_action hB hQ call fun kind hc ↦ he ⟨kind, hc⟩).mono ?_
      (fun _ _ _ _ ht ↦ ⟨ht.1, .inl ht.2⟩) fun _ _ ht ↦ .inl ht
    rintro _ _ ⟨rfl, rfl⟩
    exact hs

/-- Documents that are alike give the same answer and stay alike. -/
theorem alike_perform (hs : s.Alike L Q s') (call : Call)
    (ha : ∀ counter number, s.SetsAside backend call counter number → aside counter number) :
    (s.perform backend call).1 = (s'.perform backend call).1 ∧
      (s.perform backend call).2.Alike L Q (s'.perform backend call).2 := by
  have agree := agree_action hB hQ hs call s s' ⟨rfl, rfl⟩
  have settled (refused : Prop)
      (hr : refused → (s.perform backend call).1.isOk = false)
      (h : AlikeUnless L Q aside s.document.count refused (s.perform backend call).2
        (s'.perform backend call).2) :
      (s.perform backend call).2.Alike L Q (s'.perform backend call).2 := by
    rcases h with h | ⟨counter, taken, away, h⟩
    · exact h
    · exact h (ha counter _ ⟨rfl, taken, away.imp_left hr⟩)
  unfold perform at settled ⊢
  revert agree settled
  cases call.action backend s <;> cases call.action backend s' <;> intro agree settled
  · exact ⟨congrArg Except.ok agree.1, settled False False.elim agree.2⟩
  · exact agree.elim
  · exact agree.elim
  · exact ⟨congrArg Except.error agree.1, settled True (fun _ ↦ rfl) agree.2⟩

/-- Runs keep documents alike. -/
theorem alike_run (hs : s.Alike L Q s') (calls : List Call)
    (ha : ∀ before call after, calls = before ++ call :: after → ∀ counter number,
      (s.run backend before).SetsAside backend call counter number → aside counter number) :
    (s.run backend calls).Alike L Q (s'.run backend calls) := by
  induction calls generalizing s s' with
  | nil => exact hs
  | cons call calls ih =>
    have next := (alike_perform hB hQ hs call (ha [] call calls rfl)).2
    refine ih next fun before later after hc counter number h ↦ ?_
    exact ha (call :: before) later after (congrArg (call :: ·) hc) counter number h

end Calls

/-! ### Closing -/

theorem alike_closeFault (h : s.Alike L Q s') :
    s.document.closeFault = s'.document.closeFault := by
  have phase := h.document.same Document.phase fun _ ↦ rfl
  unfold Document.closeFault
  rw [h.document.innermost_eq, h.document.frames.length_eq, phase,
    isEmpty_eq_of_forall₂ h.document.captures, h.document.captures.length_eq]

/-- A document that can be closed is moved into its file, and the style sheets are installed. -/
theorem close_eq (h : s.document.closeFault = none) :
    s.close backend =
      let (answer, files) := installResources s.document.directory backend.resources
        (s.files.put s.document.place (.text s.document.output.drain.streamed))
      ((answer.mapError .io).map s.document.summary, files) := by
  have settled : (s.modifyDocument fun d ↦ { d with output := d.output.drain }).settle =
      s.files.put s.document.place (.text s.document.output.drain.streamed) := rfl
  unfold close
  rw [h]
  dsimp only
  rw [settled]
  generalize installResources s.document.directory backend.resources _ = installed
  obtain ⟨_ | _, _⟩ := installed <;> rfl

/-- Documents that are alike are closed with the same answer, and leave the same files but for what
the output files hold. -/
theorem alike_close (h : s.Alike L Q s') (hp : s.document.place ≠ []) :
    (s.close backend).1 = (s'.close backend).1 ∧
      FileSystem.Besides s.document.place (s.close backend).2 (s'.close backend).2 := by
  have place : s.document.place = s'.document.place := h.document.same Document.place fun _ ↦ rfl
  have directory := h.document.same Document.directory fun _ ↦ rfl
  have summary (resources : List Path) : s.document.summary resources =
      s'.document.summary resources := h.document.same (·.summary resources) fun _ ↦ rfl
  have besides (content content' : String) : FileSystem.Besides s.document.place
      (s.files.put s.document.place (.text content))
      (s'.files.put s'.document.place (.text content')) := by
    rw [← h.files, ← place]
    exact FileSystem.besides_put s.files hp content content'
  cases hf : s.document.closeFault with
  | some fault =>
    rw [close, close, ← alike_closeFault h, hf]
    exact ⟨rfl, besides _ _⟩
  | none =>
    have installed := (besides s.document.output.drain.streamed
      s'.document.output.drain.streamed).installResources s'.document.directory backend.resources
    rw [close_eq hf, close_eq (alike_closeFault h ▸ hf), directory]
    refine ⟨?_, installed.2⟩
    dsimp only
    rw [installed.1, funext summary]

end Session

end Manuscript
