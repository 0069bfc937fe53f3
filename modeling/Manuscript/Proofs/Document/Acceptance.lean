import Manuscript.Proofs.Document.Admission
import Manuscript.Proofs.Document.Inline
import Manuscript.Proofs.Document.Streaming

/-!
# Accepted calls

Calls that are accepted one after the other append a passage to the enclosing buffer and lead from
one session to another. `Session.Brings` says so for whatever has been written before: the output
has no part in what is accepted, and streaming has none in what is appended.
-/

namespace Manuscript

/-! ### Output that gains a passage -/

namespace Output

theorem write_empty (output : Output) : output.write {} = output := by
  obtain ⟨streamed, root, captures, threshold⟩ := output
  cases captures <;> simp only [write, Passage.append_empty]

theorem write_append (output : Output) (first second : Passage) :
    output.write (first ++ second) = (output.write first).write second := by
  obtain ⟨streamed, root, captures, threshold⟩ := output
  cases captures <;> simp only [write, Passage.append_assoc]

/-- The passage has been appended to the innermost capture, or to the root if there is none, and the
root may have been streamed before, between and after its parts. -/
inductive Gains (output : Output) : Passage → Output → Prop where
  | nothing : Gains output {} output
  | write {passage : Passage} {output' : Output} (last : Passage) :
    Gains output passage output' → Gains output (passage ++ last) (output'.write last)
  | stream {passage : Passage} {output' : Output} :
    Gains output passage output' → Gains output passage output'.stream

variable {output output' output'' : Output} {passage passage' : Passage}

theorem gains_write (output : Output) (passage : Passage) :
    output.Gains passage (output.write passage) :=
  Passage.empty_append passage ▸ Gains.nothing.write passage

theorem Gains.trans (h : output.Gains passage output') (h' : output'.Gains passage' output'') :
    output.Gains (passage ++ passage') output'' := by
  induction h' with
  | nothing => rwa [Passage.append_empty]
  | write last _ ih => exact Passage.append_assoc .. ▸ ih.write last
  | stream _ ih => exact ih.stream

/-- Where nothing is streamed, the passage is appended and nothing else happens. -/
theorem Gains.eq_write (h : output.Gains passage output')
    (still : output.captures ≠ [] ∨ output.threshold = none) : output' = output.write passage := by
  induction h with
  | nothing => exact output.write_empty.symm
  | write last _ ih => rw [ih, write_append]
  | @stream passage _ _ ih =>
    rw [ih, Output.stream, if_neg]
    rcases still with hc | ht
    · have captured : (output.write passage).captures ≠ [] := by
        rwa [Ne, ← List.length_eq_zero_iff, length_captures_write, List.length_eq_zero_iff]
      simp [captured]
    · simp [ht]

end Output

namespace Session

open Action

/-! ### Runs of accepted calls -/

/-- Every call is accepted, one after the other. -/
def accepts (backend : Backend) : List Call → Session → Bool
  | [], _ => true
  | call :: calls, s =>
    (s.perform backend call).1.isOk && (s.perform backend call).2.accepts backend calls

/-- Whatever the output of `s` is, the calls are accepted, append the passage to the enclosing
buffer, and apart from that lead from `s` to `t`. -/
def Brings (backend : Backend) (calls : List Call) (passage : Passage) (s t : Session) : Prop :=
  ∀ output, ∃ output', output.Gains passage output' ∧
    (s.withOutput output).accepts backend calls = true ∧
      (s.withOutput output).run backend calls = t.withOutput output'

variable {backend : Backend} {calls calls' : List Call} {call : Call} {passage passage' : Passage}
  {s t u : Session}

theorem accepts_append (calls calls' : List Call) (s : Session) :
    s.accepts backend (calls ++ calls') =
      (s.accepts backend calls && (s.run backend calls).accepts backend calls') := by
  induction calls generalizing s with
  | nil => rfl
  | cons call calls ih =>
    rw [List.cons_append, accepts, ih, accepts, Bool.and_assoc]
    rfl

theorem brings_nil (s : Session) : s.Brings backend [] {} s :=
  fun output ↦ ⟨output, .nothing, rfl, rfl⟩

theorem Brings.append (h : s.Brings backend calls passage t)
    (h' : t.Brings backend calls' passage' u) :
    s.Brings backend (calls ++ calls') (passage ++ passage') u := by
  intro output
  obtain ⟨output', gains, accepted, run⟩ := h output
  obtain ⟨output'', gains', accepted', run'⟩ := h' output'
  refine ⟨output'', gains.trans gains', ?_, ?_⟩
  · rw [accepts_append, accepted, run, accepted']
    rfl
  · rw [run_append, run, run']

/-- Calls bring one passage and no other. -/
theorem Brings.unique (h : s.Brings backend calls passage t)
    (h' : s.Brings backend calls passage' u) : passage = passage' := by
  obtain ⟨output, gains, _, run⟩ := h { threshold := none }
  obtain ⟨output', gains', _, run'⟩ := h' { threshold := none }
  have same : output = output' := congrArg (·.document.output) (run.symm.trans run')
  rw [gains.eq_write (.inr rfl), gains'.eq_write (.inr rfl)] at same
  have root : ({} ++ passage : Passage) = {} ++ passage' := congrArg Output.root same
  rwa [Passage.empty_append, Passage.empty_append] at root

/-- The calls are accepted with some output. -/
def Admits (backend : Backend) (calls : List Call) (s : Session) : Prop :=
  ∃ output, (s.withOutput output).accepts backend calls = true

theorem admits_of_accepts (h : s.accepts backend calls = true) : s.Admits backend calls :=
  ⟨s.document.output, h⟩

theorem Admits.left (h : s.Admits backend (calls ++ calls')) : s.Admits backend calls := by
  obtain ⟨output, accepted⟩ := h
  rw [accepts_append, Bool.and_eq_true] at accepted
  exact ⟨output, accepted.1⟩

theorem Admits.right (h : s.Admits backend (calls ++ calls'))
    (brings : s.Brings backend calls passage t) : t.Admits backend calls' := by
  obtain ⟨output, accepted⟩ := h
  obtain ⟨output', _, _, run⟩ := brings output
  rw [accepts_append, Bool.and_eq_true, run] at accepted
  exact ⟨output', accepted.2⟩

theorem Admits.of_perform (h : s.Admits backend (call :: calls))
    (step : ∀ output, ∃ output',
      ((s.withOutput output).perform backend call).2 = t.withOutput output') :
    t.Admits backend calls := by
  obtain ⟨output, accepted⟩ := h
  obtain ⟨output', next⟩ := step output
  rw [accepts, Bool.and_eq_true, next] at accepted
  exact ⟨output', accepted.2⟩

theorem Admits.exists_ok (h : s.Admits backend (call :: calls)) :
    ∃ output reply t, call.action backend (s.withOutput output) = .ok reply t := by
  obtain ⟨output, accepted⟩ := h
  rw [accepts, Bool.and_eq_true, perform] at accepted
  cases ha : call.action backend (s.withOutput output) with
  | ok reply t => exact ⟨output, reply, t, ha⟩
  | error error t =>
    rw [ha] at accepted
    cases accepted.1

/-- A call that writes a passage and may stream brings the passage. -/
theorem brings_of_perform
    (h : ∀ output, ∃ output', output.Gains passage output' ∧
      (s.withOutput output).perform backend call = (.ok .done, t.withOutput output')) :
    s.Brings backend [call] passage t := by
  intro output
  obtain ⟨output', gains, performed⟩ := h output
  refine ⟨output', gains, ?_, ?_⟩
  · rw [accepts, performed]
    rfl
  · rw [run, List.foldl_cons, performed]
    rfl

/-! ### Elements -/

/-- The session with one more element open, of which nothing is captured. -/
def opened (s : Session) (frame : Frame) : Session :=
  s.modifyDocument fun d ↦ { d with frames := frame :: d.frames, tagDepth := d.tagDepth + 1 }

variable {element : Element} {frame frame' : Frame} {output : Output}

/-- An element that is begun may stand where it is, and its start is not refused. -/
theorem Admits.started (h : s.Admits backend (element.around calls)) :
    element.kind.allowedIn s.document.innermost = true ∧
      ∃ output answer t, start backend element (s.withOutput output) = .ok answer t := by
  obtain ⟨output, reply, t, begun⟩ := h.exists_ok
  obtain ⟨_, _, begun, _⟩ := bind_eq_ok.mp begun
  obtain ⟨fits, answer, u, _, started, _⟩ := beginElement_eq_ok_iff.mp begun
  exact ⟨fits.allowed, output, answer, u, started⟩

/-- An element without a label is begun where its kind is allowed, if its start is not refused. -/
theorem perform_beginElement {state : FrameState} {captured : Bool}
    (hl : element.label? = none) (hp : s.document.phaseFault element.kind = none)
    (allowed : element.kind.allowedIn s.document.innermost = true)
    (hs : start backend element (s.withOutput output) = .ok (state, captured) t) :
    (s.withOutput output).perform backend (.beginElement element) =
      (.ok .done, t.modifyDocument (·.push ⟨element.kind, captured, state⟩)) := by
  have fits : (s.withOutput output).document.Receives element := .of_unlabelled hl allowed hp
  exact perform_begin fits hl hs

/-- The start of an element whose content is not held back is appended. -/
theorem brings_beginElement {state : FrameState} {opening : Passage} (hl : element.label? = none)
    (hp : s.document.phaseFault element.kind = none)
    (allowed : element.kind.allowedIn s.document.innermost = true)
    (hs : ∀ output, start backend element (s.withOutput output) =
      .ok (state, false) (s.withOutput (output.write opening))) :
    s.Brings backend [.beginElement element] opening (s.opened ⟨element.kind, false, state⟩) := by
  refine brings_of_perform fun output ↦ ⟨_, output.gains_write opening, ?_⟩
  rw [perform_beginElement hl hp allowed (hs output)]
  rfl

/-- The start of an element that appends nothing. -/
theorem brings_beginElement_silent {state : FrameState} (hl : element.label? = none)
    (hp : s.document.phaseFault element.kind = none)
    (allowed : element.kind.allowedIn s.document.innermost = true)
    (hs : ∀ output, start backend element (s.withOutput output) =
      .ok (state, false) (s.withOutput output)) :
    s.Brings backend [.beginElement element] {} (s.opened ⟨element.kind, false, state⟩) :=
  brings_beginElement hl hp allowed fun output ↦ by rw [hs, output.write_empty]

/-- Where the content of an element is held back, a capture begins with the element. -/
theorem perform_beginElement_captured {state : FrameState} (hl : element.label? = none)
    (hp : s.document.phaseFault element.kind = none)
    (allowed : element.kind.allowedIn s.document.innermost = true)
    (hs : ∀ output, start backend element (s.withOutput output) =
      .ok (state, true) (s.withOutput output)) (output : Output) :
    (s.withOutput output).perform backend (.beginElement element) =
      (.ok .done, (s.opened ⟨element.kind, true, state⟩).withOutput output.capture) := by
  rw [perform_beginElement hl hp allowed (hs output)]
  rfl

/-- Ending an element whose content was not held back closes its frame and streams. -/
theorem endElement_opened (hf : frame.captured = false) (s : Session) (output : Output) :
    endElement backend frame.kind ((s.opened frame).withOutput output) =
      (do closeFrame backend frame {}; change Document.stream : Action Unit)
        (s.withOutput output) := by
  rw [endElement_cons rfl]
  change EStateM.bind (release frame) _ _ = _
  rw [release, hf]
  rfl

/-- Ending an element whose content was held back closes its frame with the content and streams. -/
theorem endElement_captured (hf : frame.captured = true) (s : Session) (output : Output)
    (passage : Passage) :
    endElement backend frame.kind ((s.opened frame).withOutput (output.capture.write passage)) =
      (do closeFrame backend frame passage; change Document.stream : Action Unit)
        (s.withOutput output) := by
  rw [endElement_cons rfl]
  change EStateM.bind (release frame) _ _ = _
  rw [release, hf]
  change (do closeFrame backend frame ({} ++ passage); change Document.stream : Action Unit)
    (s.withOutput output) = _
  rw [Passage.empty_append]

theorem perform_endElement {kind : Kind} {close : Action Unit}
    (he : endElement backend kind s = (do close; change Document.stream : Action Unit) t)
    (hc : close t = .ok () u) :
    s.perform backend (.endElement kind) = (.ok .done, u.modifyDocument Document.stream) :=
  perform_of_ok rfl (he.trans (bind_eq_ok.mpr ⟨(), u, hc, rfl⟩))

/-- An element that is ended was closed. -/
theorem Admits.closed (h : (s.opened frame).Admits backend (.endElement frame.kind :: calls))
    (hf : frame.captured = false) :
    ∃ output t, closeFrame backend frame {} (s.withOutput output) = .ok () t := by
  obtain ⟨output, reply, t, ended⟩ := h.exists_ok
  obtain ⟨_, _, ended, _⟩ := bind_eq_ok.mp ended
  rw [endElement_opened hf] at ended
  obtain ⟨_, t, closed, _⟩ := bind_eq_ok.mp ended
  exact ⟨output, t, closed⟩

/-- An element whose content is not held back: what is inside comes between its start and its
end. -/
theorem Brings.around {opening closing : Passage} {calls : List Call}
    (begins : s.Brings backend [.beginElement element] opening (s.opened frame))
    (inside : (s.opened frame).Brings backend calls passage (s.opened frame'))
    (hk : frame'.kind = element.kind) (hf : frame'.captured = false)
    (closes : ∀ output, closeFrame backend frame' {} (s.withOutput output) =
      .ok () (s.withOutput (output.write closing))) :
    s.Brings backend (element.around calls) (opening ++ passage ++ closing) s := by
  have ends : (s.opened frame').Brings backend [.endElement element.kind] closing s := by
    refine brings_of_perform fun output ↦ ⟨_, (output.gains_write closing).stream, ?_⟩
    rw [← hk, perform_endElement (endElement_opened hf s output) (closes output)]
    rfl
  rw [Passage.append_assoc]
  exact begins.append (inside.append ends)

/-- An element that gathers what is inside, and appends something when it ends. -/
theorem Brings.around_silent {closing : Passage} {calls : List Call}
    (begins : s.Brings backend [.beginElement element] {} (s.opened frame))
    (inside : (s.opened frame).Brings backend calls passage (s.opened frame'))
    (empty : passage = {}) (hk : frame'.kind = element.kind) (hf : frame'.captured = false)
    (closes : ∀ output, closeFrame backend frame' {} (s.withOutput output) =
      .ok () (s.withOutput (output.write closing))) :
    s.Brings backend (element.around calls) closing s := by
  have around := begins.around inside hk hf closes
  rwa [empty, Passage.empty_append, Passage.empty_append] at around

/-- An element whose content is held back appends nothing itself. -/
theorem Brings.around_captured {calls : List Call}
    (begins : ∀ output, (s.withOutput output).perform backend (.beginElement element) =
      (.ok .done, (s.opened frame).withOutput output.capture))
    (inside : (s.opened frame).Brings backend calls passage (s.opened frame'))
    (hk : frame'.kind = element.kind) (hf : frame'.captured = true)
    (closes : ∀ output, closeFrame backend frame' passage (s.withOutput output) =
      .ok () (t.withOutput output)) :
    s.Brings backend (element.around calls) {} t := by
  intro output
  obtain ⟨held, gains, accepted, run⟩ := inside output.capture
  obtain rfl := gains.eq_write (.inl (List.cons_ne_nil _ _))
  have ends : ((s.opened frame').withOutput (output.capture.write passage)).perform backend
      (.endElement element.kind) = (.ok .done, t.withOutput output.stream) := by
    rw [← hk, perform_endElement (endElement_captured hf s output passage) (closes output)]
    rfl
  refine ⟨output.stream, Output.Gains.nothing.stream, ?_, ?_⟩
  · rw [Element.around, accepts, begins, accepts_append, accepted, run, accepts, ends]
    rfl
  · rw [Element.around, Session.run, List.foldl_cons, begins, ← Session.run, run_append, run,
      Session.run, List.foldl_cons, ends]
    rfl

end Session

end Manuscript
