import Manuscript.Proofs.Document.Composition

/-!
# Admitting elements and taking them off

An element is begun after three checks: it may stand where it is, it comes in time, and its label
can be attached to it (`Document.Receives`). When a check fails the session is left as it was.
Otherwise the element is started, its label is attached and its frame is pushed. Whatever is to be
said of the beginning of elements is said of these parts (`Session.ensures_begin`,
`Session.beginElement_eq_ok_iff`). An element is ended by taking off its frame, releasing what it has
held back and closing it (`Session.endElement_cons`).
-/

namespace Manuscript

/-- The element passes the checks that are made before it is begun. -/
structure Document.Receives (d : Document) (element : Element) : Prop where
  allowed : element.kind.allowedIn d.innermost = true
  timely : d.phaseFault element.kind = none
  attachable : d.attachError element = none

theorem Document.Receives.of_unlabelled {d : Document} {element : Element}
    (hl : element.label? = none) (allowed : element.kind.allowedIn d.innermost = true)
    (timely : d.phaseFault element.kind = none) : d.Receives element where
  allowed
  timely
  attachable := by rw [attachError, hl]

theorem Document.exists_of_innermost {d : Document} {kind : Kind} (h : d.innermost = some kind) :
    ∃ frame outer, d.frames = frame :: outer ∧ frame.kind = kind := by
  obtain ⟨frame, first, hk⟩ := Option.map_eq_some_iff.mp h
  obtain ⟨outer, hf⟩ := List.head?_eq_some_iff.mp first
  exact ⟨frame, outer, hf, hk⟩

namespace Session

open Action

variable {backend : Backend} {element : Element} {s t : Session}

/-- What is done for an element that has passed the checks. -/
def enter (backend : Backend) (element : Element) : Action Unit := do
  let (state, captured) ← start backend element
  attach element.kind element.label?
  change (·.push ⟨element.kind, captured, state⟩)

theorem beginElement_eq (h : s.document.Receives element) :
    beginElement backend element s = enter backend element s := by
  rw [beginElement, bind_current, Document.nestingError_eq_none.mpr h.allowed, h.timely,
    h.attachable]
  rfl

/-- When a check fails nothing is done. -/
theorem exists_of_not_receives (h : ¬s.document.Receives element) :
    ∃ error, ∀ backend, beginElement backend element s = .error error s := by
  simp only [beginElement, bind_current]
  cases hn : s.document.nestingError element.kind with
  | some error => exact ⟨error, fun _ ↦ rfl⟩
  | none =>
    cases hp : s.document.phaseFault element.kind with
    | some fault => exact ⟨.lifecycle fault, fun _ ↦ rfl⟩
    | none =>
      cases ha : s.document.attachError element with
      | some error => exact ⟨error, fun _ ↦ rfl⟩
      | none => exact absurd ⟨Document.nestingError_eq_none.mp hn, hp, ha⟩ h

/-- An element is begun by starting it, attaching its label and pushing its frame. -/
theorem beginElement_eq_ok_iff :
    beginElement backend element s = .ok () t ↔ s.document.Receives element ∧
      ∃ answer u v, start backend element s = .ok answer u ∧
        attach element.kind element.label? u = .ok () v ∧
        t = v.modifyDocument (·.push ⟨element.kind, answer.2, answer.1⟩) := by
  by_cases h : s.document.Receives element
  · rw [beginElement_eq h, enter, bind_eq_ok]
    refine ⟨?_, ?_⟩
    · rintro ⟨answer, u, started, begun⟩
      obtain ⟨_, v, attached, ⟨⟩⟩ := bind_eq_ok.mp begun
      exact ⟨h, answer, u, v, started, attached, rfl⟩
    · rintro ⟨-, answer, u, v, started, attached, rfl⟩
      exact ⟨answer, u, started, bind_eq_ok.mpr ⟨(), v, attached, rfl⟩⟩
  · obtain ⟨error, refused⟩ := exists_of_not_receives h
    rw [refused]
    exact ⟨nofun, fun begun ↦ absurd begun.1 h⟩

/-- An element without a label is begun when its start is not refused. -/
theorem perform_begin {answer : FrameState × Bool} (fits : s.document.Receives element)
    (hl : element.label? = none) (hs : start backend element s = .ok answer t) :
    s.perform backend (.beginElement element) =
      (.ok .done, t.modifyDocument (·.push ⟨element.kind, answer.2, answer.1⟩)) := by
  refine perform_of_ok rfl (beginElement_eq_ok_iff.mpr ⟨fits, answer, t, t, hs, ?_, rfl⟩)
  rw [hl]
  rfl

/-- An element whose beginning is accepted has been received. -/
theorem exists_of_begin
    (h : (s.perform backend (.beginElement element)).1.isOk = true) :
    s.document.Receives element ∧ ∃ answer u v, start backend element s = .ok answer u ∧
      attach element.kind element.label? u = .ok () v ∧
      (s.perform backend (.beginElement element)).2 =
        v.modifyDocument (·.push ⟨element.kind, answer.2, answer.1⟩) := by
  cases hp : s.perform backend (.beginElement element) with
  | mk answer t =>
    rw [hp] at h
    cases answer with
    | error error => cases h
    | ok reply =>
      obtain ⟨_, _, begun, ⟨⟩⟩ := bind_eq_ok.mp (perform_eq_ok_iff.mp hp)
      exact beginElement_eq_ok_iff.mp begun

/-- What the start of an element leaves behind is what its label is attached in, and then its frame
is pushed. -/
theorem ensures_begin {after : Session → Prop} {refused : DocumentError → Session → Prop}
    (started : FrameState × Bool → Session → Prop) (unfit : ∀ error, refused error s)
    (starts : s.document.Receives element →
      Ensures (· = s) (start backend element) started refused)
    (attaches : s.document.Receives element → ∀ answer,
      Ensures (started answer) (attach element.kind element.label?)
        (fun _ t ↦ after (t.modifyDocument (·.push ⟨element.kind, answer.2, answer.1⟩)))
        refused) :
    Ensures (· = s) (beginElement backend element) (fun _ ↦ after) refused := by
  rintro s rfl
  by_cases h : s.document.Receives element
  · have admitted : Ensures (· = s) (enter backend element) (fun _ ↦ after) refused :=
      (starts h).bind fun answer ↦ (attaches h answer).bind fun _ ↦ ensures_change fun _ ht ↦ ht
    rw [beginElement_eq h]
    exact admitted s rfl
  · obtain ⟨error, he⟩ := exists_of_not_receives h
    rw [he]
    exact unfit error

/-! ### Taking off -/

variable {kind : Kind} {frame : Frame} {outer : Frames}

/-- The innermost element is taken off before what it has held back is released. -/
theorem endElement_cons (hf : s.document.frames = frame :: outer) :
    endElement backend frame.kind s = (do
      let captured ← release frame
      change fun d ↦ { d with tagDepth := d.tagDepth - 1 }
      closeFrame backend frame captured
      change Document.stream : Action Unit) (s.modifyDocument ({ · with frames := outer })) := by
  rw [endElement, bind_current, hf]
  dsimp only
  rw [if_pos rfl]
  rfl

/-- What is not the innermost element cannot be ended. -/
theorem endElement_of_ne (h : s.document.innermost ≠ some kind) : endElement backend kind s =
    .error (.unbalancedEnd s.document.innermost kind) s := by
  rw [endElement, bind_current]
  cases hd : s.document.frames with
  | nil =>
    rw [Document.innermost, hd]
    rfl
  | cons frame outer =>
    have inner : s.document.innermost = some frame.kind := by
      rw [Document.innermost, hd]
      rfl
    have hk : frame.kind ≠ kind := fun hk ↦ h (hk ▸ inner)
    simp only [if_neg hk, inner]
    rfl

end Session

end Manuscript
