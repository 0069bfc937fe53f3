import Manuscript.Proofs.Document.Admission
import Manuscript.Proofs.Document.Starting

/-!
# Refused elements

An element that is refused leaves no trace: everything that may be refused is checked before the
first change. The label that has passed its check is attached later, and then it still passes.
-/

namespace Manuscript

namespace Action

variable {α β : Type} {act : Action α} {next : α → Action β}

/-- A refusal leaves the session as it was. -/
def Careful (act : Action α) : Prop := ∀ s, Ensures (· = s) act (fun _ _ ↦ True) fun _ t ↦ t = s

/-- The action is never refused. -/
abbrev Certain (act : Action α) : Prop := Refuses (fun _ ↦ False) act

theorem certain_pure {answer : α} : Certain (pure answer) := ensures_pure fun _ _ ↦ trivial

theorem certain_change {f : Document → Document} : Certain (change f) :=
  ensures_change fun _ _ ↦ trivial

theorem Certain.bind (first : Certain act) (second : ∀ answer, Certain (next answer)) :
    Certain (act >>= next) := Ensures.bind first second

theorem certain_current {next : Document → Action β} (h : ∀ d, Certain (next d)) :
    Certain (current >>= next) := fun s hs ↦ h s.document s hs

theorem Certain.careful (h : Certain act) : Careful act :=
  fun _ ↦ h.mono (fun _ _ ↦ trivial) (fun _ _ _ ↦ trivial) fun _ _ hf ↦ hf.elim

theorem careful_throw {error : DocumentError} : Careful (throw error : Action α) :=
  fun _ ↦ ensures_throw fun _ h ↦ h

/-- Checks come first. -/
theorem Careful.behind (check : Keeps id act) (second : ∀ answer, Careful (next answer)) :
    Careful (act >>= next) :=
  fun s ↦ (check s).bind fun answer ↦ second answer s

theorem careful_current {next : Document → Action β} (h : ∀ d, Careful (next d)) :
    Careful (current >>= next) := fun s t ht ↦ h t.document s t ht

theorem Careful.bind (first : Careful act) (second : ∀ answer, Certain (next answer)) :
    Careful (act >>= next) := by
  intro s
  refine (first s).bind fun answer ↦ ?_
  exact (second answer).mono (fun _ h ↦ h) (fun _ _ h ↦ h) fun _ _ hf ↦ hf.elim

end Action

/-- There is no fault with the label of an element that passes the check. -/
theorem Document.attachFault_eq_none {d : Document} {element : Element}
    (h : d.attachError element = none) :
    ∀ label ∈ element.label?, d.labels.attachFault label element.kind = none := by
  intro label hl
  have hl : element.label? = some label := hl
  rw [Document.attachError, hl] at h
  exact Option.map_eq_none_iff.mp h

namespace Session

open Action

/-- A label that passes the check is attached. -/
theorem ensures_attach {kind : Kind} {label : Option Label} {labels : Registry}
    (h : ∀ l ∈ label, labels.attachFault l kind = none) :
    Ensures (·.document.labels = labels) (attach kind label) (fun _ _ ↦ True)
      fun _ _ ↦ False := by
  cases label with
  | none => exact ensures_pure fun _ _ ↦ trivial
  | some label =>
    refine ensures_current fun d ↦ Ensures.through (fun _ _ ↦ True)
      (ensures_refuse (fun _ _ _ ↦ trivial) fun error he s hs ↦ ?_) fun _ ↦
        ensures_change fun _ _ ↦ trivial
    obtain ⟨hs, rfl⟩ := hs
    rw [hs, h label rfl] at he
    cases he

/-- An element that is refused leaves no trace. -/
theorem careful_beginElement (backend : Backend) (element : Element) :
    Careful (beginElement backend element) := by
  intro s
  have started := (ensures_start backend element s).and
    ((free_start backend element).keeps.comp Standing.labels s.document.labels)
  refine ensures_begin (fun _ t ↦ t.document.labels = s.document.labels) (fun _ ↦ rfl)
    (fun _ ↦ ?_) fun fits answer ↦ ?_
  · exact started.mono (fun _ ht ↦ ⟨ht, ht ▸ rfl⟩) (fun _ _ ht ↦ ht.2) fun _ _ ht ↦ ht.1
  · exact (ensures_attach (Document.attachFault_eq_none fits.attachable)).mono (fun _ ht ↦ ht)
      (fun _ _ _ ↦ trivial) fun _ _ hf ↦ hf.elim

/-- A call that is refused leaves the session as it was if its action does so. -/
theorem perform_eq_of_ensures {backend : Backend} {call : Call} {s : Session}
    {E : DocumentError → Prop}
    (h : Ensures (· = s) (call.action backend) (fun _ _ ↦ True) fun error t ↦ E error → t = s)
    {error : DocumentError} (he : (s.perform backend call).1 = .error error) (hb : E error) :
    (s.perform backend call).2 = s := by
  have left := h s rfl
  unfold perform at he ⊢
  cases ha : call.action backend s with
  | ok reply t =>
    rw [ha] at he
    cases he
  | error reason t =>
    rw [ha] at he left
    cases he
    exact left hb

theorem perform_eq_of_careful {backend : Backend} {call : Call} {s : Session}
    (h : Careful (call.action backend)) {error : DocumentError}
    (he : (s.perform backend call).1 = .error error) : (s.perform backend call).2 = s :=
  perform_eq_of_ensures (E := fun _ ↦ True)
    ((h s).mono (fun _ hs ↦ hs) (fun _ _ hs ↦ hs) fun _ _ hs _ ↦ hs) he trivial

/-- After an element that is refused the session is the same. -/
theorem perform_beginElement_eq {backend : Backend} {element : Element} {s : Session}
    (h : (s.perform backend (.beginElement element)).1.isOk = false) :
    (s.perform backend (.beginElement element)).2 = s := by
  cases he : (s.perform backend (.beginElement element)).1 with
  | ok reply =>
    rw [he] at h
    cases h
  | error error =>
    exact perform_eq_of_careful
      ((careful_beginElement backend element).bind fun _ ↦ certain_pure) he

end Session

end Manuscript
