import Manuscript.Document.Action

/-!
# Contracts of actions

`Ensures` says what an action leaves behind, both when it answers and when it is refused, and
`Keeps` that some view of the session is the same afterwards either way. Both pass through `>>=`,
so a contract of a long action is put together from those of its parts.
-/

namespace Manuscript

namespace Action

variable {α β γ : Type}

/-- From a session with `before` the action comes to an answer with `after`, or to a refusal with
`refused`. -/
def Ensures (before : Session → Prop) (act : Action α) (after : α → Session → Prop)
    (refused : DocumentError → Session → Prop) : Prop :=
  ∀ s, before s →
    match act s with
    | .ok answer next => after answer next
    | .error error next => refused error next

/-- Every answer that the action comes to is of some sort. -/
def Gives (good : α → Prop) (act : Action α) : Prop :=
  Ensures (fun _ ↦ True) act (fun answer _ ↦ good answer) fun _ _ ↦ True

/-- Every error with which the action is refused is of some sort. -/
def Refuses (bad : DocumentError → Prop) (act : Action α) : Prop :=
  Ensures (fun _ ↦ True) act (fun _ _ ↦ True) fun error _ ↦ bad error

/-- The view of the session is the same after the action, even if the action is refused. -/
def Keeps (view : Session → γ) (act : Action α) : Prop :=
  ∀ v, Ensures (view · = v) act (fun _ s ↦ view s = v) fun _ s ↦ view s = v

/-- An action that looks at the whole session first goes on from that session. -/
theorem bind_get (next : Session → Action β) (s : Session) :
    (do let s ← get; next s : Action β) s = next s s := rfl

/-- An action that looks at the document first goes on from that document. -/
theorem bind_current (next : Document → Action β) (s : Session) :
    (current >>= next) s = next s.document s := rfl

/-- Two actions come to an answer if both do. -/
theorem bind_eq_ok {act : Action α} {next : α → Action β} {answer : β} {s t : Session} :
    (act >>= next) s = .ok answer t ↔
      ∃ first u, act s = .ok first u ∧ next first u = .ok answer t := by
  change EStateM.bind act next s = _ ↔ _
  rw [EStateM.bind]
  cases act s with
  | ok first u =>
    refine ⟨fun h ↦ ⟨first, u, rfl, h⟩, ?_⟩
    rintro ⟨_, _, ⟨rfl, rfl⟩, h⟩
    exact h
  | error error u =>
    refine ⟨fun h ↦ (by cases h), ?_⟩
    rintro ⟨_, _, h, _⟩
    cases h

/-- A check is passed if there is no reason to refuse. -/
theorem refuse_eq_ok {reason : Option DocumentError} {s t : Session} :
    refuse reason s = .ok () t ↔ reason = none ∧ t = s := by
  cases reason with
  | none => exact ⟨fun h ↦ ⟨rfl, (EStateM.Result.ok.inj h).2.symm⟩, fun h ↦ h.2 ▸ rfl⟩
  | some error => exact ⟨fun h ↦ (by cases h), fun h ↦ (by cases h.1)⟩

section Rules

variable {before : Session → Prop} {act : Action α} {next : α → Action β}
  {after : β → Session → Prop} {middle : α → Session → Prop}
  {refused : DocumentError → Session → Prop}

/-- What the first action leaves behind is what the second one starts from. -/
theorem Ensures.bind (first : Ensures before act middle refused)
    (second : ∀ answer, Ensures (middle answer) (next answer) after refused) :
    Ensures before (act >>= next) after refused := by
  intro s h
  have hf := first s h
  change match (EStateM.bind act next) s with
    | .ok answer t => after answer t
    | .error error t => refused error t
  rw [EStateM.bind]
  cases he : act s with
  | ok answer t =>
    rw [he] at hf
    exact second answer t hf
  | error error t =>
    rw [he] at hf
    exact hf

/-- The same with the state between the two written out. -/
theorem Ensures.through (middle : α → Session → Prop) (first : Ensures before act middle refused)
    (second : ∀ answer, Ensures (middle answer) (next answer) after refused) :
    Ensures before (act >>= next) after refused := first.bind second

/-- A contract may be weakened to one that promises less in more cases. -/
theorem Ensures.mono {before' : Session → Prop} {middle' : α → Session → Prop}
    {refused' : DocumentError → Session → Prop} (h : Ensures before act middle refused)
    (hb : ∀ s, before' s → before s) (ha : ∀ answer s, middle answer s → middle' answer s)
    (hr : ∀ error s, refused error s → refused' error s) :
    Ensures before' act middle' refused' := by
  intro s hs
  have hf := h s (hb s hs)
  cases he : act s with
  | ok answer t =>
    rw [he] at hf
    exact ha answer t hf
  | error error t =>
    rw [he] at hf
    exact hr error t hf

/-- Two contracts with the same action hold together. -/
theorem Ensures.and {before' : Session → Prop} {middle' : α → Session → Prop}
    {refused' : DocumentError → Session → Prop} (h : Ensures before act middle refused)
    (h' : Ensures before' act middle' refused') :
    Ensures (fun s ↦ before s ∧ before' s) act (fun answer s ↦ middle answer s ∧ middle' answer s)
      fun error s ↦ refused error s ∧ refused' error s := by
  intro s hs
  have hf := h s hs.1
  have hf' := h' s hs.2
  cases he : act s with
  | ok answer t =>
    rw [he] at hf hf'
    exact ⟨hf, hf'⟩
  | error error t =>
    rw [he] at hf hf'
    exact ⟨hf, hf'⟩

/-- An answer that takes nothing leaves the session alone. -/
theorem ensures_pure {answer : α} (h : ∀ s, before s → middle answer s) :
    Ensures before (pure answer) middle refused := h

/-- A refusal leaves the session alone. -/
theorem ensures_throw {error : DocumentError} (h : ∀ s, before s → refused error s) :
    Ensures before (throw error : Action α) middle refused := h

/-- What comes after a look at the document may rely on what was seen. -/
theorem ensures_current {next : Document → Action β}
    (h : ∀ d, Ensures (fun s ↦ before s ∧ s.document = d) (next d) after refused) :
    Ensures before (current >>= next) after refused :=
  fun s hs ↦ h s.document s ⟨hs, rfl⟩

/-- It is enough to look at one session at a time. -/
theorem ensures_of_forall (h : ∀ s, before s → Ensures (· = s) act middle refused) :
    Ensures before act middle refused := fun s hs ↦ h s hs s rfl

/-- What does not depend on the session may be assumed. -/
theorem ensures_of_imp {fact : Prop} (h : fact → Ensures before act middle refused) :
    Ensures (fun s ↦ fact ∧ before s) act middle refused := fun s hs ↦ h hs.1 s hs.2

/-- A change of the document is no refusal. -/
theorem ensures_change {f : Document → Document} {after : Unit → Session → Prop}
    (h : ∀ s, before s → after () (s.modifyDocument f)) :
    Ensures before (change f) after refused := h

/-- A check that passes leaves the session alone, and so does one that fails. -/
theorem ensures_refuse {reason : Option DocumentError} {after : Unit → Session → Prop}
    (ha : reason = none → ∀ s, before s → after () s)
    (hr : ∀ error, reason = some error → ∀ s, before s → refused error s) :
    Ensures before (refuse reason) after refused := by
  cases reason with
  | none => exact ensures_pure (ha rfl)
  | some error => exact ensures_throw (hr error rfl)

end Rules

section Answers

variable {act : Action α} {next : α → Action β} {good : β → Prop}

theorem Gives.ensures {before : Session → Prop} {good : α → Prop} (h : Gives good act) :
    Ensures before act (fun answer _ ↦ good answer) fun _ _ ↦ True :=
  fun s _ ↦ h s trivial

theorem gives_pure {answer : β} (h : good answer) : Gives good (pure answer) :=
  ensures_pure fun _ _ ↦ h

theorem gives_throw {error : DocumentError} : Gives good (throw error) :=
  ensures_throw fun _ _ ↦ trivial

/-- What comes last gives the answer. -/
theorem Gives.bind (h : ∀ answer, Gives good (next answer)) : Gives good (act >>= next) := by
  refine Ensures.through (fun _ _ ↦ True) ?_ h
  intro s _
  cases act s <;> trivial

/-- What comes last may rely on what was answered first. -/
theorem Gives.through {first : α → Prop} (h : Gives first act)
    (second : ∀ answer, first answer → Gives good (next answer)) : Gives good (act >>= next) :=
  Ensures.through (fun answer _ ↦ first answer) h fun answer s hs ↦ second answer hs s trivial

end Answers

section Views

variable {view : Session → γ} {act : Action α} {next : α → Action β}

theorem Keeps.bind (first : Keeps view act) (second : ∀ answer, Keeps view (next answer)) :
    Keeps view (act >>= next) :=
  fun v ↦ (first v).bind fun answer ↦ second answer v

theorem keeps_pure {answer : α} : Keeps view (pure answer) := fun _ ↦ ensures_pure fun _ h ↦ h

theorem keeps_throw {error : DocumentError} : Keeps view (throw error : Action α) :=
  fun _ ↦ ensures_throw fun _ h ↦ h

theorem keeps_refuse {reason : Option DocumentError} : Keeps view (refuse reason) :=
  fun _ ↦ ensures_refuse (fun _ _ h ↦ h) fun _ _ _ h ↦ h

theorem keeps_current {next : Document → Action β} (h : ∀ d, Keeps view (next d)) :
    Keeps view (current >>= next) :=
  fun v ↦ ensures_current fun d ↦ (h d v).mono (fun _ hs ↦ hs.1) (fun _ _ hs ↦ hs) fun _ _ hs ↦ hs

theorem keeps_change {f : Document → Document}
    (h : ∀ s : Session, view (s.modifyDocument f) = view s) : Keeps view (change f) :=
  fun _ ↦ ensures_change fun s hs ↦ (h s).trans hs

/-- What does not show the labels is kept when a label is attached. -/
theorem keeps_attach (kind : Kind) (label : Option Label)
    (h : ∀ (s : Session) (labels : Registry),
      view (s.modifyDocument ({ · with labels })) = view s) : Keeps view (attach kind label) := by
  cases label with
  | none => exact keeps_pure
  | some label =>
    exact keeps_current fun _ ↦ keeps_refuse.bind fun _ ↦ keeps_change fun s ↦ h s _

theorem keeps_resolve (label : Option Label) (number : String)
    (h : ∀ (s : Session) (labels : Registry), view (s.modifyDocument ({ · with labels })) = view s) :
    Keeps view (resolve label number) := by
  cases label with
  | none => exact keeps_pure
  | some label =>
    exact keeps_current fun _ ↦ keeps_refuse.bind fun _ ↦ keeps_change fun s ↦ h s _

/-- What can be told from a view that is kept is kept. -/
theorem Keeps.comp {δ : Type} (h : Keeps view act) (f : γ → δ) :
    Keeps (fun s ↦ f (view s)) act := by
  intro v s hs
  have hf := h (view s) s rfl
  cases he : act s with
  | ok answer t =>
    rw [he] at hf
    exact (congrArg f hf).trans hs
  | error error t =>
    rw [he] at hf
    exact (congrArg f hf).trans hs

/-- What changes nothing leaves whatever there was. -/
theorem ensures_of_keeps {before : Session → Prop} (h : Keeps id act) :
    Ensures before act (fun _ ↦ before) fun _ ↦ before :=
  ensures_of_forall fun s hs ↦ by
    have same (t : Session) (ht : id t = id s) : before t := by
      rwa [show t = s from ht]
    exact (h s).mono (fun _ ht ↦ ht) (fun _ ↦ same) fun _ ↦ same

end Views

end Action

end Manuscript
