import Manuscript.Proofs.Document.Waiting

/-!
# Every call is a step of the ledger

Most actions are `Quiet` and leave the ledger alone. As long as the labels that wait are known and
no series has more sub-figures than there are letters (`Ledger.Lettered`), every call is a step of the
ledger: an end is refused for nothing but a picture or the operands once its element has been taken
off.
-/

namespace Manuscript

/-- The action leaves the ledger as it is, also if it is refused. -/
abbrev Action.Quiet {α : Type} (act : Action α) : Prop := Keeps (·.document.ledger) act

/-! ### Beginning -/

namespace Element

variable {element : Element} {state : FrameState}

theorem shape_of_ownState? (h : element.ownState? = some state) : state.shape = state := by
  cases element with
  | macroInvocation signature =>
    cases h
    simp [FrameState.shape]
  | _ => cases h <;> rfl

theorem path?_of_ownState? (h : element.ownState? = some state) : state.path? = none := by
  cases element <;> cases h <;> rfl

end Element

namespace Document.Start

variable {d e : Document} {element : Element} {answer : FrameState × Bool}

/-- An element starts with nothing gathered. -/
theorem shape_eq (h : d.Start element answer e) : answer.1.shape = answer.1 := by
  cases h with
  | own hs => exact Element.shape_of_ownState? hs
  | _ => rfl

/-- Only a section has a position, the next one of its depth. -/
theorem position (h : d.Start element answer e) :
    ∀ path ∈ answer.1.path?, d.frames.sectionDepth < Limit.maxSectionDepth ∧
      path = nextSectionPath d.sectionPath (d.frames.sectionDepth + 1) := by
  intro path hp
  cases h with
  | own hs =>
    rw [Element.path?_of_ownState? hs] at hp
    cases hp
  | sect label room =>
    cases hp
    exact ⟨room, rfl⟩
  | _ => cases hp

/-- A sub-figure starts where the series has room. -/
theorem room (h : d.Start element answer e) (hk : element.kind = .subFigure) :
    ∀ count ∈ d.frames.subFigureCount?, count < Limit.maxSubFigures := by
  cases h with
  | own hs =>
    cases element with
    | styled style => cases style <;> cases hk
    | list ordered => cases ordered <;> cases hk
    | subFigure => cases hs
    | _ => cases hk
  | subFigure label room => exact room
  | _ => cases hk

/-- No element but a section leaves a trace in the ledger before its frame is there. -/
theorem ledger_eq (h : d.Start element answer e) :
    e.ledger = { d.ledger with sectionPath := answer.1.path?.getD d.sectionPath } := by
  cases h with
  | own hs =>
    rw [Element.path?_of_ownState? hs]
    rfl
  | figureSeriesPage => exact d.ledger_offer FrameState.keepsBare_turnPage?
  | tableCell span =>
    exact d.ledger_offer
      ((FrameState.keepsShape_advance? (max span 1)).keepsBare_of_none fun _ ↦ rfl)
  | _ => rfl

/-- An element that has passed the checks is admitted with what it starts with. -/
theorem admits (h : d.Start element answer e) (fits : d.Receives element) :
    d.ledger.Admits element ⟨element.kind, answer.2, answer.1⟩ where
  kind := rfl
  allowed := by
    rw [show d.ledger.frames.innermost = _ from d.frames.innermost_bare]
    exact fits.allowed
  fresh := h.shape_eq
  label := h.label?_eq
  attachable := attachFault_eq_none fits.attachable
  room hk := by
    rw [show d.ledger.frames.subFigureCount? = _ from d.frames.subFigureCount?_bare]
    exact h.room hk
  position := by
    rw [show d.ledger.frames.sectionDepth = _ from d.frames.sectionDepth_bare]
    exact h.position

end Document.Start

namespace Session

open Action

/-- The label of an element is attached in the ledger. -/
theorem ensures_attach_ledger {kind : Kind} {label : Option Label} {l : Ledger} :
    Ensures (·.document.ledger = l) (attach kind label)
      (fun _ s ↦ s.document.ledger = { l with labels := label.elim l.labels l.labels.attach })
      fun _ _ ↦ True := by
  cases label with
  | none => exact ensures_pure fun _ hs ↦ hs
  | some label =>
    refine ensures_current fun d ↦ Ensures.through (fun _ s ↦ s.document.ledger = l)
      (ensures_refuse (fun _ _ hs ↦ hs.1) fun _ _ _ _ ↦ trivial) fun _ ↦ ensures_change ?_
    rintro s rfl
    rfl

/-- An element that is begun is pushed with a frame that the ledger admits. -/
theorem ensures_beginElement_ledger (backend : Backend) (element : Element) (l : Ledger) :
    Ensures (·.document.ledger = l) (beginElement backend element)
      (fun _ s ↦ ∃ frame, l.Admits element frame ∧ s.document.ledger = l.push frame)
      fun _ _ ↦ True := by
  refine ensures_of_forall fun s hs ↦ ?_
  subst hs
  refine ensures_begin (fun answer t ↦
    s.document.ledger.Admits element ⟨element.kind, answer.2, answer.1⟩ ∧
      t.document.ledger = { s.document.ledger with
        sectionPath := answer.1.path?.getD s.document.sectionPath }) (fun _ ↦ trivial)
    (fun fits ↦ (ensures_start backend element s).mono (fun _ ht ↦ ht) (fun answer t ht ↦ ?_)
      fun _ _ _ ↦ trivial) fun _ answer ↦ ensures_of_forall fun t ht ↦ ?_
  · obtain ⟨d, output, start, ht⟩ := ht
    rw [ht]
    exact ⟨start.admits fits, start.ledger_eq⟩
  obtain ⟨admits, ledger⟩ := ht
  refine (ensures_attach_ledger (l := t.document.ledger)).mono (fun _ hu ↦ hu ▸ rfl)
    (fun _ u hu ↦ ?_) fun _ _ _ ↦ trivial
  refine ⟨⟨element.kind, answer.2, answer.1⟩, admits, ?_⟩
  have pushed : (u.document.push ⟨element.kind, answer.2, answer.1⟩).ledger =
      { u.document.ledger with
        frames := Frame.bare ⟨element.kind, answer.2, answer.1⟩ :: u.document.ledger.frames } := rfl
  rw [modifyDocument, pushed, hu, ledger, Ledger.push, admits.label]
  rfl

end Session

/-! ### Ending -/

namespace Ledger

variable {l : Ledger} {frame : Frame} {outer : Frames}

/-- Where an element is counted is told from its bare frame. -/
theorem count_bare (l : Ledger) (state : FrameState) : l.count state.bare = l.count state := by
  cases state <;> rfl

theorem numbers_bare (l : Ledger) (frame : Frame) : l.numbers frame.bare = l.numbers frame := by
  obtain ⟨kind, captured, state⟩ := frame
  cases state with
  | figureSeries series =>
    have members := FrameState.members_bare (.figureSeries series)
    simp only [numbers, Frame.bare]
    rw [← members]
    rfl
  | _ => rfl

theorem Fails.bare {error : DocumentError} {l' : Ledger} (h : l.Fails frame error l') :
    l.Fails frame.bare error l' := by
  cases h with
  | picture stored hk hp =>
    rw [← count_bare] at hp ⊢
    exact .picture stored hk (by rwa [numbers_bare])
  | operands hk => exact .operands hk

end Ledger

namespace Session

open Action

/-- Closing an element that has been taken off gives its labels their numbers, or fails as the end
of an element may. -/
theorem ensures_closeFrame_ledger (backend : Backend) (frame : Frame) (captured : Passage)
    {l : Ledger} {outer : Frames} (suits : frame.state.suits frame.kind = true)
    (lettered : l.Lettered) (hf : l.frames = frame.bare :: outer) :
    Ensures (·.document.ledger = { l with frames := outer }) (closeFrame backend frame captured)
      (fun _ s ↦ l.Step (.endElement frame.kind) (.ok .done) s.document.ledger)
      fun error s ↦ l.Step (.endElement frame.kind) (.error error) s.document.ledger := by
  change Ensures _ _ (fun _ s ↦ l.Step (.endElement frame.bare.kind) _ _)
    fun error s ↦ l.Step (.endElement frame.bare.kind) _ _
  have taken : ({ l with frames := outer } : Ledger).count frame.state =
      l.takeOff frame.bare outer := (Ledger.count_bare _ frame.state).symm
  have room : frame.state.members.length ≤ Limit.maxSubFigures :=
    frame.state.members_bare ▸ lettered.length_members_le hf
  have known : ∀ n ∈ (l.takeOff frame.bare outer).numbers frame,
      (l.takeOff frame.bare outer).labels.fault n.1 = none := by
    intro n hn
    rw [← Ledger.numbers_bare] at hn
    exact lettered.fault_of_mem_numbers hf hn
  rw [← taken] at known
  refine (ensures_closeFrame backend frame captured suits room known).mono (fun _ hs ↦ hs)
    (fun _ s hs ↦ ?_) fun error s hs ↦ .failed hf hs.bare
  obtain ⟨stored, hs⟩ := hs
  rw [taken, ← Ledger.numbers_bare] at hs
  exact hs ▸ .ended stored hf

/-- What an end does to the ledger, whether it is accepted or refused. -/
theorem ensures_endElement_ledger (backend : Backend) (kind : Kind) (s : Session)
    (nested : s.document.Nested) (lettered : s.document.ledger.Lettered) :
    Ensures (· = s) (endElement backend kind)
      (fun _ t ↦ s.document.ledger.Step (.endElement kind) (.ok .done) t.document.ledger)
      fun error t ↦ s.document.ledger.Step (.endElement kind) (.error error) t.document.ledger := by
  refine ensures_end nested (fun _ ↦ .refused fun _ hk ↦ by cases hk; exact ⟨_, rfl⟩)
    fun frame outer hf hk ↦ ?_
  subst hk
  have frames := nested.frames
  have top : s.document.ledger.frames = frame.bare :: Frames.bare outer :=
    congrArg Frames.bare hf
  rw [hf] at frames
  refine (ensures_closeFrame_ledger backend frame s.document.held frames.1.suits lettered
    top).mono ?_ (fun _ _ ht ↦ ht) fun _ _ ht ↦ ht
  rintro _ rfl
  simp only [modifyDocument, Document.pop, Document.ledger, hf]

/-- What writes into the innermost element leaves the ledger. -/
theorem quiet_action (backend : Backend) (call : Call)
    (hc : ∀ target, call ≠ .createLabel target) (hb : ∀ element, call ≠ .beginElement element)
    (he : ∀ kind, call ≠ .endElement kind) : Quiet (call.action backend) := by
  have taken (fills : List Fill) : FrameState.KeepsBare (FrameState.takePaint? fills) :=
    (FrameState.keepsShape_takePaint? fills).keepsBare_of_none fun _ ↦ rfl
  exact keeps_writing (fun _ ↦ keeps_writePhrase backend _ fun _ ↦ rfl) (fun _ ↦ rfl)
    (fun fills _ ↦ keeps_paint fills fun s ↦ s.document.ledger_offer (taken fills))
    (fun target hk ↦ absurd hk (hc target)) (fun _ ↦ keeps_registerWorks _ fun _ _ ↦ rfl) hb he

/-- Every call is a step of the ledger. -/
theorem step_perform (backend : Backend) (call : Call) (s : Session) (nested : s.document.Nested)
    (known : s.document.ledger.Lettered) :
    s.document.ledger.Step call (s.perform backend call).1
      (s.perform backend call).2.document.ledger := by
  have of_ensures (h : Ensures (· = s) (call.action backend)
      (fun reply t ↦ s.document.ledger.Step call (.ok reply) t.document.ledger)
      fun error t ↦ s.document.ledger.Step call (.error error) t.document.ledger) :
      s.document.ledger.Step call (s.perform backend call).1
        (s.perform backend call).2.document.ledger :=
    perform_ensures (P := fun answer t ↦ s.document.ledger.Step call answer t.document.ledger) h rfl
  have writes (hc : ∀ target, call ≠ .createLabel target)
      (hb : ∀ element, call ≠ .beginElement element) (he : ∀ kind, call ≠ .endElement kind) :
      s.document.ledger.Step call (s.perform backend call).1
        (s.perform backend call).2.document.ledger := by
    refine of_ensures (((quiet_action backend call hc hb he) s.document.ledger).mono
      (fun _ ht ↦ ht ▸ rfl) (fun _ t ht ↦ ?_) fun _ t ht ↦ ?_)
    · exact (show t.document.ledger = _ from ht) ▸ .written hc hb he
    · exact (show t.document.ledger = _ from ht) ▸ .refused fun kind hk ↦ absurd hk (he kind)
  cases call with
  | createLabel target => exact .created target
  | beginElement element =>
    have begun := (ensures_beginElement_ledger backend element s.document.ledger).and
      (careful_beginElement backend element s)
    refine of_ensures (Ensures.through (fun _ t ↦ ∃ frame, s.document.ledger.Admits element frame ∧
      t.document.ledger = s.document.ledger.push frame) (begun.mono (fun t ht ↦ ?_)
        (fun _ _ h ↦ h.1) fun error t ht ↦ ?_) fun _ ↦ ensures_pure fun t ht ↦ ?_)
    · exact ⟨congrArg (·.document.ledger) ht, ht⟩
    · exact ht.2 ▸ .refused fun _ hk ↦ nomatch hk
    · obtain ⟨frame, admits, ht⟩ := ht
      exact ht ▸ .begun admits
  | endElement kind =>
    exact of_ensures ((ensures_endElement_ledger backend kind s nested known).bind fun _ ↦
      ensures_pure fun _ ht ↦ ht)
  | _ => exact writes nofun nofun nofun

end Session

/-! ### Runs -/

/-- The open elements of a document are nested, and its labels that wait are known. -/
structure Document.Orderly (d : Document) : Prop where
  nested : d.Nested
  lettered : d.ledger.Lettered

theorem Context.orderly_document (context : Context) (path : Path) (place : Location)
    (serial : Nat) : (context.document path place serial).Orderly where
  nested := context.nested_document path place serial
  lettered := ⟨nofun, trivial⟩

namespace Document.Orderly

variable {s : Session}

/-- Every call on an orderly document is a step of its ledger. -/
theorem step (h : s.document.Orderly) (backend : Backend) (call : Call) :
    s.document.ledger.Step call (s.perform backend call).1
      (s.perform backend call).2.document.ledger :=
  Session.step_perform backend call s h.nested h.lettered

theorem frames_nested (h : s.document.Orderly) : s.document.ledger.frames.Nested :=
  (Frames.nested_bare _).mpr h.nested.frames

theorem perform (h : s.document.Orderly) (backend : Backend) (call : Call) :
    (s.perform backend call).2.document.Orderly where
  nested := (Session.nested_perform backend call h.nested).1
  lettered := h.lettered.step h.frames_nested (h.step backend call)

theorem run (h : s.document.Orderly) (backend : Backend) (calls : List Call) :
    (s.run backend calls).document.Orderly := by
  induction calls generalizing s with
  | nil => exact h
  | cons call calls ih => exact ih (h.perform backend call)

end Document.Orderly

end Manuscript
