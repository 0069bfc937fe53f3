import Manuscript.Proofs.Document.Showing

/-!
# What open elements gather

Calls begin an element, end one or paint, and then some open element gathers something; nothing else
changes the open elements (`Frames.Move`). Where the ledger looks at numbers and labels alone, a
move says all that becomes of the open elements.
-/

namespace Manuscript

namespace Frames

/-- What the innermost open element notices of one that begins inside it: a page turns that of its
series, and a cell moves its row on. -/
def notice : Element → FrameState → Option FrameState
  | .figureSeriesPage => FrameState.turnPage?
  | .tableCell span _ => FrameState.advance? (max span 1)
  | _ => fun _ ↦ none

/-- The open elements when one more begins inside them. -/
def noticing (element : Element) (frames : Frames) : Frames :=
  (frames.changeTop? (notice element)).getD frames

/-- What an element that ends hands to the one around it, with what it has held back. -/
def handOver (frame : Frame) (content : Passage) : FrameState → Option FrameState :=
  match frame.state with
  | .plain =>
    match frame.kind with
    | .caption => FrameState.takeCaption? content
    | .tableHeader => FrameState.takeTableHeader? content.markup
    | .tableFooter => FrameState.takeTableFooter? content.markup
    | .mathOpParam => FrameState.takeOperand? content
    | _ => fun _ ↦ none
  | .figureBody _ _ canvas => FrameState.takeFigureBody? (Session.figureContent canvas content)
  | .argument index => FrameState.takeArgument? index content
  | _ => fun _ ↦ none

/-- The open elements when one that has been taken off hands over what it has gathered. -/
def absorb (frame : Frame) (content : Passage) (outer : Frames) : Frames :=
  match frame.state with
  | .subFigure figure => (outer.changeSeries? (FrameState.takeSubFigure? figure)).getD outer
  | _ => (outer.changeTop? (handOver frame content)).getD outer

/-- Whether a row that begins inside the elements is one of a table header. -/
def headed (frames : Frames) : Bool := frames.innermost == some .tableHeader

variable {frames outer : Frames} {frame : Frame}

theorem getD_changeTop?_none (frames : Frames) :
    (frames.changeTop? fun _ ↦ none).getD frames = frames := by
  cases frames <;> rfl

theorem noticing_eq_self {element : Element} (h : notice element = fun _ ↦ none) :
    frames.noticing element = frames := by
  rw [noticing, h, getD_changeTop?_none]

theorem absorb_eq_handOver {content : Passage} (h : ∀ figure, frame.state ≠ .subFigure figure) :
    outer.absorb frame content = (outer.changeTop? (handOver frame content)).getD outer := by
  unfold absorb
  split
  · next figure hf => exact absurd hf (h figure)
  · rfl

/-- An element that hands nothing over leaves those around it. -/
theorem absorb_eq_self {content : Passage} (hs : ∀ figure, frame.state ≠ .subFigure figure)
    (h : handOver frame content = fun _ ↦ none) : outer.absorb frame content = outer := by
  rw [absorb_eq_handOver hs, h, getD_changeTop?_none]

end Frames

/-- What an element starts with that gathers something in order, or that looks at the elements
around it. -/
def FrameState.Starts (frames : Frames) (state : FrameState) : Element → Prop
  | .figureSeries label columns => 0 < columns ∧ state = .figureSeries { label, columns }
  | .subFigure label => state = .subFigure { label }
  | .table label columns => state = .table { label, columns }
  | .tableRow => state = .tableRow frames.headed 0
  | .tableCell _ _ =>
    ∀ header column, frames.topState? = some (.tableRow header column) → state = .tableCell header
  | .mathOp operator => state = .mathOp operator []
  | _ => True

/-- What a call does to the open elements, by whether it is accepted. -/
inductive Frames.Move (d : Document) : Call → Bool → Frames → Prop where
  /-- No call but the beginning and the end of elements, and painting, changes them. -/
  | none {call : Call} {accepted : Bool} :
    (accepted = true → ∀ element, call ≠ .beginElement element) →
      (∀ kind, call = .endElement kind → d.innermost ≠ some kind) →
        Move d call accepted d.frames
  | painted (fills : List Fill) : Move d (.paint fills) true
      ((d.frames.changeTop? (FrameState.takePaint? fills)).getD d.frames)
  | begun {element : Element} {frame : Frame} :
    element.kind.allowedIn d.innermost = true → frame.kind = element.kind →
      frame.state.Starts d.frames element →
        Move d (.beginElement element) true (frame :: d.frames.noticing element)
  | ended {frame : Frame} {outer : Frames} : d.frames = frame :: outer →
    Move d (.endElement frame.kind) true (outer.absorb frame d.held)
  /-- An element is gone also if its end is refused. -/
  | failed {frame : Frame} {outer : Frames} : d.frames = frame :: outer →
    Move d (.endElement frame.kind) false outer

/-! ### Beginning -/

namespace Element

variable {element : Element} {state : FrameState}

theorem notice_of_ownState? (h : element.ownState? = some state) :
    Frames.notice element = fun _ ↦ none := by
  cases element <;> cases h <;> rfl

theorem starts_of_ownState? (h : element.ownState? = some state) (frames : Frames) :
    state.Starts frames element := by
  cases element <;> cases h <;> trivial

end Element

namespace Document.Start

variable {d e : Document} {element : Element} {answer : FrameState × Bool}

theorem starts (h : d.Start element answer e) : answer.1.Starts d.frames element := by
  cases h with
  | own hs => exact Element.starts_of_ownState? hs d.frames
  | figureSeries label room => exact ⟨room, rfl⟩
  | tableCell span align top => exact fun header column ht ↦ top header column ht ▸ rfl
  | header | body | sect | figureBody | figureSeriesPage | argument | placeholder => trivial
  | subFigure | tableRow => rfl

/-- The open elements notice that the element starts. -/
theorem frames_eq (h : d.Start element answer e) : e.frames = d.frames.noticing element := by
  cases h with
  | own hs => exact (Frames.noticing_eq_self (Element.notice_of_ownState? hs)).symm
  | figureSeriesPage | tableCell => rfl
  | _ => exact (Frames.noticing_eq_self rfl).symm

end Document.Start

namespace Session

open Action

/-- An element that begins has the frame that it starts with, on the elements that notice it. -/
theorem ensures_beginElement_frames (backend : Backend) (element : Element) (d : Document) :
    Ensures (·.document = d) (beginElement backend element)
      (fun _ s ↦ Frames.Move d (.beginElement element) true s.document.frames)
      fun _ _ ↦ True := by
  refine ensures_of_forall fun s hs ↦ ?_
  subst hs
  refine ensures_begin (fun answer t ↦ answer.1.Starts s.document.frames element ∧
    t.document.frames = s.document.frames.noticing element) (fun _ ↦ trivial)
    (fun _ ↦ (ensures_start backend element s).mono (fun _ ht ↦ ht) (fun _ t ht ↦ ?_)
      fun _ _ _ ↦ trivial) fun fits answer ↦ ensures_of_imp fun starts ↦ ?_
  · obtain ⟨d, output, start, ht⟩ := ht
    rw [ht]
    exact ⟨start.starts, start.frames_eq⟩
  refine (keeps_attach element.kind element.label? (fun _ _ ↦ rfl)
    (s.document.frames.noticing element)).mono (fun _ ht ↦ ht) (fun _ t ht ↦ ?_) fun _ _ _ ↦ trivial
  have pushed : (t.modifyDocument (·.push ⟨element.kind, answer.2, answer.1⟩)).document.frames =
      ⟨element.kind, answer.2, answer.1⟩ :: s.document.frames.noticing element := congrArg _ ht
  rw [pushed]
  exact .begun fits.allowed rfl starts

/-! ### Ending -/

section Closing

variable (backend : Backend)

theorem keeps_frames_resolve (label : Option Label) (number : String) :
    Keeps (·.document.frames) (resolve label number) := keeps_resolve label number fun _ _ ↦ rfl

theorem keeps_frames_closeBody : Keeps (·.document.frames) (closeBody backend) := by
  have entries (number : Nat) (works : List CitedWork) :
      Keeps (·.document.frames) (writeEntries backend number works) := by
    induction works generalizing number with
    | nil => exact keeps_pure
    | cons work others ih =>
      have entry : Keeps (·.document.frames) (writeEntry backend work number) :=
        (keeps_change fun _ ↦ rfl).bind fun _ ↦ (keeps_change fun _ ↦ rfl).bind
          fun _ ↦ keeps_change fun _ ↦ rfl
      exact entry.bind fun _ ↦ ih (number + 1)
  have references : Keeps (·.document.frames) (writeReferences backend) := by
    refine keeps_current fun d ↦ ?_
    dsimp only
    split
    · exact keeps_pure
    · exact (keeps_change fun _ ↦ rfl).bind fun _ ↦ (entries 1 _).bind fun _ ↦
        keeps_change fun _ ↦ rfl
  exact references.bind fun _ ↦ (keeps_change fun _ ↦ rfl).bind fun _ ↦
    keeps_change fun _ ↦ rfl

theorem keeps_frames_closeSectionTitle (title : Passage) :
    Keeps (·.document.frames) (closeSectionTitle backend title) := by
  refine keeps_current fun d ↦ ?_
  split
  · exact (keeps_frames_resolve _ _).bind fun _ ↦ keeps_change fun _ ↦ rfl
  · exact keeps_pure

/-- What is counted and numbered leaves the open elements. -/
theorem keeps_frames_counted {f : Document → Document} {next : Document → Action Unit}
    (hf : ∀ d, (f d).frames = d.frames) (h : ∀ d, Keeps (·.document.frames) (next d)) :
    Keeps (·.document.frames) (do change f; let d ← current; next d) :=
  (keeps_change fun s ↦ hf s.document).bind fun _ ↦ keeps_current h

theorem keeps_frames_closeFigure (figure : PendingFigure) :
    Keeps (·.document.frames) (closeFigure backend figure) :=
  keeps_frames_counted (fun _ ↦ rfl) fun _ ↦ (keeps_frames_resolve _ _).bind fun _ ↦
    (keeps_figureBody backend figure _ fun _ _ _ _ ↦ rfl).bind fun _ ↦
      keeps_change fun _ ↦ rfl

theorem keeps_frames_closeSeries (series : PendingSeries) :
    Keeps (·.document.frames) (closeSeries backend series) :=
  keeps_frames_counted (fun _ ↦ rfl) fun _ ↦ (keeps_frames_resolve _ _).bind fun _ ↦
    (keeps_seriesPages backend _ 0 series.groups fun _ _ _ _ ↦ rfl).bind fun _ ↦
      keeps_change fun _ ↦ rfl

theorem keeps_frames_closeInvocation (signature : Macro.Signature)
    (arguments : List (Option Passage)) :
    Keeps (·.document.frames) (closeInvocation signature arguments) := by
  refine keeps_current fun d ↦ ?_
  split
  · exact keeps_change fun _ ↦ rfl
  · exact keeps_pure

variable {outer : Frames}

/-- The elements around one that hands nothing over are left as they are. -/
theorem ensures_absorb_of_keeps {frame : Frame} {content : Passage} {act : Action Unit}
    (h : Keeps (·.document.frames) act) (ha : outer.absorb frame content = outer) :
    Ensures (·.document.frames = outer) act
      (fun _ s ↦ s.document.frames = outer.absorb frame content)
      fun _ s ↦ s.document.frames = outer :=
  (h outer).mono (fun _ hs ↦ hs) (fun _ _ hs ↦ hs.trans ha.symm) fun _ _ hs ↦ hs

/-- What is handed over is all that changes. -/
theorem ensures_absorb_of_offer {frame : Frame} {content : Passage} {f : Document → Document}
    (h : ∀ d, (f d).frames = d.frames.absorb frame content) :
    Ensures (·.document.frames = outer) (change f)
      (fun _ s ↦ s.document.frames = outer.absorb frame content)
      fun _ s ↦ s.document.frames = outer :=
  ensures_change fun s hs ↦ hs ▸ h s.document

theorem ensures_closePlain_frames (kind : Kind) (captured : Bool) (content : Passage) :
    Ensures (·.document.frames = outer) (closePlain backend kind content)
      (fun _ s ↦ s.document.frames = outer.absorb ⟨kind, captured, .plain⟩ content)
      fun _ s ↦ s.document.frames = outer := by
  have silent {act : Action Unit} (hk : Keeps (·.document.frames) act)
      (h : Frames.handOver ⟨kind, captured, .plain⟩ content = fun _ ↦ none) :
      Ensures (·.document.frames = outer) act
        (fun _ s ↦ s.document.frames = outer.absorb ⟨kind, captured, .plain⟩ content)
        fun _ s ↦ s.document.frames = outer :=
    ensures_absorb_of_keeps hk (Frames.absorb_eq_self nofun h)
  cases kind with
  | caption | tableHeader | tableFooter | mathOpParam => exact ensures_absorb_of_offer fun _ ↦ rfl
  | header =>
    refine silent (keeps_current fun _ ↦ ?_) rfl
    exact (keeps_change fun _ ↦ rfl).bind fun _ ↦ keeps_change fun _ ↦ rfl
  | body => exact silent (keeps_frames_closeBody backend) rfl
  | sectionTitle => exact silent (keeps_frames_closeSectionTitle backend content) rfl
  | title | author | date | sectionBody | tablePage | paragraph | inlineMath | mathName | item =>
    exact silent (keeps_change fun _ ↦ rfl) rfl
  | _ => exact silent keeps_pure rfl

/-- What is closed hands over what it has gathered, and leaves the other open elements. -/
theorem ensures_closeFrame_frames (frame : Frame) (content : Passage) :
    Ensures (·.document.frames = outer) (closeFrame backend frame content)
      (fun _ s ↦ s.document.frames = outer.absorb frame content)
      fun _ s ↦ s.document.frames = outer := by
  obtain ⟨kind, captured, state⟩ := frame
  have silent {act : Action Unit} (hk : Keeps (·.document.frames) act)
      (hs : ∀ figure, state ≠ .subFigure figure)
      (h : Frames.handOver ⟨kind, captured, state⟩ content = fun _ ↦ none) :
      Ensures (·.document.frames = outer) act
        (fun _ s ↦ s.document.frames = outer.absorb ⟨kind, captured, state⟩ content)
        fun _ s ↦ s.document.frames = outer :=
    ensures_absorb_of_keeps hk (Frames.absorb_eq_self hs h)
  cases state with
  | plain => exact ensures_closePlain_frames backend kind captured content
  | subFigure | figureBody | argument => exact ensures_absorb_of_offer fun _ ↦ rfl
  | sect label path =>
    exact silent ((keeps_frames_resolve _ _).bind fun _ ↦ keeps_change fun _ ↦ rfl) nofun rfl
  | figure figure => exact silent (keeps_frames_closeFigure backend figure) nofun rfl
  | figureSeries series => exact silent (keeps_frames_closeSeries backend series) nofun rfl
  | table | equation =>
    exact silent (keeps_frames_counted (fun _ ↦ rfl) fun _ ↦ (keeps_frames_resolve _ _).bind
      fun _ ↦ keeps_change fun _ ↦ rfl) nofun rfl
  | mathOp => exact silent (keeps_refuse.bind fun _ ↦ keeps_change fun _ ↦ rfl) nofun rfl
  | macroInvocation signature arguments =>
    exact silent (keeps_frames_closeInvocation signature arguments) nofun rfl
  | tableRow | tableCell | macroDefinition | styled | list =>
    exact silent (keeps_change fun _ ↦ rfl) nofun rfl

/-- The innermost element is taken off whatever comes of its end. -/
theorem ensures_endElement_frames (kind : Kind) (s : Session) (nested : s.document.Nested) :
    Ensures (· = s) (endElement backend kind)
      (fun _ t ↦ Frames.Move s.document (.endElement kind) true t.document.frames)
      fun _ t ↦ Frames.Move s.document (.endElement kind) false t.document.frames := by
  refine ensures_end nested (fun top ↦ .none Bool.noConfusion fun _ hk ↦ by cases hk; exact top)
    fun frame outer hf hk ↦ ?_
  rw [← hk]
  refine (ensures_closeFrame_frames backend frame s.document.held).mono ?_
    (fun _ t ht ↦ ?_) fun _ t ht ↦ ht ▸ .failed hf
  · rintro _ rfl
    exact Document.frames_pop hf
  · exact (show (t.modifyDocument Document.stream).document.frames = _ from ht) ▸ .ended hf

end Closing

/-! ### Calls -/

/-- Painting is handed to a figure body. -/
theorem ensures_paint_frames (fills : List Fill) (d : Document) :
    Ensures (·.document = d) (paint fills)
      (fun _ s ↦ s.document.frames =
        (d.frames.changeTop? (FrameState.takePaint? fills)).getD d.frames)
      fun _ s ↦ s.document.frames = d.frames := by
  refine ensures_current fun e ↦ ?_
  split
  · refine Ensures.through (fun _ s ↦ s.document.frames =
      (d.frames.changeTop? (FrameState.takePaint? fills)).getD d.frames)
      (ensures_change fun s hs ↦ ?_) fun _ ↦ ensures_pure fun _ hs ↦ hs
    obtain ⟨rfl, -⟩ := hs
    rfl
  · exact ensures_throw fun s hs ↦ congrArg Document.frames hs.1

/-- Nothing but the beginning and the end of elements, and painting, changes the open elements. -/
theorem keeps_frames_action (backend : Backend) (call : Call)
    (hb : ∀ element, call ≠ .beginElement element) (he : ∀ kind, call ≠ .endElement kind)
    (hp : ∀ fills, call ≠ .paint fills) : Keeps (·.document.frames) (call.action backend) :=
  keeps_writing (fun _ ↦ keeps_writePhrase backend _ fun _ ↦ rfl) (fun _ ↦ rfl)
    (fun fills hc ↦ absurd hc (hp fills)) (fun _ _ ↦ keeps_createLabel _ fun _ _ ↦ rfl)
    (fun _ ↦ keeps_registerWorks _ fun _ _ ↦ rfl) hb he

/-- What is called moves the open elements. -/
theorem move_perform (backend : Backend) (call : Call) (s : Session)
    (nested : s.document.Nested) :
    Frames.Move s.document call (s.perform backend call).1.isOk
      (s.perform backend call).2.document.frames := by
  have of_ensures (h : Ensures (· = s) (call.action backend)
      (fun _ t ↦ Frames.Move s.document call true t.document.frames)
      fun _ t ↦ Frames.Move s.document call false t.document.frames) :
      Frames.Move s.document call (s.perform backend call).1.isOk
        (s.perform backend call).2.document.frames :=
    perform_ensures (P := fun answer t ↦ Frames.Move s.document call answer.isOk t.document.frames)
      h rfl
  have left (hb : ∀ element, call ≠ .beginElement element) (he : ∀ kind, call ≠ .endElement kind)
      (accepted : Bool) {frames : Frames} (hf : frames = s.document.frames) :
      Frames.Move s.document call accepted frames :=
    hf ▸ .none (fun _ ↦ hb) fun kind hk ↦ absurd hk (he kind)
  have writes (hb : ∀ element, call ≠ .beginElement element)
      (he : ∀ kind, call ≠ .endElement kind) (hp : ∀ fills, call ≠ .paint fills) :
      Frames.Move s.document call (s.perform backend call).1.isOk
        (s.perform backend call).2.document.frames :=
    of_ensures ((keeps_frames_action backend call hb he hp s.document.frames).mono
      (fun _ ht ↦ ht ▸ rfl) (fun _ _ ht ↦ left hb he true ht) fun _ _ ht ↦ left hb he false ht)
  cases call with
  | beginElement element =>
    have begun := (ensures_beginElement_frames backend element s.document).and
      (careful_beginElement backend element s)
    refine of_ensures (Ensures.bind (begun.mono (fun t ht ↦ ?_) (fun _ _ h ↦ h.1)
      fun _ t ht ↦ ?_) fun _ ↦ ensures_pure fun _ ht ↦ ht)
    · exact ⟨congrArg Session.document ht, ht⟩
    · rw [ht.2]
      exact .none nofun fun _ hk ↦ nomatch hk
  | endElement kind =>
    exact of_ensures ((ensures_endElement_frames backend kind s nested).bind fun _ ↦
      ensures_pure fun _ ht ↦ ht)
  | paint fills =>
    have painted := ensures_paint_frames fills s.document
    refine of_ensures (Ensures.bind (painted.mono (fun t ht ↦ ?_) (fun _ _ ht ↦ ht)
      fun _ _ ht ↦ left nofun nofun false ht) fun _ ↦ ensures_pure fun _ ht ↦ ht ▸ .painted fills)
    exact congrArg Session.document ht
  | _ => exact writes nofun nofun nofun

end Session

end Manuscript
