import Manuscript.Proofs.Document.Contract
import Manuscript.Proofs.Document.Shape

/-!
# How actions are composed

What is done for a call is put together from a few steps: writing at the end of the output, taking
note of something, and storing pictures (`Action.Composed`). Only opening and taking off frames, and
streaming, are something else. So what holds of the steps and passes through `>>=` holds of every
such action, and is proved here and elsewhere by one induction over the steps.
-/

namespace Manuscript

namespace Action

/-- The action is composed of steps that look at everything but the output, write at its end alone,
and leave what `V` says of the standing of the document. `E` holds of the errors with which it may
be refused. -/
inductive Composed {γ : Type} (E : DocumentError → Prop) (V : Standing → γ) :
    {α : Type} → Action α → Prop where
  | pure {α : Type} (answer : α) : Composed E V (pure answer : Action α)
  | throw {α : Type} {error : DocumentError} : E error → Composed E V (throw error : Action α)
  | bind {α β : Type} {act : Action α} {next : α → Action β} :
    Composed E V act → (∀ answer, Composed E V (next answer)) → Composed E V (act >>= next)
  /-- Go on from the document, whatever its output is. -/
  | look {α : Type} {next : Document → Action α} :
    (∀ d output, next { d with output } = next d) → (∀ d, Composed E V (next d)) →
      Composed E V (current >>= next)
  | write (passage : Document → Passage) :
    (∀ d output, passage { d with output } = passage d) →
      Composed E V (change fun d ↦ d.append (passage d))
  | note {f : Document → Document} :
    (∀ d output, f { d with output } = { f d with output }) →
      (∀ d, V (f d).standing = V d.standing) → Composed E V (change f)
  | picture (path : Path) (picture : Picture) :
    (∀ error, E (.io error)) → Composed E V (Session.createPicture path picture)

namespace Composed

variable {γ : Type} {E : DocumentError → Prop} {V : Standing → γ} {α : Type} {act : Action α}

/-- An action that is composed of steps leaves what its steps leave, also if it is refused. -/
theorem keeps (h : Composed E V act) : Keeps (V ·.document.standing) act := by
  induction h with
  | pure answer => exact keeps_pure
  | throw he => exact keeps_throw
  | bind _ _ first second => exact first.bind second
  | look _ _ ih => exact keeps_current ih
  | write passage _ => exact keeps_change fun s ↦ congrArg V (s.document.standing_append _)
  | note _ hf => exact keeps_change fun s ↦ hf s.document
  | picture path picture _ =>
    intro v s hs
    unfold Session.createPicture
    rw [bind_get]
    cases s.files.create path (.picture picture) with
    | error error => exact hs
    | ok made => exact hs

/-- An action that is composed of steps is refused with the errors of the steps. -/
theorem refuses (h : Composed E V act) : Refuses E act := by
  induction h with
  | pure answer => exact ensures_pure fun _ _ ↦ trivial
  | throw he => exact ensures_throw fun _ _ ↦ he
  | bind _ _ first second => exact Ensures.bind first second
  | look _ _ ih =>
    exact ensures_current fun d ↦
      (ih d).mono (fun _ _ ↦ trivial) (fun _ _ _ ↦ trivial) fun _ _ he ↦ he
  | write passage _ => exact ensures_change fun _ _ ↦ trivial
  | note _ _ => exact ensures_change fun _ _ ↦ trivial
  | picture path picture he =>
    intro s _
    unfold Session.createPicture
    rw [bind_get]
    cases s.files.create path (.picture picture) with
    | error error => exact he error
    | ok made => trivial

/-- What leaves more leaves less. -/
theorem comp_view {δ : Type} (h : Composed E V act) (f : γ → δ) : Composed E (f ∘ V) act := by
  induction h with
  | pure answer => exact pure answer
  | throw he => exact throw he
  | bind _ _ first second => exact bind first second
  | look blind _ ih => exact look blind ih
  | write passage blind => exact write passage blind
  | note blind hf => exact note blind fun d ↦ congrArg f (hf d)
  | picture path picture he => exact .picture path picture he

/-- Two changes in one. -/
theorem comp {f g : Document → Document} (hf : Composed E V (change f))
    (hg : Composed E V (change g)) : Composed E V (change (g ∘ f)) := bind hf fun _ ↦ hg

theorem append (passage : Passage) : Composed E V (change (·.append passage)) :=
  write (fun _ ↦ passage) fun _ _ ↦ rfl

theorem emit (markup : String) : Composed E V (change (·.emit markup)) := append ⟨markup, ""⟩

theorem emitLine (markup : String) : Composed E V (change (·.emitLine markup)) :=
  write (fun d ↦ ⟨d.lineBreak ++ markup, ""⟩) fun _ _ ↦ rfl

theorem appendPhrase (backend : Backend) (phrase : Phrase) :
    Composed E V (change (·.appendPhrase backend phrase)) := append _

theorem offer {take : FrameState → Option FrameState} (h : FrameState.KeepsShape take) :
    Composed E V (change (·.offer take)) :=
  note (fun _ _ ↦ rfl) fun d ↦ congrArg V (Document.standing_offer h d)

theorem offerSeries {take : FrameState → Option FrameState} (h : FrameState.KeepsShape take) :
    Composed E V (change (·.offerSeries take)) :=
  note (fun _ _ ↦ rfl) fun d ↦ congrArg V (Document.standing_offerSeries h d)

theorem refuse {reason : Option DocumentError} (h : ∀ error ∈ reason, E error) :
    Composed E V (refuse reason) := by
  cases reason with
  | none => exact pure _
  | some error => exact throw (h error rfl)

theorem relabel {label : Label} {fault : Option LabelFault} {f : Registry → Registry}
    (h : ∀ label fault, E (.label label fault))
    (hf : ∀ d : Document,
      V ({ d with labels := f d.labels } : Document).standing = V d.standing) :
    Composed E V (relabel label fault f) := by
  refine bind (refuse fun error he ↦ ?_) fun _ ↦ note (fun _ _ ↦ rfl) hf
  obtain ⟨fault, _, rfl⟩ := Option.map_eq_some_iff.mp he
  exact h label fault

theorem attach {kind : Kind} {label : Option Label} (h : ∀ label fault, E (.label label fault)) :
    Composed E Standing.fixed (attach kind label) := by
  cases label with
  | none => exact pure _
  | some label => exact look (fun _ _ ↦ rfl) fun _ ↦ relabel h fun _ ↦ rfl

theorem resolve {label : Option Label} {number : String}
    (h : ∀ label fault, E (.label label fault)) :
    Composed E Standing.numbered (resolve label number) := by
  cases label with
  | none => exact pure _
  | some label =>
    exact look (fun _ _ ↦ rfl) fun _ ↦
      relabel h fun d ↦ d.numbered_standing_resolve label number

end Composed

/-- The action is composed of steps and may be refused for any reason. -/
abbrev Free {γ α : Type} (V : Standing → γ) (act : Action α) : Prop :=
  Composed (fun _ ↦ True) V act

end Action

namespace DocumentError

/-- The error does not say that a call comes at the wrong time. -/
def Timely (error : DocumentError) : Prop := ∀ fault, error ≠ .lifecycle fault

/-- The errors with which closing an element is refused whose frame has been taken off. -/
inductive OfClosing : DocumentError → Prop where
  | label (label : Label) (fault : LabelFault) : OfClosing (.label label fault)
  | io (error : IoError) : OfClosing (.io error)
  | subFigures : OfClosing (.limitExceeded .subFigures)
  | operandCount (operator : Operator) (found : Nat) : OfClosing (.operandCount operator found)

theorem OfClosing.timely {error : DocumentError} (h : OfClosing error) : error.Timely := by
  intro fault he
  cases h <;> cases he

end DocumentError

/-- Whether the document keeps the content of the element as a part of its head. -/
def Kind.isHeadline : Kind → Bool
  | title | author | date => true
  | _ => false

/-- A call begins an element, ends one, or leaves the open elements open. -/
theorem Call.begins_or_ends_or (call : Call) :
    (∃ element, call = .beginElement element) ∨ (∃ kind, call = .endElement kind) ∨
      (∀ element, call ≠ .beginElement element) ∧ ∀ kind, call ≠ .endElement kind := by
  cases call with
  | beginElement element => exact .inl ⟨element, rfl⟩
  | endElement kind => exact .inr (.inl ⟨kind, rfl⟩)
  | _ => exact .inr (.inr ⟨nofun, nofun⟩)

theorem Document.nestingError_eq_none {d : Document} {kind : Kind} :
    d.nestingError kind = none ↔ kind.allowedIn d.innermost = true := by
  rw [nestingError, ite_eq_left_iff]
  simp

namespace Session

open Action

/-! ### Beginning an element up to its frame -/

theorem free_startLine (markup : String) (state : FrameState) : Free id (startLine markup state) :=
  .bind (.emitLine markup) fun _ ↦ .pure _

theorem free_startInline (markup : String) (state : FrameState) :
    Free id (startInline markup state) := .bind (.emit markup) fun _ ↦ .pure _

theorem free_startHeader (backend : Backend) : Free id (startHeader backend) := by
  refine .bind (.comp (.note (f := fun d ↦ { d with phase := .header }) ?_ ?_)
    (.emit _)) fun _ ↦ .pure _
  · exact fun _ _ ↦ rfl
  · exact fun _ ↦ rfl

theorem free_startBody (backend : Backend) : Free id (startBody backend) := by
  refine .bind (.comp (.note (f := fun d ↦ { d with phase := .body }) ?_ ?_)
    (.write (fun d ↦ ⟨backend.bodyStart ++
      backend.titleBlock (d.head.title.map Passage.markup) (d.head.byline Passage.markup)
        (d.head.date.map Passage.markup), ""⟩) ?_)) fun _ ↦ .pure _
  · exact fun _ _ ↦ rfl
  · exact fun _ ↦ rfl
  · exact fun _ _ ↦ rfl

theorem free_startSection (backend : Backend) (label : Option Label) :
    Free id (startSection backend label) := by
  refine .look (fun _ _ ↦ rfl) fun d ↦ ?_
  dsimp only
  split
  · exact .throw trivial
  · refine .bind (.comp (.note (f := fun e ↦ { e with
      sectionPath := Document.nextSectionPath d.sectionPath (d.frames.sectionDepth + 1)
      sections := e.sections + 1 }) ?_ ?_) (.emitLine _)) fun _ ↦ .pure _
    · exact fun _ _ ↦ rfl
    · exact fun _ ↦ rfl

theorem free_side (millimetres : Float) : Free id (side millimetres) := by
  refine .look (fun _ _ ↦ rfl) fun d ↦ ?_
  split
  · exact .pure _
  · exact .throw trivial

theorem free_startFigureBody (width height : Float) : Free id (startFigureBody width height) :=
  .bind (free_side width) fun _ ↦ .bind (free_side height) fun _ ↦ .pure _

theorem free_startSeries (label : Option Label) (columns : Nat) :
    Free id (startSeries label columns) := by
  unfold startSeries
  split
  · exact .throw trivial
  · exact .pure _

theorem free_startPage : Free id startPage :=
  .bind (.offer FrameState.keepsShape_turnPage?) fun _ ↦ .pure _

theorem free_startSubFigure (label : Option Label) : Free id (startSubFigure label) := by
  refine .look (fun _ _ ↦ rfl) fun d ↦ ?_
  split
  · exact .throw trivial
  · exact .pure _

theorem free_startRow (backend : Backend) : Free id (startRow backend) :=
  .look (fun _ _ ↦ rfl) fun _ ↦ free_startLine _ _

theorem free_startCell (backend : Backend) (span : Nat) (align : Option Alignment) :
    Free id (startCell backend span align) :=
  .look (fun _ _ ↦ rfl) fun _ ↦
    .bind (.offer (FrameState.keepsShape_advance? _)) fun _ ↦ free_startInline _ _

theorem free_writeMarker (index : Nat) : Free id (writeMarker index) := by
  unfold writeMarker
  split
  · exact .append _
  · exact .pure _

theorem free_startParameter (index : Nat) : Free id (startParameter index) := by
  refine .look (fun _ _ ↦ rfl) fun d ↦ ?_
  split
  · exact .bind (.refuse fun _ _ ↦ trivial) fun _ ↦ .pure _
  · split
    · exact .throw trivial
    · exact .bind (.refuse fun _ _ ↦ trivial) fun _ ↦
        .bind (free_writeMarker index) fun _ ↦ .pure _

theorem free_startState (backend : Backend) (element : Element) :
    Free id (startState backend element) := by
  cases element with
  | header => exact free_startHeader backend
  | body => exact free_startBody backend
  | sect label => exact free_startSection backend label
  | figureBody width height => exact free_startFigureBody width height
  | figureSeries label columns => exact free_startSeries label columns
  | figureSeriesPage => exact free_startPage
  | subFigure label => exact free_startSubFigure label
  | tableRow => exact free_startRow backend
  | tableCell span align => exact free_startCell backend span align
  | sectionBody | paragraph | tablePage | list | item => exact free_startLine _ _
  | inlineMath | mathName | styled => exact free_startInline _ _
  | _ => exact .pure _

theorem free_start (backend : Backend) (element : Element) : Free id (start backend element) := by
  unfold start
  split
  · exact free_startParameter _
  · exact .bind (free_startState backend element) fun _ ↦ .pure _

/-! ### Closing an element whose frame has been taken off -/

theorem composed_closeHeader (backend : Backend) :
    Composed DocumentError.OfClosing Standing.numbered (closeHeader backend) :=
  .look (fun _ _ ↦ rfl) fun _ ↦ .bind (.emit _) fun _ ↦ .note (fun _ _ ↦ rfl) fun _ ↦ rfl

theorem composed_writeEntries (backend : Backend) (number : Nat) (works : List CitedWork) :
    Composed DocumentError.OfClosing Standing.numbered (writeEntries backend number works) := by
  induction works generalizing number with
  | nil => exact .pure _
  | cons work others ih =>
    refine .bind ?_ fun _ ↦ ih (number + 1)
    exact .bind (.emit _) fun _ ↦ .bind (.appendPhrase _ _) fun _ ↦ .emit _

theorem composed_writeReferences (backend : Backend) :
    Composed DocumentError.OfClosing Standing.numbered (writeReferences backend) := by
  refine .look (fun _ _ ↦ rfl) fun d ↦ ?_
  dsimp only
  split
  · exact .pure _
  · exact .bind (.emitLine _) fun _ ↦ .bind (composed_writeEntries _ _ _) fun _ ↦ .emit _

theorem composed_closeBody (backend : Backend) :
    Composed DocumentError.OfClosing Standing.numbered (closeBody backend) :=
  .bind (composed_writeReferences backend) fun _ ↦ .bind (.emit _) fun _ ↦
    .note (fun _ _ ↦ rfl) fun _ ↦ rfl

theorem composed_closeSectionTitle (backend : Backend) (title : Passage) :
    Composed DocumentError.OfClosing Standing.numbered (closeSectionTitle backend title) := by
  refine .look (fun _ _ ↦ rfl) fun d ↦ ?_
  split
  · exact .bind (.resolve .label) fun _ ↦ .emitLine _
  · exact .pure _

theorem composed_closeSection (backend : Backend) (label : Option Label) (path : List Nat) :
    Composed DocumentError.OfClosing Standing.numbered (closeSection backend label path) :=
  .bind (.resolve .label) fun _ ↦ .emitLine _

theorem composed_closeTable (backend : Backend) (table : PendingTable) (body : Passage) :
    Composed DocumentError.OfClosing Standing.numbered (closeTable backend table body) :=
  .bind (.note (fun _ _ ↦ rfl) fun _ ↦ rfl) fun _ ↦ .look (fun _ _ ↦ rfl) fun _ ↦
    .bind (.resolve .label) fun _ ↦ .emitLine _

theorem composed_closeEquation (backend : Backend) (label : Option Label) (body : Passage) :
    Composed DocumentError.OfClosing Standing.numbered (closeEquation backend label body) :=
  .bind (.note (fun _ _ ↦ rfl) fun _ ↦ rfl) fun _ ↦ .look (fun _ _ ↦ rfl) fun _ ↦
    .bind (.resolve .label) fun _ ↦ .emitLine _

theorem composed_storeCanvas (backend : Backend) (canvas : Canvas) (number : String)
    (caption : Passage) :
    Composed DocumentError.OfClosing Standing.numbered (storeCanvas backend canvas number caption) :=
  .look (fun _ _ ↦ rfl) fun _ ↦ .bind (.picture _ _ .io) fun _ ↦
    .bind (.note (fun _ _ ↦ rfl) fun _ ↦ rfl) fun _ ↦ .pure _

theorem composed_figureBody (backend : Backend) (figure : PendingFigure) (number : String) :
    Composed DocumentError.OfClosing Standing.numbered (figureBody backend figure number) := by
  unfold figureBody
  split
  · exact .pure _
  · exact .pure _
  · exact composed_storeCanvas backend _ number _

theorem composed_closeFigure (backend : Backend) (figure : PendingFigure) :
    Composed DocumentError.OfClosing Standing.numbered (closeFigure backend figure) :=
  .bind (.note (fun _ _ ↦ rfl) fun _ ↦ rfl) fun _ ↦ .look (fun _ _ ↦ rfl) fun _ ↦
    .bind (.resolve .label) fun _ ↦ .bind (composed_figureBody _ _ _) fun _ ↦ .emitLine _

theorem composed_seriesCell (backend : Backend) (number index : Nat) (figure : PendingFigure) :
    Composed DocumentError.OfClosing Standing.numbered (seriesCell backend number index figure) := by
  unfold seriesCell
  split
  · exact .throw .subFigures
  · exact .bind (.resolve .label) fun _ ↦ .bind (composed_figureBody _ _ _) fun _ ↦ .pure _

theorem composed_seriesCells (backend : Backend) (number index : Nat)
    (figures : List PendingFigure) :
    Composed DocumentError.OfClosing Standing.numbered (seriesCells backend number index figures) := by
  induction figures generalizing index with
  | nil => exact .pure _
  | cons figure others ih =>
    exact .bind (composed_seriesCell _ _ _ _) fun _ ↦ .bind (ih (index + 1)) fun _ ↦ .pure _

theorem composed_seriesPages (backend : Backend) (number index : Nat)
    (groups : List (List PendingFigure)) :
    Composed DocumentError.OfClosing Standing.numbered (seriesPages backend number index groups) := by
  induction groups generalizing index with
  | nil => exact .pure _
  | cons group others ih =>
    exact .bind (composed_seriesCells _ _ _ _) fun _ ↦ .bind (ih _) fun _ ↦ .pure _

theorem composed_closeSeries (backend : Backend) (series : PendingSeries) :
    Composed DocumentError.OfClosing Standing.numbered (closeSeries backend series) :=
  .bind (.note (fun _ _ ↦ rfl) fun _ ↦ rfl) fun _ ↦ .look (fun _ _ ↦ rfl) fun _ ↦
    .bind (.resolve .label) fun _ ↦ .bind (composed_seriesPages _ _ _ _) fun _ ↦ .emitLine _

theorem composed_closeMathOp (backend : Backend) (operator : Operator)
    (operands : List Passage) :
    Composed DocumentError.OfClosing Standing.numbered (closeMathOp backend operator operands) := by
  refine .bind (.refuse fun error he ↦ ?_) fun _ ↦ .append _
  split at he
  · cases he
  · cases he
    exact .operandCount _ _

theorem composed_closeInvocation (signature : Macro.Signature)
    (arguments : List (Option Passage)) :
    Composed DocumentError.OfClosing Standing.numbered (closeInvocation signature arguments) := by
  refine .look (fun _ _ ↦ rfl) fun d ↦ ?_
  split
  · exact .append _
  · exact .pure _

/-- Nothing but a title, an author or a date adds to the head. -/
theorem composed_closePlain (backend : Backend) (kind : Kind) (captured : Passage)
    (h : kind.isHeadline = false) :
    Composed DocumentError.OfClosing Standing.numbered (closePlain backend kind captured) := by
  cases kind with
  | header => exact composed_closeHeader backend
  | body => exact composed_closeBody backend
  | sectionTitle => exact composed_closeSectionTitle backend captured
  | caption => exact .offer (FrameState.keepsShape_takeCaption? _)
  | tableHeader => exact .offer (FrameState.keepsShape_takeTableHeader? _)
  | tableFooter => exact .offer (FrameState.keepsShape_takeTableFooter? _)
  | mathOpParam => exact .offer (FrameState.keepsShape_takeOperand? _)
  | sectionBody | tablePage => exact .emitLine _
  | paragraph | inlineMath | mathName | item => exact .emit _
  | title | author | date => cases h
  | _ => exact .pure _

/-- What is closed leaves the head, unless it is a part of it. -/
theorem composed_closeFrame_of_head (backend : Backend) (frame : Frame) (captured : Passage)
    (h : frame.state = .plain → frame.kind.isHeadline = false) :
    Composed DocumentError.OfClosing Standing.numbered (closeFrame backend frame captured) := by
  obtain ⟨kind, held, state⟩ := frame
  cases state with
  | plain => exact composed_closePlain backend kind captured (h rfl)
  | sect label path => exact composed_closeSection backend label path
  | figure figure => exact composed_closeFigure backend figure
  | subFigure figure => exact .offerSeries (FrameState.keepsShape_takeSubFigure? _)
  | figureBody _ _ canvas => exact .offer (FrameState.keepsShape_takeFigureBody? _)
  | figureSeries series => exact composed_closeSeries backend series
  | table table => exact composed_closeTable backend table captured
  | equation label => exact composed_closeEquation backend label captured
  | mathOp operator operands => exact composed_closeMathOp backend operator operands
  | macroDefinition signature => exact .note (fun _ _ ↦ rfl) fun _ ↦ rfl
  | macroInvocation signature arguments => exact composed_closeInvocation signature arguments
  | argument index => exact .offer (FrameState.keepsShape_takeArgument? _ _)
  | tableRow | tableCell | styled => exact .emit _
  | list ordered => exact .emitLine _

/-- Closing may be refused for a label, a file, a limit or an operand count, and for nothing
else. -/
theorem composed_closeFrame (backend : Backend) (frame : Frame) (captured : Passage) :
    Composed DocumentError.OfClosing Standing.bound (closeFrame backend frame captured) := by
  by_cases h : frame.state = .plain → frame.kind.isHeadline = false
  · exact (composed_closeFrame_of_head backend frame captured h).comp_view fun view ↦
      ({ view.1 with head := {} }, view.2)
  · obtain ⟨kind, held, state⟩ := frame
    obtain ⟨rfl, h⟩ := Classical.not_imp.mp h
    cases kind with
    | title | author | date => exact .note (fun _ _ ↦ rfl) fun _ ↦ rfl
    | _ => exact absurd rfl h

/-! ### Writing -/

theorem free_writePhrase (backend : Backend) (phrase : Phrase) :
    Free id (writePhrase backend phrase) :=
  .look (fun _ _ ↦ rfl) fun _ ↦ .bind (.refuse fun _ _ ↦ trivial) fun _ ↦ .appendPhrase _ _

theorem free_labelStates (labels : List Label) : Free id (labelStates labels) := by
  induction labels with
  | nil => exact .pure _
  | cons label others ih =>
    refine .look (fun _ _ ↦ rfl) fun d ↦ ?_
    split
    · exact .throw trivial
    · exact .bind ih fun _ ↦ .pure _

/-- The states of labels are looked up without any change. -/
theorem keeps_labelStates (labels : List Label) : Keeps id (labelStates labels) := by
  induction labels with
  | nil => exact keeps_pure
  | cons label others ih =>
    refine keeps_current fun d ↦ ?_
    split
    · exact keeps_throw
    · exact ih.bind fun _ ↦ keeps_pure

theorem free_registerWorks (records : List Record) : Free Standing.fixed (registerWorks records) :=
  .look (fun _ _ ↦ rfl) fun _ ↦ .bind (.note (fun _ _ ↦ rfl) fun _ ↦ rfl) fun _ ↦ .pure _

theorem free_createLabel (target : Target) : Free Standing.fixed (createLabel target) :=
  .look (fun _ _ ↦ rfl) fun _ ↦ .bind (.note (fun _ _ ↦ rfl) fun _ ↦ rfl) fun _ ↦ .pure _

theorem free_paint (fills : List Fill) : Free id (paint fills) := by
  refine .look (fun _ _ ↦ rfl) fun d ↦ ?_
  split
  · exact .bind (.offer (FrameState.keepsShape_takePaint? _)) fun _ ↦ .pure _
  · exact .throw trivial

/-! ### Calls -/

/-- What lasts when a phrase is written, when the output is streamed, and when something is painted,
labelled or cited lasts through every call but the beginning and the end of elements. -/
theorem ensures_writing {good : Session → Prop} {backend : Backend} {call : Call}
    (phrase : ∀ phrase, Ensures good (writePhrase backend phrase) (fun _ ↦ good) fun _ ↦ good)
    (stream : ∀ s, good s → good (s.modifyDocument Document.stream))
    (painted : ∀ fills, call = .paint fills →
      Ensures good (paint fills) (fun _ ↦ good) fun _ ↦ good)
    (label : ∀ target, call = .createLabel target →
      Ensures good (createLabel target) (fun _ ↦ good) fun _ ↦ good)
    (works : ∀ style records, call = .cite style records →
      Ensures good (registerWorks records) (fun _ ↦ good) fun _ ↦ good)
    (hb : ∀ element, call ≠ .beginElement element) (he : ∀ kind, call ≠ .endElement kind) :
    Ensures good (call.action backend) (fun _ ↦ good) fun _ ↦ good := by
  have streamed (text : Phrase) : Ensures good
      (do writePhrase backend text; change Document.stream) (fun _ ↦ good) fun _ ↦ good :=
    (phrase text).bind fun _ ↦ ensures_change stream
  have done {α : Type} {act : Action α} (reply : α → Reply)
      (h : Ensures good act (fun _ ↦ good) fun _ ↦ good) :
      Ensures good (do return reply (← act)) (fun _ ↦ good) fun _ ↦ good :=
    h.bind fun _ ↦ ensures_pure fun _ hs ↦ hs
  cases call with
  | createLabel target => exact done _ (label target rfl)
  | beginElement element => exact absurd rfl (hb element)
  | endElement kind => exact absurd rfl (he kind)
  | write text => exact done _ (streamed _)
  | writeNumber number => exact done _ (streamed _)
  | writeSpace => exact done _ (phrase _)
  | writeSeries joiner bound items => exact done _ (streamed _)
  | reference joiner bound labels =>
    exact done _ ((ensures_of_keeps (keeps_labelStates labels)).bind fun _ ↦ streamed _)
  | cite style records =>
    refine done (fun _ ↦ .done) ?_
    unfold cite
    split
    · exact ensures_pure fun _ hs ↦ hs
    · refine ensures_current fun d ↦ Ensures.through (fun _ ↦ good) ?_ fun _ ↦
        (works style records rfl).bind fun _ ↦ streamed _
      exact (ensures_of_keeps keeps_refuse).mono (fun _ hs ↦ hs.1) (fun _ _ hs ↦ hs)
        fun _ _ hs ↦ hs
  | paint fills => exact (painted fills rfl).bind fun _ ↦ ensures_pure fun _ hs ↦ hs

section Views

variable {γ : Type} {view : Session → γ}

theorem keeps_writePhrase (backend : Backend) (phrase : Phrase)
    (h : ∀ s : Session, view (s.modifyDocument (·.appendPhrase backend phrase)) = view s) :
    Keeps view (writePhrase backend phrase) :=
  keeps_current fun _ ↦ keeps_refuse.bind fun _ ↦ keeps_change h

theorem keeps_paint (fills : List Fill) (h : ∀ s : Session,
    view (s.modifyDocument (·.offer (FrameState.takePaint? fills))) = view s) :
    Keeps view (paint fills) := by
  refine keeps_current fun d ↦ ?_
  split
  · exact (keeps_change h).bind fun _ ↦ keeps_pure
  · exact keeps_throw

theorem keeps_createLabel (target : Target) (h : ∀ (s : Session) (labels : Registry),
    view (s.modifyDocument ({ · with labels })) = view s) : Keeps view (createLabel target) :=
  keeps_current fun _ ↦ (keeps_change fun s ↦ h s _).bind fun _ ↦ keeps_pure

theorem keeps_registerWorks (records : List Record)
    (h : ∀ (s : Session) (bibliography : Bibliography),
      view (s.modifyDocument ({ · with bibliography })) = view s) :
    Keeps view (registerWorks records) :=
  keeps_current fun _ ↦ (keeps_change fun s ↦ h s _).bind fun _ ↦ keeps_pure

/-- What tells nothing of what is written, streamed, painted, labelled and cited is kept by every
call but the beginning and the end of elements. -/
theorem keeps_writing {backend : Backend} {call : Call}
    (phrase : ∀ phrase, Keeps view (writePhrase backend phrase))
    (stream : ∀ s : Session, view (s.modifyDocument Document.stream) = view s)
    (painted : ∀ fills, call = .paint fills → Keeps view (paint fills))
    (label : ∀ target, call = .createLabel target → Keeps view (createLabel target))
    (works : ∀ records, Keeps view (registerWorks records))
    (hb : ∀ element, call ≠ .beginElement element) (he : ∀ kind, call ≠ .endElement kind) :
    Keeps view (call.action backend) :=
  fun v ↦ ensures_writing (fun text ↦ phrase text v) (fun s hs ↦ (stream s).trans hs)
    (fun fills hc ↦ painted fills hc v) (fun target hc ↦ label target hc v)
    (fun _ records _ ↦ works records v) hb he

end Views

/-- No call but the beginning and the end of elements changes the outline or the origin. -/
theorem keeps_fixed_action (backend : Backend) (call : Call)
    (hb : ∀ element, call ≠ .beginElement element) (he : ∀ kind, call ≠ .endElement kind) :
    Keeps (·.document.standing.fixed) (call.action backend) := by
  refine keeps_writing (fun phrase ↦ ?_) (fun s ↦ ?_) (fun fills _ ↦ ?_)
    (fun target _ ↦ (free_createLabel target).keeps) (fun records ↦ (free_registerWorks records).keeps)
    hb he
  · exact ((free_writePhrase backend phrase).comp_view Standing.fixed).keeps
  · exact congrArg Standing.fixed s.document.standing_stream
  · exact ((free_paint fills).comp_view Standing.fixed).keeps

/-- No call but the beginning and the end of elements brings a document further. -/
theorem keeps_phase_action (backend : Backend) (call : Call)
    (hb : ∀ element, call ≠ .beginElement element) (he : ∀ kind, call ≠ .endElement kind) :
    Keeps (·.document.phase) (call.action backend) :=
  keeps_writing (fun _ ↦ keeps_writePhrase backend _ fun _ ↦ rfl) (fun _ ↦ rfl)
    (fun _ _ ↦ keeps_paint _ fun _ ↦ rfl) (fun _ _ ↦ keeps_createLabel _ fun _ _ ↦ rfl)
    (fun _ ↦ keeps_registerWorks _ fun _ _ ↦ rfl) hb he

/-- No call changes the settings of a document or where it is written. -/
theorem keeps_origin_action (backend : Backend) (call : Call) :
    Keeps (·.document.origin) (call.action backend) := by
  have check (reason : Option DocumentError) : Keeps (·.document.origin) (refuse reason) :=
    (Composed.refuse (E := fun _ ↦ True) (V := Standing.origin) fun _ _ ↦ trivial).keeps
  cases call with
  | beginElement element =>
    refine Keeps.bind (keeps_current fun d ↦ ?_) fun _ ↦ keeps_pure
    refine (check _).bind fun _ ↦ (check _).bind fun _ ↦ (check _).bind fun _ ↦
      ((free_start backend element).keeps.comp Standing.origin).bind fun answer ↦ ?_
    have attached : Free Standing.fixed (attach element.kind element.label?) :=
      .attach fun _ _ ↦ trivial
    exact (attached.keeps.comp Prod.snd).bind fun _ ↦ keeps_change fun _ ↦ rfl
  | endElement kind =>
    refine Keeps.bind (keeps_current fun d ↦ ?_) fun _ ↦ keeps_pure
    split
    · exact keeps_throw
    · next frame outer hd =>
      split
      · refine Keeps.bind (keeps_change fun _ ↦ rfl) fun _ ↦ Keeps.bind ?_ fun captured ↦
          Keeps.bind (keeps_change fun _ ↦ rfl) fun _ ↦
            ((composed_closeFrame backend frame captured).keeps.comp (·.1.origin)).bind fun _ ↦
              keeps_change fun _ ↦ rfl
        unfold release
        split
        · refine keeps_current fun d ↦ ?_
          split
          · exact keeps_throw
          · exact Keeps.bind (keeps_change fun _ ↦ rfl) fun _ ↦ keeps_pure
        · exact keeps_pure
      · exact keeps_throw
  | _ =>
    exact (keeps_fixed_action backend _ (fun _ hc ↦ by cases hc) fun _ hc ↦ by cases hc).comp
      Prod.snd

/-- What an action leaves behind is what the call leaves behind, with the answer of the action. -/
theorem perform_ensures {before : Session → Prop} {backend : Backend} {call : Call} {s : Session}
    {P : Except DocumentError Reply → Session → Prop}
    (h : Ensures before (call.action backend) (fun reply ↦ P (.ok reply))
      fun error ↦ P (.error error)) (hs : before s) :
    P (s.perform backend call).1 (s.perform backend call).2 := by
  have ended := h s hs
  unfold perform
  split
  · next he =>
    rw [he] at ended
    exact ended
  · next he =>
    rw [he] at ended
    exact ended

/-- The same where only being accepted matters. -/
theorem perform_of_ensures_answer {before after refused : Session → Prop} {backend : Backend}
    {call : Call} {s : Session}
    (h : Ensures before (call.action backend) (fun _ ↦ after) fun _ ↦ refused) (hs : before s) :
    (if (s.perform backend call).1.isOk then after else refused) (s.perform backend call).2 :=
  perform_ensures (P := fun answer ↦ if answer.isOk then after else refused) h hs

/-- What an action leaves behind in any case is what the call leaves behind. -/
theorem perform_of_ensures {before after : Session → Prop} {backend : Backend} {call : Call}
    {s : Session} (h : Ensures before (call.action backend) (fun _ ↦ after) fun _ ↦ after)
    (hs : before s) : after (s.perform backend call).2 :=
  perform_ensures (P := fun _ ↦ after) h hs

/-- A call has the answer of its action. -/
theorem perform_eq_ok_iff {backend : Backend} {call : Call} {s t : Session} {reply : Reply} :
    s.perform backend call = (.ok reply, t) ↔ call.action backend s = .ok reply t := by
  rw [perform]
  cases call.action backend s with
  | ok reply' t' =>
    refine ⟨fun h ↦ ?_, fun h ↦ ?_⟩
    · obtain ⟨hr, rfl⟩ := Prod.mk.inj h
      rw [Except.ok.inj hr]
    · cases h
      rfl
  | error error t' => exact ⟨fun h ↦ (by cases h), fun h ↦ (by cases h)⟩

/-- A call that answers with nothing is accepted if what is done for it is. -/
theorem perform_of_ok {backend : Backend} {call : Call} {act : Action Unit} {s t : Session}
    (ha : call.action backend = act >>= fun _ ↦ pure .done) (h : act s = .ok () t) :
    s.perform backend call = (.ok .done, t) := by
  rw [perform_eq_ok_iff, ha]
  exact bind_eq_ok.mpr ⟨(), t, h, rfl⟩

theorem perform_of_error {backend : Backend} {call : Call} {act : Action Unit} {s t : Session}
    {error : DocumentError} (ha : call.action backend = act >>= fun _ ↦ pure .done)
    (h : act s = .error error t) : s.perform backend call = (.error error, t) := by
  have refused : call.action backend s = .error error t := by
    rw [ha]
    change EStateM.bind act (fun _ ↦ pure Reply.done) s = _
    rw [EStateM.bind, h]
  rw [perform, refused]

theorem run_cons (backend : Backend) (s : Session) (call : Call) (calls : List Call) :
    s.run backend (call :: calls) = (s.perform backend call).2.run backend calls :=
  List.foldl_cons ..

theorem run_append (backend : Backend) (s : Session) (calls calls' : List Call) :
    s.run backend (calls ++ calls') = (s.run backend calls).run backend calls' := List.foldl_append

/-- What every call keeps is the same after a run. -/
theorem run_keeps {γ : Type} {view : Session → γ} {backend : Backend}
    (h : ∀ call : Call, Keeps view (call.action backend)) (calls : List Call) (s : Session) :
    view (s.run backend calls) = view s := by
  induction calls generalizing s with
  | nil => rfl
  | cons call calls ih =>
    rw [run, List.foldl_cons, ← run, ih]
    exact perform_of_ensures (h call (view s)) rfl

end Session

end Manuscript
