import Manuscript.Document.Begin
import Manuscript.Proofs.Document.Agreement

/-!
# Elements begin alike

Where documents are alike, an element begins in both or in neither, and writes markup that
corresponds (`Session.alike_beginElement`).
-/

namespace Manuscript

/-- The names of the authors in markup correspond. -/
theorem Head.Alike.byline {L : Likeness} {backend : Backend} {head head' : Head}
    (h : head.Alike L head') (hB : L.Respects backend) :
    Option.Rel L.markup (head.byline Passage.markup) (head'.byline Passage.markup) := by
  have authors := h.authors
  unfold Head.byline
  rw [isEmpty_eq_of_forall₂ authors]
  split
  · exact .none
  · refine .some (hB.byline ?_)
    rw [List.forall₂_map_left_iff, List.forall₂_map_right_iff]
    exact authors.imp fun _ _ ha ↦ ha.markup

namespace Session

open Action

variable {L : Likeness} {Q : (Counter → Nat) → String → String → Prop}
  {aside : Counter → Nat → Prop} {backend : Backend}

/-- What is begun is alike, and its content is held back in both documents or in neither. -/
def StartedAlike (L : Likeness) (answer answer' : FrameState × Bool) : Prop :=
  answer.1.Alike L answer'.1 ∧ answer.2 = answer'.2

theorem alike_argument {signature : Macro.Signature} (index : Nat) :
    Action.Alike L Q (StartedAlike L)
      (do refuse (parameterError signature index); return (.argument index, true))
      (do refuse (parameterError signature index); return (.argument index, true)) :=
  (alike_refuse rfl).bind fun _ _ _ ↦ alike_pure ⟨.argument index, rfl⟩

/-- The side of a figure is as long. -/
theorem alike_side (millimetres : Float) :
    Action.Alike L Q (· = ·) (side millimetres) (side millimetres) := by
  refine alike_current fun d d' hd ↦ ?_
  rw [hd.same (fun d ↦ d.settings.dpi) fun _ ↦ rfl]
  split
  · exact alike_pure rfl
  · exact alike_throw _

theorem alike_startFigureBody (width height : Float) :
    Action.Alike L Q (FrameState.Alike L) (startFigureBody width height)
      (startFigureBody width height) := by
  refine (alike_side width).bind fun w _ hw ↦ (alike_side height).bind fun h _ hh ↦ ?_
  subst hw hh
  exact alike_pure (.figureBody w h none)

theorem alike_startSeries (hL : L.Joins) (label : Option Label) (columns : Nat) :
    Action.Alike L Q (FrameState.Alike L) (startSeries label columns)
      (startSeries label columns) := by
  unfold startSeries
  split
  · exact alike_throw _
  · exact alike_pure (.figureSeries ⟨rfl, rfl, ⟨hL.empty, rfl⟩, .nil, .nil⟩)

theorem alike_startSubFigure (hL : L.Joins) (label : Option Label) :
    Action.Alike L Q (FrameState.Alike L) (startSubFigure label) (startSubFigure label) := by
  refine alike_current fun d d' hd ↦ ?_
  rw [Frames.subFigureCount?_eq hd.frames]
  split
  · exact alike_throw _
  · exact alike_pure (.subFigure ⟨rfl, .empty, ⟨hL.empty, rfl⟩⟩)

theorem alike_startPage :
    Action.Alike L Q (FrameState.Alike L) startPage startPage :=
  (alike_change fun _ _ hd ↦ hd.offer FrameState.takesAlike_turnPage).bind fun _ _ _ ↦
    alike_pure .plain

section Writing

variable (hB : L.Respects backend) (hQ : L.Follows aside Q)

include hB hQ

theorem alike_startHeader :
    Action.Alike L Q (FrameState.Alike L) (startHeader backend) (startHeader backend) := by
  refine (alike_change fun d d' hd ↦ ?_).bind fun _ _ _ ↦ alike_pure .plain
  have begun := hd.note (f := ({ · with phase := .header })) (fun _ _ _ _ _ _ ↦ rfl) hd.root
  exact begun.write hB.toJoining hQ ⟨hB.documentStart, rfl⟩

theorem alike_startBody :
    Action.Alike L Q (FrameState.Alike L) (startBody backend) (startBody backend) := by
  refine (alike_change fun d d' hd ↦ ?_).bind fun _ _ _ ↦ alike_pure .plain
  have begun := hd.note (f := ({ · with phase := .body })) (fun _ _ _ _ _ _ ↦ rfl) hd.root
  have title : L.markup _ _ := hB.titleBlock (optionRel_map hd.head.title fun _ _ ht ↦ ht.markup)
    (hd.head.byline hB) (optionRel_map hd.head.date fun _ _ ht ↦ ht.markup)
  exact begun.write hB.toJoining hQ ⟨hB.append hB.bodyStart title, rfl⟩

theorem alike_startSection (label : Option Label) :
    Action.Alike L Q (FrameState.Alike L) (startSection backend label)
      (startSection backend label) := by
  refine alike_current fun d d' hd ↦ ?_
  rw [Frames.sectionDepth_eq hd.frames, hd.same Document.sectionPath fun _ ↦ rfl]
  dsimp only
  split
  · exact alike_throw _
  · refine (alike_change fun e e' he ↦ ?_).bind fun _ _ _ ↦ alike_pure (.sect _ _)
    let path := Document.nextSectionPath d'.sectionPath (d'.frames.sectionDepth + 1)
    have begun := he.note (f := fun e ↦ { e with sectionPath := path, sections := e.sections + 1 })
      (fun _ _ _ _ _ _ ↦ rfl) he.root
    exact begun.write hB.toJoining hQ ⟨hB.sectionStart _ _ _ _ begun.lineBreak, rfl⟩

theorem alike_startRow :
    Action.Alike L Q (FrameState.Alike L) (startRow backend) (startRow backend) := by
  refine alike_current fun d d' hd ↦ ?_
  rw [hd.innermost_eq]
  exact alike_startLine hB hQ hB.tableRowStart (.tableRow _ _)

theorem alike_startCell (span : Nat) (align : Option Alignment) :
    Action.Alike L Q (FrameState.Alike L) (startCell backend span align)
      (startCell backend span align) := by
  refine alike_current fun d d' hd ↦ ?_
  have top := Frames.topState?_alike hd.frames
  have alignment := Frames.columnAlignment?_eq hd.frames
  have begun (header : Bool) (column : Nat) : Action.Alike L Q (FrameState.Alike L) (do
      change (·.offer (FrameState.advance? (max span 1)))
      startInline (backend.tableCellStart header (max span 1)
        (align <|> d.frames.columnAlignment? column)) (.tableCell header)) (do
      change (·.offer (FrameState.advance? (max span 1)))
      startInline (backend.tableCellStart header (max span 1)
        (align <|> d'.frames.columnAlignment? column)) (.tableCell header)) := by
    rw [alignment]
    exact (alike_change fun _ _ hd ↦ hd.offer (FrameState.takesAlike_advance _)).bind
      fun _ _ _ ↦ alike_startInline hB hQ (hB.tableCellStart _ _ _) (.tableCell header)
  revert top
  generalize d.frames.topState? = state
  generalize d'.frames.topState? = state'
  rintro (⟨_ | _⟩ | _) <;> exact begun _ _

theorem alike_writeMarker (index : Nat) :
    Action.Alike L Q (fun _ _ ↦ True) (writeMarker index) (writeMarker index) := by
  unfold writeMarker
  split
  · next hm => exact alike_append hB hQ ⟨hB.marker hm, rfl⟩
  · exact alike_pure trivial

theorem alike_startParameter (index : Nat) :
    Action.Alike L Q (StartedAlike L)
      (startParameter index) (startParameter index) := by
  refine alike_current fun d d' hd ↦ ?_
  have top := Frames.topState?_alike hd.frames
  rw [Frames.definition?_eq_of_alike hd.frames, hd.innermost_eq]
  revert top
  generalize d.frames.topState? = state
  generalize d'.frames.topState? = state'
  cases d'.frames.definition? with
  | none =>
    rintro (⟨_ | _⟩ | _)
    case some.macroInvocation => exact alike_argument index
    all_goals exact alike_throw _
  | some signature =>
    have placed : Action.Alike L Q (StartedAlike L)
        (do refuse (parameterError signature index); writeMarker index; return (.plain, false))
        (do refuse (parameterError signature index); writeMarker index; return (.plain, false)) :=
      (alike_refuse rfl).bind fun _ _ _ ↦ (alike_writeMarker hB hQ index).bind
        fun _ _ _ ↦ alike_pure ⟨.plain, rfl⟩
    rintro (⟨_ | _⟩ | _)
    case some.macroInvocation => exact alike_argument index
    all_goals exact placed

theorem alike_startState (element : Element) :
    Action.Alike L Q (FrameState.Alike L) (startState backend element)
      (startState backend element) := by
  have blank : Passage.Alike L {} {} := ⟨hB.empty, rfl⟩
  cases element with
  | header => exact alike_startHeader hB hQ
  | body => exact alike_startBody hB hQ
  | sect label => exact alike_startSection hB hQ label
  | sectionBody => exact alike_startLine hB hQ hB.sectionBodyStart .plain
  | paragraph => exact alike_startLine hB hQ hB.paragraphStart .plain
  | figure label => exact alike_pure (.figure ⟨rfl, .empty, blank⟩)
  | figureBody width height => exact alike_startFigureBody width height
  | figureSeries label columns => exact alike_startSeries hB.toJoining label columns
  | figureSeriesPage => exact alike_startPage
  | subFigure label => exact alike_startSubFigure hB.toJoining label
  | table label columns => exact alike_pure (.table ⟨rfl, rfl, blank, .none, .none⟩)
  | tablePage => exact alike_startLine hB hQ hB.tableGroupStart .plain
  | tableRow => exact alike_startRow hB hQ
  | tableCell span align => exact alike_startCell hB hQ span align
  | equation label => exact alike_pure (.equation label)
  | inlineMath => exact alike_startInline hB hQ hB.inlineMathStart .plain
  | mathOp operator => exact alike_pure (.mathOp operator .nil)
  | mathName => exact alike_startInline hB hQ hB.mathNameStart .plain
  | macroDefinition signature => exact alike_pure (.macroDefinition signature)
  | macroInvocation signature =>
    refine alike_pure (.macroInvocation signature ?_)
    exact List.forall₂_same.mpr fun argument ha ↦ by
      rw [List.eq_of_mem_replicate ha]
      exact .none
  | styled style => exact alike_startInline hB hQ (hB.inlineStart style) (.styled style)
  | list ordered => exact alike_startLine hB hQ (hB.listStart ordered) (.list ordered)
  | item => exact alike_startLine hB hQ hB.itemStart .plain
  | _ => exact alike_pure .plain

theorem alike_start (element : Element) :
    Action.Alike L Q (StartedAlike L)
      (start backend element) (start backend element) := by
  cases element with
  | macroParameter index => exact alike_startParameter hB hQ index
  | _ =>
    exact (alike_startState hB hQ _).bind fun _ _ hs ↦ alike_pure ⟨hs, rfl⟩

/-- Elements begin alike. -/
theorem alike_beginElement (element : Element) :
    Action.Alike L Q (fun _ _ ↦ True) (beginElement backend element)
      (beginElement backend element) := by
  refine alike_current fun d d' hd ↦ ?_
  have nesting : d.nestingError element.kind = d'.nestingError element.kind := by
    unfold Document.nestingError
    rw [hd.innermost_eq]
  have phase : d.phaseFault element.kind = d'.phaseFault element.kind := by
    unfold Document.phaseFault
    rw [hd.same Document.phase fun _ ↦ rfl]
  have label : d.attachError element = d'.attachError element := by
    unfold Document.attachError
    rw [hd.same Document.labels fun _ ↦ rfl]
  refine (alike_refuse nesting).bind fun _ _ _ ↦ (alike_refuse (by rw [phase])).bind fun _ _ _ ↦
    (alike_refuse label).bind fun _ _ _ ↦ (alike_start hB hQ element).bind
      fun answer answer' ha ↦ (alike_attach _ _).bind fun _ _ _ ↦ ?_
  exact alike_change fun _ _ hd ↦ hd.push hB.toJoining ⟨rfl, ha.2, ha.1⟩

end Writing

end Session

end Manuscript
