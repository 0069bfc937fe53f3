import Manuscript.Document.Action
import Manuscript.Drawing.Size

/-!
# Beginning elements

An element is begun if its kind may stand where it would, the document has come far enough, its
label can be attached, and no limit is exceeded. The checks come in this order. What stands at the
start of the element is written next, then the label is attached, and the frame comes last.
-/

namespace Manuscript

namespace Document

/-- Why an element of the kind may not stand inside the innermost open one, if it may not. -/
def nestingError (d : Document) (kind : Kind) : Option DocumentError :=
  if kind.allowedIn d.innermost then none else some (.illegalNesting kind d.innermost)

/-- Why an element of the kind comes at the wrong time, if it does. -/
def phaseFault (d : Document) (kind : Kind) : Option LifecycleFault :=
  match kind, d.phase with
  | .header, .start | .body, .headerDone => none
  | .header, _ => some .headerRepeated
  | .body, .start | .body, .header => some .bodyBeforeHeader
  | .body, _ => some .bodyRepeated
  | _, _ => none

/-- Why the label of the element cannot be attached, if it has one and there is a reason. -/
def attachError (d : Document) (element : Element) : Option DocumentError :=
  match element.label? with
  | some label => (d.labels.attachFault label element.kind).map (.label label)
  | none => none

/-- The path of a section that is begun at some depth: the next one under the same parent. -/
def nextSectionPath (path : List Nat) (depth : Nat) : List Nat :=
  let kept := path.take depth
  if kept.length = depth then kept.dropLast ++ [kept.getLastD 0 + 1] else kept ++ [1]

/-- Open a frame, with a capture if its content is held back. -/
def push (d : Document) (frame : Frame) : Document :=
  { d with
    output := if frame.captured then d.output.capture else d.output
    frames := frame :: d.frames
    tagDepth := d.tagDepth + 1 }

end Document

namespace Session

open Action

/-- Write markup on a new line and give the state of an element that starts with it. -/
def startLine (markup : String) (state : FrameState) : Action FrameState := do
  change (·.emitLine markup)
  return state

/-- Write markup and give the state of an element that starts with it. -/
def startInline (markup : String) (state : FrameState) : Action FrameState := do
  change (·.emit markup)
  return state

/-- Begin the header. -/
def startHeader (backend : Backend) : Action FrameState := do
  change fun d ↦ { d with phase := .header }.emit backend.documentStart
  return .plain

/-- Begin the body with what the header said. -/
def startBody (backend : Backend) : Action FrameState := do
  change fun d ↦ { d with phase := .body }.emit
    (backend.bodyStart ++
      backend.titleBlock (d.head.title.map Passage.markup) (d.head.byline Passage.markup)
        (d.head.date.map Passage.markup))
  return .plain

/-- Begin a section. -/
def startSection (backend : Backend) (label : Option Label) : Action FrameState := do
  let d ← current
  let depth := d.frames.sectionDepth + 1
  if Limit.maxSectionDepth < depth then throw (.limitExceeded .sectionDepth)
  else
    let path := Document.nextSectionPath d.sectionPath depth
    change fun d ↦ { d with sectionPath := path, sections := d.sections + 1 }.emitLine
      (backend.sectionStart depth (label.map Label.key))
    return .sect label path

/-- The number of pixels along a side of a figure. -/
def side (millimetres : Float) : Action Nat := do
  match pixels millimetres (← current).settings.dpi with
  | .ok count => return count
  | .error limit => throw (.limitExceeded limit)

/-- Begin a figure body of some size. -/
def startFigureBody (width height : Float) : Action FrameState := do
  let width ← side width
  let height ← side height
  return .figureBody width height none

/-- Begin a figure series. -/
def startSeries (label : Option Label) (columns : Nat) : Action FrameState :=
  if columns = 0 then throw (.limitExceeded .columns)
  else return .figureSeries { label, columns }

/-- Begin a page of sub-figures. -/
def startPage : Action FrameState := do
  change (·.offer FrameState.turnPage?)
  return .plain

/-- Begin a sub-figure. -/
def startSubFigure (label : Option Label) : Action FrameState := do
  if (← current).frames.subFigureCount?.any (Limit.maxSubFigures ≤ ·) then
    throw (.limitExceeded .subFigures)
  else return .subFigure { label }

/-- Begin a table row. -/
def startRow (backend : Backend) : Action FrameState := do
  let header := (← current).innermost == some .tableHeader
  startLine backend.tableRowStart (.tableRow header 0)

/-- Begin a table cell. Its alignment is its own, or that of the column where it starts. -/
def startCell (backend : Backend) (span : Nat) (align : Option Alignment) :
    Action FrameState := do
  let d ← current
  let span := max span 1
  let (header, column) :=
    match d.frames.topState? with
    | some (.tableRow header column) => (header, column)
    | _ => (false, 0)
  change (·.offer (FrameState.advance? span))
  startInline
    (backend.tableCellStart header span (align <|> d.frames.columnAlignment? column))
    (.tableCell header)

/-- Why a parameter does not exist, if it does not. -/
def parameterError (signature : Macro.Signature) (index : Nat) : Option DocumentError :=
  if index < signature.arity then none
  else some (.limitExceeded (.parameter index signature.name signature.arity))

/-- Write the marker of a parameter. -/
def writeMarker (index : Nat) : Action Unit :=
  match Marker.char? index with
  | some marker => change (·.append ⟨String.singleton marker, String.singleton marker⟩)
  | none => pure ()

/-- Begin a macro parameter: an argument directly inside an invocation, a placeholder anywhere else
inside a definition. The content of an argument is held back. -/
def startParameter (index : Nat) : Action (FrameState × Bool) := do
  let d ← current
  match d.frames.topState? with
  | some (.macroInvocation signature _) =>
    refuse (parameterError signature index)
    return (.argument index, true)
  | _ =>
    match d.frames.definition? with
    | none => throw (.illegalNesting .macroParameter d.innermost)
    | some signature =>
      refuse (parameterError signature index)
      writeMarker index
      return (.plain, false)

/-- Write what stands at the start of an element other than a macro parameter and give its
state. -/
def startState (backend : Backend) (element : Element) : Action FrameState :=
  match element with
  | .header => startHeader backend
  | .body => startBody backend
  | .sect label => startSection backend label
  | .sectionBody => startLine backend.sectionBodyStart .plain
  | .paragraph => startLine backend.paragraphStart .plain
  | .figure label => return .figure { label }
  | .figureBody width height => startFigureBody width height
  | .figureSeries label columns => startSeries label columns
  | .figureSeriesPage => startPage
  | .subFigure label => startSubFigure label
  | .table label columns => return .table { label, columns }
  | .tablePage => startLine backend.tableGroupStart .plain
  | .tableRow => startRow backend
  | .tableCell span align => startCell backend span align
  | .equation label => return .equation label
  | .inlineMath => startInline backend.inlineMathStart .plain
  | .mathOp operator => return .mathOp operator []
  | .mathName => startInline backend.mathNameStart .plain
  | .macroDefinition signature => return .macroDefinition signature
  | .macroInvocation signature =>
    return .macroInvocation signature (List.replicate signature.arity none)
  | .styled style => startInline (backend.inlineStart style) (.styled style)
  | .list ordered => startLine (backend.listStart ordered) (.list ordered)
  | .item => startLine backend.itemStart .plain
  | .title | .authors | .author | .date | .sectionTitle | .caption | .tableHeader | .tableFooter
  | .mathOpParam | .macroParameter _ => return .plain

/-- Write what stands at the start of an element, give its state, and say whether its content is
held back. -/
def start (backend : Backend) (element : Element) : Action (FrameState × Bool) :=
  match element with
  | .macroParameter index => startParameter index
  | _ => return (← startState backend element, element.kind.captures)

/-- Begin an element inside the innermost open one. -/
def beginElement (backend : Backend) (element : Element) : Action Unit := do
  let kind := element.kind
  let d ← current
  refuse (d.nestingError kind)
  refuse ((d.phaseFault kind).map .lifecycle)
  refuse (d.attachError element)
  let (state, captured) ← start backend element
  attach kind element.label?
  change (·.push ⟨kind, captured, state⟩)

end Session

end Manuscript
