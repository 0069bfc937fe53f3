import Manuscript.Document.Action
import Manuscript.Text.Blank

/-!
# Ending elements

Only the innermost element can be ended. Most elements write their end, hand what they captured to
the element around them, or turn it into finished markup. Closing a figure may write image files,
and a formula may have the wrong number of operands; when that fails the element is gone all the
same, and so are the numbers that it took.
-/

namespace Manuscript

namespace Document

/-- Keep a title. -/
def takeTitle (title : Passage) (d : Document) : Document :=
  { d with head := { d.head with title := some title } }

/-- Keep the name of one more author. -/
def takeAuthor (author : Passage) (d : Document) : Document :=
  { d with head := { d.head with authors := d.head.authors ++ [author] } }

/-- Keep a date. -/
def takeDate (date : Passage) (d : Document) : Document :=
  { d with head := { d.head with date := some date } }

/-- Write an operator applied to its operands. -/
def closeOperator (backend : Backend) (operator : Operator) (operands : List Passage)
    (d : Document) : Document :=
  d.append
    ⟨backend.mathOperator operator (operands.map Passage.markup),
      operator.plainText (operands.map Passage.text)⟩

/-- Define a macro by its body. -/
def closeDefinition (signature : Macro.Signature) (body : Passage) (d : Document) : Document :=
  { d with
    macros := d.macros.define signature.name ⟨.parse body.markup, .parse body.text⟩ }

/-- The name of the image file of a figure; `number` is its number, with a letter in a series. -/
def imageName (d : Document) (number : String) : String :=
  d.stem ++ "-figure" ++ number ++ "." ++ d.settings.format.extension

end Document

namespace Session

open Action

/-- Write the rest of the head. -/
def closeHeader (backend : Backend) : Action Unit := do
  let head := (← current).head
  change (·.emit (backend.head (head.title.map Passage.text) (head.byline Passage.text)
    (head.date.map Passage.text)))
  change ({ · with phase := .headerDone })

/-- Write an entry of the reference list. -/
def writeEntry (backend : Backend) (work : CitedWork) (number : Nat) : Action Unit := do
  change (·.emit (backend.bibliographyEntryStart work.key number))
  change (·.appendPhrase backend work.record.entry)
  change (·.emit backend.bibliographyEntryEnd)

/-- Write the entries of works, of which the first has a number. -/
def writeEntries (backend : Backend) (number : Nat) : List CitedWork → Action Unit
  | [] => return
  | work :: others => do
    writeEntry backend work number
    writeEntries backend (number + 1) others

/-- Write the reference list, if any work was cited. -/
def writeReferences (backend : Backend) : Action Unit := do
  let works := (← current).bibliography.works
  if works.isEmpty then return
  else
    change (·.emitLine backend.bibliographyStart)
    writeEntries backend 1 works
    change (·.emit backend.bibliographyEnd)

/-- Write the reference list and the end of the body. -/
def closeBody (backend : Backend) : Action Unit := do
  writeReferences backend
  change (·.emit backend.bodyEnd)
  change ({ · with phase := .done })

/-- The number of a section as a text. -/
def sectionNumber (path : List Nat) : String := ".".intercalate (path.map toString)

/-- Number the section around a title and write its heading. -/
def closeSectionTitle (backend : Backend) (title : Passage) : Action Unit := do
  match (← current).frames.topState? with
  | some (.sect label path) =>
    resolve label (sectionNumber path)
    change (·.emitLine (backend.sectionHeading path.length (sectionNumber path) title.markup))
  | _ => return

/-- Write the end of a section. A section without a title gets its number here. -/
def closeSection (backend : Backend) (label : Option Label) (path : List Nat) : Action Unit := do
  resolve label (sectionNumber path)
  change (·.emitLine backend.sectionEnd)

/-- What a figure body shows: the canvas if one was asked for, otherwise what was written. -/
def figureContent (canvas : Option Canvas) (captured : Passage) : FigureContent :=
  match canvas with
  | some canvas => .raster canvas
  | none => if captured.isEmpty then .empty else .markup captured.markup

/-- Number a table and write it. -/
def closeTable (backend : Backend) (table : PendingTable) (body : Passage) : Action Unit := do
  change fun d ↦ { d with tables := d.tables + 1 }
  let number := (← current).tables
  resolve table.label (toString number)
  change (·.emitLine
    (backend.table ⟨number, table.label.map Label.key, table.caption.markup⟩ table.header
      table.footer body.markup))

/-- Number an equation and write it. -/
def closeEquation (backend : Backend) (label : Option Label) (body : Passage) :
    Action Unit := do
  change fun d ↦ { d with equations := d.equations + 1 }
  let number := (← current).equations
  resolve label (toString number)
  change (·.emitLine (backend.equation number (label.map Label.key) body.markup))

/-- Store a picture as a file that is not there yet. -/
def createPicture (path : Path) (picture : Picture) : Action Unit := do
  let s ← get
  match s.files.create path (.picture picture) with
  | .error error => throw (.io error)
  | .ok (_, files) => set { s with files }

/-- Store a canvas as an image file, and give the markup that refers to it. -/
def storeCanvas (backend : Backend) (canvas : Canvas) (number : String) (caption : Passage) :
    Action String := do
  let d ← current
  let name := d.imageName number
  let path := d.directory.join name
  createPicture path ⟨canvas, d.settings.model, d.settings.format⟩
  change fun d ↦ { d with images := d.images ++ [path] }
  return backend.image name (withoutOuterBlanks caption.text) canvas.width canvas.height

/-- The markup of what a figure shows. -/
def figureBody (backend : Backend) (figure : PendingFigure) (number : String) : Action String :=
  match figure.content with
  | .empty => return ""
  | .markup markup => return markup
  | .raster canvas => storeCanvas backend canvas number figure.caption

/-- Number a figure and write it. -/
def closeFigure (backend : Backend) (figure : PendingFigure) : Action Unit := do
  change fun d ↦ { d with figures := d.figures + 1 }
  let number := (← current).figures
  resolve figure.label (toString number)
  let body ← figureBody backend figure (toString number)
  change (·.emitLine
    (backend.figure ⟨number, figure.label.map Label.key, figure.caption.markup⟩ body))

/-- The letter of a sub-figure, counted from zero. -/
def letter? (index : Nat) : Option Char :=
  if index < Limit.maxSubFigures then some (Char.ofNat ('a'.toNat + index)) else none

/-- The cell of the sub-figure of series `number` that comes at position `index`. -/
def seriesCell (backend : Backend) (number index : Nat) (figure : PendingFigure) :
    Action String := do
  match letter? index with
  | none => throw (.limitExceeded .subFigures)
  | some letter =>
    let info := toString number ++ String.singleton letter
    resolve figure.label info
    let body ← figureBody backend figure info
    return backend.subFigure ⟨number, figure.label.map Label.key, figure.caption.markup⟩ letter body

/-- The cells of sub-figures of series `number`, of which the first is the one with `index`. -/
def seriesCells (backend : Backend) (number index : Nat) :
    List PendingFigure → Action (List String)
  | [] => return []
  | figure :: others => do
    let cell ← seriesCell backend number index figure
    let cells ← seriesCells backend number (index + 1) others
    return cell :: cells

/-- The cells of the row groups of series `number`, of which the first starts with the sub-figure
with `index`. -/
def seriesPages (backend : Backend) (number index : Nat) :
    List (List PendingFigure) → Action (List (List String))
  | [] => return []
  | group :: others => do
    let cells ← seriesCells backend number index group
    let pages ← seriesPages backend number (index + group.length) others
    return cells :: pages

/-- Number a figure series and write it. -/
def closeSeries (backend : Backend) (series : PendingSeries) : Action Unit := do
  change fun d ↦ { d with figures := d.figures + 1 }
  let number := (← current).figures
  resolve series.label (toString number)
  let pages ← seriesPages backend number 0 series.groups
  change (·.emitLine
    (backend.figureSeries ⟨number, series.label.map Label.key, series.caption.markup⟩
      series.columns pages))

/-- Write an operator, unless it does not take that many operands. -/
def closeMathOp (backend : Backend) (operator : Operator) (operands : List Passage) :
    Action Unit := do
  refuse (if operator.accepts operands.length then none
    else some (.operandCount operator operands.length))
  change (Document.closeOperator backend operator operands)

/-- Write the body of a macro with its arguments, nothing if there is no macro of the name. -/
def closeInvocation (signature : Macro.Signature) (arguments : List (Option Passage)) :
    Action Unit := do
  match (← current).macros.find? signature.name with
  | some definition =>
    change (·.append
      ⟨definition.markup.expand (arguments.map (·.map Passage.markup)),
        definition.text.expand (arguments.map (·.map Passage.text))⟩)
  | none => return

/-- Close an element of a kind that gathers nothing, with what it captured. -/
def closePlain (backend : Backend) (kind : Kind) (captured : Passage) : Action Unit :=
  match kind with
  | .header => closeHeader backend
  | .title => change (Document.takeTitle captured)
  | .author => change (Document.takeAuthor captured)
  | .date => change (Document.takeDate captured)
  | .body => closeBody backend
  | .sectionTitle => closeSectionTitle backend captured
  | .sectionBody => change (·.emitLine backend.sectionBodyEnd)
  | .paragraph => change (·.emit backend.paragraphEnd)
  | .caption => change (·.offer (FrameState.takeCaption? captured))
  | .tablePage => change (·.emitLine backend.tableGroupEnd)
  | .tableHeader => change (·.offer (FrameState.takeTableHeader? captured.markup))
  | .tableFooter => change (·.offer (FrameState.takeTableFooter? captured.markup))
  | .inlineMath => change (·.emit backend.inlineMathEnd)
  | .mathName => change (·.emit backend.mathNameEnd)
  | .mathOpParam => change (·.offer (FrameState.takeOperand? captured))
  | .item => change (·.emit backend.itemEnd)
  | _ => return

/-- Close the element of a frame that has been taken off, with what it captured. -/
def closeFrame (backend : Backend) (frame : Frame) (captured : Passage) : Action Unit :=
  match frame.state with
  | .plain => closePlain backend frame.kind captured
  | .sect label path => closeSection backend label path
  | .figure figure => closeFigure backend figure
  | .subFigure figure => change (·.offerSeries (FrameState.takeSubFigure? figure))
  | .figureBody _ _ canvas =>
    change (·.offer (FrameState.takeFigureBody? (figureContent canvas captured)))
  | .figureSeries series => closeSeries backend series
  | .table table => closeTable backend table captured
  | .tableRow _ _ => change (·.emit backend.tableRowEnd)
  | .tableCell header => change (·.emit (backend.tableCellEnd header))
  | .equation label => closeEquation backend label captured
  | .mathOp operator operands => closeMathOp backend operator operands
  | .macroDefinition signature => change (Document.closeDefinition signature captured)
  | .macroInvocation signature arguments => closeInvocation signature arguments
  | .argument index => change (·.offer (FrameState.takeArgument? index captured))
  | .styled style => change (·.emit (backend.inlineEnd style))
  | .list ordered => change (·.emitLine (backend.listEnd ordered))

/-- What was captured for a frame that is taken off: nothing if its content was not held back. -/
def release (frame : Frame) : Action Passage := do
  if frame.captured then
    let d ← current
    match d.output.release? with
    | none => throw (.lifecycle .rootReleased)
    | some (captured, output) =>
      change ({ · with output })
      return captured
  else return {}

/-- End the innermost element, which must be of the kind. -/
def endElement (backend : Backend) (kind : Kind) : Action Unit := do
  match (← current).frames with
  | [] => throw (.unbalancedEnd none kind)
  | frame :: outer =>
    if frame.kind = kind then
      change ({ · with frames := outer })
      let captured ← release frame
      change fun d ↦ { d with tagDepth := d.tagDepth - 1 }
      closeFrame backend frame captured
      change Document.stream
    else throw (.unbalancedEnd (some frame.kind) kind)

end Session

end Manuscript
