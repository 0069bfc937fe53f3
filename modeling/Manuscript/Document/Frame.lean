import Manuscript.Document.Output
import Manuscript.Drawing.Picture
import Manuscript.Structure.Element

/-!
# Open elements

A frame is an element that has been begun and not ended, with what it has gathered so far. What is
gathered waits for the end of the element, when its number is known.
-/

namespace Manuscript

/-- What a figure shows. -/
inductive FigureContent where
  | empty
  | markup (markup : String)
  | raster (canvas : Canvas)
  deriving DecidableEq, Repr

/-- A figure or sub-figure that waits for its number. -/
structure PendingFigure where
  label : Option Label
  content : FigureContent := .empty
  caption : Passage := {}
  deriving DecidableEq, Repr

/-- A figure series that waits for its number. `page` is the row group that grows, `pages` are the
row groups before it. -/
structure PendingSeries where
  label : Option Label
  columns : Nat
  caption : Passage := {}
  pages : List (List PendingFigure) := []
  page : List PendingFigure := []
  deriving DecidableEq, Repr

namespace PendingSeries

/-- The row groups in order. -/
def groups (series : PendingSeries) : List (List PendingFigure) := series.pages ++ [series.page]

/-- The number of sub-figures. -/
def count (series : PendingSeries) : Nat := series.groups.flatten.length

/-- Add a sub-figure to the last row group. -/
def add (series : PendingSeries) (figure : PendingFigure) : PendingSeries :=
  { series with page := series.page ++ [figure] }

/-- Start a row group, unless the last one is still empty. -/
def turn (series : PendingSeries) : PendingSeries :=
  if series.page.isEmpty then series
  else { series with pages := series.pages ++ [series.page], page := [] }

end PendingSeries

/-- A table that waits for its number. -/
structure PendingTable where
  label : Option Label
  columns : List Alignment
  caption : Passage := {}
  header : Option String := none
  footer : Option String := none
  deriving DecidableEq, Repr

/-- What an open element has gathered. An element that gathers nothing is `plain`. -/
inductive FrameState where
  | plain
  /-- `path` holds the positions of the section and of the sections around it, the outermost
  first. -/
  | sect (label : Option Label) (path : List Nat)
  | figure (figure : PendingFigure)
  | subFigure (figure : PendingFigure)
  | figureBody (width height : Nat) (canvas : Option Canvas)
  | figureSeries (series : PendingSeries)
  | table (table : PendingTable)
  /-- `column` is where the next cell of the row starts. -/
  | tableRow (header : Bool) (column : Nat)
  | tableCell (header : Bool)
  | equation (label : Option Label)
  | mathOp (operator : Operator) (operands : List Passage)
  | macroDefinition (signature : Macro.Signature)
  | macroInvocation (signature : Macro.Signature) (arguments : List (Option Passage))
  /-- A parameter of an invocation: its content is the argument. -/
  | argument (index : Nat)
  | styled (style : InlineStyle)
  | list (ordered : Bool)
  deriving DecidableEq, Repr

namespace FrameState

/-- The state with the caption that ended inside the element, if the element has captions. -/
def takeCaption? (caption : Passage) : FrameState → Option FrameState
  | figure f => some (figure { f with caption })
  | subFigure f => some (subFigure { f with caption })
  | figureSeries s => some (figureSeries { s with caption })
  | table t => some (table { t with caption })
  | _ => none

/-- The state with the figure body that ended inside the element, if the element has one. -/
def takeFigureBody? (content : FigureContent) : FrameState → Option FrameState
  | figure f => some (figure { f with content })
  | subFigure f => some (subFigure { f with content })
  | _ => none

/-- The state of a table with header rows that ended inside it, behind earlier ones. -/
def takeTableHeader? (rows : String) : FrameState → Option FrameState
  | table t => some (table { t with header := some (t.header.getD "" ++ rows) })
  | _ => none

/-- The state of a table with footer rows that ended inside it, behind earlier ones. -/
def takeTableFooter? (rows : String) : FrameState → Option FrameState
  | table t => some (table { t with footer := some (t.footer.getD "" ++ rows) })
  | _ => none

/-- The state of an operator with an operand that ended inside it. -/
def takeOperand? (operand : Passage) : FrameState → Option FrameState
  | mathOp operator operands => some (mathOp operator (operands ++ [operand]))
  | _ => none

/-- The state of an invocation with an argument that ended inside it, in place of an earlier one. -/
def takeArgument? (index : Nat) (value : Passage) : FrameState → Option FrameState
  | macroInvocation signature arguments =>
    if index < arguments.length then
      some (macroInvocation signature (arguments.set index (some value)))
    else none
  | _ => none

/-- The state of a figure series with a sub-figure that ended inside it. -/
def takeSubFigure? (figure : PendingFigure) : FrameState → Option FrameState
  | figureSeries s => some (figureSeries (s.add figure))
  | _ => none

/-- The state of a figure series when a page of sub-figures begins inside it. -/
def turnPage? : FrameState → Option FrameState
  | figureSeries s => some (figureSeries s.turn)
  | _ => none

/-- The state of a table row when a cell of some columns begins inside it. -/
def advance? (columns : Nat) : FrameState → Option FrameState
  | tableRow inHeader start => some (tableRow inHeader (start + columns))
  | _ => none

/-- The state of a figure body with rectangles painted on its canvas, which starts out white. -/
def takePaint? (fills : List Fill) : FrameState → Option FrameState
  | figureBody width height canvas =>
    some (figureBody width height
      (some (fills.foldl Canvas.paint (canvas.getD ⟨width, height, []⟩))))
  | _ => none

end FrameState

/-- An open element. `captured` says whether its content is held back until it ends. -/
structure Frame where
  kind : Kind
  captured : Bool
  state : FrameState
  deriving DecidableEq, Repr

/-- The open elements, the innermost first. -/
abbrev Frames := List Frame

namespace Frames

/-- The kind of the innermost open element. -/
def innermost (frames : Frames) : Option Kind := frames.head?.map Frame.kind

/-- The state of the innermost open element. -/
def topState? (frames : Frames) : Option FrameState := frames.head?.map Frame.state

/-- Change the state of the innermost open element, if it is of the right sort. -/
def changeTop? (change : FrameState → Option FrameState) : Frames → Option Frames
  | [] => none
  | frame :: outer => (change frame.state).map fun state ↦ { frame with state } :: outer

/-- The state of the innermost figure series. -/
def series? (frames : Frames) : Option FrameState :=
  (frames.find? (·.kind == .figureSeries)).map Frame.state

/-- Change the state of the innermost figure series, if it is of the right sort. -/
def changeSeries? (change : FrameState → Option FrameState) : Frames → Option Frames
  | [] => none
  | frame :: outer =>
    if frame.kind = .figureSeries then changeTop? change (frame :: outer)
    else (changeSeries? change outer).map (frame :: ·)

/-- The number of sub-figures in the innermost figure series. -/
def subFigureCount? (frames : Frames) : Option Nat :=
  match frames.series? with
  | some (.figureSeries series) => some series.count
  | _ => none

/-- The signature of the innermost macro definition. -/
def definition? (frames : Frames) : Option Macro.Signature :=
  frames.findSome? fun frame ↦
    match frame.state with
    | .macroDefinition signature => some signature
    | _ => none

/-- The alignment that the innermost table with such a column gives it. -/
def columnAlignment? (frames : Frames) (column : Nat) : Option Alignment :=
  frames.findSome? fun frame ↦
    match frame.state with
    | .table table => table.columns[column]?
    | _ => none

/-- The number of open sections. -/
def sectionDepth (frames : Frames) : Nat := frames.countP (·.kind == .sect)

end Frames

end Manuscript
