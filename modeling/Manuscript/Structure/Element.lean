import Manuscript.Macro.Template
import Manuscript.Structure.Style

/-!
# Elements

What a caller begins: a kind with what the element needs to know from the start.
-/

namespace Manuscript

/-- An element to be begun. Lengths are in millimetres. -/
inductive Element where
  | header
  | title
  | authors
  | author
  | date
  | body
  | sect (label : Option Label)
  | sectionTitle
  | sectionBody
  | paragraph
  | figure (label : Option Label)
  | figureBody (width height : Float)
  | figureSeries (label : Option Label) (columns : Nat)
  | figureSeriesPage
  | subFigure (label : Option Label)
  | caption
  | table (label : Option Label) (columns : List Alignment)
  | tablePage
  | tableHeader
  | tableFooter
  | tableRow
  | tableCell (span : Nat) (align : Option Alignment)
  | equation (label : Option Label)
  | inlineMath
  | mathOp (operator : Operator)
  | mathOpParam
  | mathName
  | macroDefinition (signature : Macro.Signature)
  | macroInvocation (signature : Macro.Signature)
  | macroParameter (index : Nat)
  | styled (style : InlineStyle)
  | list (ordered : Bool)
  | item

/-- The kind of an inline element of a style. -/
def InlineStyle.kind : InlineStyle → Kind
  | emphasize => .emphasize
  | subscript => .subscript
  | superscript => .superscript
  | normal => .normalText

/-- The kind of a list. -/
def Kind.ofList (ordered : Bool) : Kind := if ordered then .enumeration else .itemization

namespace Element

/-- The kind of the element. -/
def kind : Element → Kind
  | header => .header
  | title => .title
  | authors => .authors
  | author => .author
  | date => .date
  | body => .body
  | sect _ => .sect
  | sectionTitle => .sectionTitle
  | sectionBody => .sectionBody
  | paragraph => .paragraph
  | figure _ => .figure
  | figureBody _ _ => .figureBody
  | figureSeries _ _ => .figureSeries
  | figureSeriesPage => .figureSeriesPage
  | subFigure _ => .subFigure
  | caption => .caption
  | table _ _ => .table
  | tablePage => .tablePage
  | tableHeader => .tableHeader
  | tableFooter => .tableFooter
  | tableRow => .tableRow
  | tableCell _ _ => .tableCell
  | equation _ => .equation
  | inlineMath => .inlineMath
  | mathOp _ => .mathOp
  | mathOpParam => .mathOpParam
  | mathName => .mathName
  | macroDefinition _ => .macroDefinition
  | macroInvocation _ => .macroInvocation
  | macroParameter _ => .macroParameter
  | styled style => style.kind
  | list ordered => .ofList ordered
  | item => .item

/-- The label that the element carries. -/
def label? : Element → Option Label
  | sect label | figure label | subFigure label | equation label | figureSeries label _
  | table label _ => label
  | _ => none

end Element

end Manuscript
