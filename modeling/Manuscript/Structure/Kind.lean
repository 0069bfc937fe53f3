/-!
# Kinds of document elements

A document is a tree of elements. This module lists their kinds, says what each holds and where
each may stand: `Kind.allowedIn` is the whole nesting rule except for macro parameters, whose
place also depends on the macro around them.
-/

namespace Manuscript

/-- A kind of document element. -/
inductive Kind where
  | header
  | title
  | authors
  | author
  | date
  | body
  | sect
  | sectionTitle
  | sectionBody
  | paragraph
  | figure
  | figureBody
  | figureSeries
  | figureSeriesPage
  | subFigure
  | caption
  | table
  | tablePage
  | tableHeader
  | tableFooter
  | tableRow
  | tableCell
  | equation
  | inlineMath
  | mathOp
  | mathOpParam
  | mathName
  | macroDefinition
  | macroInvocation
  | macroParameter
  | emphasize
  | subscript
  | superscript
  | normalText
  | itemization
  | enumeration
  | item
  deriving DecidableEq, Repr

namespace Kind

/-- Every kind, the preamble first and the lists last. -/
def all : List Kind :=
  [header, title, authors, author, date, body, sect, sectionTitle, sectionBody, paragraph,
    figure, figureBody, figureSeries, figureSeriesPage, subFigure, caption, table, tablePage,
    tableHeader, tableFooter, tableRow, tableCell, equation, inlineMath, mathOp, mathOpParam,
    mathName, macroDefinition, macroInvocation, macroParameter, emphasize, subscript,
    superscript, normalText, itemization, enumeration, item]

/-- The name that messages use. -/
def name : Kind → String
  | header => "Header"
  | title => "Title"
  | authors => "Authors"
  | author => "Author"
  | date => "Date"
  | body => "Body"
  | sect => "Section"
  | sectionTitle => "SectionTitle"
  | sectionBody => "SectionBody"
  | paragraph => "Paragraph"
  | figure => "Figure"
  | figureBody => "FigureBody"
  | figureSeries => "FigureSeries"
  | figureSeriesPage => "FigureSeriesPage"
  | subFigure => "SubFigure"
  | caption => "Caption"
  | table => "Table"
  | tablePage => "TablePage"
  | tableHeader => "TableHeader"
  | tableFooter => "TableFooter"
  | tableRow => "TableRow"
  | tableCell => "TableCell"
  | equation => "Equation"
  | inlineMath => "InlineMath"
  | mathOp => "MathOp"
  | mathOpParam => "MathOpParam"
  | mathName => "MathName"
  | macroDefinition => "Macro"
  | macroInvocation => "MacroInvocation"
  | macroParameter => "MacroParameter"
  | emphasize => "Emphasize"
  | subscript => "Subscript"
  | superscript => "Superscript"
  | normalText => "NormalText"
  | itemization => "Itemization"
  | enumeration => "Enumeration"
  | item => "Item"

/-- Whether the element holds running text and inline elements. -/
def acceptsInline : Kind → Bool
  | title | author | date | sectionTitle | paragraph | caption | tableCell | item | figureBody
  | emphasize | subscript | superscript | normalText | macroDefinition | macroParameter => true
  | _ => false

/-- Whether the element holds block-level content. -/
def acceptsBlock : Kind → Bool
  | body | sectionBody | item | macroDefinition | macroParameter => true
  | _ => false

/-- Whether the element holds formulas. -/
def acceptsMath : Kind → Bool
  | equation | inlineMath | mathOpParam => true
  | _ => false

/-- Whether text may be written while the element is the innermost open one. -/
def acceptsText (kind : Kind) : Bool :=
  kind.acceptsInline || kind.acceptsMath || kind == mathName

/-- Whether the content of the element is held back until the element ends. -/
def captures : Kind → Bool
  | title | author | date | sectionTitle | figureBody | caption | table | tableHeader
  | tableFooter | equation | mathOpParam | macroDefinition => true
  | _ => false

/-- Whether the element may be begun at the root of the document. -/
def allowedAtRoot : Kind → Bool
  | header | body | macroDefinition => true
  | _ => false

/-- Whether the element may be begun directly inside `parent`. -/
def allowedWithin (kind parent : Kind) : Bool :=
  match kind with
  | header | body => false
  | title | authors | date => parent == header
  | author => parent == authors
  | sect => parent == body || parent == sectionBody
  | sectionTitle | sectionBody => parent == sect
  | figureBody => parent == figure || parent == subFigure
  | caption =>
    parent == figure || parent == subFigure || parent == figureSeries || parent == table
  | figureSeriesPage => parent == figureSeries
  | subFigure => parent == figureSeries || parent == figureSeriesPage
  | tablePage | tableHeader | tableFooter => parent == table
  | tableRow => parent == tablePage || parent == tableHeader || parent == tableFooter
  | tableCell => parent == tableRow
  | item => parent == itemization || parent == enumeration
  | mathOp | mathName => parent.acceptsMath
  | mathOpParam => parent == mathOp
  | emphasize | subscript | superscript | normalText => parent.acceptsInline || parent.acceptsMath
  | inlineMath => parent.acceptsInline
  | macroParameter => parent == macroInvocation || parent.acceptsText
  | macroInvocation | macroDefinition =>
    parent.acceptsInline || parent.acceptsBlock || parent.acceptsMath
  | paragraph | figure | figureSeries | table | equation | itemization | enumeration =>
    parent.acceptsBlock

/-- Whether the element may be begun inside `parent`, where `none` is the root. -/
def allowedIn (kind : Kind) : Option Kind → Bool
  | none => kind.allowedAtRoot
  | some parent => kind.allowedWithin parent

/-- The name of an innermost open element in messages; `root` stands for none. -/
def nameOr (root : String) : Option Kind → String
  | none => root
  | some kind => kind.name

end Kind

end Manuscript
