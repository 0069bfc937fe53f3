import Manuscript.Formula.Operator
import Manuscript.Structure.Style

/-!
# Backends

A backend says what markup stands for each part of a document. Its hooks give the markup that the
document appends; arguments named `text`, `alt`, `title`, `authors` or `date` of `head` are plain
text, all other strings are markup already.
-/

namespace Manuscript

/-- A stylesheet that lies beside every document. -/
structure Resource where
  name : String
  media : String
  deriving DecidableEq, Repr

/-- The number, anchor and caption of a figure, series, sub-figure or table. -/
structure FloatHead where
  number : Nat
  anchor : Option String
  caption : String
  deriving DecidableEq, Repr

/-- The markup of one output format. -/
structure Backend where
  /-- The extension of the output file. -/
  extension : String
  /-- A space at which no line may be broken. -/
  noBreakSpace : String
  /-- The stylesheets that the head names and that closing a document installs. -/
  resources : List Resource
  /-- Plain text as markup. -/
  escape : (text : String) → String
  /-- The preamble up to the opening of the head. -/
  documentStart : String
  /-- The rest of the head, from plain text. -/
  head : (title authors date : Option String) → String
  bodyStart : String
  /-- The title block at the top of the body, from markup. -/
  titleBlock : (title authors date : Option String) → String
  /-- The end of the body and of the document. -/
  bodyEnd : String
  sectionStart : (depth : Nat) → (anchor : Option String) → String
  sectionEnd : String
  sectionHeading : (depth : Nat) → (number title : String) → String
  sectionBodyStart : String
  sectionBodyEnd : String
  paragraphStart : String
  paragraphEnd : String
  inlineStart : InlineStyle → String
  inlineEnd : InlineStyle → String
  listStart : (ordered : Bool) → String
  listEnd : (ordered : Bool) → String
  itemStart : String
  itemEnd : String
  image : (source alt : String) → (width height : Nat) → String
  figure : FloatHead → (body : String) → String
  /-- One cell of a figure series. -/
  subFigure : FloatHead → (letter : Char) → (body : String) → String
  /-- A whole figure series from the cells of each of its pages. -/
  figureSeries : FloatHead → (columns : Nat) → (pages : List (List String)) → String
  table : FloatHead → (header footer : Option String) → (body : String) → String
  tableGroupStart : String
  tableGroupEnd : String
  tableRowStart : String
  tableRowEnd : String
  tableCellStart : (header : Bool) → (span : Nat) → Option Alignment → String
  tableCellEnd : (header : Bool) → String
  equation : (number : Nat) → (anchor : Option String) → (body : String) → String
  inlineMathStart : String
  inlineMathEnd : String
  mathNameStart : String
  mathNameEnd : String
  mathOperator : Operator → (operands : List String) → String
  link : (target content : String) → String
  bibliographyStart : String
  bibliographyEntryStart : (key : String) → (number : Nat) → String
  bibliographyEntryEnd : String
  bibliographyEnd : String

end Manuscript
