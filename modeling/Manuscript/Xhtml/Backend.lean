import Manuscript.Markup.Backend
import Manuscript.Storage.MediaType
import Manuscript.Storage.Stylesheet
import Manuscript.Xhtml.Formula

/-!
# The XHTML backend

Documents become XHTML 1.1. Floats and formulas are laid out with tables, so that the output can be
read without scripts.
-/

namespace Manuscript

namespace Xhtml

/-- The XML declaration and the document type. -/
def prolog : String :=
  "<?xml version=\"1.0\" encoding=\"UTF-8\"?>\n" ++
  "<!DOCTYPE html PUBLIC \"-//W3C//DTD XHTML 1.1//EN\" " ++
  "\"http://www.w3.org/TR/xhtml11/DTD/xhtml11.dtd\">\n"

/-- The style sheets that the head names. -/
def resources : List Resource :=
  [⟨Stylesheet.screenName, "screen"⟩, ⟨Stylesheet.printName, "print"⟩]

/-- The document up to the declaration of its encoding. -/
def documentStart : String :=
  prolog ++
  startTag "html" [("xmlns", "http://www.w3.org/1999/xhtml"), ("xml:lang", "en")] ++ "\n" ++
  startTag "head" [] ++ "\n" ++
  emptyTag "meta"
    [("http-equiv", "Content-Type"), ("content", "application/xhtml+xml; charset=UTF-8")]

/-- A statement about the document, if it is known. -/
def metadata (name : String) (content : Option String) : String :=
  match content with
  | some content => emptyTag "meta" [("name", name), ("content", content)]
  | none => ""

/-- The link to a style sheet. -/
def stylesheetLink (resource : Resource) : String :=
  emptyTag "link"
    [("rel", "stylesheet"), ("type", MediaType.ofPath ⟨resource.name⟩), ("href", resource.name),
      ("media", resource.media)]

/-- The title, what is known of authors and date, and the links to the style sheets. -/
def head (title authors date : Option String) : String :=
  "\n" ++ element "title" [] (escape (title.getD "")) ++ metadata "author" authors ++
    metadata "date" date ++ String.join (resources.map stylesheetLink) ++ "\n" ++ endTag "head"

/-- An element around optional markup, nothing without it. -/
def optional (name : String) (list : List Attribute) (content : Option String) : String :=
  match content with
  | some content => element name list content
  | none => ""

/-- The title, the authors and the date at the top of the body. -/
def titleBlock (title authors date : Option String) : String :=
  optional "h1" (classed "title") title ++ optional "div" (classed "authors") authors ++
    optional "div" (classed "date") date

/-- The element of a section heading; no heading goes below the sixth level. -/
def headingName (depth : Nat) : String := "h" ++ toString (min (depth + 1) 6)

/-- A section number and a title. -/
def sectionHeading (depth : Nat) (number title : String) : String :=
  element (headingName depth) (classed "sectionHead")
    (element "span" (classed "sectionNumber") number ++ " " ++ title)

/-- The element of an inline style. -/
def inlineName : InlineStyle → String
  | .emphasize => "em"
  | .subscript => "sub"
  | .superscript => "sup"
  | .normal => "span"

/-- The start of an inline style. -/
def inlineStart (style : InlineStyle) : String :=
  startTag (inlineName style) (if style = .normal then classed "normal" else [])

/-- The element of a list. -/
def listName (ordered : Bool) : String := if ordered then "ol" else "ul"

/-- The space between the noun and the number of a caption, as a character reference. -/
def noBreakSpace : String := "&#160;"

/-- What stands in a caption: the noun with the number, and the caption after a colon if there is
one. -/
def captionText (noun : String) (float : FloatHead) : String :=
  let title := noun ++ noBreakSpace ++ toString float.number
  if float.caption = "" then element "span" (classed "captionTitle") title
  else element "span" (classed "captionTitle") (title ++ ":") ++ " " ++ float.caption

/-- A reference to an image file. -/
def image (source alt : String) (width height : Nat) : String :=
  emptyTag "img"
    [("src", source), ("alt", alt), ("width", toString width), ("height", toString height)]

/-- A figure above its caption. -/
def figure (float : FloatHead) (body : String) : String :=
  element "table" (classed "figure" ++ identified float.anchor)
    (row [cell "figureBody" body] ++ row [cell "caption" (captionText "Figure" float)])

/-- A cell of a figure series: a figure above its letter and caption. -/
def subFigure (float : FloatHead) (letter : Char) (body : String) : String :=
  element "td" (classed "subFigure" ++ identified float.anchor)
    (element "div" (classed "figureBody") body ++
      element "div" (classed "caption")
        (element "span" (classed "captionTitle") ("(" ++ String.singleton letter ++ ")") ++
          if float.caption = "" then "" else " " ++ float.caption))

/-- Cells in rows of at most `columns`, and at least one. -/
def rowsOf (columns : Nat) : List String → List (List String)
  | [] => []
  | cell :: rest =>
    (cell :: rest.take (columns - 1)) :: rowsOf columns (rest.drop (columns - 1))
  termination_by cells => cells.length
  decreasing_by simp only [List.length_drop, List.length_cons]; omega

/-- The cells of one page of a figure series as a group of rows. -/
def pageGroup (columns : Nat) (cells : List String) : String :=
  element "tbody" [] (String.join ((rowsOf columns cells).map row))

/-- A figure series: a group of rows for each page that has cells, and the caption. -/
def figureSeries (float : FloatHead) (columns : Nat) (pages : List (List String)) : String :=
  element "table" (classed "figureSeries" ++ identified float.anchor)
    (String.join ((pages.filter (!·.isEmpty)).map (pageGroup columns)) ++
      element "tbody" []
        (row [element "td" (classed "caption" ++ [("colspan", toString (max columns 1))])
          (captionText "Figure" float)]))

/-- The body of a table without rows. -/
def emptyBody : String := element "tbody" [] (row [plainCell ""])

/-- A table under its caption. -/
def table (float : FloatHead) (header footer : Option String) (body : String) : String :=
  element "table" (classed "table" ++ identified float.anchor)
    (element "caption" [] (captionText "Table" float) ++ optional "thead" [] header ++
      optional "tfoot" [] footer ++ if body = "" then emptyBody else body)

/-- The element of a table cell. -/
def cellName (header : Bool) : String := if header then "th" else "td"

/-- The start of a table cell, with its span if it is more than one column. -/
def cellStart (header : Bool) (span : Nat) (align : Option Alignment) : String :=
  startTag (cellName header)
    ((if 1 < span then [("colspan", toString span)] else []) ++
      (align.map fun align ↦ ("style", "text-align: " ++ align.css)).toList)

/-- A displayed equation with its number beside it. -/
def equation (number : Nat) (anchor : Option String) (body : String) : String :=
  element "table" (classed "equation" ++ identified anchor)
    (row [cell "equationBody" body, cell "equationNumber" ("(" ++ toString number ++ ")")])

/-- The start of the reference list under its heading. -/
def bibliographyStart : String :=
  startTag "div" (classed "references") ++ element "h2" (classed "sectionHead") "References" ++
    startTag "ol" (classed "references")

/-- The backend that writes XHTML. -/
def backend : Backend where
  extension := "xhtml"
  noBreakSpace := noBreakSpace
  resources := resources
  escape := escape
  documentStart := documentStart
  head := head
  bodyStart := "\n" ++ startTag "body" []
  titleBlock := titleBlock
  bodyEnd := "\n" ++ endTag "body" ++ "\n" ++ endTag "html" ++ "\n"
  sectionStart _ anchor := startTag "div" (classed "section" ++ identified anchor)
  sectionEnd := endTag "div"
  sectionHeading := sectionHeading
  sectionBodyStart := startTag "div" (classed "sectionBody")
  sectionBodyEnd := endTag "div"
  paragraphStart := startTag "p" []
  paragraphEnd := endTag "p"
  inlineStart := inlineStart
  inlineEnd style := endTag (inlineName style)
  listStart ordered := startTag (listName ordered) []
  listEnd ordered := endTag (listName ordered)
  itemStart := startTag "li" []
  itemEnd := endTag "li"
  image := image
  figure := figure
  subFigure := subFigure
  figureSeries := figureSeries
  table := table
  tableGroupStart := startTag "tbody" []
  tableGroupEnd := endTag "tbody"
  tableRowStart := startTag "tr" []
  tableRowEnd := endTag "tr"
  tableCellStart := cellStart
  tableCellEnd header := endTag (cellName header)
  equation := equation
  inlineMathStart := startTag "span" (classed "math")
  inlineMathEnd := endTag "span"
  mathNameStart := startTag "span" (classed "mathName")
  mathNameEnd := endTag "span"
  mathOperator := formula
  link target content := element "a" [("href", target)] content
  bibliographyStart := bibliographyStart
  bibliographyEntryStart key _ := startTag "li" [("id", key)]
  bibliographyEntryEnd := endTag "li"
  bibliographyEnd := endTag "ol" ++ endTag "div"

end Xhtml

end Manuscript
