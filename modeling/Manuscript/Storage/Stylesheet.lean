import Manuscript.Storage.FileSystem

/-!
# Style sheets

The style sheets that lie beside every document, one for screens and one for paper.
-/

namespace Manuscript

namespace Stylesheet

/-- The style sheet for screens, line by line. -/
def screenLines : List String :=
  ["body \x7b",
    "  font-family: Georgia, \"Times New Roman\", serif;",
    "  line-height: 1.45;",
    "  max-width: 50em;",
    "  margin: 2em auto;",
    "  padding: 0 1em;",
    "  color: #111;",
    "  background: #fff;",
    "\x7d",
    "",
    "h1.title \x7b text-align: center; margin-bottom: 0.2em; \x7d",
    "div.authors, div.date \x7b text-align: center; font-style: italic; \x7d",
    "",
    "div.section \x7b margin-top: 1.2em; \x7d",
    "div.sectionBody \x7b margin-left: 0; \x7d",
    "h2.sectionHead, h3.sectionHead, h4.sectionHead, h5.sectionHead, h6.sectionHead \x7b",
    "  margin-bottom: 0.4em;",
    "\x7d",
    "span.sectionNumber \x7b margin-right: 0.5em; \x7d",
    "",
    "table.figure, table.table, table.figureSeries, table.equation \x7b",
    "  margin: 1em auto;",
    "  border-collapse: collapse;",
    "\x7d",
    "td.figureBody \x7b text-align: center; \x7d",
    "td.caption, caption \x7b font-size: 0.92em; padding-top: 0.3em; \x7d",
    "span.captionTitle \x7b font-weight: bold; \x7d",
    "",
    "table.table td, table.table th \x7b padding: 0.15em 0.6em; \x7d",
    "table.table thead \x7b border-bottom: 1px solid #444; \x7d",
    "table.table tfoot \x7b border-top: 1px solid #444; \x7d",
    "",
    "table.equation \x7b width: 100%; \x7d",
    "td.equationBody \x7b text-align: center; \x7d",
    "td.equationNumber \x7b text-align: right; width: 4em; \x7d",
    "",
    "table.math \x7b display: inline-table; vertical-align: middle; " ++
      "border-collapse: collapse; \x7d",
    "table.math td \x7b padding: 0 0.1em; text-align: center; \x7d",
    "td.fractionTop \x7b border-bottom: 1px solid #111; \x7d",
    "td.radicand \x7b border-top: 1px solid #111; \x7d",
    "td.exponent, td.rootIndex \x7b font-size: 0.7em; vertical-align: top; \x7d",
    "td.limit \x7b font-size: 0.7em; \x7d",
    "td.bigOperator \x7b font-size: 1.6em; \x7d",
    "span.mathName \x7b font-style: italic; \x7d",
    "",
    "div.references \x7b margin-top: 2em; border-top: 1px solid #999; \x7d",
    "ol.references li \x7b margin-bottom: 0.4em; \x7d",
    "a.reference, a.citation \x7b text-decoration: none; color: #114; \x7d"]

/-- The style sheet for paper, line by line. -/
def printLines : List String :=
  ["@page \x7b margin: 2cm; \x7d",
    "",
    "body \x7b",
    "  font-family: \"Times New Roman\", serif;",
    "  font-size: 11pt;",
    "  line-height: 1.3;",
    "  color: #000;",
    "  background: #fff;",
    "\x7d",
    "",
    "h1.title \x7b text-align: center; \x7d",
    "div.authors, div.date \x7b text-align: center; \x7d",
    "",
    "div.section \x7b page-break-inside: auto; \x7d",
    "h2.sectionHead, h3.sectionHead, h4.sectionHead \x7b page-break-after: avoid; \x7d",
    "",
    "table.figure, table.table, table.figureSeries, table.equation \x7b",
    "  margin: 0.8em auto;",
    "  border-collapse: collapse;",
    "  page-break-inside: avoid;",
    "\x7d",
    "span.captionTitle \x7b font-weight: bold; \x7d",
    "",
    "table.equation \x7b width: 100%; \x7d",
    "td.equationNumber \x7b text-align: right; \x7d",
    "",
    "table.math \x7b display: inline-table; vertical-align: middle; " ++
      "border-collapse: collapse; \x7d",
    "td.fractionTop \x7b border-bottom: 0.5pt solid #000; \x7d",
    "td.radicand \x7b border-top: 0.5pt solid #000; \x7d",
    "td.exponent, td.rootIndex, td.limit \x7b font-size: 0.7em; \x7d",
    "",
    "a \x7b color: #000; text-decoration: none; \x7d",
    "div.references \x7b page-break-before: auto; \x7d"]

/-- The name of the style sheet for screens. -/
def screenName : String := "screen.css"

/-- The name of the style sheet for paper. -/
def printName : String := "print.css"

/-- A text from its lines, each ended by a line feed. -/
def ofLines (lines : List String) : String := String.join (lines.map (· ++ "\n"))

/-- The style sheets in the order of their names. -/
def sheets : List (String × String) :=
  [(printName, ofLines printLines), (screenName, ofLines screenLines)]

/-- The names of the style sheets. -/
def names : List String := sheets.map Prod.fst

/-- Put the style sheets into a directory, which is made if it is not there. -/
def stock (files : FileSystem) (directory : Location) : FileSystem :=
  sheets.foldl (fun files (name, content) ↦ files.put (directory ++ [name]) (.text content))
    (files.put directory .directory)

/-- The text of the file that a path names, seen from a directory. -/
def textFrom? (files : FileSystem) (directory : Path) (name : String) : Option String :=
  (files.read (directory.join name)).toOption

/-- The text of a style sheet. -/
@[irreducible] def text? (name : String) : Option String := textFrom? (stock {} []) ⟨"/"⟩ name

end Stylesheet

end Manuscript
