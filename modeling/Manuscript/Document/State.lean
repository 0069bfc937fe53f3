import Manuscript.Bibliography.Citation
import Manuscript.Document.Frame
import Manuscript.Markup.Backend

/-!
# Documents

The state of a document between two calls: the open elements, what has been written, the counters,
and the labels, macros and cited works known so far.
-/

namespace Manuscript

/-- How far a document has come. -/
inductive Phase where
  | start
  | header
  | headerDone
  | body
  | done
  deriving DecidableEq, Repr

/-- What the header said. -/
structure Head where
  title : Option Passage := none
  authors : List Passage := []
  date : Option Passage := none
  deriving DecidableEq, Repr

namespace Head

/-- The names of the authors in one channel, joined with commas and `and`; absent if there are
none. -/
def byline (head : Head) (channel : Passage → String) : Option String :=
  if head.authors.isEmpty then none
  else some (Series.andTexts (head.authors.map channel)).plain

end Head

/-- A document that is being written into the file at `path`, which lies at `place`. -/
structure Document where
  settings : Settings
  directory : Path
  stem : String
  path : Path
  place : Location
  labels : Registry
  output : Output := {}
  phase : Phase := .start
  frames : Frames := []
  /-- The number of elements begun and not ended, which indents new lines. -/
  tagDepth : Nat := 0
  /-- The positions of the section begun last and of the sections around it. -/
  sectionPath : List Nat := []
  sections : Nat := 0
  figures : Nat := 0
  tables : Nat := 0
  equations : Nat := 0
  head : Head := {}
  macros : Macro.Library := {}
  bibliography : Bibliography := {}
  images : List Path := []
  deriving DecidableEq, Repr

namespace Document

/-- The number that tells the labels of the document from those of others. -/
def serial (d : Document) : Nat := d.labels.owner

/-- The number of elements begun and not ended. -/
def depth (d : Document) : Nat := d.tagDepth

/-- The kind of the innermost open element. -/
def innermost (d : Document) : Option Kind := d.frames.innermost

/-- The start of a new line, indented by the open elements, if the markup is laid out for people. -/
def lineBreak (d : Document) : String :=
  if d.settings.humanReadable then
    String.ofList ('\n' :: List.replicate (2 * d.depth) ' ')
  else ""

/-- Append to both channels. -/
def append (d : Document) (passage : Passage) : Document :=
  { d with output := d.output.write passage }

/-- Append markup. -/
def emit (d : Document) (markup : String) : Document := d.append ⟨markup, ""⟩

/-- Append markup on a new line. -/
def emitLine (d : Document) (markup : String) : Document := d.emit (d.lineBreak ++ markup)

/-- Append a phrase as the backend writes it, and its plain text beside it. -/
def appendPhrase (backend : Backend) (d : Document) (phrase : Phrase) : Document :=
  d.append (Passage.join (phrase.map fun span ↦
    match span with
    | .text s => ⟨backend.escape s, Marker.hide s⟩
    | .space => ⟨backend.noBreakSpace, Span.noBreakSpace⟩
    | .emphasized s =>
      ⟨backend.inlineStart .emphasize ++ backend.escape s ++ backend.inlineEnd .emphasize,
        Marker.hide s⟩
    | .link target s => ⟨backend.link target (backend.escape s), Marker.hide s⟩))

/-- Hand something to the innermost open element, which is lost if it cannot take it. -/
def offer (d : Document) (take : FrameState → Option FrameState) : Document :=
  { d with frames := (d.frames.changeTop? take).getD d.frames }

/-- Hand something to the innermost figure series, which is lost if there is none. -/
def offerSeries (d : Document) (take : FrameState → Option FrameState) : Document :=
  { d with frames := (d.frames.changeSeries? take).getD d.frames }

/-- Move the root of the output into the file if it is time. -/
def stream (d : Document) : Document := { d with output := d.output.stream }

end Document

/-- A document with the file system that it writes into. -/
structure Session where
  document : Document
  files : FileSystem
  deriving DecidableEq, Repr

namespace Session

/-- Change the document alone. -/
def modifyDocument (s : Session) (change : Document → Document) : Session :=
  { s with document := change s.document }

/-- The file system with everything in the output file that has been streamed. -/
def settle (s : Session) : FileSystem :=
  s.files.put s.document.place (.text s.document.output.streamed)

end Session

end Manuscript
