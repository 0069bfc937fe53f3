import Manuscript.CrossRef.Reference
import Manuscript.Document.Action

/-!
# Writing into the innermost element

Text, series, references and citations go where text is allowed, and rectangles where a figure body
is the innermost element. A call that is refused changes nothing.
-/

namespace Manuscript

namespace Document

/-- How far the element of a label has come. -/
def labelState (d : Document) (label : Label) : Except DocumentError LabelState :=
  (d.labels.state label).mapError (.label label)

/-- Why text may not be written now, if it may not. -/
def textError (d : Document) : Option DocumentError :=
  if d.innermost.any Kind.acceptsText then none else some (.textNotAllowed d.innermost)

end Document

namespace Session

open Action

/-- Make a label of the document. -/
def createLabel (target : Target) : Action Label := do
  let (label, labels) := (← current).labels.create target
  change ({ · with labels })
  return label

/-- Write a phrase, where text is allowed. -/
def writePhrase (backend : Backend) (phrase : Phrase) : Action Unit := do
  refuse (← current).textError
  change (·.appendPhrase backend phrase)

/-- Write text. -/
def write (backend : Backend) (text : String) : Action Unit := do
  writePhrase backend [.text text]
  change Document.stream

/-- The text of a number, with a typographic minus sign. -/
def numberText (number : Int) : String :=
  if number < 0 then "\u2212" ++ toString number.natAbs else toString number

/-- Write a number. -/
def writeNumber (backend : Backend) (number : Int) : Action Unit :=
  write backend (numberText number)

/-- Write a space at which no line may be broken. -/
def writeSpace (backend : Backend) : Action Unit := writePhrase backend [.space]

/-- Write a series of phrases. -/
def writeSeries (backend : Backend) (joiner : Joiner) (bound : Bool) (items : List Phrase) :
    Action Unit := do
  writePhrase backend (Series.join joiner bound items)
  change Document.stream

/-- How far the elements of labels have come. -/
def labelStates : List Label → Action (List LabelState)
  | [] => return []
  | label :: others => do
    match (← current).labelState label with
    | .error error => throw error
    | .ok state => return state :: (← labelStates others)

/-- Write references to labels of this document. -/
def reference (backend : Backend) (joiner : Joiner) (bound : Bool) (labels : List Label) :
    Action Unit := do
  let states ← labelStates labels
  writePhrase backend (Reference.phrase joiner bound labels states)
  change Document.stream

/-- Note works as cited and give their places in the reference list. -/
def registerWorks (records : List Record) : Action (List Citation) := do
  let (citations, bibliography) := (← current).bibliography.cite records
  change ({ · with bibliography })
  return citations

/-- Cite works. Without any, nothing is written, and that is allowed anywhere. -/
def cite (backend : Backend) (style : CitationStyle) (records : List Record) : Action Unit :=
  if records.isEmpty then return
  else do
    refuse (← current).textError
    let citations ← registerWorks records
    writePhrase backend (Citation.phrase style citations)
    change Document.stream

/-- Paint on the canvas of the figure body; gives its size. -/
def paint (fills : List Fill) : Action (Nat × Nat) := do
  match (← current).frames.topState? with
  | some (.figureBody width height _) =>
    change (·.offer (FrameState.takePaint? fills))
    return (width, height)
  | _ => throw (.lifecycle .noCanvas)

end Session

end Manuscript
