import Manuscript.Document.Begin
import Manuscript.Document.Close
import Manuscript.Document.End
import Manuscript.Document.Write

/-!
# Calls

Whatever a caller does with a document is a list of calls. Each call is answered and gives the next
session, also when it is refused; the calls behind it go on from there.
-/

namespace Manuscript

/-- A call on a document. -/
inductive Call where
  | createLabel (target : Target)
  | beginElement (element : Element)
  | endElement (kind : Kind)
  | write (text : String)
  | writeNumber (number : Int)
  | writeSpace
  | writeSeries (joiner : Joiner) (bound : Bool) (items : List Phrase)
  | reference (joiner : Joiner) (bound : Bool) (labels : List Label)
  | cite (style : CitationStyle) (records : List Record)
  | paint (fills : List Fill)

namespace Call

/-- Begin an element, do what is inside, and end the element. What is refused first is the outcome,
and then the element stays open. -/
def within {m : Type → Type} [Monad m] {α : Type} (act : Call → m Unit) (element : Element)
    (inner : m α) : m α := do
  act (.beginElement element)
  let result ← inner
  act (.endElement element.kind)
  return result

end Call

/-- The answer to a call that was accepted. -/
inductive Reply where
  | done
  | label (label : Label)
  | size (width height : Nat)
  deriving DecidableEq, Repr

namespace Call

/-- What is done for a call. -/
def action (backend : Backend) : Call → Action Reply
  | createLabel target => return .label (← Session.createLabel target)
  | beginElement element => do
    Session.beginElement backend element
    return .done
  | endElement kind => do
    Session.endElement backend kind
    return .done
  | write text => do
    Session.write backend text
    return .done
  | writeNumber number => do
    Session.writeNumber backend number
    return .done
  | writeSpace => do
    Session.writeSpace backend
    return .done
  | writeSeries joiner bound items => do
    Session.writeSeries backend joiner bound items
    return .done
  | reference joiner bound labels => do
    Session.reference backend joiner bound labels
    return .done
  | cite style records => do
    Session.cite backend style records
    return .done
  | paint fills => do
    let (width, height) ← Session.paint fills
    return .size width height

end Call

namespace Session

/-- Answer a call. -/
def perform (backend : Backend) (call : Call) (s : Session) :
    Except DocumentError Reply × Session :=
  match call.action backend s with
  | .ok reply next => (.ok reply, next)
  | .error error next => (.error error, next)

/-- The session after a list of calls. -/
def run (backend : Backend) (calls : List Call) (s : Session) : Session :=
  calls.foldl (fun s call ↦ (s.perform backend call).2) s

end Session

end Manuscript
