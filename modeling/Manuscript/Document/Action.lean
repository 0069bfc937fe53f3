import Manuscript.Document.State

/-!
# Actions

Whatever is done to a session is an action: it gives an answer or is refused, and leaves a session
either way. A refusal undoes nothing, so an action that may be refused has to check before it
changes anything.
-/

namespace Manuscript

/-- Something that is done to a session. -/
abbrev Action := EStateM DocumentError Session

namespace Action

/-- The document as it is now. -/
def current : Action Document := do return (← get).document

/-- Change the document. -/
def change (f : Document → Document) : Action Unit := modify (·.modifyDocument f)

/-- Refuse if there is a reason. -/
def refuse (reason : Option DocumentError) : Action Unit :=
  match reason with
  | some error => throw error
  | none => pure ()

/-- Change the labels of the document, unless there is a fault with the label. -/
def relabel (label : Label) (fault : Option LabelFault) (change : Registry → Registry) :
    Action Unit := do
  refuse (fault.map (.label label))
  Action.change fun d ↦ { d with labels := change d.labels }

/-- Mark the label of an element of the kind that is being begun, if it has one. -/
def attach (kind : Kind) (label : Option Label) : Action Unit := do
  match label with
  | some label => relabel label ((← current).labels.attachFault label kind) (·.attach label)
  | none => pure ()

/-- Record the number of an element that may carry a label. -/
def resolve (label : Option Label) (number : String) : Action Unit := do
  match label with
  | some label => relabel label ((← current).labels.fault label) (·.resolve label number)
  | none => pure ()

end Action

end Manuscript
