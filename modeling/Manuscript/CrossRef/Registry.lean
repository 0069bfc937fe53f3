import Manuscript.CrossRef.Label

/-!
# The labels of one document

A registry remembers each label that a document made, in order, with its target and state. A label
leaves `pending` only through `attach`, and gets its number through `resolve`.
-/

namespace Manuscript

/-- Why a label cannot be used. -/
inductive LabelFault where
  /-- The label does not fit an element of the kind. -/
  | misfit (kind : Kind)
  /-- Another document made the label. -/
  | foreign
  /-- No such label was made. -/
  | unknown
  /-- An element carries the label already. -/
  | attached
  deriving DecidableEq, Repr

/-- One label of a registry. -/
structure LabelEntry where
  target : Target
  state : LabelState := .pending
  /-- Whether an element carries the label. -/
  attached : Bool := false
  deriving DecidableEq, Repr

/-- The labels that the document with serial `owner` made, the oldest first. -/
structure Registry where
  owner : Nat
  entries : List LabelEntry := []
  deriving DecidableEq, Repr

namespace Registry

/-- How many labels of the target were made. -/
def count (registry : Registry) (target : Target) : Nat :=
  registry.entries.countP (·.target == target)

/-- Make a new label. -/
def create (registry : Registry) (target : Target) : Label × Registry :=
  (⟨registry.owner, registry.entries.length, registry.count target + 1, target⟩,
    { registry with entries := registry.entries ++ [{ target }] })

/-- The entry of a label of this registry. -/
def entry (registry : Registry) (label : Label) : Except LabelFault LabelEntry :=
  if label.owner = registry.owner then
    match registry.entries[label.index]? with
    | some entry => .ok entry
    | none => .error .unknown
  else .error .foreign

/-- The state of a label of this registry. -/
def state (registry : Registry) (label : Label) : Except LabelFault LabelState :=
  (registry.entry label).map LabelEntry.state

/-- Why `label` is no label of this registry, if it is none. -/
def fault (registry : Registry) (label : Label) : Option LabelFault :=
  match registry.entry label with
  | .error fault => some fault
  | .ok _ => none

/-- Why `label` cannot be attached to an element of `kind` now, if there is a reason. -/
def attachFault (registry : Registry) (label : Label) (kind : Kind) : Option LabelFault :=
  if label.target.fits kind then
    match registry.entry label with
    | .error fault => some fault
    | .ok entry => if entry.attached then some .attached else none
  else some (.misfit kind)

/-- Change the entry of a label of this registry. -/
def update (registry : Registry) (label : Label) (change : LabelEntry → LabelEntry) : Registry :=
  { registry with entries := registry.entries.modify label.index change }

/-- Record that an element that carries the label has been begun. -/
def attach (registry : Registry) (label : Label) : Registry :=
  registry.update label ({ · with attached := true, state := .begun })

/-- Record the number of the element of the label. -/
def resolve (registry : Registry) (label : Label) (number : String) : Registry :=
  registry.update label ({ · with state := .resolved number })

end Registry

end Manuscript
