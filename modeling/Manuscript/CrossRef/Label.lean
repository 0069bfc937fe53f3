import Manuscript.Structure.Kind

/-!
# Labels

A label stands for an element that may not have been begun yet. Its key is the identifier that
the element carries in the output; its state says how far the element has come.
-/

namespace Manuscript

/-- What a label may be attached to. -/
inductive Target where
  | sect
  | figure
  | subFigure
  | table
  | equation
  deriving DecidableEq, Repr

namespace Target

/-- Every target. -/
def all : List Target := [sect, figure, subFigure, table, equation]

/-- The name of the target. -/
def name : Target → String
  | sect => "Section"
  | figure => "Figure"
  | subFigure => "SubFigure"
  | table => "Table"
  | equation => "Equation"

/-- The letters in front of the number in a key. -/
def keyStem : Target → String
  | sect => "sec"
  | figure => "fig"
  | subFigure => "subfig"
  | table => "tab"
  | equation => "eq"

/-- The noun in front of one reference. -/
def singular : Target → String
  | sect => "Section"
  | figure | subFigure => "Figure"
  | table => "Table"
  | equation => "Equation"

/-- The noun in front of several references. -/
def plural : Target → String
  | sect => "Sections"
  | figure | subFigure => "Figures"
  | table => "Tables"
  | equation => "Equations"

/-- The noun in front of one or of several references. -/
def noun (target : Target) (many : Bool) : String :=
  if many then target.plural else target.singular

/-- Whether a label of this target fits an element of the kind. -/
def fits : Target → Kind → Bool
  | sect, .sect => true
  | figure, .figure | figure, .figureSeries => true
  | subFigure, .subFigure => true
  | table, .table => true
  | equation, .equation => true
  | _, _ => false

end Target

/-- A handle to a labelled element. `owner` is the serial of the document that made the label,
`index` its position in that document's registry, and `ordinal` counts its target from one. -/
structure Label where
  owner : Nat
  index : Nat
  ordinal : Nat
  target : Target
  deriving DecidableEq, Repr

namespace Label

/-- The identifier of the labelled element. -/
def key (label : Label) : String := label.target.keyStem ++ toString label.ordinal

end Label

/-- How far the element of a label has come. -/
inductive LabelState where
  /-- The element has not been begun. -/
  | pending
  /-- The element has been begun and has no number yet. -/
  | begun
  /-- The element has the number text. -/
  | resolved (number : String)
  deriving DecidableEq, Repr

end Manuscript
