/-!
# Styles of text and cells
-/

namespace Manuscript

/-- Horizontal alignment of a table column or cell. -/
inductive Alignment where
  | left
  | center
  | right
  deriving DecidableEq, Repr

namespace Alignment

/-- Every alignment. -/
def all : List Alignment := [left, center, right]

/-- The name of the alignment. -/
def name : Alignment → String
  | left => "Left"
  | center => "Center"
  | right => "Right"

/-- The alignment as a value of the style property `text-align`. -/
def css : Alignment → String
  | left => "left"
  | center => "center"
  | right => "right"

end Alignment

/-- A style of running text. -/
inductive InlineStyle where
  | emphasize
  | subscript
  | superscript
  | normal
  deriving DecidableEq, Repr

namespace InlineStyle

/-- Every style. -/
def all : List InlineStyle := [emphasize, subscript, superscript, normal]

/-- The name of the style. -/
def name : InlineStyle → String
  | emphasize => "Emphasize"
  | subscript => "Subscript"
  | superscript => "Superscript"
  | normal => "Normal"

end InlineStyle

end Manuscript
