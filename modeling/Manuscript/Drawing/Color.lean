/-!
# Colours and image formats

Figures are painted in full colour and converted to a colour model before they are stored.
-/

namespace Manuscript

/-- A colour with eight bits for each of red, green and blue. -/
structure Color where
  red : UInt8
  green : UInt8
  blue : UInt8
  deriving DecidableEq, Repr

namespace Color

/-- The colour of a fresh canvas. -/
def white : Color := ⟨255, 255, 255⟩

/-- The brightness of the colour, weighted for the eye and rounded down. -/
def luma (color : Color) : UInt8 :=
  UInt8.ofNat
    ((2126 * color.red.toNat + 7152 * color.green.toNat + 722 * color.blue.toNat) / 10000)

end Color

/-- The file format of stored figures. -/
inductive ImageFormat where
  | png
  | jpeg
  | gif
  deriving DecidableEq, Repr

namespace ImageFormat

/-- Every format. -/
def all : List ImageFormat := [png, jpeg, gif]

/-- The name of the format in settings. -/
def name : ImageFormat → String
  | png => "png"
  | jpeg => "jpeg"
  | gif => "gif"

/-- The extension of a file of the format. -/
def extension : ImageFormat → String
  | png => "png"
  | jpeg => "jpg"
  | gif => "gif"

end ImageFormat

/-- What is left of the colours of a stored figure. -/
inductive ColorModel where
  | rgb
  | gray
  | blackWhite
  deriving DecidableEq, Repr

namespace ColorModel

/-- Every colour model. -/
def all : List ColorModel := [rgb, gray, blackWhite]

/-- The name of the colour model in settings. -/
def name : ColorModel → String
  | rgb => "rgb"
  | gray => "gray"
  | blackWhite => "black_white"

/-- The least brightness that counts as white where there are only black and white. -/
def threshold : UInt8 := 128

/-- The channels that stand for a colour: three in full colour, else one. -/
def channels (model : ColorModel) (color : Color) : List UInt8 :=
  match model with
  | rgb => [color.red, color.green, color.blue]
  | gray => [color.luma]
  | blackWhite => [if threshold ≤ color.luma then 255 else 0]

end ColorModel

end Manuscript
