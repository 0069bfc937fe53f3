import Manuscript.Drawing.Color

/-!
# Settings

What a document takes from outside: the resolution, format and colour model of its figures, and
whether its markup is laid out for people to read.
-/

namespace Manuscript

/-- The settings of a document. -/
structure Settings where
  dpi : Nat := 96
  format : ImageFormat := .png
  model : ColorModel := .rgb
  humanReadable : Bool := true
  deriving DecidableEq, Repr

namespace Settings

/-- The lowest resolution of figures. -/
def minDpi : Nat := 16

/-- The highest resolution of figures. -/
def maxDpi : Nat := 1200

/-- Whether a resolution is in range. -/
def dpiInRange (dpi : Nat) : Bool := minDpi ≤ dpi && dpi ≤ maxDpi

/-- The range of resolutions and the one that was asked for. -/
def dpiMessage (dpi : Nat) : String :=
  "must be between " ++ toString minDpi ++ " and " ++ toString maxDpi ++ ", got " ++ toString dpi

/-- Whether the settings can be used. -/
def isValid (settings : Settings) : Bool := dpiInRange settings.dpi

end Settings

end Manuscript
