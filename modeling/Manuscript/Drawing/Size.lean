import Manuscript.Document.Error

/-!
# Sizes of figures

A figure is given in millimetres and painted in pixels.
-/

namespace Manuscript

/-- The number of pixels along a side of a figure: the nearest whole number, a half going up, but at
least one and at most `Limit.maxSide`. -/
def pixels (millimetres : Float) (dpi : Nat) : Except Limit Nat :=
  if !millimetres.isFinite || millimetres < 0 then .error (.length millimetres)
  else
    let exact := millimetres / 25.4 * Float.ofNat dpi
    let whole := exact.toUInt64.toNat
    let count := if 0.5 ≤ exact - Float.ofNat whole then whole + 1 else whole
    if Limit.maxSide < count then .error (.side millimetres dpi)
    else .ok (max 1 count)

end Manuscript
