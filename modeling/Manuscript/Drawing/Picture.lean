import Manuscript.Drawing.Color

/-!
# Canvases and pictures

A canvas starts out white and is painted with rectangles, later ones over earlier ones. A picture is
a canvas with the colour model and the format in which it is stored. Its pixels are given as runs:
row by row, each run with its length.
-/

namespace Manuscript

/-- A rectangle of one colour; `left` and `top` are the position of its first pixel. -/
structure Fill where
  left : Nat
  top : Nat
  width : Nat
  height : Nat
  color : Color
  deriving DecidableEq, Repr

namespace Fill

/-- Whether the rectangle covers a pixel. -/
def covers (fill : Fill) (x y : Nat) : Bool :=
  fill.left ≤ x && x < fill.left + fill.width && fill.top ≤ y && y < fill.top + fill.height

end Fill

/-- A white area with the rectangles painted on it, the latest first. -/
structure Canvas where
  width : Nat
  height : Nat
  fills : List Fill := []
  deriving DecidableEq, Repr

namespace Canvas

/-- Paint a rectangle; what lies outside the area is lost. -/
def paint (canvas : Canvas) (fill : Fill) : Canvas :=
  { canvas with fills := fill :: canvas.fills }

/-- The colour of a pixel: of the latest rectangle over it, or white. -/
def colorAt (canvas : Canvas) (x y : Nat) : Color :=
  ((canvas.fills.find? (·.covers x y)).map Fill.color).getD Color.white

/-- The least positions below `limit` from which on the same rectangles cover the pixels, with how
long they do: the edges cut an axis into stretches. -/
def stretches (limit : Nat) (edges : List Nat) : List (Nat × Nat) :=
  let starts := ((0 :: edges.filter (· < limit)).eraseDups).mergeSort
  starts.zip ((starts.drop 1 ++ [limit]).zipWith (· - ·) starts)

/-- Put neighbouring runs of the same value together. -/
def mergeRuns {α : Type} [DecidableEq α] (runs : List (Nat × α)) : List (Nat × α) :=
  runs.foldr (fun run merged ↦
    match merged with
    | [] => [run]
    | next :: rest =>
      if run.2 = next.2 then (run.1 + next.1, run.2) :: rest else run :: next :: rest) []

/-- The runs of one row, each pixel seen through `view`. -/
def rowRuns {α : Type} [DecidableEq α] (canvas : Canvas) (view : Color → α) (y : Nat) :
    List (Nat × α) :=
  mergeRuns
    ((stretches canvas.width
      (canvas.fills.flatMap fun fill ↦ [fill.left, fill.left + fill.width])).map
      fun (start, length) ↦ (length, view (canvas.colorAt start y)))

/-- The runs of all rows, each pixel seen through `view`. Equal rows are worked out once. -/
def runs {α : Type} [DecidableEq α] (canvas : Canvas) (view : Color → α) : List (Nat × α) :=
  mergeRuns
    ((stretches canvas.height
      (canvas.fills.flatMap fun fill ↦ [fill.top, fill.top + fill.height])).flatMap
      fun (start, rows) ↦
        match canvas.rowRuns view start with
        | [(length, value)] => [(length * rows, value)]
        | row => (List.replicate rows row).flatten)

end Canvas

/-- A stored canvas. -/
structure Picture where
  canvas : Canvas
  model : ColorModel
  format : ImageFormat
  deriving DecidableEq, Repr

namespace Picture

/-- The channels of a stored pixel. A GIF keeps every colour as red, green, blue and opacity. -/
def channels (picture : Picture) (color : Color) : List UInt8 :=
  match picture.format, picture.model.channels color with
  | .gif, [gray] => [gray, gray, gray, 255]
  | .gif, parts => parts ++ [255]
  | _, parts => parts

/-- The name of the pixel layout. -/
def layout (picture : Picture) : String :=
  match picture.format, picture.model with
  | .gif, _ => "Rgba8"
  | _, .rgb => "Rgb8"
  | _, _ => "L8"

/-- The stored pixels, row by row, as runs. -/
def runs (picture : Picture) : List (Nat × List UInt8) := picture.canvas.runs picture.channels

end Picture

end Manuscript
