import VideoOutput.Arithmetic.Truncation

/-!
# Rectangles

A rectangle runs from its near corner up to, and not including, its far corner. Its sides are
differences of coordinates and so may leave the word; everything that reads a side can fail.
-/

namespace VideoOutput

structure Rect where
  x0 : Int
  y0 : Int
  x1 : Int
  y1 : Int
  deriving DecidableEq, Repr

/-- Width and height. -/
abbrev Size := Int × Int

namespace Rect

def ofSize (width height : Int) : Rect := ⟨0, 0, width, height⟩

def empty : Rect := ofSize 0 0

def width (r : Rect) : Except ArithmeticFault Int := Word.int32.sub r.x1 r.x0

def height (r : Rect) : Except ArithmeticFault Int := Word.int32.sub r.y1 r.y0

def size (r : Rect) : Except ArithmeticFault Size := do
  let width ← r.width
  let height ← r.height
  return (width, height)

/-- A side is not positive. The height is read only when the width is positive. -/
def isEmpty (r : Rect) : Except ArithmeticFault Bool := do
  if (← r.width) ≤ 0 then return true
  return decide ((← r.height) ≤ 0)

/-- The far corner scaled by the factor; the near corner stays. -/
def scaleExtent (r : Rect) (factor : Float) : Rect :=
  { r with
    x1 := Word.int32.truncate (Float.ofInt r.x1 * factor)
    y1 := Word.int32.truncate (Float.ofInt r.y1 * factor) }

end Rect

end VideoOutput
