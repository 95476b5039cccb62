import VideoOutput.Geometry.Rect

/-!
# Aspect ratios

`reduceAspect` brings a size to lowest terms by Euclid's algorithm. `letterbox` places a picture
of a given aspect in a window: one side of the picture is the window's, the other is the
proportional length rounded to nearest, and the margins are equal up to one unit.
-/

namespace VideoOutput

/-- The greatest common divisor by repeated remainders. -/
def euclid (a b : Nat) : Nat :=
  if _h : b = 0 then a else euclid b (a % b)
  termination_by b
  decreasing_by exact Nat.mod_lt _ (Nat.pos_of_ne_zero _h)

def gcd (a b : Int) : Except ArithmeticFault Int := do
  let a ← Word.int32.abs a
  let b ← Word.int32.abs b
  return euclid a.toNat b.toNat

/-- The sides in lowest terms; a size with a side that is not positive counts as a square. -/
def reduceAspect (width height : Int) : Except ArithmeticFault Size := do
  if width ≤ 0 ∨ height ≤ 0 then return (1, 1)
  let d ← gcd width height
  let reducedWidth ← Word.int32.div width d
  let reducedHeight ← Word.int32.div height d
  return (reducedWidth, reducedHeight)

/-- `length * numerator / denominator`, rounded to nearest with halves upward. -/
def proportion (length numerator denominator : Int) : Except ArithmeticFault Int := do
  let product ← Word.int64.mul length numerator
  let half ← Word.int64.div denominator 2
  Word.int64.div (← Word.int64.add product half) denominator

/-- The nearer margin of a length in the middle of a side: half of what it leaves, brought back to
the narrow word. -/
def margin (side length : Int) : Except ArithmeticFault Int := do
  let rest ← Word.int64.sub side length
  return Word.int32.wrap (← Word.int64.div rest 2)

/-- The largest rectangle of the source's aspect centred in the window. A source or window with a
side that is not positive leaves the window as it is. -/
def letterbox (sourceWidth sourceHeight : Int) (window : Rect) : Except ArithmeticFault Rect := do
  let (windowWidth, windowHeight) ← window.size
  if sourceWidth ≤ 0 ∨ sourceHeight ≤ 0 ∨ windowWidth ≤ 0 ∨ windowHeight ≤ 0 then
    return window
  let wide ← Word.int64.mul sourceWidth windowHeight
  let tall ← Word.int64.mul sourceHeight windowWidth
  let (width, height) ←
    if wide > tall then
      pure (windowWidth, ← proportion windowWidth sourceHeight sourceWidth)
    else
      pure (← proportion windowHeight sourceWidth sourceHeight, windowHeight)
  let x0 ← Word.int32.add window.x0 (← margin windowWidth width)
  let y0 ← Word.int32.add window.y0 (← margin windowHeight height)
  let x1 ← Word.int32.add x0 (Word.int32.wrap width)
  let y1 ← Word.int32.add y0 (Word.int32.wrap height)
  return ⟨x0, y0, x1, y1⟩

end VideoOutput
