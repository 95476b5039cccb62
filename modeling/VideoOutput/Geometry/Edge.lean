import VideoOutput.Geometry.Rect

/-!
# Resize zones

A press near the border of a window grabs the edge it is near to; near two edges that meet it
grabs their corner.
-/

namespace VideoOutput

inductive Edge where
  | top
  | bottom
  | left
  | topLeft
  | bottomLeft
  | right
  | topRight
  | bottomRight
  deriving DecidableEq, Repr

namespace Edge

def name : Edge → String
  | top => "Top"
  | bottom => "Bottom"
  | left => "Left"
  | topLeft => "TopLeft"
  | bottomLeft => "BottomLeft"
  | right => "Right"
  | topRight => "TopRight"
  | bottomRight => "BottomRight"

/-- The number of the edge in the shell protocol. -/
def code : Edge → Int
  | top => 1
  | bottom => 2
  | left => 4
  | topLeft => 5
  | bottomLeft => 6
  | right => 8
  | topRight => 9
  | bottomRight => 10

/-- The edge of the zones a position lies in. Left wins over right, then top over bottom. -/
def ofZones (left right top bottom : Bool) : Option Edge :=
  match left, right, top, bottom with
  | true, _, true, _ => some topLeft
  | true, _, _, true => some bottomLeft
  | true, _, _, _ => some Edge.left
  | _, true, true, _ => some topRight
  | _, true, _, true => some bottomRight
  | _, true, _, _ => some Edge.right
  | _, _, true, _ => some Edge.top
  | _, _, _, true => some Edge.bottom
  | _, _, _, _ => none

/-- The edge at a whole position. The near zones end before `reach`; the far ones begin after the
side less `reach`. -/
def at? (x y reach width height : Int) : Except ArithmeticFault (Option Edge) := do
  let farX ← Word.int32.sub width reach
  let farY ← Word.int32.sub height reach
  return ofZones (decide (x < reach)) (decide (x > farX)) (decide (y < reach)) (decide (y > farY))

/-- The edge at a position on the surface, whose fractions are dropped. -/
def near? (x y : Float) (reach width height : Int) : Except ArithmeticFault (Option Edge) :=
  at? (Word.int32.truncate x) (Word.int32.truncate y) reach width height

end Edge

end VideoOutput
