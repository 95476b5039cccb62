import VideoOutput.Geometry.Aspect

/-!
# The layout of the surfaces

The main surface covers the window; the video lies in it, centred and in its aspect, or stretched
over it when the aspect is not kept.
-/

namespace VideoOutput

structure Layout where
  /-- The size of the window's content, all of it opaque. -/
  window : Size
  /-- The rectangle of the video in it. -/
  video : Rect
  /-- The size of the video's rectangle. -/
  videoSize : Size
  /-- The size the main surface is scaled to. -/
  mainSize : Size
  deriving DecidableEq, Repr

namespace Layout

/-- The rectangle of a video in a window. -/
def place (keepAspect : Bool) (video window : Size) : Except ArithmeticFault Rect :=
  if keepAspect then letterbox video.1 video.2 (.ofSize window.1 window.2)
  else .ok (.ofSize window.1 window.2)

/-- The margin on both sides and the length between them. -/
def withMargins (margin length : Int) : Except ArithmeticFault Int := do
  Word.int32.add (← Word.int32.mul 2 margin) length

/-- The layout of a window that is not empty. -/
def of? (geometry : Rect) (video : Size) (keepAspect : Bool) :
    Except ArithmeticFault (Option Layout) := do
  let window ← geometry.size
  if window.1 ≤ 0 ∨ window.2 ≤ 0 then return none
  let rect ← place keepAspect video window
  let videoSize ← rect.size
  let mainWidth ← withMargins rect.x0 videoSize.1
  let mainHeight ← withMargins rect.y0 videoSize.2
  return some ⟨window, rect, videoSize, (mainWidth, mainHeight)⟩

end Layout

end VideoOutput
