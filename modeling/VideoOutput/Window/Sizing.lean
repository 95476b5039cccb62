import VideoOutput.Geometry.Aspect
import VideoOutput.Window.State

/-!
# How a window finds its size

The size the video asks for, in the units of the output's scale, is the floating size; a window
that is neither fullscreen nor maximized takes it at once.
-/

namespace VideoOutput

namespace Window

/-- The scaling on an output of the given scale. -/
def targetScaling (w : Window) (outputScale : Int) : Int :=
  if w.options.scaleWithOutput then max outputScale 1 else 1

/-- Takes the output's scale and converts the natural and the floating size to it. -/
def setScaling (w : Window) (outputScale : Int) : Window :=
  let scaling := w.targetScaling outputScale
  let factor := Float.ofInt w.scaling / Float.ofInt scaling
  { w with
    scaling
    naturalSize := w.naturalSize.scaleExtent factor
    windowSize := w.windowSize.scaleExtent factor }

/-- The size asked for explicitly, or else the video's. -/
def pixelSize (w : Window) : Size :=
  if 0 < w.options.width ∧ 0 < w.options.height then (w.options.width, w.options.height)
  else w.videoSize

/-- Recomputes the natural size and its aspect. -/
def setNaturalSize (w : Window) : Except ArithmeticFault Window := do
  let (width, height) := w.pixelSize
  let aspect ← reduceAspect width height
  let scaledWidth ← Word.int32.div width w.scaling
  let scaledHeight ← Word.int32.div height w.scaling
  return { w with aspect, naturalSize := .ofSize scaledWidth scaledHeight }

/-- The first output the surface is placed on; later ones change nothing here. -/
def attachOutput (w : Window) (outputScale : Int) : Window :=
  if w.hasOutput then w
  else ({ w with hasOutput := true }.setScaling outputScale).addEvents { scale := true }

/-- The surface entered an output. -/
def surfaceEntered (w : Window) (outputScale : Int) (areaChanged : Bool) :
    Except ArithmeticFault Window := do
  let rescaled := w.targetScaling outputScale ≠ w.scaling
  let scaled := if rescaled then (w.setScaling outputScale).addEvents { scale := true } else w
  let sized ← if areaChanged then scaled.setNaturalSize else pure scaled
  let resized := rescaled || areaChanged
  return sized.addEvents { resize := resized, windowState := true }

def surfaceLeft (w : Window) : Window := w.addEvents { windowState := true }

/-- An output was described anew. The current one decides scale and size. -/
def outputDone (w : Window) (isCurrent : Bool) (outputScale : Int) :
    Except ArithmeticFault Window := do
  let sized ←
    if isCurrent then do
      let sized ← (w.setScaling outputScale).setNaturalSize
      pure (sized.addEvents { scale := true, resize := true })
    else pure w
  return sized.addEvents { windowState := true }

/-- Holds the floating size to the positive bounds. -/
def applyBounds (w : Window) : Window :=
  let (width, height) := w.bounds
  let r := w.windowSize
  { w with
    windowSize :=
      { r with
        x1 := if 0 < width ∧ width < r.x1 then width else r.x1
        y1 := if 0 < height ∧ height < r.y1 then height else r.y1 } }

def configureBounds (w : Window) (width height : Int) : Window :=
  { w with bounds := (width, height) }

/-- Asks again for the states that are wanted. -/
def requestDesired (w : Window) : Window :=
  let w :=
    if w.fullscreen.desired then pushRequest { w with stateChange := true } .setFullscreen else w
  let w :=
    if w.maximized.desired then pushRequest { w with stateChange := true } .setMaximized else w
  if w.minimized then w.pushRequest .setMinimized else w

/-- The natural size becomes the floating one, held to the bounds where the options heed them. -/
def resetWindowSize (w : Window) : Window :=
  let w := { w with windowSize := w.naturalSize }
  if w.options.heedBounds then w.applyBounds else w

/-- A window that is to float, or that shows nothing yet, takes its floating size. -/
def takeWindowSize (w : Window) : Except ArithmeticFault Window := do
  let floating ←
    if !w.fullscreen.desired && !w.maximized.desired then pure true else w.geometry.isEmpty
  return if floating then { w with geometry := w.windowSize } else w

/-- A new video size, in pixels. -/
def reconfig (w : Window) (videoWidth videoHeight : Int) : Except ArithmeticFault Window := do
  let w ← { w with videoSize := (videoWidth, videoHeight) }.setNaturalSize
  let w ← w.resetWindowSize.takeWindowSize
  return w.requestDesired.addEvents { resize := true }

/-- An explicit size in pixels; without positive sides the video's size counts again. -/
def setWindowSize (w : Window) (width height : Int) : Except ArithmeticFault Window := do
  let w := { w with options := { w.options with width, height } }
  if !w.hasOutput then return w
  let w ← w.setNaturalSize
  let w := { w with windowSize := w.naturalSize }
  let w := if w.isFilling then w else { w with geometry := w.windowSize }
  return w.markSpeculative.addEvents { resize := true }

/-- The size in pixels the window has when it is not fullscreen. -/
def unfullscreenSize (w : Window) : Except ArithmeticFault Size := do
  let r := if w.maximized.confirmed then w.geometry else w.windowSize
  let width ← Word.int32.mul (← r.width) w.scaling
  let height ← Word.int32.mul (← r.height) w.scaling
  return (width, height)

/-- Sets that size. A maximized window first asks to be floating, and takes the size once it is. -/
def setUnfullscreenSize (w : Window) (width height : Int) : Except ArithmeticFault Window := do
  let scaledWidth ← Word.int32.div width w.scaling
  let scaledHeight ← Word.int32.div height w.scaling
  let w := { w with windowSize := .ofSize scaledWidth scaledHeight }
  if w.fullscreen.confirmed then return w
  if w.maximized.confirmed then return w.setMaximized false
  return (markSpeculative { w with geometry := w.windowSize }).addEvents { resize := true }

/-- The scale of the surface, where it is positive. -/
def scale? (w : Window) : Option Float :=
  if 0 < w.scaling then some (Float.ofInt w.scaling) else none

end Window

end VideoOutput
