import VideoOutput.Window.Sizing

/-!
# Configures

A toplevel configure is kept until the surface configure that ends its sequence, and then applied
as one. A later one before that takes its place. The compositor's size holds for a fullscreen or
maximized window; a floating one goes back to its floating size when it has just stopped filling
its area or when the compositor leaves the size to it, and otherwise takes the size given, held to
the video's aspect.
-/

namespace VideoOutput

namespace Window

def configureToplevel (w : Window) (width height : Int) (states : ToplevelStates) : Window :=
  { w with pending := some ⟨width, height, states⟩, phase := .configuring }

/-- The size of the given width in the window's aspect. The height follows only if the window
itself is to keep the aspect. -/
def aspectSize (w : Window) (width height : Int) : Size :=
  if w.options.keepAspect then
    let (aspectWidth, aspectHeight) := w.aspect
    let factor := Float.ofInt width / Float.ofInt aspectWidth
    (Word.int32.ceil (Float.ofInt aspectWidth * factor),
      if w.options.keepAspectWindow then Word.int32.ceil (Float.ofInt aspectHeight * factor)
      else height)
  else (width, height)

/-- The states of the configure take effect; requests for them are answered. -/
def applyStates (w : Window) (states : ToplevelStates) : Window :=
  let changed :=
    w.fullscreen.desired ≠ states.isFullscreen ∨ w.maximized.desired ≠ states.isMaximized
  { w with
    minimized := w.minimized && !states.isActivated
    stateChange := w.stateChange || changed
    fullscreen := w.fullscreen.confirm states.isFullscreen
    maximized := w.maximized.confirm states.isMaximized
    requests := w.requests ++ (w.decoration.requested.map ShellRequest.setDecorationMode).toList }

def applyActivation (w : Window) (activated : Bool) : Window :=
  if w.activated = activated then w
  else (updateFocus { w with activated }).addEvents { expose := activated }

/-- The size of the configure takes effect, and whether the window is to be laid out anew. -/
def applySize (w : Window) (previous : Size) (width height : Int) : Window × Bool :=
  let floating := !w.isFilling
  if w.stateChange && floating then
    ({ w with geometry := w.windowSize, stateChange := false }, true)
  else if width = 0 ∨ height = 0 then
    (if floating then { w with geometry := w.windowSize } else w, true)
  else if previous = (width, height) then (w, false)
  else
    let (newWidth, newHeight) := if floating then w.aspectSize width height else (width, height)
    let geometry := Rect.ofSize newWidth newHeight
    ({ w with geometry, windowSize := if floating then geometry else w.windowSize },
      w.geometry ≠ geometry)

def applyConfigure (w : Window) (c : PendingConfigure) : Except ArithmeticFault Window := do
  let previous := w.toplevelSize
  let w := { w with toplevelSize := (c.width, c.height) }
  if ← w.geometry.isEmpty then return w
  let w := (w.applyStates c.states).applyActivation c.states.isActivated
  let (w, resized) := w.applySize previous c.width c.height
  return w.addEvents { resize := resized }

/-- The end of a configure sequence, once acknowledged, and whether it activated the window. -/
def configureSurface (w : Window) : Except ArithmeticFault (Bool × Window) := do
  let configured ← match w.pending with
    | none => pure w
    | some c => applyConfigure { w with pending := none } c
  let configured := { configured with phase := .steady }
  return (!w.activated && configured.activated, configured)

end Window

end VideoOutput
