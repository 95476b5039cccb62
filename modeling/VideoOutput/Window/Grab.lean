import VideoOutput.Window.State

/-!
# Moving and resizing by hand

A press on the content moves the window, or resizes it when it is near an edge. A window with a
border, or of the compositor's size, is only moved.
-/

namespace VideoOutput

namespace Window

def grab (w : Window) (x y : Float) (reach : Int) : Except ArithmeticFault ShellRequest := do
  if w.isFilling || w.border then return .move
  let width ← w.geometry.width
  let height ← w.geometry.height
  match ← Edge.near? x y reach width height with
  | some edge => return .resize edge
  | none => return .move

/-- The left button was pressed. A window of the compositor's size does not answer. -/
def pointerPressed (w : Window) (x y : Float) : Except ArithmeticFault (Option ShellRequest) := do
  if w.isFilling then return none
  return some (← w.grab x y w.options.pointerReach)

def touchDown (w : Window) (x y : Float) : Except ArithmeticFault ShellRequest :=
  w.grab x y w.options.touchReach

end Window

end VideoOutput
