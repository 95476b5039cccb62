import VideoOutput.Geometry.Edge

/-!
# The words between a window and its compositor

The states of a toplevel that a configure carries, the decoration modes, the requests a window
makes of its shell, and the events it reports to the video driver.
-/

namespace VideoOutput

inductive ToplevelState where
  | maximized
  | fullscreen
  | resizing
  | activated
  | tiledLeft
  | tiledRight
  | tiledTop
  | tiledBottom
  | suspended
  deriving DecidableEq, Repr

namespace ToplevelState

/-- All states, in the order of their bits. -/
def all : List ToplevelState :=
  [maximized, fullscreen, resizing, activated, tiledLeft, tiledRight, tiledTop, tiledBottom,
    suspended]

def name : ToplevelState → String
  | maximized => "MAXIMIZED"
  | fullscreen => "FULLSCREEN"
  | resizing => "RESIZING"
  | activated => "ACTIVATED"
  | tiledLeft => "TILED_LEFT"
  | tiledRight => "TILED_RIGHT"
  | tiledTop => "TILED_TOP"
  | tiledBottom => "TILED_BOTTOM"
  | suspended => "SUSPENDED"

/-- The state of a number of the shell protocol. -/
def ofCode? : Nat → Option ToplevelState
  | 1 => some maximized
  | 2 => some fullscreen
  | 3 => some resizing
  | 4 => some activated
  | 5 => some tiledLeft
  | 6 => some tiledRight
  | 7 => some tiledTop
  | 8 => some tiledBottom
  | 9 => some suspended
  | _ => none

/-- A window in this state takes the size the compositor gives it, as a maximized one does. -/
def fillsArea : ToplevelState → Bool
  | maximized | tiledLeft | tiledRight | tiledTop | tiledBottom => true
  | _ => false

end ToplevelState

/-- The states in force; order and repetition mean nothing. -/
abbrev ToplevelStates := List ToplevelState

namespace ToplevelStates

def isFullscreen (states : ToplevelStates) : Bool := states.contains .fullscreen

/-- Maximized, or tiled to any side. -/
def isMaximized (states : ToplevelStates) : Bool := states.any ToplevelState.fillsArea

def isActivated (states : ToplevelStates) : Bool := states.contains .activated

/-- The states whose bits are set; other bits are dropped. -/
def ofBits (bits : Nat) : ToplevelStates :=
  (ToplevelState.all.zipIdx.filter fun (_, i) => bits.testBit i).map Prod.fst

def toBits (states : ToplevelStates) : Nat :=
  ToplevelState.all.zipIdx.foldl
    (fun bits (state, i) => if states.contains state then bits ||| 1 <<< i else bits) 0

end ToplevelStates

inductive DecorationMode where
  | clientSide
  | serverSide
  deriving DecidableEq, Repr

namespace DecorationMode

/-- A border is drawn by the compositor. -/
def ofBorder (border : Bool) : DecorationMode := if border then serverSide else clientSide

def name : DecorationMode → String
  | clientSide => "client-side"
  | serverSide => "server-side"

/-- The number of the mode in the decoration protocol. -/
def code : DecorationMode → Int
  | clientSide => 1
  | serverSide => 2

/-- The mode of a number of the decoration protocol. -/
def ofCode? : Nat → Option DecorationMode
  | 1 => some clientSide
  | 2 => some serverSide
  | _ => none

end DecorationMode

inductive ShellRequest where
  | setFullscreen
  | unsetFullscreen
  | setMaximized
  | unsetMaximized
  | setMinimized
  | setDecorationMode (mode : DecorationMode)
  | setTitle (title : String)
  | setAppId (appId : String)
  | move
  | resize (edge : Edge)
  deriving DecidableEq, Repr

/-- Events for the video driver, each pending or not. -/
structure WindowEvents where
  resize : Bool := false
  expose : Bool := false
  focus : Bool := false
  windowState : Bool := false
  scale : Bool := false
  deriving DecidableEq, Repr

namespace WindowEvents

def none : WindowEvents := {}

/-- The events of either. -/
def union (a b : WindowEvents) : WindowEvents where
  resize := a.resize || b.resize
  expose := a.expose || b.expose
  focus := a.focus || b.focus
  windowState := a.windowState || b.windowState
  scale := a.scale || b.scale

instance : Union WindowEvents := ⟨union⟩

/-- The events whose bits are set; other bits are dropped. -/
def ofBits (bits : Nat) : WindowEvents where
  resize := bits.testBit 0
  expose := bits.testBit 1
  focus := bits.testBit 2
  windowState := bits.testBit 3
  scale := bits.testBit 4

/-- The names of the pending events, in the order of their bits. -/
def names (e : WindowEvents) : List String :=
  (if e.resize then ["RESIZE"] else []) ++ (if e.expose then ["EXPOSE"] else []) ++
    (if e.focus then ["FOCUS"] else []) ++ (if e.windowState then ["WIN_STATE"] else []) ++
    (if e.scale then ["DPI"] else [])

end WindowEvents

structure WindowOptions where
  fullscreen : Bool := false
  maximized : Bool := false
  minimized : Bool := false
  border : Bool := true
  /-- Hold the video's aspect when the compositor resizes the window. -/
  keepAspect : Bool := true
  /-- Let the window itself take the video's aspect. -/
  keepAspectWindow : Bool := true
  /-- Measure the window in the scaled units of its output. -/
  scaleWithOutput : Bool := true
  /-- Hold the first size to the bounds the compositor recommends. -/
  heedBounds : Bool := true
  /-- Reach of the resize zones, for a pointer and for a finger. -/
  pointerReach : Int := 10
  touchReach : Int := 32
  /-- Size asked for in pixels; the video's size when a side is not positive. -/
  width : Int := 0
  height : Int := 0
  deriving DecidableEq, Repr

/-- The life of a window's configures. -/
inductive Phase where
  | unconfigured
  | configuring
  | steady
  deriving DecidableEq, Repr

def Phase.name : Phase → String
  | .unconfigured => "Unconfigured"
  | .configuring => "Configuring"
  | .steady => "Steady"

end VideoOutput
