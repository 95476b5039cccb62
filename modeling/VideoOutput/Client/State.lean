import VideoOutput.Client.Layout
import VideoOutput.Client.Outputs
import VideoOutput.Client.Seats
import VideoOutput.Pacing.Pacer
import VideoOutput.Poll.Poller
import VideoOutput.Pool.BufferPool

/-!
# The state of a client

A client of a compositor shows video in one window: the main surface, which is the window's, and
where surfaces can be nested a second one for the video alone. The client holds the objects it made
for them beside the window, the pacer, the formats and the pool.
-/

namespace VideoOutput

open Wire

/-- The globals that the client binds once. -/
structure Bindings where
  compositor : Object
  shm : Object
  shell : Object
  subcompositor : Option Object
  viewporter : Option Object
  presentation : Option Object
  decorationManager : Option Object
  inhibitManager : Option Object
  dmabuf : Option Object
  deriving DecidableEq, Repr

/-- The surface of the video, nested in the main one. -/
structure VideoSurface where
  surface : Object
  subsurface : Object
  viewport : Option Object
  deriving DecidableEq, Repr

/-- A black pixel that the main surface is filled with. -/
structure SolidBuffer where
  pool : Object
  buffer : Object
  deriving DecidableEq, Repr

structure Client where
  log : RequestLog
  bindings : Bindings
  surface : Object
  shellSurface : Object
  toplevel : Object
  viewport : Option Object
  video : Option VideoSurface
  decoration : Option Object
  feedback : Option Object
  solid : Option SolidBuffer := none
  inhibitor : Option Object := none
  seats : Seats
  outputs : Outputs
  /-- The output to be fullscreen on, by index or name. -/
  screenIndex : Option Nat := none
  screenName : Option String := none
  catalog : FormatCatalog := .empty
  window : Window
  pacer : FramePacer
  /-- Cycles that a reset clears the pool for. -/
  resetLength : Nat
  pool : Option (BufferPool Object) := none
  display : Option SurfaceDisplay := none
  poller : DisplayPoller := {}
  /-- The layout the surfaces were given last. -/
  layout : Option Layout := none
  closeRequested : Bool := false

namespace Client

/-- Lets the client do work that issues requests. -/
def issuing (c : Client) (work : Issuing α) : α × Client :=
  let (a, log) := work.run c.log
  (a, { c with log })

def ask (c : Client) (target : Object) (verb : Verb) (arguments : List Argument) : Client :=
  (c.issuing (Issuing.ask target verb arguments)).2

/-- The surface that buffers are attached to. -/
def videoSurface (c : Client) : Object := (c.video.map VideoSurface.surface).getD c.surface

def screen? (c : Client) : Option Object := c.outputs.choose c.screenIndex c.screenName

/-- The refresh rate of the current output, where it is positive. -/
def refreshRate? (c : Client) : Option Float :=
  (c.outputs.currentInfo?.map OutputInfo.refreshRate).filter (· > 0)

/-- The size of the current output in pixels, where both sides are positive. -/
def resolution? (c : Client) : Except ArithmeticFault (Option Size) :=
  match c.outputs.currentInfo? with
  | none => .ok none
  | some info => do
    let (width, height) ← info.area.size
    return if 0 < width ∧ 0 < height then some (width, height) else none

end Client

/-- Work of a client that arithmetic can end; what was done until then stays done. -/
abbrev Act := ExceptT ArithmeticFault (StateM Client)

namespace Act

/-- Changes the window. -/
def window (change : Window → Except ArithmeticFault Window) : Act Unit := do
  match change (← get).window with
  | .ok window => modify ({ · with window })
  | .error fault => throw fault

end Act

end VideoOutput
