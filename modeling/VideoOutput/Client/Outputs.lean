import VideoOutput.Output.Info
import VideoOutput.Window.Sizing
import VideoOutput.Wire.Event

/-!
# The outputs of a window

The client follows every output that is offered, and which of them its surface is on. The current
output is the one that decides the window's scale: none until the video is first configured, and
from then on the one entered last. When it goes away, the output that was entered first among
those left takes its place, without a change to the window.
-/

namespace VideoOutput

open Wire

structure TrackedOutput where
  object : Object
  global : Nat
  version : Nat
  /-- What the output said so far. -/
  described : OutputDescription := {}
  /-- What it had said when it last was done. -/
  info : Option OutputInfo
  deriving DecidableEq, Repr

namespace TrackedOutput

/-- Outputs of the first version are never done; what is known of them is nothing. -/
def new (object : Object) (global version : Nat) : TrackedOutput where
  object
  global
  version
  info := if version ≤ 1 then some {} else none

end TrackedOutput

structure Outputs where
  tracked : List TrackedOutput := []
  /-- The outputs the surface is on, in the order it entered them. -/
  entered : List Object := []
  current : Option Object := none
  deriving DecidableEq, Repr

namespace Outputs

def track (o : Outputs) (output : TrackedOutput) : Outputs :=
  { o with tracked := o.tracked ++ [output] }

def info? (o : Outputs) (output : Object) : Option OutputInfo :=
  (o.tracked.find? (·.object = output)).bind TrackedOutput.info

/-- The outputs that are known, in the order they were offered. -/
def known (o : Outputs) : List (Object × OutputInfo) :=
  o.tracked.filterMap fun t => t.info.map fun info => (t.object, info)

def currentInfo? (o : Outputs) : Option OutputInfo := o.current.bind o.info?

def hasSurface (o : Outputs) (output : Object) : Bool := o.entered.contains output

/-- The names of the outputs the surface is on. -/
def surfaceNames (o : Outputs) : List String :=
  (o.known.filter fun k => o.hasSurface k.1).map fun k => k.2.displayName

/-- The output to be fullscreen on. -/
def choose (o : Outputs) (index : Option Nat) (name : Option String) : Option Object :=
  (OutputInfo.choose (o.known.map Prod.snd) index name).bind fun i => (o.known[i]?).map Prod.fst

/-- A piece of an output's description; one that is not tracked is not heeded. -/
def describe (o : Outputs) (output : Object) (change : OutputDescription → OutputDescription) :
    Outputs :=
  { o with
    tracked := o.tracked.map fun t =>
      if t.object = output then { t with described := change t.described } else t }

/-- The scale of the output, as far as it is known. -/
def scaleOf (o : Outputs) (output : Object) : Int := ((o.info? output).map OutputInfo.scale).getD 1

/-- An output is done describing itself. -/
def done (o : Outputs) (w : Window) (output : Object) :
    Except ArithmeticFault (Outputs × Window) := do
  match o.tracked.find? (·.object = output) with
  | none => return (o, w)
  | some t => do
    let info ← t.described.info
    let o := { o with
      tracked := o.tracked.map fun t =>
        if t.object = output then { t with info := some info } else t }
    return (o, ← w.outputDone (o.current = some output) info.scale)

/-- The surface entered an output. -/
def enter (o : Outputs) (w : Window) (output : Object) :
    Except ArithmeticFault (Outputs × Window) := do
  let o := if o.entered.contains output then o else { o with entered := o.entered ++ [output] }
  if o.current.isNone then return (o, w)
  let area := o.currentInfo?.map OutputInfo.area
  let o := { o with current := some output }
  match o.info? output with
  | none => return (o, w)
  | some info => return (o, ← w.surfaceEntered info.scale (area ≠ some info.area))

/-- The surface left an output. The current output stays what it is. -/
def leave (o : Outputs) (w : Window) (output : Object) : Outputs × Window :=
  ({ o with entered := o.entered.filter (· ≠ output) }, w.surfaceLeft)

/-- An output is not offered any more. -/
def remove (o : Outputs) (w : Window) (output : Object) : Outputs × Window :=
  let entered := o.entered.filter (· ≠ output)
  ({ tracked := o.tracked.filter (·.object ≠ output)
     entered
     current := if o.current = some output then entered.head? else o.current },
    w.addEvents { windowState := true })

/-- Makes the given output the current one and the window's first. -/
def adopt (o : Outputs) (w : Window) (output : Object) : Outputs × Window :=
  ({ o with current := some output }, w.attachOutput (o.scaleOf output))

end Outputs

end VideoOutput
