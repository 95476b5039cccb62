import VideoOutput.Format.Table
import VideoOutput.Output.Info
import VideoOutput.Wire.Object

/-!
# Events

What the compositor tells the client, each event to one object. Positions are fixed-point numbers
in units of 1/256 pixel.
-/

namespace VideoOutput

namespace Wire

inductive Event where
  | announced (global : Global)
  | withdrawn (global : Nat)
  | ping (serial : Nat)
  /-- The states are 32-bit numbers, lowest byte first; bytes left over mean nothing. -/
  | toplevelConfigure (width height : Int) (states : List UInt8)
  | boundsConfigure (width height : Int)
  | closed
  | surfaceConfigure (serial : Nat)
  | decorationConfigure (mode : Nat)
  | frameDone
  | clock (id : Nat)
  | presented (seconds nanoseconds refresh sequence : Nat)
  | discarded
  | format (format : FourCc)
  | formatModifier (format : FourCc) (modifier : UInt64)
  | formatTable (source : FormatTable.Source) (size : Nat)
  | trancheFormats (indices : List UInt8)
  | feedbackDone
  | entered (output : Object)
  | left (output : Object)
  | outputGeometry (x y : Int) (make model : String)
  | outputMode (mode : OutputMode)
  | outputScale (scale : Int)
  | outputName (name : String)
  | outputDone
  | capabilities (bits : Nat)
  | pointerEntered (serial : Nat) (surface : Object) (x y : Int)
  | pointerLeft (surface : Object)
  | pointerMoved (x y : Int)
  | buttonChanged (serial button : Nat) (pressed : Bool)
  | pointerFrame
  | keyboardEntered (surface : Object)
  | keyboardLeft (surface : Object)
  | touchedDown (serial : Nat) (x y : Int)
  deriving DecidableEq, Repr

/-- An event on its way to an object. -/
structure Delivery where
  target : Object
  event : Event
  deriving DecidableEq, Repr

end Wire

end VideoOutput
