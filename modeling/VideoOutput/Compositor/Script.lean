import VideoOutput.Wire.Event

/-!
# Scripts for a compositor

What a scripted compositor offers, and what it says when it is asked. Everything that it does on
its own account is a step of the script.
-/

namespace VideoOutput

open Wire

namespace Compositor

/-- An output as the compositor describes it. -/
structure OutputScript where
  name : Option String := none
  make : String := ""
  model : String := ""
  x : Int := 0
  y : Int := 0
  modes : List OutputMode := []
  scale : Option Int := none
  version : Nat := 4
  /-- The description ends with a word that it is done. -/
  done : Bool := true
  deriving DecidableEq, Repr

/-- Formats announced at once. -/
structure FeedbackBatch where
  table : Option (List FormatEntry) := none
  /-- The size announced for the table, where it is not the table's own. -/
  tableSize : Option Nat := none
  tranches : List (List Nat) := []
  done : Bool := true
  deriving DecidableEq, Repr

structure ConfigureScript where
  width : Int
  height : Int
  states : List Nat := []
  /-- Bytes after the states. -/
  trailing : List UInt8 := []
  toplevel : Bool := true
  surface : Bool := true
  deriving DecidableEq, Repr

/-- When and how a frame was shown, or that it was not. -/
inductive Presentation where
  | presented (seconds nanoseconds refresh sequence : Nat)
  | discarded
  deriving DecidableEq, Repr

/-- What follows a commit of the main surface. -/
structure Reaction where
  frameDone : Bool := false
  presentation : Option Presentation := none
  deriving DecidableEq, Repr

structure Script where
  /-- The interfaces on offer from the start, with their versions. -/
  offered : List (Interface × Nat)
  outputs : List OutputScript := []
  seatCapabilities : Nat := 7
  clock : Nat := 1
  formats : List FourCc := []
  modifiers : List FormatEntry := []
  feedback : Option FeedbackBatch := none
  /-- What follows the first commit of the main surface. -/
  decorationMode : Option Nat := none
  firstConfigure : Option ConfigureScript := none
  /-- The commit of the main surface that is followed by a request to close. -/
  closeAfterCommits : Option Nat := none
  deriving DecidableEq, Repr

/-- The interfaces that are offered unless a script says otherwise. -/
def usualGlobals : List (Interface × Nat) :=
  [(.compositor, 6), (.shm, 1), (.shell, 6), (.subcompositor, 1), (.viewporter, 1),
    (.presentation, 1), (.decorationManager, 1), (.inhibitManager, 1), (.dmabuf, 4), (.seat, 7)]

/-- One thing that the compositor does on its own account. Surfaces and buffers are named. -/
inductive Step where
  | configure (configure : ConfigureScript)
  | bounds (width height : Int)
  | close
  | decoration (mode : Nat)
  | enter (output : Nat) (surface : String)
  | leave (output : Nat) (surface : String)
  | updateOutput (output : Nat) (description : OutputScript)
  | addOutput (description : OutputScript)
  | removeOutput (output : Nat)
  | ping
  | frameDone
  | present (presentation : Presentation)
  | clock (id : Nat)
  | formats (formats : List FourCc) (modifiers : List FormatEntry)
  | feedback (batch : FeedbackBatch)
  | capabilities (bits : Nat)
  | removeSeat
  | addSeat (version : Nat)
  | keyboardEnter (surface : String)
  | keyboardLeave (surface : String)
  | pointerEnter (surface : String) (x y : Int)
  | pointerLeave (surface : String)
  | pointerMotion (x y : Int)
  | pointerButton (button : Nat) (pressed : Bool)
  | touchDown (surface : String) (x y : Int)
  | touchUp
  /-- Something that a client does not heed. -/
  | unheeded
  deriving DecidableEq, Repr

end Compositor

end VideoOutput
