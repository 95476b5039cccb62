import VideoOutput.Window.State
import VideoOutput.Wire.Request

/-!
# Seats and their devices

A seat has capabilities, each of which can give a device. The client keeps one device of each kind,
made from the first seat that had the capability, and one chosen seat, on whose behalf it asks to
be moved or resized. When any seat loses a capability the device of that kind is released.
-/

namespace VideoOutput

open Wire

inductive DeviceKind where
  | keyboard
  | pointer
  | touch
  deriving DecidableEq, Repr

namespace DeviceKind

/-- All kinds, in the order in which changes are heeded. -/
def all : List DeviceKind := [keyboard, pointer, touch]

/-- The bit of the kind among a seat's capabilities. -/
def bit : DeviceKind → Nat
  | pointer => 0
  | keyboard => 1
  | touch => 2

def interface : DeviceKind → Interface
  | keyboard => .keyboard
  | pointer => .pointer
  | touch => .touch

def verb : DeviceKind → Verb
  | keyboard => .getKeyboard
  | pointer => .getPointer
  | touch => .getTouch

/-- The kinds whose bits are set. -/
def ofBits (bits : Nat) : List DeviceKind := all.filter fun kind => bits.testBit kind.bit

end DeviceKind

structure Seat where
  object : Object
  global : Nat
  version : Nat
  /-- The seat is still offered. -/
  offered : Bool := true
  capabilities : List DeviceKind := []
  deriving DecidableEq, Repr

/-- A button that went down on a surface. -/
structure ButtonPress where
  surface : Object
  serial : Nat
  button : Nat
  /-- The position, in units of 1/256 pixel. -/
  x : Int
  y : Int
  deriving DecidableEq, Repr

/-- A pointer: where it is, and the presses of a frame that has not ended. -/
structure Pointer where
  object : Object
  /-- The pointer tells where its frames end. -/
  framed : Bool
  surface : Option Object := none
  x : Int := 0
  y : Int := 0
  pending : List ButtonPress := []
  deriving DecidableEq, Repr

structure Seats where
  seats : List Seat := []
  chosen : Option Object := none
  keyboard : Option Object := none
  pointer : Option Object := none
  touch : Option Object := none
  /-- Every pointer that was made. -/
  pointers : List Pointer := []
  deriving DecidableEq, Repr

namespace Seats

def device? (s : Seats) : DeviceKind → Option Object
  | .keyboard => s.keyboard
  | .pointer => s.pointer
  | .touch => s.touch

def setDevice (s : Seats) (device : Option Object) : DeviceKind → Seats
  | .keyboard => { s with keyboard := device }
  | .pointer => { s with pointer := device }
  | .touch => { s with touch := device }

def seat? (s : Seats) (seat : Object) : Option Seat := s.seats.find? (·.object = seat)

def updateSeat (s : Seats) (seat : Object) (change : Seat → Seat) : Seats :=
  { s with seats := s.seats.map fun t => if t.object = seat then change t else t }

def chooseIfNone (s : Seats) (seat : Object) : Seats :=
  { s with chosen := some (s.chosen.getD seat) }

/-- A seat is offered after the client opened. -/
def add (s : Seats) (seat : Seat) : Seats :=
  { s with seats := s.seats ++ [seat] }.chooseIfNone seat.object

/-- A seat is not offered any more. Its devices stay. -/
def remove (s : Seats) (seat : Object) : Seats :=
  { s with chosen := if s.chosen = some seat then none else s.chosen }.updateSeat seat
    ({ · with offered := false })

/-- A keyboard comes from any seat, the other devices only from one that is offered. -/
def canGive (seat : Seat) (kind : DeviceKind) : Bool := kind == .keyboard || seat.offered

/-- A seat gained a capability; the client takes the device if it has none of the kind. -/
def gain (s : Seats) (log : RequestLog) (seat : Seat) (kind : DeviceKind) : Seats × RequestLog :=
  let s := s.chooseIfNone seat.object
  if (s.device? kind).isSome || !canGive seat kind then (s, log)
  else
    let device := log.fresh kind.interface
    let pointer : Pointer := { object := device, framed := decide (5 ≤ seat.version) }
    let s := s.setDevice (some device) kind
    ({ s with pointers := if kind = .pointer then s.pointers ++ [pointer] else s.pointers },
      log.issue ⟨seat.object, kind.verb, [.new device]⟩)

/-- A seat lost a capability; the device of the kind is released, and whether there was one. -/
def lose (s : Seats) (log : RequestLog) (kind : DeviceKind) : Bool × Seats × RequestLog :=
  match s.device? kind with
  | none => (false, s, log)
  | some device => (true, s.setDevice none kind, log.issue ⟨device, .release, []⟩)

def pointer? (s : Seats) (pointer : Object) : Option Pointer :=
  s.pointers.find? (·.object = pointer)

def updatePointer (s : Seats) (pointer : Pointer) : Seats :=
  { s with pointers := s.pointers.map fun t => if t.object = pointer.object then pointer else t }

end Seats

end VideoOutput
