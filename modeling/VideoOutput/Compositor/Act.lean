import VideoOutput.Compositor.State

/-!
# Steps of the script

What the scripted compositor sends on its own account. A step whose object does not exist sends
nothing, but a serial that it would have used is used up.
-/

namespace VideoOutput

open Wire

namespace Compositor

def announceAll (c : Compositor) (event : Event) : List Delivery :=
  c.tellNewest .registry 1 event

/-- Offers a global from now on. -/
def offer (c : Compositor) (interface : Interface) (version : Nat) (output : Option OutputScript) :
    List Delivery × Compositor :=
  let global : Global := ⟨c.offers.length + 1, interface, version⟩
  (c.announceAll (.announced global), { c with offers := c.offers ++ [{ global, output }] })

/-- Takes an offer back. -/
def withdraw (c : Compositor) (number : Nat) : List Delivery × Compositor :=
  (c.announceAll (.withdrawn number),
    { c with
      offers := c.offers.map fun o =>
        if o.global.number = number then { o with withdrawn := true } else o })

/-- The output of the given place among all that were ever offered. -/
def output? (c : Compositor) (index : Nat) : Option Offer :=
  (c.offers.filter (·.output.isSome))[index]?

/-- The client's object for that output. -/
def outputResource? (c : Compositor) (index : Nat) : Option Resource := do
  let offer ← c.output? index
  c.resources.find? fun r => r.global == some offer.global.number && r.object.interface == .output

/-- An event of a surface and an output. -/
def onSurface (c : Compositor) (index : Nat) (surface : String) (event : Object → Event) :
    List Delivery :=
  match c.outputResource? index, c.named? surface with
  | some output, some surface => tell surface 1 (event output.object)
  | _, _ => []

def updateOutput (c : Compositor) (index : Nat) (o : OutputScript) : List Delivery × Compositor :=
  let events := ((c.outputResource? index).map (describeOutput · o)).getD []
  match c.output? index with
  | none => (events, c)
  | some offer =>
    (events, { c with
      offers := c.offers.map fun other =>
        if other.global.number = offer.global.number then { other with output := some o }
        else other })

/-- Events to the newest pointer, and the end of their frame. -/
def point (c : Compositor) (event : Event) : List Delivery :=
  c.tellNewest .pointer 1 event ++ c.tellNewest .pointer 5 .pointerFrame

/-- An event that carries a serial and may be about a named surface. -/
def serially (c : Compositor) (events : Nat → Compositor → List Delivery) :
    List Delivery × Compositor :=
  let (serial, c) := c.nextSerial
  (events serial c, c)

/-- What is sent about a surface that exists. -/
def about (c : Compositor) (surface : String) (events : Object → List Delivery) : List Delivery :=
  ((c.named? surface).map fun r => events r.object).getD []

def act (c : Compositor) : Step → List Delivery × Compositor
  | .configure s => c.configure s
  | .bounds width height => (c.tellNewest .toplevel 4 (.boundsConfigure width height), c)
  | .close => (c.tellNewest .toplevel 1 .closed, c)
  | .decoration mode => (c.decorate mode, c)
  | .enter output surface => (c.onSurface output surface .entered, c)
  | .leave output surface => (c.onSurface output surface .left, c)
  | .updateOutput output description => c.updateOutput output description
  | .addOutput description => c.offer .output description.version (some description)
  | .removeOutput output =>
    match c.output? output with
    | some offer => if offer.withdrawn then ([], c) else c.withdraw offer.global.number
    | none => ([], c)
  | .ping => c.serially fun serial c => c.tellNewest .shell 1 (.ping serial)
  | .frameDone => c.finishFrames
  | .present presentation => c.finishFeedbacks presentation
  | .clock id => (c.tellNewest .presentation 1 (.clock id), c)
  | .formats formats modifiers =>
    (((c.newest? .dmabuf).map (describeFormats · formats modifiers)).getD [], c)
  | .feedback batch => (((c.newest? .formatFeedback).map (describeFeedback · batch)).getD [], c)
  | .capabilities bits => (c.tellNewest .seat 1 (.capabilities bits), c)
  | .removeSeat =>
    match c.offers.find? (fun o => o.global.interface = .seat && !o.withdrawn) with
    | some offer => c.withdraw offer.global.number
    | none => ([], c)
  | .addSeat version => c.offer .seat version none
  | .keyboardEnter surface =>
    c.serially fun _ c => c.about surface fun o => c.tellNewest .keyboard 1 (.keyboardEntered o)
  | .keyboardLeave surface =>
    c.serially fun _ c => c.about surface fun o => c.tellNewest .keyboard 1 (.keyboardLeft o)
  | .pointerEnter surface x y =>
    c.serially fun serial c => c.about surface fun o => c.point (.pointerEntered serial o x y)
  | .pointerLeave surface =>
    c.serially fun _ c => c.about surface fun o => c.point (.pointerLeft o)
  | .pointerMotion x y => (c.point (.pointerMoved x y), c)
  | .pointerButton button pressed =>
    c.serially fun serial c => c.point (.buttonChanged serial button pressed)
  | .touchDown surface x y =>
    c.serially fun serial c =>
      c.about surface fun _ => c.tellNewest .touch 1 (.touchedDown serial x y)
  | .touchUp => c.serially fun _ _ => []
  | .unheeded => ([], c)

end Compositor

end VideoOutput
