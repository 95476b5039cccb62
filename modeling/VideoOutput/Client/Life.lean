import VideoOutput.Client.Buffers
import VideoOutput.Client.Reaction
import VideoOutput.Config.Settings

/-!
# Opening and closing a client

A client opens by binding the globals it needs or can use, and making its surfaces and their roles.
It closes by ending every object it made, each before those it depends on.
-/

namespace VideoOutput

open Wire

/-- The compositor does not offer a global that the client cannot do without. -/
structure MissingGlobal where
  interface : Interface
  deriving DecidableEq, Repr

namespace Client

/-- Binds the first global of the interface, if it is of the least version at least. -/
def bindFirst (globals : List Global) (interface : Interface) (least greatest : Nat) :
    Issuing (Option Object) := do
  match globals.find? (·.interface = interface) with
  | some global =>
    if least ≤ global.version then some <$> Issuing.bind global greatest else return none
  | none => return none

/-- Binds a global that is needed. -/
def bindNeeded (globals : List Global) (interface : Interface) (greatest : Nat) :
    ExceptT MissingGlobal Issuing Object := do
  match ← bindFirst globals interface 1 greatest with
  | some o => return o
  | none => throw ⟨interface⟩

/-- The least version of buffer sharing that the client can use. -/
def leastDmabufVersion : Nat := 2

/-- The version from which on buffer sharing tells of formats by feedback. -/
def feedbackVersion : Nat := 4

def bindAll (globals : List Global) : ExceptT MissingGlobal Issuing Bindings := do
  return {
    compositor := ← bindNeeded globals .compositor 6
    shm := ← bindNeeded globals .shm 1
    shell := ← bindNeeded globals .shell 6
    subcompositor := ← bindFirst globals .subcompositor 1 1
    viewporter := ← bindFirst globals .viewporter 1 1
    presentation := ← bindFirst globals .presentation 1 1
    decorationManager := ← bindFirst globals .decorationManager 1 1
    inhibitManager := ← bindFirst globals .inhibitManager 1 1
    dmabuf := ← bindFirst globals .dmabuf leastDmabufVersion feedbackVersion }

/-- The version buffer sharing was bound at. -/
def dmabufVersion (globals : List Global) : Nat :=
  ((globals.find? (·.interface = .dmabuf)).map (min ·.version feedbackVersion)).getD 0

def getViewport (viewporter : Option Object) (surface : Object) : Issuing (Option Object) :=
  viewporter.mapM fun viewporter =>
    Issuing.make viewporter .getViewport .viewport [] [.object surface]

/-- Makes the surface of the video. It is placed without waiting for the main one, and takes no
input. -/
def makeVideoSurface (b : Bindings) (subcompositor main : Object) : Issuing VideoSurface := do
  let surface ← Issuing.make b.compositor .createSurface .surface [] []
  let subsurface ←
    Issuing.make subcompositor .getSubsurface .subsurface [] [.object surface, .object main]
  Issuing.ask subsurface .setDesync []
  let region ← Issuing.make b.compositor .createRegion .region [] []
  Issuing.ask surface .setInputRegion [.object region]
  Issuing.unmake region
  let viewport ← getViewport b.viewporter surface
  return ⟨surface, subsurface, viewport⟩

/-- An output that is offered from the start. -/
def bindOutput (global : Global) : Issuing TrackedOutput := do
  let output ← Issuing.bind global outputVersion
  return .new output global.number (min global.version outputVersion)

/-- Binds and makes everything the client has from the start. -/
def setUp (globals : List Global) (s : Settings) : ExceptT MissingGlobal Issuing Client := do
  let bindings ← bindAll globals
  let seats ← (globals.filter (·.interface = .seat)).mapM (fun g => (bindSeat g : Issuing Seat))
  let surface ← Issuing.make bindings.compositor .createSurface .surface [] []
  let shellSurface ←
    Issuing.make bindings.shell .getShellSurface .shellSurface [] [.object surface]
  let toplevel ← Issuing.make shellSurface .getToplevel .toplevel [] []
  let viewport ← getViewport bindings.viewporter surface
  let video ← bindings.subcompositor.mapM fun subcompositor =>
    (makeVideoSurface bindings subcompositor surface : Issuing VideoSurface)
  let decoration ← bindings.decorationManager.mapM fun manager =>
    (Issuing.make manager .getDecoration .decoration [] [.object toplevel] : Issuing Object)
  let feedback ←
    if feedbackVersion ≤ dmabufVersion globals then
      bindings.dmabuf.mapM fun dmabuf =>
        (Issuing.make dmabuf .getDefaultFeedback .formatFeedback [] [] : Issuing Object)
    else pure none
  let outputs ←
    (globals.filter (·.interface = .output)).mapM (fun g => (bindOutput g : Issuing TrackedOutput))
  return {
    log := ← get
    bindings, surface, shellSurface, toplevel, viewport, video, decoration, feedback
    seats := { seats, chosen := seats.head?.map Seat.object }
    outputs := { tracked := outputs }
    screenIndex := s.window.screenId
    screenName := s.window.screenName
    window := .new s.windowOptions
    pacer := .new s.pacerOptions
    resetLength := s.pool.resetWindow }

/-- A client that has said nothing to the compositor yet. -/
def new (globals : List Global) (s : Settings) : Except MissingGlobal Client :=
  ((setUp globals s).run {}).1

/-- What the window asks for before it is first shown. -/
def introduce (c : Client) (title appId : String) : Client :=
  let window := ((c.window.initDecorations c.decoration.isSome).setTitle title).setAppId appId
  let c := { c with window }.flushShellRequests
  let work : Issuing Unit := do
    let _ ← Issuing.make c.surface .frame .callback [] []
    Issuing.ask c.surface .commit []
  (c.issuing work).2

/-- Ends everything the client made. -/
def close (c : Client) : Client :=
  let c := c.clearPool
  let work : Issuing Unit := do
    if let some solid := c.solid then
      Issuing.unmake solid.buffer
      Issuing.unmake solid.pool
    let views := [c.inhibitor, c.decoration, c.viewport]
    (views.filterMap id).forM Issuing.unmake
    if let some video := c.video then
      video.viewport.forM Issuing.unmake
      Issuing.unmake video.subsurface
      Issuing.unmake video.surface
    c.feedback.forM Issuing.unmake
    [c.toplevel, c.shellSurface, c.surface].forM Issuing.unmake
    let b := c.bindings
    let managers := [b.decorationManager, b.inhibitManager, b.presentation, b.viewporter,
      b.subcompositor, b.dmabuf]
    (managers.filterMap id).forM Issuing.unmake
    Issuing.unmake b.shell
  { (c.issuing work).2 with pool := none }

end Client

end VideoOutput
