import VideoOutput.Client.State

/-!
# Requests to the shell

The requests that wait in the window are sent to the objects that stand for it. Fullscreen is asked
for on the chosen output. Moving and resizing need a seat and the serial of its input.
-/

namespace VideoOutput

open Wire

namespace Client

/-- Asks for a grab of the chosen seat. -/
def askGrab (c : Client) (verb : Verb) (serial : Option Nat) (rest : List Argument) : Client :=
  match c.seats.chosen, serial with
  | some seat, some serial => c.ask c.toplevel verb (.object seat :: .int serial :: rest)
  | _, _ => c

def sendShellRequest (c : Client) (request : ShellRequest) (serial : Option Nat) : Client :=
  match request with
  | .setFullscreen => c.ask c.toplevel .setFullscreen [.object c.screen?]
  | .unsetFullscreen => c.ask c.toplevel .unsetFullscreen []
  | .setMaximized => c.ask c.toplevel .setMaximized []
  | .unsetMaximized => c.ask c.toplevel .unsetMaximized []
  | .setMinimized => c.ask c.toplevel .setMinimized []
  | .setDecorationMode mode =>
    match c.decoration with
    | some decoration => c.ask decoration .setMode [.int mode.code]
    | none => c
  | .setTitle title => c.ask c.toplevel .setTitle [.text title]
  | .setAppId appId => c.ask c.toplevel .setAppId [.text appId]
  | .move => c.askGrab .move serial []
  | .resize edge => c.askGrab .resize serial [.int edge.code]

/-- Sends what the window wants of the shell. -/
def flushShellRequests (c : Client) : Client :=
  let (requests, window) := c.window.takeRequests
  requests.foldl (fun c request => c.sendShellRequest request none) { c with window }

/-- Gives the surfaces their layout. The video is scaled only to a size that is positive. -/
def applyLayout (c : Client) (layout : Layout) : Client :=
  let work : Issuing Unit := do
    let region ← Issuing.make c.bindings.compositor .createRegion .region [] []
    Issuing.ask region .add [.int 0, .int 0, .int layout.window.1, .int layout.window.2]
    Issuing.ask c.surface .setOpaqueRegion [.object region]
    Issuing.unmake region
    if let some viewport := c.viewport then
      Issuing.ask viewport .setDestination [.int layout.mainSize.1, .int layout.mainSize.2]
    if let some video := c.video then
      if let some viewport := video.viewport then
        if 0 < layout.videoSize.1 ∧ 0 < layout.videoSize.2 then
          Issuing.ask viewport .setDestination [.int layout.videoSize.1, .int layout.videoSize.2]
      Issuing.ask video.subsurface .setPosition [.int layout.video.x0, .int layout.video.y0]
    Issuing.ask c.surface .commit []
  { (c.issuing work).2 with layout := some layout }

/-- Lays the surfaces out anew; an empty window keeps the layout it has. -/
def relayout : Act Unit := do
  let c ← get
  match Layout.of? c.window.geometry c.window.videoSize c.window.options.keepAspect with
  | .error fault => throw fault
  | .ok none => pure ()
  | .ok (some layout) => set (c.applyLayout layout)

end Client

end VideoOutput
