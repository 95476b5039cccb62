import VideoOutput.Exchange.Dispatch
import VideoOutput.Text.Utf8

/-!
# Calls of a video driver

What a video driver can ask of a client that is connected: to take a video size, to draw and flip
frames, to handle events, and to change the window. Every call is a value, and `answer` carries it
out.
-/

namespace VideoOutput

open Wire

namespace Talk

variable {σ : Type}

/-! ## Opening -/

/-- Puts the window on the screen. Outputs, formats and the presentation clock come first. -/
def introduce (p : Peer σ) (s : Settings) : Talk σ Unit := do
  roundtrip p
  if (← client).outputs.tracked.isEmpty then throw (.error .noOutputs)
  modifyClient (·.introduce s.window.title s.window.appId)
  roundtrip p

/-! ## Frames -/

/-- Settles on an output where there is none yet. -/
def adoptOutput : Talk σ Unit := do
  let c ← client
  if c.outputs.current.isNone then
    match c.screen? with
    | none => throw (.error .noOutputs)
    | some output => do
      let (outputs, window) := c.outputs.adopt c.window output
      modifyClient ({ · with outputs, window })

/-- A new video size, in pixels. -/
def reconfig (p : Peer σ) (width height : Int) : Talk σ Unit := do
  if (← client).window.phase = .unconfigured then roundtrip p
  modifyClient Client.fillSolid
  adoptOutput
  act (Act.window (·.reconfig width height))
  modifyClient fun c => c.flushShellRequests.ask c.surface .commit []
  flush p .connection

/-- Dispatches until the compositor asks for a frame, the display is closed, or nothing comes before
the deadline. The compositor has no more time than for the given number of answers. -/
def awaitFrame (p : Peer σ) : Nat → Talk σ Unit
  | 0 => pure ()
  | rounds + 1 => do
    if (← client).pacer.waiting then
      match ← dispatch p true false with
      | none | some 0 => pure ()
      | some _ => awaitFrame p rounds

/-- Waits until the next frame is due. Without presentation feedback a roundtrip makes sure that
the compositor has seen the last one. -/
def pace (p : Peer σ) (rounds : Nat) : Talk σ Unit := do
  let c ← client
  if 0 < c.pacer.deadline c.refreshRate? then awaitFrame p rounds
  let c ← client
  if !c.pacer.usesPresentation && !c.poller.closed then roundtrip p
  modifyClient fun c => { c with pacer := c.pacer.finishWait }

/-- Shows the frame that was drawn last. -/
def flip (p : Peer σ) (rounds : Nat) : Talk σ Unit := do
  modifyClient fun c =>
    let c := match c.video with
      | some video => c.ask video.surface .commit []
      | none => c
    c.ask c.surface .commit []
  if !(← client).pacer.options.disableVsync then pace p rounds
  match (← client).pacer.swap with
  | .ok pacer => modifyClient ({ · with pacer })
  | .error fault => throw (.fault fault)

/-! ## Events -/

/-- Handles what has come, without waiting, and takes the window's events. A resize is laid out. -/
def check (p : Peer σ) : Talk σ WindowEvents := do
  let _ ← dispatch p false false
  modifyClient Client.flushShellRequests
  let events ← ask fun c =>
    let (events, window) := c.window.takeEvents
    (events, { c with window })
  if events.resize then
    modifyClient fun c => { c with pacer := c.pacer.resetVisibility }
    act Client.relayout
  return events

/-- Waits for events or a wakeup; once the display is closed there is nothing to wait for. -/
def wait (p : Peer σ) : Talk σ Unit := do
  if (← client).poller.closed then return
  let _ ← dispatch p false true

/-! ## The window -/

/-- Changes the window and sends what it then wants of the shell. -/
def changeWindow (change : Window → Except ArithmeticFault Window) : Talk σ Unit := do
  act (Act.window change)
  modifyClient Client.flushShellRequests

inductive Call where
  | reconfig (width height : Int)
  | draw (frame : VideoFrame)
  | flip
  | check
  | wait
  | wakeup
  | reset
  | clearPool
  | setDisplay (display : SurfaceDisplay)
  | setFullscreen (on : Bool)
  | setMaximized (on : Bool)
  | setMinimized (on : Bool)
  | setBorder (on : Bool)
  | setWindowSize (width height : Int)
  | setUnfullscreenSize (width height : Int)
  | unfullscreenSize
  | setTitle (title : List UInt8)
  | setAppId (appId : String)
  | inhibitIdle (on : Bool)
  | outputs
  | formats

/-- What a call answers. -/
inductive Answer where
  | none
  | flag (value : Bool)
  | size (value : Size)
  | events (value : WindowEvents)
  | alreadyBound (error : AlreadyBound)
  /-- The outputs, and whether the surface is on them. -/
  | outputs (value : List (OutputInfo × Bool))
  | formats (value : List FormatEntry)

def answer (p : Peer σ) (rounds : Nat) : Call → Talk σ Answer
  | .reconfig width height => do
    reconfig p width height
    return .none
  | .draw frame => return .flag (← ask (·.draw frame))
  | .flip => do
    flip p rounds
    return .none
  | .check => return .events (← check p)
  | .wait => do
    wait p
    return .none
  | .wakeup => do
    modifyClient fun c => { c with poller := c.poller.wakeup }
    return .none
  | .reset => do
    modifyClient Client.reset
    return .none
  | .clearPool => do
    modifyClient Client.clearPool
    return .none
  | .setDisplay display => do
    match (← client).setDisplay display with
    | .ok c => do
      modifyClient fun _ => c
      return .none
    | .error e => return .alreadyBound e
  | .setFullscreen on => do
    changeWindow fun w => .ok (w.setFullscreen on)
    return .none
  | .setMaximized on => do
    changeWindow fun w => .ok (w.setMaximized on)
    return .none
  | .setMinimized on => do
    changeWindow fun w => .ok (w.setMinimized on)
    return .none
  | .setBorder on => do
    changeWindow fun w => .ok (w.setBorder on)
    return .none
  | .setWindowSize width height => do
    act (Act.window (·.setWindowSize width height))
    return .none
  | .setUnfullscreenSize width height => do
    changeWindow (·.setUnfullscreenSize width height)
    return .none
  | .unfullscreenSize => do
    match (← client).window.unfullscreenSize with
    | .ok size => return .size size
    | .error fault => throw (.fault fault)
  | .setTitle title => do
    changeWindow fun w => .ok (w.setTitle (Utf8.decodeLossy title))
    return .none
  | .setAppId appId => do
    changeWindow fun w => .ok (w.setAppId appId)
    return .none
  | .inhibitIdle on => return .flag (← ask (·.inhibitIdle on))
  | .outputs => do
    let outputs := (← client).outputs
    return .outputs (outputs.known.map fun (o, info) => (info, outputs.hasSurface o))
  | .formats => return .formats (← client).catalog.entries

end Talk

end VideoOutput
