import VideoOutput.Client.Shell
import VideoOutput.Window.Configure
import VideoOutput.Window.Grab

/-!
# Reactions to events

What the client does about each event. Requests that it makes meanwhile wait to be sent.
-/

namespace VideoOutput

open Wire

namespace Client

/-- The greatest versions of the globals that the client binds as often as they are offered. -/
def outputVersion : Nat := 4

def seatVersion : Nat := 7

/-! ## Globals that come and go -/

def trackOutput (c : Client) (global : Global) : Client :=
  let (output, c) := c.issuing (Issuing.bind global outputVersion)
  { c with
    outputs := c.outputs.track (.new output global.number (min global.version outputVersion)) }

/-- The seat that a global gives. -/
def bindSeat (global : Global) : Issuing Seat := do
  let seat ← Issuing.bind global seatVersion
  return { object := seat, global := global.number, version := min global.version seatVersion }

def announced (c : Client) (global : Global) : Client :=
  match global.interface with
  | .output => c.trackOutput global
  | .seat =>
    let (seat, c) := c.issuing (bindSeat global)
    { c with seats := c.seats.add seat }
  | _ => c

/-- Outputs can be released from their third version on. -/
def dropOutput (c : Client) (output : TrackedOutput) : Client :=
  let (outputs, window) := c.outputs.remove c.window output.object
  let c := { c with outputs, window }
  if 3 ≤ output.version then c.ask output.object .release [] else c

def withdrawn (c : Client) (global : Nat) : Client :=
  match c.outputs.tracked.find? (·.global = global) with
  | some output => c.dropOutput output
  | none =>
    match c.seats.seats.find? (fun s => s.global = global && s.offered) with
    | some seat => { c with seats := c.seats.remove seat.object }
    | none => c

/-! ## Input -/

/-- The code of the left button. -/
def leftButton : Nat := 0x110

/-- The position of a fixed-point number, in pixels. -/
def pixels (position : Int) : Float := Float.ofInt position / 256

def changeCapability (c : Client) (seat : Seat) (kind : DeviceKind) (has : Bool) : Client :=
  if has then
    let (seats, log) := c.seats.gain c.log seat kind
    { c with seats, log }
  else
    let (released, seats, log) := c.seats.lose c.log kind
    let c := { c with seats, log }
    if kind = .keyboard ∧ released then { c with window := c.window.keyboardFocus false } else c

/-- The capabilities of a seat; only the changes are heeded. -/
def setCapabilities (c : Client) (seat : Object) (capabilities : List DeviceKind) : Client :=
  match c.seats.seat? seat with
  | none => c
  | some seat =>
    let changed := DeviceKind.all.filter fun kind =>
      capabilities.contains kind != seat.capabilities.contains kind
    changed.foldl (fun c kind => c.changeCapability seat kind (capabilities.contains kind))
      { c with seats := c.seats.updateSeat seat.object ({ · with capabilities }) }

/-- The left button on the main surface grabs the window. -/
def pressed (press : ButtonPress) : Act Unit := do
  let c ← get
  if press.surface = c.surface ∧ press.button = leftButton then
    match c.window.pointerPressed (pixels press.x) (pixels press.y) with
    | .error fault => throw fault
    | .ok none => pure ()
    | .ok (some request) => set (c.sendShellRequest request (some press.serial))

/-- A finger grabs the window on any surface. -/
def touched (serial : Nat) (x y : Int) : Act Unit := do
  let c ← get
  match c.window.touchDown (pixels x) (pixels y) with
  | .error fault => throw fault
  | .ok request => set (c.sendShellRequest request (some serial))

/-- Replaces a pointer, and the presses of its frame if the frame has ended. -/
def setPointer (pointer : Pointer) (frameEnded : Bool) : Act Unit := do
  let presses := if frameEnded then pointer.pending else []
  let pointer := if frameEnded then { pointer with pending := [] } else pointer
  modify fun c => { c with seats := c.seats.updatePointer pointer }
  presses.forM pressed

/-- A button needs a surface below the pointer. A pointer without frames is heeded at once. -/
def buttonChanged (pointer : Pointer) (serial button : Nat) (isPress : Bool) : Act Unit :=
  match pointer.surface with
  | some surface =>
    let press : ButtonPress := ⟨surface, serial, button, pointer.x, pointer.y⟩
    let pending := if isPress then pointer.pending ++ [press] else pointer.pending
    setPointer { pointer with pending } (!pointer.framed)
  | none => pure ()

def pointed (target : Object) (react : Pointer → Act Unit) : Act Unit := do
  match (← get).seats.pointer? target with
  | some pointer => react pointer
  | none => pure ()

/-! ## The window -/

/-- The compositor is ready for a frame; the client asks to be told of the next and of when it is
shown. -/
def frameDone (c : Client) : Client :=
  let work : Issuing Unit := do
    let _ ← Issuing.make c.surface .frame .callback [] []
    if let some presentation := c.bindings.presentation then
      let _ ← Issuing.make presentation .feedback .presentationFeedback [.object c.surface] []
  { (c.issuing work).2 with pacer := c.pacer.frameDone }

/-- The 32-bit numbers of the bytes. -/
def wordsOfBytes : List UInt8 → List Nat
  | a :: b :: c :: d :: rest => littleEndian [a, b, c, d] :: wordsOfBytes rest
  | _ => []

/-- The states whose numbers are known. -/
def toplevelStates (bytes : List UInt8) : ToplevelStates :=
  (wordsOfBytes bytes).filterMap ToplevelState.ofCode?

def surfaceConfigured (target : Object) (serial : Nat) : Act Unit := do
  modify (·.ask target .ackConfigure [.int serial])
  let c ← get
  match c.window.configureSurface with
  | .error fault => throw fault
  | .ok (activated, window) =>
    let pacer := if activated then c.pacer.resetVisibility else c.pacer
    set { c with window, pacer }.flushShellRequests

def onOutputs (change : Outputs → Window → Except ArithmeticFault (Outputs × Window)) :
    Act Unit := do
  let c ← get
  match change c.outputs c.window with
  | .ok (outputs, window) => set { c with outputs, window }
  | .error fault => throw fault

def describeOutput (target : Object) (change : OutputDescription → OutputDescription) : Act Unit :=
  onOutputs fun outputs window => .ok (outputs.describe target change, window)

def onCatalog (op : FormatCatalog.Op) : Act Unit :=
  modify fun c => { c with catalog := (c.catalog.step op).1 }

def react (d : Delivery) : Act Unit :=
  match d.event with
  | .announced global => modify (·.announced global)
  | .withdrawn global => modify (·.withdrawn global)
  | .ping serial => modify (·.ask d.target .pong [.int serial])
  | .toplevelConfigure width height states =>
    Act.window fun w => .ok (w.configureToplevel width height (toplevelStates states))
  | .boundsConfigure width height => Act.window fun w => .ok (w.configureBounds width height)
  | .closed => modify ({ · with closeRequested := true })
  | .surfaceConfigure serial => surfaceConfigured d.target serial
  | .decorationConfigure mode =>
    match DecorationMode.ofCode? mode with
    | some mode => Act.window fun w => .ok (w.configureDecoration mode)
    | none => pure ()
  | .frameDone => modify frameDone
  | .clock id => modify fun c => { c with pacer := c.pacer.setClock id }
  | .presented seconds nanoseconds refresh sequence => do
    let c ← get
    match c.pacer.presented seconds nanoseconds refresh sequence with
    | .ok pacer => set { c with pacer }
    | .error fault => throw fault
  | .discarded => pure ()
  | .format format => onCatalog (.recordImplicit format)
  | .formatModifier format modifier => onCatalog (.recordModifier format modifier)
  | .formatTable source size => onCatalog (.loadTable source size)
  | .trancheFormats indices => onCatalog (.addTranche indices)
  | .feedbackDone => onCatalog .commit
  | .entered output => do
    if d.target = (← get).surface then onOutputs (·.enter · output)
  | .left output => do
    if d.target = (← get).surface then
      onOutputs fun outputs window => .ok (outputs.leave window output)
  | .outputGeometry x y make model => describeOutput d.target ({ · with x, y, make, model })
  | .outputMode mode => describeOutput d.target (·.addMode mode)
  | .outputScale scale => describeOutput d.target ({ · with scale })
  | .outputName name => describeOutput d.target ({ · with name := some name })
  | .outputDone => onOutputs (·.done · d.target)
  | .capabilities bits => modify (·.setCapabilities d.target (DeviceKind.ofBits bits))
  | .pointerEntered _ surface x y =>
    pointed d.target fun p => setPointer { p with surface := some surface, x, y } (!p.framed)
  | .pointerLeft surface =>
    pointed d.target fun p =>
      setPointer { p with surface := if p.surface = some surface then none else p.surface }
        (!p.framed)
  | .pointerMoved x y => pointed d.target fun p => setPointer { p with x, y } (!p.framed)
  | .buttonChanged serial button isPress =>
    pointed d.target fun p => buttonChanged p serial button isPress
  | .pointerFrame => pointed d.target fun p => setPointer p true
  | .keyboardEntered surface => do
    if surface = (← get).surface then Act.window fun w => .ok (w.keyboardFocus true)
  | .keyboardLeft surface => do
    if surface = (← get).surface then Act.window fun w => .ok (w.keyboardFocus false)
  | .touchedDown serial x y => touched serial x y

end Client

end VideoOutput
