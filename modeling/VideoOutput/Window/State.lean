import VideoOutput.Window.Negotiated
import VideoOutput.Window.Vocabulary

/-!
# The state of a window

All sizes are in the units of the surface unless they are said to be pixels. Events and requests
wait in the state until they are taken. A request made in the steady phase, like any local change,
leaves the window waiting for a configure.
-/

namespace VideoOutput

/-- A toplevel configure that has not been acknowledged. -/
structure PendingConfigure where
  width : Int
  height : Int
  states : ToplevelStates
  deriving DecidableEq, Repr

structure Window where
  options : WindowOptions
  phase : Phase := .unconfigured
  /-- The content rectangle. -/
  geometry : Rect := .empty
  /-- The rectangle to go back to when the window is neither fullscreen nor maximized. -/
  windowSize : Rect := .empty
  /-- The rectangle the video asks for. -/
  naturalSize : Rect := .empty
  /-- The video's aspect in lowest terms. -/
  aspect : Size := (1, 1)
  scaling : Int := 1
  /-- Size of the video in pixels. -/
  videoSize : Size := (0, 0)
  hasOutput : Bool := false
  fullscreen : Negotiated Bool
  maximized : Negotiated Bool
  minimized : Bool
  decoration : Negotiated DecorationMode := .settled .clientSide
  canDecorate : Bool := false
  /-- Size of the last toplevel configure that was acknowledged. -/
  toplevelSize : Size := (0, 0)
  bounds : Size := (0, 0)
  pending : Option PendingConfigure := none
  /-- Fullscreen or maximized was asked for or changed since the window was last floating. -/
  stateChange : Bool := false
  activated : Bool := false
  hasKeyboard : Bool := false
  focused : Bool := false
  events : WindowEvents := .none
  requests : List ShellRequest := []
  deriving DecidableEq, Repr

namespace Window

/-- A new window asks for the states its options name. -/
def new (options : WindowOptions) : Window where
  options
  fullscreen :=
    if options.fullscreen then (Negotiated.settled false).request true else .settled false
  maximized :=
    if options.maximized then (Negotiated.settled false).request true else .settled false
  minimized := options.minimized

def border (w : Window) : Bool := w.decoration.confirmed == .serverSide

/-- The compositor gives the window its size. -/
def isFilling (w : Window) : Bool := w.fullscreen.confirmed || w.maximized.confirmed

def addEvents (w : Window) (events : WindowEvents) : Window :=
  { w with events := w.events ∪ events }

/-- The pending events. A resize always exposes the content too. -/
def takeEvents (w : Window) : WindowEvents × Window :=
  (if w.events.resize then w.events ∪ { expose := true } else w.events,
    { w with events := .none })

def takeRequests (w : Window) : List ShellRequest × Window :=
  (w.requests, { w with requests := [] })

/-- A local change in the steady phase waits for the next configure. -/
def markSpeculative (w : Window) : Window :=
  if w.phase = .steady then { w with phase := .configuring } else w

def pushRequest (w : Window) (request : ShellRequest) : Window :=
  markSpeculative { w with requests := w.requests ++ [request] }

/-- Decorations are negotiated only where the compositor can draw them. -/
def initDecorations (w : Window) (available : Bool) : Window :=
  let w := { w with canDecorate := available }
  if available then
    let mode := DecorationMode.ofBorder w.options.border
    pushRequest { w with decoration := w.decoration.request mode } (.setDecorationMode mode)
  else { w with decoration := w.decoration.confirm .clientSide }

def setBorder (w : Window) (border : Bool) : Window :=
  if w.canDecorate then
    let mode := DecorationMode.ofBorder border
    pushRequest { w with decoration := w.decoration.request mode } (.setDecorationMode mode)
  else { w with decoration := w.decoration.confirm .clientSide }

def configureDecoration (w : Window) (mode : DecorationMode) : Window :=
  { w with decoration := w.decoration.confirm mode }

/-- The window is focused when it is activated and has the keyboard. -/
def updateFocus (w : Window) : Window :=
  let focused := w.activated && w.hasKeyboard
  if focused = w.focused then w
  else { w with focused }.addEvents { focus := true }

def keyboardFocus (w : Window) (hasKeyboard : Bool) : Window :=
  updateFocus { w with hasKeyboard }

def setFullscreen (w : Window) (fullscreen : Bool) : Window :=
  if w.fullscreen.desired = fullscreen then w
  else
    pushRequest { w with fullscreen := w.fullscreen.request fullscreen, stateChange := true }
      (if fullscreen then .setFullscreen else .unsetFullscreen)

def setMaximized (w : Window) (maximized : Bool) : Window :=
  if w.maximized.desired = maximized then w
  else
    pushRequest { w with maximized := w.maximized.request maximized, stateChange := true }
      (if maximized then .setMaximized else .unsetMaximized)

/-- A client cannot take its minimizing back, and no answer comes to it. -/
def setMinimized (w : Window) (minimized : Bool) : Window :=
  let w := { w with minimized }
  if minimized then w.pushRequest .setMinimized else w

def setTitle (w : Window) (title : String) : Window := w.pushRequest (.setTitle title)

def setAppId (w : Window) (appId : String) : Window := w.pushRequest (.setAppId appId)

end Window

end VideoOutput
