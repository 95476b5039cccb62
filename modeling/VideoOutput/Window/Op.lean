import VideoOutput.Text.Utf8
import VideoOutput.Window.Configure
import VideoOutput.Window.Grab

/-!
# Histories of a window

Every operation on a window as a value, what it answers, and the run of a list of operations. A run
stops where an operation has no result.
-/

namespace VideoOutput

namespace Window

inductive Op where
  | initDecorations (available : Bool)
  | attachOutput (scale : Int)
  | surfaceEntered (scale : Int) (areaChanged : Bool)
  | surfaceLeft
  | outputDone (isCurrent : Bool) (scale : Int)
  | reconfig (width height : Int)
  | configureBounds (width height : Int)
  | configureToplevel (width height : Int) (states : ToplevelStates)
  | configureSurface
  | configureDecoration (mode : DecorationMode)
  | keyboardFocus (hasKeyboard : Bool)
  | setFullscreen (on : Bool)
  | setMaximized (on : Bool)
  | setMinimized (on : Bool)
  | setBorder (on : Bool)
  | setWindowSize (width height : Int)
  | setUnfullscreenSize (width height : Int)
  | unfullscreenSize
  | setTitle (title : List UInt8)
  | setAppId (appId : String)
  | pointerPressed (x y : Float)
  | touchDown (x y : Float)
  | scale
  | keepAspect
  | addEvents (events : WindowEvents)
  | takeEvents
  | takeRequests

/-- What an operation answers. -/
inductive Reply where
  | none
  | flag (value : Bool)
  | size (value : Size)
  | request (value : Option ShellRequest)
  | scale (value : Option Float)
  | events (value : WindowEvents)
  | requests (value : List ShellRequest)

def step (w : Window) : Op → Except ArithmeticFault (Window × Reply)
  | .initDecorations available => return (w.initDecorations available, .none)
  | .attachOutput scale => return (w.attachOutput scale, .none)
  | .surfaceEntered scale areaChanged => return (← w.surfaceEntered scale areaChanged, .none)
  | .surfaceLeft => return (w.surfaceLeft, .none)
  | .outputDone isCurrent scale => return (← w.outputDone isCurrent scale, .none)
  | .reconfig width height => return (← w.reconfig width height, .none)
  | .configureBounds width height => return (w.configureBounds width height, .none)
  | .configureToplevel width height states =>
    return (w.configureToplevel width height states, .none)
  | .configureSurface => do
    let (activated, w) ← w.configureSurface
    return (w, .flag activated)
  | .configureDecoration mode => return (w.configureDecoration mode, .none)
  | .keyboardFocus hasKeyboard => return (w.keyboardFocus hasKeyboard, .none)
  | .setFullscreen on => return (w.setFullscreen on, .none)
  | .setMaximized on => return (w.setMaximized on, .none)
  | .setMinimized on => return (w.setMinimized on, .none)
  | .setBorder on => return (w.setBorder on, .none)
  | .setWindowSize width height => return (← w.setWindowSize width height, .none)
  | .setUnfullscreenSize width height => return (← w.setUnfullscreenSize width height, .none)
  | .unfullscreenSize => return (w, .size (← w.unfullscreenSize))
  | .setTitle title => return (w.setTitle (Utf8.decodeLossy title), .none)
  | .setAppId appId => return (w.setAppId appId, .none)
  | .pointerPressed x y => return (w, .request (← w.pointerPressed x y))
  | .touchDown x y => return (w, .request (some (← w.touchDown x y)))
  | .scale => return (w, .scale w.scale?)
  | .keepAspect => return (w, .flag w.options.keepAspect)
  | .addEvents events => return (w.addEvents events, .none)
  | .takeEvents => return (w.takeEvents.2, .events w.takeEvents.1)
  | .takeRequests => return (w.takeRequests.2, .requests w.takeRequests.1)

/-- The window after all the operations. -/
def run (w : Window) (ops : List Op) : Except ArithmeticFault Window :=
  ops.foldlM (fun w op => Prod.fst <$> w.step op) w

end Window

end VideoOutput
