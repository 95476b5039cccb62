import VideoOutput.Wire.Object

/-!
# Requests

A request names its target, a verb and arguments. An object is made by the request that has it as
a new argument, and unmade by a request to it whose verb ends it. All requests of a connection are
kept in order, so that names and lives of objects are read off the log; a mark says how many of
them have been sent.
-/

namespace VideoOutput

namespace Wire

inductive Verb where
  | bind
  | createSurface
  | createRegion
  | attach
  | damageBuffer
  | frame
  | setOpaqueRegion
  | setInputRegion
  | commit
  | add
  | createPool
  | createBuffer
  | getSubsurface
  | setDesync
  | setPosition
  | getPointer
  | getKeyboard
  | getTouch
  | getShellSurface
  | getToplevel
  | pong
  | ackConfigure
  | setTitle
  | setAppId
  | setFullscreen
  | unsetFullscreen
  | setMaximized
  | unsetMaximized
  | setMinimized
  | move
  | resize
  | getViewport
  | setDestination
  | feedback
  | getDecoration
  | setMode
  | createInhibitor
  | createParams
  | createImmediate
  | getDefaultFeedback
  | destroy
  | release
  deriving DecidableEq, Repr

namespace Verb

def name : Verb → String
  | bind => "bind"
  | createSurface => "create_surface"
  | createRegion => "create_region"
  | attach => "attach"
  | damageBuffer => "damage_buffer"
  | frame => "frame"
  | setOpaqueRegion => "set_opaque_region"
  | setInputRegion => "set_input_region"
  | commit => "commit"
  | add => "add"
  | createPool => "create_pool"
  | createBuffer => "create_buffer"
  | getSubsurface => "get_subsurface"
  | setDesync => "set_desync"
  | setPosition => "set_position"
  | getPointer => "get_pointer"
  | getKeyboard => "get_keyboard"
  | getTouch => "get_touch"
  | getShellSurface => "get_xdg_surface"
  | getToplevel => "get_toplevel"
  | pong => "pong"
  | ackConfigure => "ack_configure"
  | setTitle => "set_title"
  | setAppId => "set_app_id"
  | setFullscreen => "set_fullscreen"
  | unsetFullscreen => "unset_fullscreen"
  | setMaximized => "set_maximized"
  | unsetMaximized => "unset_maximized"
  | setMinimized => "set_minimized"
  | move => "move"
  | resize => "resize"
  | getViewport => "get_viewport"
  | setDestination => "set_destination"
  | feedback => "feedback"
  | getDecoration => "get_toplevel_decoration"
  | setMode => "set_mode"
  | createInhibitor => "create_inhibitor"
  | createParams => "create_params"
  | createImmediate => "create_immed"
  | getDefaultFeedback => "get_default_feedback"
  | destroy => "destroy"
  | release => "release"

/-- A request of this verb is the last to its target. -/
def isDestructor : Verb → Bool
  | destroy | release => true
  | _ => false

end Verb

inductive Argument where
  | int (value : Int)
  | text (value : String)
  | object (value : Option Object)
  /-- An object the request makes. -/
  | new (value : Object)
  /-- The object a bind makes of a global. -/
  | bound (global : Nat) (value : Object)
  | descriptor
  deriving DecidableEq, Repr

/-- The object that the argument makes. -/
def Argument.made? : Argument → Option Object
  | new o | bound _ o => some o
  | _ => none

structure Request where
  target : Object
  verb : Verb
  arguments : List Argument
  deriving DecidableEq, Repr

namespace Request

def makes (r : Request) : List Object := r.arguments.filterMap Argument.made?

def unmakes (r : Request) (o : Object) : Bool := r.verb.isDestructor && r.target == o

end Request

structure RequestLog where
  /-- Every request, from the first on. -/
  issued : List Request := []
  /-- How many of them were sent. -/
  sent : Nat := 0
  deriving DecidableEq, Repr

namespace RequestLog

/-- The requests that wait to be sent. -/
def outbox (l : RequestLog) : List Request := l.issued.drop l.sent

def emptyOutbox (l : RequestLog) : RequestLog := { l with sent := l.issued.length }

def issue (l : RequestLog) (r : Request) : RequestLog := { l with issued := l.issued ++ [r] }

/-- The objects made so far, in order. -/
def made (l : RequestLog) : List Object := l.issued.flatMap Request.makes

/-- The next object of the interface. -/
def fresh (l : RequestLog) (interface : Interface) : Object :=
  ⟨interface, l.made.countP (·.interface == interface) + 1⟩

def isUnmade (l : RequestLog) (o : Object) : Bool := l.issued.any (·.unmakes o)

end RequestLog

/-- Work that issues requests. -/
abbrev Issuing := StateM RequestLog

namespace Issuing

def ask (target : Object) (verb : Verb) (arguments : List Argument) : Issuing Unit :=
  modify (·.issue ⟨target, verb, arguments⟩)

/-- Makes an object of the interface by a request that has it between the other arguments. -/
def make (target : Object) (verb : Verb) (interface : Interface) (before after : List Argument) :
    Issuing Object := do
  let made := (← get).fresh interface
  ask target verb (before ++ .new made :: after)
  return made

/-- Binds a global, at no more than the given version. -/
def bind (global : Global) (greatest : Nat) : Issuing Object := do
  let made := (← get).fresh global.interface
  ask .registry .bind [.bound global.number made, .int (min global.version greatest)]
  return made

/-- The last request to an object. -/
def unmake (o : Object) : Issuing Unit := ask o .destroy []

end Issuing

end Wire

end VideoOutput
