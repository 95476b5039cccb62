import VideoOutput.Compositor.Script
import VideoOutput.Exchange.Link

/-!
# A scripted compositor

The compositor keeps the globals it offers and the objects its client has. It answers binds and
commits as its script says, and sends no event that is newer than the object it is for.
-/

namespace VideoOutput

open Wire

/-- A global on offer, or once on offer. -/
structure Offer where
  global : Global
  output : Option Compositor.OutputScript := none
  withdrawn : Bool := false
  deriving DecidableEq, Repr

/-- An object of the client's, as the compositor sees it. -/
structure Resource where
  object : Object
  version : Nat
  /-- The number of the global it was bound to. -/
  global : Option Nat := none
  deriving DecidableEq, Repr

structure Compositor where
  script : Compositor.Script
  offers : List Offer
  /-- The objects that live, the oldest first. -/
  resources : List Resource := [⟨.registry, 1, none⟩]
  /-- Serials given out. -/
  serials : Nat := 0
  /-- Commits of the main surface. -/
  commits : Nat := 0
  /-- Frame callbacks asked for since the last commit, and those that were committed. -/
  requestedFrames : List Object := []
  committedFrames : List Object := []
  feedbacks : List Object := []
  /-- What follows every commit of the main surface at present. -/
  reaction : Compositor.Reaction := {}
  /-- Every request that came in. -/
  received : List Request := []
  deriving DecidableEq, Repr

namespace Compositor

/-- The main surface, which is the first that a client makes. -/
def mainSurface : Object := ⟨.surface, 1⟩

def new (script : Script) : Compositor where
  script
  offers :=
    let globals := script.offered.map fun (interface, version) => (interface, version, none)
    let outputs := script.outputs.map fun o => (Interface.output, o.version, some o)
    (globals ++ outputs).zipIdx.map fun ((interface, version, output), i) =>
      { global := ⟨i + 1, interface, version⟩, output }

/-- The globals on offer. -/
def globals (c : Compositor) : List Global :=
  (c.offers.filter (!·.withdrawn)).map Offer.global

/-! ## Objects -/

def resource? (c : Compositor) (o : Object) : Option Resource :=
  c.resources.find? (·.object = o)

/-- The newest object of the interface. -/
def newest? (c : Compositor) (interface : Interface) : Option Resource :=
  c.resources.reverse.find? (·.object.interface = interface)

def named? (c : Compositor) (name : String) : Option Resource :=
  c.resources.find? (·.object.name = name)

def drop (c : Compositor) (o : Object) : Compositor :=
  { c with resources := c.resources.filter (·.object ≠ o) }

/-! ## Events -/

/-- An event to an object, if it is of the version that has the event. -/
def tell (r : Resource) (since : Nat) (event : Event) : List Delivery :=
  if since ≤ r.version then [⟨r.object, event⟩] else []

/-- An event to the newest object of the interface. -/
def tellNewest (c : Compositor) (interface : Interface) (since : Nat) (event : Event) :
    List Delivery :=
  match c.newest? interface with
  | some r => tell r since event
  | none => []

def describeOutput (r : Resource) (o : OutputScript) : List Delivery :=
  tell r 1 (.outputGeometry o.x o.y o.make o.model) ++
    o.modes.flatMap (fun mode => tell r 1 (.outputMode mode)) ++
    (o.scale.map fun scale => tell r 2 (.outputScale scale)).getD [] ++
    (o.name.map fun name => tell r 4 (.outputName name)).getD [] ++
    if o.done then tell r 2 .outputDone else []

def describeFormats (r : Resource) (formats : List FourCc) (modifiers : List FormatEntry) :
    List Delivery :=
  formats.flatMap (fun f => tell r 1 (.format f)) ++
    modifiers.flatMap (fun e => tell r 3 (.formatModifier e.format e.modifier))

def tableBytes (entries : List FormatEntry) : List UInt8 :=
  entries.flatMap fun e => FormatTable.recordOfEntry e [0, 0, 0, 0]

def describeFeedback (r : Resource) (b : FeedbackBatch) : List Delivery :=
  let table := match b.table with
    | some entries =>
      let bytes := tableBytes entries
      tell r 1 (.formatTable (.file bytes) (b.tableSize.getD bytes.length))
    | none => []
  table ++
    b.tranches.flatMap (fun indices =>
      tell r 1 (.trancheFormats (indices.flatMap (littleEndianBytes 2)))) ++
    if b.done then tell r 1 .feedbackDone else []

/-- The next serial. -/
def nextSerial (c : Compositor) : Nat × Compositor :=
  (c.serials + 1, { c with serials := c.serials + 1 })

def configure (c : Compositor) (s : ConfigureScript) : List Delivery × Compositor :=
  match c.newest? .toplevel with
  | none => ([], c)
  | some toplevel =>
    let states := s.states.flatMap (littleEndianBytes 4) ++ s.trailing
    let first :=
      if s.toplevel then tell toplevel 1 (.toplevelConfigure s.width s.height states) else []
    if s.surface then
      let (serial, c) := c.nextSerial
      (first ++ c.tellNewest .shellSurface 1 (.surfaceConfigure serial), c)
    else (first, c)

def decorate (c : Compositor) (mode : Nat) : List Delivery :=
  c.tellNewest .decoration 1 (.decorationConfigure mode)

/-- Ends all frame callbacks that were committed. -/
def finishFrames (c : Compositor) : List Delivery × Compositor :=
  (c.committedFrames.map (⟨·, .frameDone⟩),
    c.committedFrames.foldl drop { c with committedFrames := [] })

def Presentation.event : Presentation → Event
  | .presented seconds nanoseconds refresh sequence =>
    .presented seconds nanoseconds refresh sequence
  | .discarded => .discarded

/-- Answers all feedback that is wanted. -/
def finishFeedbacks (c : Compositor) (presentation : Presentation) : List Delivery × Compositor :=
  (c.feedbacks.map (⟨·, presentation.event⟩), c.feedbacks.foldl drop { c with feedbacks := [] })

end Compositor

end VideoOutput
