import VideoOutput.Client.State

/-!
# Buffers for the surfaces

Frames become buffers of shared memory through a request object that takes their planes one by one
and is ended as soon as the buffer is made. The pool keeps the buffers, and the surface of the
video shows one of them at a time.
-/

namespace VideoOutput

open Wire

namespace Client

/-- The low word and the high word of a modifier. -/
def modifierWords (m : UInt64) : Nat × Nat :=
  (m.toNat % 0x100000000, m.toNat / 0x100000000)

/-- Adds the planes from the given number on, up to the first whose object is missing. -/
def addPlanes (params : Object) (objects : List Descriptor) :
    Nat → List BufferPlane → Issuing (Except ImportError Unit)
  | _, [] => return .ok ()
  | number, plane :: rest => do
    if objects.length ≤ plane.object then return .error (.missingObject plane.object)
    let (low, high) := modifierWords plane.modifier
    Issuing.ask params .add
      [.descriptor, .int number, .int plane.offset, .int plane.stride, .int high, .int low]
    addPlanes params objects (number + 1) rest

/-- Makes a buffer of the description. The request object is ended in every case. -/
def makeBuffer (dmabuf : Object) (d : BufferDescription) : Issuing (Except ImportError Object) := do
  let params ← Issuing.make dmabuf .createParams .bufferParams [] []
  match ← addPlanes params d.objects 0 d.planes with
  | .error e => do
    Issuing.unmake params
    return .error e
  | .ok () => do
    let buffer ← Issuing.make params .createImmediate .buffer []
      [.int d.width, .int d.height, .int d.format.code.toNat, .int 0]
    Issuing.unmake params
    return .ok buffer

/-- Why a description cannot be a buffer, whatever its planes. -/
def oversize? (d : BufferDescription) : Option ImportError :=
  if Word.int32.greatest < d.width then some (.bufferCreation s!"width {d.width} too large")
  else if Word.int32.greatest < d.height then
    some (.bufferCreation s!"height {d.height} too large")
  else none

/-- Makes buffers through the given global. -/
def allocator (dmabuf : Option Object) : Allocator RequestLog Object where
  create d log :=
    match dmabuf, oversize? d with
    | none, _ => (.error (.bufferCreation "zwp_linux_dmabuf_v1 is not available"), log)
    | _, some e => (.error e, log)
    | some dmabuf, none => (makeBuffer dmabuf d).run log
  destroy buffer log := log.issue ⟨buffer, .destroy, []⟩

def bufferAllocator (c : Client) : Allocator RequestLog Object := allocator c.bindings.dmabuf

/-- The pool, made for the display there is if there is no pool yet. -/
def poolOrNew (c : Client) : BufferPool Object :=
  match c.pool with
  | some pool => pool
  | none =>
    let pool : BufferPool Object := .new c.resetLength
    { pool with backend := some (.probe c.display) }

/-- Side of the damage that covers any buffer. -/
def fullDamage : Int := Word.int32.greatest

/-- Shows a buffer on the video's surface from the next commit on. -/
def attach (c : Client) (buffer : Object) : Client :=
  (c.ask c.videoSurface .attach [.object buffer, .int 0, .int 0]).ask c.videoSurface .damageBuffer
    [.int 0, .int 0, .int fullDamage, .int fullDamage]

/-- One display cycle with the frame, and whether it is shown. A hidden surface shows nothing. -/
def draw (c : Client) (frame : VideoFrame) : Bool × Client :=
  let (visible, pacer) := c.pacer.checkVisible
  let c := { c with pacer }
  if !visible then (false, c)
  else
    let (pool, log) := c.poolOrNew.beginCycle c.bufferAllocator c.log
    let (entry, pool, log) := pool.getEntry c.bufferAllocator frame c.catalog log
    let c := { c with pool := some pool, log }
    match entry with
    | .ok entry => (true, c.attach entry.buffer)
    | .error _ => (false, c)

/-- Clears the pool over the next cycles. -/
def reset (c : Client) : Client := { c with pool := c.pool.map BufferPool.requestReset }

def clearPool (c : Client) : Client :=
  match c.pool with
  | none => c
  | some pool =>
    let (pool, log) := pool.clear c.bufferAllocator c.log
    { c with pool := some pool, log }

/-- Gives the client a display to import surfaces from. -/
def setDisplay (c : Client) (display : SurfaceDisplay) : Except AlreadyBound Client :=
  match c.pool with
  | none => .ok { c with display := some display }
  | some pool => do
    let pool ← pool.bind (.probe (some display))
    return { c with pool := some pool, display := some display }

/-- Row length of the black pixel: four bytes, rounded up to sixteen. -/
def solidStride : Int := 16

/-- The number of the format of the black pixel, three colours and a byte left over. -/
def solidFormat : Int := 1

/-- Fills the main surface, where it can be scaled and the video has a surface of its own. -/
def fillSolid (c : Client) : Client :=
  if c.solid.isSome || c.viewport.isNone || c.video.isNone then c
  else
    let work : Issuing SolidBuffer := do
      let pool ← Issuing.make c.bindings.shm .createPool .shmPool [] [.descriptor, .int solidStride]
      let buffer ← Issuing.make pool .createBuffer .buffer []
        [.int 0, .int 1, .int 1, .int solidStride, .int solidFormat]
      Issuing.ask c.surface .attach [.object buffer, .int 0, .int 0]
      return ⟨pool, buffer⟩
    let (solid, c) := c.issuing work
    { c with solid := some solid }

/-- Keeps the screen from idling, or lets it, and whether the compositor can be asked to. -/
def inhibitIdle (c : Client) (on : Bool) : Bool × Client :=
  match c.bindings.inhibitManager with
  | none => (false, c)
  | some manager =>
    match on, c.inhibitor with
    | true, none =>
      let (inhibitor, c) :=
        c.issuing (Issuing.make manager .createInhibitor .inhibitor [] [.object c.surface])
      (true, { c with inhibitor := some inhibitor })
    | false, some inhibitor => (true, { c with inhibitor := none }.ask inhibitor .destroy [])
    | _, _ => (true, c)

end Client

end VideoOutput
