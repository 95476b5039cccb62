import VideoOutput.Frame.Import
import VideoOutput.Pool.ResetWindow

/-!
# The buffer pool

A decoder goes round a few frames, so the pool keeps the compositor buffer of each frame it has
seen, under the number of the frame's identity. It drops them only all at once: when it is cleared
or freed. A frame that cannot be imported leaves the pool as it was.
-/

namespace VideoOutput

/-- Makes and unmakes compositor buffers, with a state of its own. -/
structure Allocator (σ β : Type) where
  create : BufferDescription → σ → Except ImportError β × σ
  destroy : β → σ → σ

structure PoolEntry (β : Type) where
  identity : FrameIdentity
  format : FourCc
  buffer : β
  deriving DecidableEq, Repr

structure BufferPool (β : Type) where
  backend : Option Backend := none
  entries : List (PoolEntry β) := []
  reset : ResetWindow

/-- The pool holds buffers of the named backend. -/
structure AlreadyBound where
  backend : String
  deriving DecidableEq, Repr

def AlreadyBound.message (e : AlreadyBound) : String :=
  s!"buffer pool is already bound to the {e.backend} backend and still holds entries"

namespace BufferPool

variable {σ β : Type}

def new (resetLength : Nat) : BufferPool β := { reset := { length := resetLength } }

/-- Changes the backend of an empty pool. -/
def bind (p : BufferPool β) (backend : Backend) : Except AlreadyBound (BufferPool β) :=
  match p.backend with
  | some current =>
    if p.entries.isEmpty then .ok { p with backend := some backend }
    else .error ⟨current.name⟩
  | none => .ok { p with backend := some backend }

/-- The description of a frame that the catalog supports. -/
def describe (backend : Backend) (frame : VideoFrame) (catalog : FormatCatalog) :
    Except ImportError BufferDescription := do
  let description ← backend.importFrame frame catalog
  match description.modifier? with
  | none => .error .noPlanes
  | some modifier =>
    if catalog.supports description.format modifier then .ok description
    else .error (.unsupported description.format modifier)

/-- The entry of the frame, imported the first time. -/
def getEntry (a : Allocator σ β) (p : BufferPool β) (frame : VideoFrame) (catalog : FormatCatalog)
    (s : σ) : Except ImportError (PoolEntry β) × BufferPool β × σ :=
  match p.backend with
  | none => (.error .noBackend, p, s)
  | some backend =>
    match backend.identity frame with
    | .error e => (.error e, p, s)
    | .ok identity =>
      match p.entries.find? (·.identity.key = identity.key) with
      | some entry => (.ok entry, p, s)
      | none =>
        match describe backend frame catalog with
        | .error e => (.error e, p, s)
        | .ok description =>
          match a.create description s with
          | (.error e, s) => (.error e, p, s)
          | (.ok buffer, s) =>
            let entry := ⟨identity, description.format, buffer⟩
            (.ok entry, { p with entries := p.entries ++ [entry] }, s)

/-- Destroys the buffers, in the order they came. -/
def clear (a : Allocator σ β) (p : BufferPool β) (s : σ) : BufferPool β × σ :=
  ({ p with entries := [] }, p.entries.foldl (fun s e => a.destroy e.buffer s) s)

def requestReset (p : BufferPool β) : BufferPool β := { p with reset := p.reset.request }

/-- A display cycle begins, which may clear the pool. -/
def beginCycle (a : Allocator σ β) (p : BufferPool β) (s : σ) : BufferPool β × σ :=
  let (clears, reset) := p.reset.advance
  let p := { p with reset }
  if clears then p.clear a s else (p, s)

end BufferPool

end VideoOutput
