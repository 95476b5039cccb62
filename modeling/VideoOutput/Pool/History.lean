import VideoOutput.Pool.BufferPool

/-!
# Histories of a pool

A pool and the catalog it imports by, over an allocator that numbers its buffers and remembers which
it made and unmade, and may refuse to make more. Once the pool is freed nothing happens any more.
-/

namespace VideoOutput

/-- An allocator's account: every buffer made, with its description, and every one unmade. -/
structure BufferLedger where
  refusing : Bool := false
  created : List (Nat × BufferDescription) := []
  destroyed : List Nat := []
  deriving DecidableEq, Repr

namespace BufferLedger

/-- Buffers are numbered from one in the order they are made. -/
def allocator : Allocator BufferLedger Nat where
  create description l :=
    if l.refusing then (.error (.bufferCreation "refused"), l)
    else
      let number := l.created.length + 1
      (.ok number, { l with created := l.created ++ [(number, description)] })
  destroy number l := { l with destroyed := l.destroyed ++ [number] }

end BufferLedger

/-- A pool, unless it was freed, and the account of its allocator. -/
structure PoolHistory where
  pool : Option (BufferPool Nat)
  catalog : FormatCatalog
  ledger : BufferLedger := {}

namespace PoolHistory

def start (resetLength : Nat) (catalog : FormatCatalog) : PoolHistory :=
  { pool := some (.new resetLength), catalog }

inductive Op where
  | bind (backend : Backend)
  | get (frame : VideoFrame)
  | clear
  | requestReset
  | beginCycle
  | refuse (on : Bool)
  | setCatalog (catalog : FormatCatalog)
  | free

inductive Reply where
  | none
  | alreadyBound (error : AlreadyBound)
  | entry (found : Except ImportError (PoolEntry Nat))

def step (h : PoolHistory) (op : Op) : PoolHistory × Reply :=
  match h.pool with
  | none => (h, .none)
  | some p =>
    match op with
    | .bind backend =>
      match p.bind backend with
      | .ok p => ({ h with pool := some p }, .none)
      | .error e => (h, .alreadyBound e)
    | .get frame =>
      let (found, p, ledger) := p.getEntry BufferLedger.allocator frame h.catalog h.ledger
      ({ h with pool := some p, ledger }, .entry found)
    | .clear =>
      let (p, ledger) := p.clear BufferLedger.allocator h.ledger
      ({ h with pool := some p, ledger }, .none)
    | .requestReset => ({ h with pool := some p.requestReset }, .none)
    | .beginCycle =>
      let (p, ledger) := p.beginCycle BufferLedger.allocator h.ledger
      ({ h with pool := some p, ledger }, .none)
    | .refuse on => ({ h with ledger := { h.ledger with refusing := on } }, .none)
    | .setCatalog catalog => ({ h with catalog }, .none)
    | .free =>
      ({ h with pool := none, ledger := (p.clear BufferLedger.allocator h.ledger).2 }, .none)

def run (h : PoolHistory) (ops : List Op) : PoolHistory := ops.foldl (fun h op => (h.step op).1) h

end PoolHistory

end VideoOutput
