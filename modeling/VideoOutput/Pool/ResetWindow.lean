import VideoOutput.Arithmetic.Checked

/-!
# Reset windows

After a jump in the stream the compositor may still hold earlier buffers for a few cycles. A reset
that is requested therefore clears on each of a fixed number of cycles that follow it.
-/

namespace VideoOutput

structure ResetWindow where
  length : Nat
  active : Bool := false
  /-- Cycles since the last request, up to the greatest word. -/
  cycles : Nat := 0
  deriving DecidableEq, Repr

namespace ResetWindow

def request (r : ResetWindow) : ResetWindow := { r with active := true, cycles := 0 }

/-- One cycle, and whether it clears. -/
def advance (r : ResetWindow) : Bool × ResetWindow :=
  let cycles := min (r.cycles + 1) Word.nat32.greatest.toNat
  if r.active then
    (decide (cycles ≤ r.length), { r with cycles, active := decide (cycles < r.length) })
  else (false, { r with cycles })

inductive Op where
  | request
  | advance
  deriving DecidableEq, Repr

def step (r : ResetWindow) : Op → ResetWindow × Option Bool
  | .request => (r.request, none)
  | .advance => (r.advance.2, some r.advance.1)

end ResetWindow

end VideoOutput
