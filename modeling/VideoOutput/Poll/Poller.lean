/-!
# Polling the display

A poll looks at the display's connection and, if it is watched, at a pipe that other threads write
a byte into to end a wait early. A poll that finds the pipe readable empties it. Once a poll has
found the connection broken the poller is closed for good.
-/

namespace VideoOutput

/-- What a poll found. -/
structure Readiness where
  readable : Bool := false
  /-- The connection is broken, hung up or invalid. -/
  error : Bool := false
  woken : Bool := false
  deriving DecidableEq, Repr

/-- A pipe that neither blocks its reader nor its writer. -/
structure WakeupPipe where
  capacity : Nat := 65536
  bytes : Nat := 0
  deriving DecidableEq, Repr

namespace WakeupPipe

/-- Writes a byte; a full pipe refuses it. -/
def write (p : WakeupPipe) : WakeupPipe :=
  if p.bytes < p.capacity then { p with bytes := p.bytes + 1 } else p

/-- Bytes read at once while the pipe is emptied. -/
def chunk : Nat := 64

/-- Reads chunk after chunk until nothing is left. -/
def drain (p : WakeupPipe) : WakeupPipe :=
  if _h : p.bytes = 0 then p else drain { p with bytes := p.bytes - min chunk p.bytes }
  termination_by p.bytes
  decreasing_by
    simp only [chunk]
    omega

end WakeupPipe

structure DisplayPoller where
  wakeups : WakeupPipe := {}
  closed : Bool := false
  deriving DecidableEq, Repr

namespace DisplayPoller

/-- Ends a wait that watches the pipe, now or the next time. -/
def wakeup (p : DisplayPoller) : DisplayPoller := { p with wakeups := p.wakeups.write }

/-- Polls a display in the given condition. -/
def poll (p : DisplayPoller) (readable error : Bool) (watch : Bool) : Readiness × DisplayPoller :=
  let woken := watch && p.wakeups.bytes ≠ 0
  ({ readable, error, woken }, if woken then { p with wakeups := p.wakeups.drain } else p)

/-- The end of a dispatch: what a poll found, and what reading gave if the display was readable. A
read that failed is reported. Otherwise an error closes the poller, and nothing is handed on; with
neither, what was read is. -/
def conclude (p : DisplayPoller) (r : Readiness) (outcome : Except ε (List α)) :
    Except ε (Option (List α)) × DisplayPoller :=
  match r.readable, outcome with
  | true, .error e => (.error e, p)
  | readable, outcome =>
    if r.error then (.ok none, { p with closed := true })
    else (.ok (some (if readable then (outcome.toOption).getD [] else [])), p)

end DisplayPoller

/-- The reading end of a pipe: bytes that wait, and whether the writer is there. -/
structure DisplayPipe where
  bytes : Nat := 0
  hungUp : Bool := false
  deriving DecidableEq, Repr

namespace DisplayPipe

def write (d : DisplayPipe) : DisplayPipe :=
  if d.hungUp then d else { d with bytes := d.bytes + 1 }

def read (d : DisplayPipe) : DisplayPipe := { d with bytes := d.bytes - 1 }

def hangUp (d : DisplayPipe) : DisplayPipe := { d with hungUp := true }

end DisplayPipe

/-- A poller beside the display it polls. -/
structure PolledDisplay where
  poller : DisplayPoller := {}
  display : DisplayPipe := {}
  deriving DecidableEq, Repr

namespace PolledDisplay

inductive Op where
  | wakeup (count : Nat)
  | write
  | read
  | hangUp
  | poll (watch : Bool)
  deriving DecidableEq, Repr

/-- A pipe with data is readable, and one without a writer is in error. -/
def step (s : PolledDisplay) : Op → PolledDisplay × Option Readiness
  | .wakeup count => ({ s with poller := Nat.repeat DisplayPoller.wakeup count s.poller }, none)
  | .write => ({ s with display := s.display.write }, none)
  | .read => ({ s with display := s.display.read }, none)
  | .hangUp => ({ s with display := s.display.hangUp }, none)
  | .poll watch =>
    let (readiness, poller) := s.poller.poll (s.display.bytes ≠ 0) s.display.hungUp watch
    ({ s with poller }, some readiness)

def run (s : PolledDisplay) (ops : List Op) : PolledDisplay :=
  ops.foldl (fun s op => (s.step op).1) s

end PolledDisplay

end VideoOutput
