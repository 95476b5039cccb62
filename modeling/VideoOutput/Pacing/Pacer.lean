import VideoOutput.Arithmetic.Truncation
import VideoOutput.Pacing.Vsync

/-!
# Frame pacing

After a frame is committed the pacer waits for the compositor to ask for the next one, for one
sync interval and a margin. A surface that misses too many waits in a row is hidden: nothing is
rendered for it until the compositor asks for a frame again, or the window changes.
-/

namespace VideoOutput

structure PacerOptions where
  /-- Share of a sync interval added to the wait. -/
  safetyMargin : Float := 0.05
  /-- Misses in a row that hide the surface. -/
  hiddenAfterMisses : Nat := 2
  /-- Refresh rate where none is known. -/
  fallbackRate : Float := 60
  /-- Render always, and never wait for the compositor. -/
  disableVsync : Bool := false

structure FramePacer where
  options : PacerOptions
  /-- A frame was rendered that the compositor has not answered. -/
  waiting : Bool := false
  hidden : Bool := false
  /-- Waits missed in a row. -/
  misses : Nat := 0
  /-- Presentation feedback carries times of a clock that can be compared. -/
  usesPresentation : Bool := false
  /-- Refresh interval of the last feedback, in microseconds. -/
  refreshInterval : Int := 0
  estimate : VsyncEstimate := {}

namespace FramePacer

def new (options : PacerOptions) : FramePacer := { options }

/-- The numbers of the clocks that run steadily. -/
def isMonotonic (clock : Nat) : Bool := clock == 1 || clock == 4

def setClock (p : FramePacer) (clock : Nat) : FramePacer :=
  { p with usesPresentation := isMonotonic clock }

/-- A hidden surface counts as visible while syncs are disregarded. -/
def isVisible (p : FramePacer) : Bool := !p.hidden || p.options.disableVsync

/-- Starts a wait, and whether the frame is to be rendered. -/
def checkVisible (p : FramePacer) : Bool × FramePacer := (p.isVisible, { p with waiting := true })

/-- The compositor asked for a frame. -/
def frameDone (p : FramePacer) : FramePacer := { p with waiting := false, hidden := false }

/-- Feedback on a frame: when it was shown, in seconds and nanoseconds, the refresh interval in
nanoseconds and the sync number. Seconds and number are read as signed. -/
def presented (p : FramePacer) (seconds nanoseconds refresh sequence : Nat) :
    Except ArithmeticFault FramePacer := do
  if !p.usesPresentation then return p
  let micros ← Word.int64.mul (Word.int64.wrap seconds) 1000000
  let time ← Word.int64.add micros (nanoseconds / 1000 : Nat)
  return { p with
    refreshInterval := (refresh / 1000 : Nat)
    estimate := p.estimate.update time (Word.int64.wrap sequence) }

def swap (p : FramePacer) : Except ArithmeticFault FramePacer := do
  if !p.usesPresentation then return p
  return { p with estimate := ← p.estimate.swap }

def vsyncInfo? (p : FramePacer) : Option VsyncInfo :=
  if p.usesPresentation then some p.estimate.info else none

/-- The interval of a refresh rate, in microseconds. -/
def intervalOfRate (hz : Float) : Int := Word.int64.truncate (1000000 / hz)

/-- The sync interval in microseconds: the measured one, else that of the last feedback, else that
of the output's refresh rate, else that of the fallback rate, which counts as at least one. -/
def interval (p : FramePacer) (outputRate : Option Float) : Int :=
  let measured := if p.usesPresentation then p.estimate.duration else 0
  let reported := if measured ≤ 0 ∧ 0 < p.refreshInterval then p.refreshInterval else measured
  let ofOutput :=
    match outputRate with
    | some hz => if reported ≤ 0 ∧ hz > 0 then intervalOfRate hz else reported
    | none => reported
  if ofOutput ≤ 0 then
    intervalOfRate (if p.options.fallbackRate > 1 then p.options.fallbackRate else 1)
  else ofOutput

/-- How long to wait after a commit, in microseconds. -/
def deadline (p : FramePacer) (outputRate : Option Float) : Nat :=
  let interval := Float.ofInt (p.interval outputRate)
  (Word.nat64.truncate (interval + p.options.safetyMargin * interval)).toNat

/-- The end of a wait. A miss is counted up to the greatest word, and enough of them hide the
surface. -/
def finishWait (p : FramePacer) : FramePacer :=
  if p.waiting then
    let misses := min (p.misses + 1) Word.nat32.greatest.toNat
    { p with misses, hidden := p.hidden || decide (p.options.hiddenAfterMisses ≤ misses) }
  else { p with misses := 0 }

/-- The window changed: the surface is visible until it misses waits again. -/
def resetVisibility (p : FramePacer) : FramePacer :=
  { p with waiting := false, misses := 0, hidden := false }

inductive Op where
  | setClock (clock : Nat)
  | checkVisible
  | frameDone
  | presented (seconds nanoseconds refresh sequence : Nat)
  | swap
  | finishWait
  | resetVisibility
  deriving DecidableEq, Repr

/-- The pacer after the operation, and for a visibility check its answer. -/
def step (p : FramePacer) : Op → Except ArithmeticFault (FramePacer × Option Bool)
  | .setClock clock => return (p.setClock clock, none)
  | .checkVisible => return (p.checkVisible.2, some p.checkVisible.1)
  | .frameDone => return (p.frameDone, none)
  | .presented seconds nanoseconds refresh sequence =>
    return (← p.presented seconds nanoseconds refresh sequence, none)
  | .swap => return (← p.swap, none)
  | .finishWait => return (p.finishWait, none)
  | .resetVisibility => return (p.resetVisibility, none)

def run (p : FramePacer) (ops : List Op) : Except ArithmeticFault FramePacer :=
  ops.foldlM (fun p op => Prod.fst <$> p.step op) p

end FramePacer

end VideoOutput
