import VideoOutput.Arithmetic.Checked

/-!
# Vertical syncs

Presentation feedback pairs the time a frame was shown with the number of the vertical sync it was
shown at. Between two flips with new feedback the times and the numbers give the length of a sync
and how many were skipped. All times are microseconds.
-/

namespace VideoOutput

/-- What is known of the last flip. -/
structure VsyncInfo where
  duration : Int
  skipped : Int
  lastDisplayTime : Int
  deriving DecidableEq, Repr

structure VsyncEstimate where
  /-- The feedback received last: a time and a sync number. -/
  currentTime : Int := 0
  currentCount : Int := 0
  /-- The feedback folded in at the last flip. -/
  lastTime : Int := 0
  lastCount : Int := 0
  duration : Int := 0
  skipped : Int := 0
  lastDisplayTime : Int := 0
  deriving DecidableEq, Repr

namespace VsyncEstimate

def info (e : VsyncEstimate) : VsyncInfo := ⟨e.duration, e.skipped, e.lastDisplayTime⟩

/-- New feedback; feedback no flip has folded in is superseded. -/
def update (e : VsyncEstimate) (time count : Int) : VsyncEstimate :=
  { e with currentTime := time, currentCount := count }

/-- The current feedback is later than the last in time and number. -/
def hasAdvanced (e : VsyncEstimate) : Prop :=
  0 < e.lastTime ∧ e.lastCount < e.currentCount ∧ e.lastTime < e.currentTime

instance (e : VsyncEstimate) : Decidable e.hasAdvanced := by unfold hasAdvanced; infer_instance

/-- Folds the current feedback in. -/
def swap (e : VsyncEstimate) : Except ArithmeticFault VsyncEstimate := do
  let measured ←
    if e.hasAdvanced then do
      let passed ← Word.int64.sub e.currentCount e.lastCount
      let elapsed ← Word.int64.sub e.currentTime e.lastTime
      let duration ← Word.int64.div elapsed passed
      let skipped ← Word.int64.sub passed 1
      pure { e with duration, skipped }
    else pure { e with skipped := 0 }
  let lastDisplayTime ←
    if 0 < e.currentTime ∧ 0 < measured.duration then
      Word.int64.add e.currentTime measured.duration
    else pure e.lastDisplayTime
  return { measured with lastDisplayTime, lastTime := e.currentTime, lastCount := e.currentCount }

inductive Op where
  | update (time count : Int)
  | swap
  deriving DecidableEq, Repr

def step (e : VsyncEstimate) : Op → Except ArithmeticFault VsyncEstimate
  | .update time count => return e.update time count
  | .swap => e.swap

def run (e : VsyncEstimate) (ops : List Op) : Except ArithmeticFault VsyncEstimate :=
  ops.foldlM step e

end VsyncEstimate

end VideoOutput
