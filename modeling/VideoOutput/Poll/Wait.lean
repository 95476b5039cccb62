import VideoOutput.Arithmetic.Checked

/-!
# Lengths of waits

A wait is given in milliseconds. Time left below a whole microsecond is dropped, and what then
remains is rounded up to a whole millisecond.
-/

namespace VideoOutput

namespace Wait

/-- The longest single wait, in milliseconds. -/
def longest : Nat := 10000

/-- Whole milliseconds that are no less than the microseconds. -/
def millisOfMicros (micros : Nat) : Nat := (micros + 999) / 1000

/-- The wait from `now` until `until`, both in nanoseconds, in milliseconds. -/
def clamp (deadline now : Nat) : Nat := min (millisOfMicros ((deadline - now) / 1000)) longest

/-- The timeout of a poll in milliseconds, for a time in nanoseconds; without one the poll waits
forever. -/
def timeout : Option Nat → Int
  | none => -1
  | some nanos => min (millisOfMicros (nanos / 1000)) Word.int32.greatest

end Wait

end VideoOutput
