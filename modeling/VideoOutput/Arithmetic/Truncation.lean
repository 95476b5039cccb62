import VideoOutput.Arithmetic.Checked

/-!
# From floating point to whole numbers

A float becomes a whole number by dropping its fraction; what lies beyond the word becomes the
word's nearest value, and a float that is no number becomes zero.
-/

namespace VideoOutput

namespace Word

/-- The float without its fraction, held to the word. -/
def truncate (w : Word) (x : Float) : Int :=
  if x < 0 then w.clamp (-(-x).toUInt64.toNat) else w.clamp x.toUInt64.toNat

/-- The least whole number that is not below the float, held to the word. -/
def ceil (w : Word) (x : Float) : Int :=
  let whole := int64.truncate x
  if Float.ofInt whole < x then w.clamp (whole + 1) else w.clamp whole

end Word

end VideoOutput
