import Mathlib
import VideoOutput.Poll.Wait

/-!
# How long a wait is

A wait is to be the least whole number of milliseconds that covers the time that is left. The time
is cut to whole microseconds before it is rounded up, so what it has above whole milliseconds is
lost where it is less than one microsecond (`IsCut`), and there the wait is a millisecond too short
(`wait_covers_iff`). A time that is less than a microsecond in all makes no wait.
-/

namespace VideoOutput

namespace Wait

/-- Above whole milliseconds the time has something, but less than a microsecond. -/
def IsCut (nanos : Nat) : Prop := 0 < nanos % 1000000 ∧ nanos % 1000000 < 1000

instance (nanos : Nat) : Decidable (IsCut nanos) := by unfold IsCut; infer_instance

/-- The milliseconds that cover the time in nanoseconds. -/
theorem isLeast_millis (nanos : Nat) :
    IsLeast {ms : Nat | nanos ≤ ms * 1000000} ((nanos + 999999) / 1000000) := by
  refine ⟨?_, fun ms hms => ?_⟩
  · change nanos ≤ (nanos + 999999) / 1000000 * 1000000
    omega
  · change nanos ≤ ms * 1000000 at hms
    omega

theorem millisOfMicros_of_isCut {nanos : Nat} (h : IsCut nanos) :
    millisOfMicros (nanos / 1000) + 1 = (nanos + 999999) / 1000000 := by
  obtain ⟨hpos, hless⟩ := h
  unfold millisOfMicros
  omega

theorem millisOfMicros_of_not_isCut {nanos : Nat} (h : ¬ IsCut nanos) :
    millisOfMicros (nanos / 1000) = (nanos + 999999) / 1000000 := by
  unfold IsCut at h
  unfold millisOfMicros
  omega

theorem clamp_eq_iff (deadline now : Nat) :
    clamp deadline now = min ((deadline - now + 999999) / 1000000) longest
      ↔ ¬ IsCut (deadline - now) ∨ longest * 1000000 ≤ deadline - now := by
  unfold clamp
  generalize deadline - now = nanos
  by_cases hcut : IsCut nanos
  · have hmillis := millisOfMicros_of_isCut hcut
    obtain ⟨hpos, hless⟩ := hcut
    simp only [longest, IsCut]
    omega
  · rw [millisOfMicros_of_not_isCut hcut]
    exact iff_of_true rfl (.inl hcut)

theorem le_clamp_succ (deadline now : Nat) :
    min ((deadline - now + 999999) / 1000000) longest ≤ clamp deadline now + 1 := by
  unfold clamp
  generalize deadline - now = nanos
  by_cases hcut : IsCut nanos
  · have hmillis := millisOfMicros_of_isCut hcut
    omega
  · rw [millisOfMicros_of_not_isCut hcut]
    omega

theorem timeout_covers_iff (nanos : Nat) :
    ((nanos : Int) ≤ timeout (some nanos) * 1000000
        ∨ timeout (some nanos) = Word.int32.greatest)
      ↔ ¬ IsCut nanos ∨ Word.int32.greatest * 1000000 ≤ nanos := by
  simp only [timeout, Word.int32]
  by_cases hcut : IsCut nanos
  · have hmillis := millisOfMicros_of_isCut hcut
    obtain ⟨hpos, hless⟩ := hcut
    simp only [IsCut]
    omega
  · rw [millisOfMicros_of_not_isCut hcut]
    refine iff_of_true ?_ (.inl hcut)
    omega

theorem timeout_eq_zero_iff (nanos : Nat) : timeout (some nanos) = 0 ↔ nanos < 1000 := by
  simp only [timeout, Word.int32, millisOfMicros]
  omega

/-- A wait is the least whole number of milliseconds that covers the time left, ten seconds at most,
exactly where nothing is cut from that time, or ten seconds are left; otherwise it is one too few.
The timeout of a poll covers its time, unless it is the greatest there is, under the same condition,
and it is none exactly for a time of less than a microsecond. -/
theorem wait_covers_iff (deadline now nanos : Nat) :
    (∃ ms, IsLeast {ms : Nat | deadline - now ≤ ms * 1000000} ms
      ∧ (clamp deadline now = min ms longest
        ↔ ¬ IsCut (deadline - now) ∨ longest * 1000000 ≤ deadline - now)
      ∧ min ms longest ≤ clamp deadline now + 1)
    ∧ (((nanos : Int) ≤ timeout (some nanos) * 1000000
        ∨ timeout (some nanos) = Word.int32.greatest)
      ↔ ¬ IsCut nanos ∨ Word.int32.greatest * 1000000 ≤ nanos)
    ∧ (timeout (some nanos) = 0 ↔ nanos < 1000) :=
  ⟨⟨_, isLeast_millis _, clamp_eq_iff deadline now, le_clamp_succ deadline now⟩,
    timeout_covers_iff nanos, timeout_eq_zero_iff nanos⟩

/-- One nanosecond is left: it makes no wait, and no time to poll. -/
theorem exists_wait_cut :
    (¬ ∀ deadline now ms : Nat, IsLeast {ms : Nat | deadline - now ≤ ms * 1000000} ms →
      clamp deadline now = min ms longest)
    ∧ ¬ ∀ nanos : Nat, (nanos : Int) ≤ timeout (some nanos) * 1000000
      ∨ timeout (some nanos) = Word.int32.greatest := by
  constructor
  · intro hall
    exact absurd (hall 1 0 _ (isLeast_millis 1)) (by decide)
  · intro hall
    exact absurd (hall 1) (by decide)

end Wait

end VideoOutput
