import VideoOutput.Proofs.Pacing.Visibility
import VideoOutput.Proofs.Pacing.Vsync

/-!
# Pacing that stays in its words

Feedback may come in any order, and its times and numbers may go back. Where none of its times is
past a limit, every time of the estimate is between zero and twice that limit, and every number is
one of the word: differences are taken only of later feedback and earlier, and the only sum is that
of a time and the length of a sync, which is a difference of two times (`Within.swap`). A pacer is
sent seconds, and as long as these are at most `2 ^ 42` the limit is half a word (`run_within`).
-/

namespace VideoOutput

namespace Feedback

variable {limit : Int} {f g : Feedback}

/-- Neither the time nor the number is negative, the time is at most the limit, and the number is
one of the word. -/
structure Within (limit : Int) (f : Feedback) : Prop where
  time : 0 ≤ f.time ∧ f.time ≤ limit
  count : 0 ≤ f.count ∧ f.count ≤ Word.int64.greatest

theorem Within.fits (hlimit : 2 * limit ≤ Word.int64.greatest) (hf : f.Within limit)
    (hg : g.Within limit) (h : f.Before g) : f.Fits g := by
  obtain ⟨hlong, hshort⟩ := period_bounds h
  obtain ⟨htime, hcount⟩ := h
  obtain ⟨hf0, -⟩ := hf.time
  obtain ⟨hg0, hgmost⟩ := hg.time
  obtain ⟨hfcount, -⟩ := hf.count
  obtain ⟨-, hgcount⟩ := hg.count
  exact ⟨Word.int64_holds (by omega) (le_trans (by omega) hgcount),
    Word.int64_holds (by omega) (le_trans (by omega) hlimit),
    Word.int64_holds (by omega) (le_trans (by omega) hlimit)⟩

end Feedback

namespace VsyncEstimate

variable {limit : Int} {e : VsyncEstimate}

/-- The feedback is within the limit, the length of a sync is at most as long, and the next sync at
most as much later. Nothing is negative. -/
structure Within (limit : Int) (e : VsyncEstimate) : Prop where
  folded : e.folded.Within limit
  received : e.received.Within limit
  duration : 0 ≤ e.duration ∧ e.duration ≤ limit
  skipped : 0 ≤ e.skipped ∧ e.skipped ≤ Word.int64.greatest
  lastDisplayTime : 0 ≤ e.lastDisplayTime ∧ e.lastDisplayTime ≤ 2 * limit

namespace Within

theorem start (hlimit : 0 ≤ limit) : Within limit {} := by
  have hfeedback : Feedback.Within limit ⟨0, 0⟩ := ⟨⟨le_rfl, hlimit⟩, le_rfl, by decide⟩
  have htwice : 0 ≤ 2 * limit := by omega
  exact ⟨hfeedback, hfeedback, ⟨le_rfl, hlimit⟩, ⟨le_rfl, by decide⟩, le_rfl, htwice⟩

theorem update {f : Feedback} (h : e.Within limit) (hf : f.Within limit) :
    (e.update f.time f.count).Within limit :=
  ⟨h.folded, hf, h.duration, h.skipped, h.lastDisplayTime⟩

/-- A swap has a result, whether or not the feedback has advanced. -/
theorem swap (hlimit : 2 * limit ≤ Word.int64.greatest) (h : e.Within limit) :
    ∃ e', e.swap = .ok e' ∧ e'.Within limit := by
  have htime : 0 ≤ e.currentTime ∧ e.currentTime ≤ limit := h.received.time
  by_cases hadvanced : e.hasAdvanced
  · obtain ⟨hpositive, hcount, hlonger⟩ := hadvanced
    have hbefore : e.folded.Before e.received := ⟨hlonger, hcount⟩
    have hfits := h.folded.fits hlimit h.received hbefore
    have hlast : 0 ≤ e.lastCount := h.folded.count.1
    have hmost : e.currentCount ≤ Word.int64.greatest := h.received.count.2
    obtain ⟨hperiod, helapsed⟩ := Feedback.period_bounds hbefore
    have hshort : e.folded.period e.received ≤ limit := by
      refine helapsed.trans ?_
      dsimp only [VsyncEstimate.received, VsyncEstimate.folded]
      omega
    refine ⟨_, swap_of_follows ⟨hpositive, hbefore, hfits⟩, h.received, h.received,
      ⟨hperiod, hshort⟩, ?_, ?_⟩
    · dsimp only
      omega
    · dsimp only
      split_ifs
      · omega
      · exact h.lastDisplayTime
  · obtain ⟨hduration0, hduration⟩ := h.duration
    have hnext : Word.int64.Holds (e.currentTime + e.duration) :=
      Word.int64_holds (by omega) (le_trans (by omega) hlimit)
    refine ⟨_, swap_of_not_hasAdvanced hadvanced fun _ => hnext, h.received, h.received, h.duration,
      ⟨le_rfl, show (0 : Int) ≤ Word.int64.greatest by decide⟩, ?_⟩
    dsimp only
    split_ifs
    · omega
    · exact h.lastDisplayTime

/-- Every value the estimate keeps is one of the word. -/
theorem holds (hlimit : 2 * limit ≤ Word.int64.greatest) (h : e.Within limit) :
    ∀ n ∈ [e.currentTime, e.currentCount, e.lastTime, e.lastCount, e.duration, e.skipped,
      e.lastDisplayTime], Word.int64.Holds n := by
  obtain ⟨⟨htime, hcount⟩, ⟨htime', hcount'⟩, hduration, hskipped, hdisplay⟩ := h
  have hlong : ∀ n, 0 ≤ n ∧ n ≤ 2 * limit → Word.int64.Holds n := fun n hn =>
    Word.int64_holds hn.1 (hn.2.trans hlimit)
  have hshort : ∀ n, 0 ≤ n ∧ n ≤ limit → Word.int64.Holds n := fun n hn =>
    hlong n ⟨hn.1, by omega⟩
  have hword : ∀ n, 0 ≤ n ∧ n ≤ Word.int64.greatest → Word.int64.Holds n := fun n hn =>
    Word.int64_holds hn.1 hn.2
  simp only [List.forall_mem_cons]
  exact ⟨hshort _ htime', hword _ hcount', hshort _ htime, hword _ hcount, hshort _ hduration,
    hword _ hskipped, hlong _ hdisplay, nofun⟩

end Within

end VsyncEstimate

namespace FramePacer

variable {p : FramePacer} {op : Op} {ops : List Op}

/-- The latest time that is sent, in microseconds: `2 ^ 42` seconds, and as many nanoseconds as
there are in their word. -/
def latest : Int := 2 ^ 42 * 1000000 + 4294967

theorem two_mul_latest : 2 * latest ≤ Word.int64.greatest := by decide

/-- Feedback is sent with at most `2 ^ 42` seconds and with a number below `2 ^ 63`. Nanoseconds and
refresh interval are any of their word, and any other operation is free. -/
def Op.IsBounded : Op → Prop
  | .presented seconds nanoseconds refresh sequence =>
    seconds ≤ 2 ^ 42 ∧ sequence < 2 ^ 63 ∧ Word.nat32.Holds nanoseconds ∧ Word.nat32.Holds refresh
  | _ => True

instance : DecidablePred Op.IsBounded := fun op => by
  unfold Op.IsBounded
  split <;> infer_instance

/-- The estimate is within the latest time that is sent, and the refresh interval is one of the
word. -/
structure Within (p : FramePacer) : Prop where
  estimate : p.estimate.Within latest
  refreshInterval : 0 ≤ p.refreshInterval ∧ p.refreshInterval ≤ Word.int64.greatest

theorem new_within (options : PacerOptions) : (new options).Within :=
  ⟨.start (by decide), le_rfl, show (0 : Int) ≤ Word.int64.greatest by decide⟩

/-- A number below the middle of its word is read as it is. -/
theorem wrap_of_lt {n : Nat} (h : n < 2 ^ 63) : Word.int64.wrap n = n :=
  Word.wrap_of_holds (Word.int64_holds (by omega) (by omega))

theorem presented_within (hp : p.Within) {seconds nanoseconds refresh sequence : Nat}
    (h : (Op.presented seconds nanoseconds refresh sequence).IsBounded) :
    ∃ p', p.presented seconds nanoseconds refresh sequence = .ok p' ∧ p'.Within := by
  obtain ⟨hseconds, hsequence, ⟨-, hnanoseconds⟩, -, hrefresh⟩ := h
  simp only [Word.nat32] at hnanoseconds hrefresh
  unfold presented
  split_ifs
  · exact ⟨p, rfl, hp⟩
  · have hmicros : (seconds : Int) * 1000000 ≤ 2 ^ 42 * 1000000 := by omega
    have htime : ((seconds : Int) * 1000000 + (nanoseconds / 1000 : Nat)) ≤ latest := by
      unfold latest
      omega
    have hlatest : latest ≤ Word.int64.greatest := by decide
    rw [wrap_of_lt (by omega), wrap_of_lt hsequence]
    refine ⟨_, bind_eq_ok.2 ⟨_, Word.mul_ok (Word.int64_holds (by omega) (by omega)), bind_eq_ok.2
      ⟨_, Word.add_ok (Word.int64_holds (by omega) (htime.trans hlatest)), rfl⟩⟩, ?_, ?_⟩
    · have hcount : (sequence : Int) ≤ Word.int64.greatest := by
        dsimp only [Word.int64]
        omega
      exact hp.estimate.update (f := ⟨_, sequence⟩) ⟨⟨by dsimp only; omega, htime⟩, by simp, hcount⟩
    · dsimp only [Word.int64]
      omega

theorem swap_within (hp : p.Within) : ∃ p', p.swap = .ok p' ∧ p'.Within := by
  unfold swap
  split_ifs
  · exact ⟨p, rfl, hp⟩
  · obtain ⟨e, hswap, he⟩ := hp.estimate.swap two_mul_latest
    exact ⟨_, bind_eq_ok.2 ⟨e, hswap, rfl⟩, he, hp.refreshInterval⟩

/-- No operation but feedback and swaps has to do with times. -/
theorem step_within (hp : p.Within) (h : op.IsBounded) :
    ∃ p' answer, p.step op = .ok (p', answer) ∧ p'.Within := by
  cases op with
  | presented seconds nanoseconds refresh sequence =>
    obtain ⟨p', hpresented, hp'⟩ := presented_within hp h
    exact ⟨p', none, bind_eq_ok.2 ⟨p', hpresented, rfl⟩, hp'⟩
  | swap =>
    obtain ⟨p', hswap, hp'⟩ := swap_within hp
    exact ⟨p', none, bind_eq_ok.2 ⟨p', hswap, rfl⟩, hp'⟩
  | finishWait =>
    refine ⟨_, none, rfl, ?_⟩
    unfold finishWait
    split_ifs <;> exact ⟨hp.estimate, hp.refreshInterval⟩
  | setClock clock => exact ⟨_, none, rfl, hp.estimate, hp.refreshInterval⟩
  | checkVisible => exact ⟨_, _, rfl, hp.estimate, hp.refreshInterval⟩
  | frameDone => exact ⟨_, none, rfl, hp.estimate, hp.refreshInterval⟩
  | resetVisibility => exact ⟨_, none, rfl, hp.estimate, hp.refreshInterval⟩

theorem run_of_within : ∀ {ops : List Op} {p : FramePacer}, p.Within → (∀ op ∈ ops, op.IsBounded) →
    ∃ q, run p ops = .ok q ∧ q.Within
  | [], p, hp, _ => ⟨p, rfl, hp⟩
  | op :: ops, p, hp, h => by
    obtain ⟨hop, hops⟩ := List.forall_mem_cons.1 h
    obtain ⟨p', answer, hstep, hp'⟩ := step_within hp hop
    obtain ⟨q, hrun, hq⟩ := run_of_within hp' hops
    exact ⟨q, run_cons.2 ⟨p', answer, hstep, hrun⟩, hq⟩

/-- Whatever is done and in whatever order, with feedback of at most `2 ^ 42` seconds and numbers
below `2 ^ 63`: no operation leaves its word or divides by zero, the pacer keeps only values of the
word, and neither the length of a sync nor the skipped syncs nor the next time are negative. -/
theorem run_within (options : PacerOptions) (h : ∀ op ∈ ops, op.IsBounded) :
    ∃ p, run (new options) ops = .ok p
      ∧ 0 ≤ p.estimate.duration ∧ 0 ≤ p.estimate.skipped ∧ 0 ≤ p.estimate.lastDisplayTime
      ∧ ∀ n ∈ [p.refreshInterval, p.estimate.currentTime, p.estimate.currentCount,
        p.estimate.lastTime, p.estimate.lastCount, p.estimate.duration, p.estimate.skipped,
        p.estimate.lastDisplayTime], Word.int64.Holds n := by
  obtain ⟨p, hrun, hp⟩ := run_of_within (new_within options) h
  refine ⟨p, hrun, hp.estimate.duration.1, hp.estimate.skipped.1, hp.estimate.lastDisplayTime.1, ?_⟩
  rw [List.forall_mem_cons]
  exact ⟨Word.int64_holds hp.refreshInterval.1 hp.refreshInterval.2,
    hp.estimate.holds two_mul_latest⟩

/-- A swap before any feedback, then the latest time there is, and from there feedback that goes
back while the clock is changed. -/
def backwards : List Op :=
  [.setClock 1, .swap, .presented 1 0 16666666 1, .swap,
    .presented (2 ^ 42) 4294967295 4294967295 3, .checkVisible, .swap, .finishWait,
    .presented 7 999 0 2, .swap, .setClock 0, .presented 3 0 0 9, .swap, .setClock 4,
    .presented 0 0 0 (2 ^ 63 - 1), .swap, .resetVisibility, .frameDone]

theorem run_within_backwards :
    ∃ p, run (new {}) backwards = .ok p ∧ 0 ≤ p.estimate.skipped
      ∧ p.estimate.duration = 2199023255553647483
      ∧ p.estimate.lastDisplayTime = 7000000 + 2199023255553647483 := by
  have hbounded : ∀ op ∈ backwards, op.IsBounded := by decide
  obtain ⟨p, hrun, -, hskipped, -⟩ := run_within {} hbounded
  refine ⟨p, hrun, hskipped, ?_⟩
  cases hrun
  decide

end FramePacer

end VideoOutput
