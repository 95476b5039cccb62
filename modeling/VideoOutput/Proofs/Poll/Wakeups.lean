import Mathlib
import VideoOutput.Poll.Poller

/-!
# Wakeups

However many call and however little the pipe holds, a poll that watches for them reports a wakeup
exactly if somebody called since the poll that watched before it (`woken_iff_called`). A full pipe
refuses only bytes that are not needed: it says as much with one byte as with many. A poll that does
not watch leaves the wakeups to the next that does.
-/

namespace VideoOutput

namespace WakeupPipe

@[simp] theorem write_capacity (p : WakeupPipe) : p.write.capacity = p.capacity := by
  unfold write
  split_ifs <;> rfl

/-- A pipe that has room for one byte holds one once it was written to. -/
theorem write_bytes_pos {p : WakeupPipe} (h : 0 < p.capacity) : 0 < p.write.bytes := by
  unfold write
  split_ifs with hroom
  · exact Nat.succ_pos _
  · omega

theorem repeat_write_capacity (p : WakeupPipe) (count : Nat) :
    (Nat.repeat write count p).capacity = p.capacity := by
  induction count with
  | zero => rfl
  | succ count ih => simpa only [Nat.repeat, write_capacity] using ih

theorem repeat_write_bytes_pos {p : WakeupPipe} (h : 0 < p.capacity) (count : Nat) :
    0 < (Nat.repeat write count p).bytes ↔ 0 < count ∨ 0 < p.bytes := by
  cases count with
  | zero => simp [Nat.repeat]
  | succ count =>
    have hroom : 0 < (Nat.repeat write count p).capacity := by rwa [repeat_write_capacity]
    simpa [Nat.repeat] using write_bytes_pos hroom

/-- The chunks are read until the pipe is empty. -/
@[simp] theorem drain_bytes (p : WakeupPipe) : p.drain.bytes = 0 := by
  induction p using drain.induct with
  | case1 p h =>
    unfold drain
    rwa [dif_pos h]
  | case2 p h ih =>
    unfold drain
    rwa [dif_neg h]

@[simp] theorem drain_capacity (p : WakeupPipe) : p.drain.capacity = p.capacity := by
  induction p using drain.induct with
  | case1 p h =>
    unfold drain
    rw [dif_pos h]
  | case2 p h ih =>
    unfold drain
    rwa [dif_neg h]

end WakeupPipe

namespace PolledDisplay

variable {s : PolledDisplay} {ops : List Op} {op : Op}

theorem repeat_wakeup (p : DisplayPoller) (count : Nat) : Nat.repeat DisplayPoller.wakeup count p
    = { p with wakeups := Nat.repeat WakeupPipe.write count p.wakeups } := by
  induction count with
  | zero => rfl
  | succ count ih => simp only [Nat.repeat, ih, DisplayPoller.wakeup]

theorem step_capacity (s : PolledDisplay) (op : Op) :
    (s.step op).1.poller.wakeups.capacity = s.poller.wakeups.capacity := by
  cases op with
  | wakeup count => simp only [step, repeat_wakeup, WakeupPipe.repeat_write_capacity]
  | poll watch =>
    simp only [step, DisplayPoller.poll]
    split_ifs
    · exact s.poller.wakeups.drain_capacity
    · rfl
  | _ => rfl

/-- A call fills the pipe, and only a poll that watches empties it. -/
theorem step_bytes_pos (h : 0 < s.poller.wakeups.capacity) (op : Op) :
    0 < (s.step op).1.poller.wakeups.bytes
      ↔ (∃ count, 0 < count ∧ op = .wakeup count)
        ∨ (0 < s.poller.wakeups.bytes ∧ op ≠ .poll true) := by
  cases op with
  | wakeup count => simp [step, repeat_wakeup, WakeupPipe.repeat_write_bytes_pos h]
  | poll watch =>
    cases watch with
    | false => simp [step, DisplayPoller.poll]
    | true =>
      by_cases hbytes : s.poller.wakeups.bytes = 0 <;> simp [step, DisplayPoller.poll, hbytes]
  | _ => simp [step]

theorem run_concat (s : PolledDisplay) (ops : List Op) (op : Op) :
    s.run (ops ++ [op]) = ((s.run ops).step op).1 := by
  simp [run]

theorem run_capacity (s : PolledDisplay) (ops : List Op) :
    (s.run ops).poller.wakeups.capacity = s.poller.wakeups.capacity := by
  induction ops using List.reverseRecOn with
  | nil => rfl
  | append_singleton ops op ih => rw [run_concat, step_capacity, ih]

/-- Somebody called, and no poll has watched since. -/
def Called (ops : List Op) : Prop :=
  ∃ before since, ops = before ++ since ∧ .poll true ∉ since
    ∧ ∃ count, 0 < count ∧ .wakeup count ∈ since

theorem not_called_nil : ¬ Called [] := by
  rintro ⟨before, since, hsplit, -, count, -, hmem⟩
  obtain ⟨-, rfl⟩ := List.append_eq_nil_iff.1 hsplit.symm
  cases hmem

theorem called_concat : Called (ops ++ [op])
    ↔ (∃ count, 0 < count ∧ op = .wakeup count) ∨ (Called ops ∧ op ≠ .poll true) := by
  constructor
  · rintro ⟨before, since, hsplit, hnone, count, hpos, hmem⟩
    rcases since.eq_nil_or_concat with rfl | ⟨rest, last, rfl⟩
    · cases hmem
    rw [List.concat_eq_append] at hsplit hnone hmem
    rw [← List.append_assoc] at hsplit
    obtain ⟨hops, hlast⟩ := List.append_inj' hsplit rfl
    obtain rfl := List.singleton_inj.1 hlast
    rw [List.mem_append, not_or, List.mem_singleton] at hnone
    rcases List.mem_append.1 hmem with hmem | hmem
    · exact .inr ⟨⟨before, rest, hops, hnone.1, count, hpos, hmem⟩, fun h => hnone.2 h.symm⟩
    · exact .inl ⟨count, hpos, (List.mem_singleton.1 hmem).symm⟩
  · rintro (⟨count, hpos, rfl⟩ | ⟨⟨before, since, rfl, hnone, count, hpos, hmem⟩, hop⟩)
    · exact ⟨ops, [.wakeup count], rfl, by simp, count, hpos, List.mem_singleton_self _⟩
    · refine ⟨before, since ++ [op], by simp, ?_, count, hpos, List.mem_append_left _ hmem⟩
      rw [List.mem_append, List.mem_singleton]
      rintro (h | h)
      · exact hnone h
      · exact hop h.symm

/-- The pipe remembers a call until a poll watches, and no longer. -/
theorem run_bytes_pos (hempty : s.poller.wakeups.bytes = 0) (hroom : 0 < s.poller.wakeups.capacity)
    (ops : List Op) : 0 < (s.run ops).poller.wakeups.bytes ↔ Called ops := by
  induction ops using List.reverseRecOn with
  | nil =>
    refine iff_of_false ?_ not_called_nil
    rw [run, List.foldl_nil, hempty]
    exact lt_irrefl 0
  | append_singleton ops op ih =>
    have hroom' : 0 < (s.run ops).poller.wakeups.capacity := by rwa [run_capacity]
    rw [run_concat, step_bytes_pos hroom', ih, called_concat]

/-- After any calls, polls and changes of the display, from a pipe that is empty and has room for a
byte. A poll that watches reports a wakeup exactly if somebody called since the poll that watched
before it, and leaves the pipe empty, as reading it chunk by chunk always does. A poll that does not
watch reports none and changes nothing. -/
theorem woken_iff_called (hempty : s.poller.wakeups.bytes = 0)
    (hroom : 0 < s.poller.wakeups.capacity) (ops : List Op) :
    (∃ r, ((s.run ops).step (.poll true)).2 = some r ∧ (r.woken = true ↔ Called ops))
      ∧ ((s.run ops).step (.poll true)).1.poller.wakeups.bytes = 0
      ∧ (∃ r, (s.run ops).step (.poll false) = (s.run ops, some r) ∧ r.woken = false)
      ∧ ∀ p : WakeupPipe, p.drain.bytes = 0 := by
  have hroom' : 0 < (s.run ops).poller.wakeups.capacity := by rwa [run_capacity]
  refine ⟨⟨_, rfl, ?_⟩, ?_, ⟨_, rfl, rfl⟩, WakeupPipe.drain_bytes⟩
  · rw [← run_bytes_pos hempty hroom]
    simp [Nat.pos_iff_ne_zero]
  · have hdrained := (step_bytes_pos hroom' (.poll true)).not
    simpa using hdrained

/-- Of the calls between two polls that watch more are refused than fit, and the display hangs up
before the second. -/
theorem woken_iff_called_full :
    let s : PolledDisplay := { poller := { wakeups := { capacity := 100 } } }
    let ops : List Op :=
      [.wakeup 1, .poll true, .write, .wakeup 130, .poll false, .wakeup 0, .hangUp]
    s.poller.wakeups.bytes = 0 ∧ 0 < s.poller.wakeups.capacity
      ∧ (∃ r, ((s.run ops).step (.poll true)).2 = some r ∧ r.woken = true)
      ∧ ∃ r, ((s.run (ops ++ [.poll true])).step (.poll true)).2 = some r ∧ r.woken = false := by
  intro s ops
  have hcalled : Called ops :=
    ⟨[.wakeup 1, .poll true], [.write, .wakeup 130, .poll false, .wakeup 0, .hangUp], rfl,
      by decide, 130, by decide, by decide⟩
  have hquiet : ¬ Called (ops ++ [.poll true]) := by simp [called_concat]
  obtain ⟨⟨r, hr, hwoken⟩, -⟩ := woken_iff_called (s := s) rfl (by decide) ops
  obtain ⟨⟨r', hr', hwoken'⟩, -⟩ := woken_iff_called (s := s) rfl (by decide) (ops ++ [.poll true])
  exact ⟨rfl, by decide, ⟨r, hr, hwoken.2 hcalled⟩, r', hr', by
    rw [← Bool.not_eq_true, hwoken']; exact hquiet⟩

end PolledDisplay

end VideoOutput
