import VideoOutput.Pacing.Pacer
import VideoOutput.Proofs.Outcome

/-!
# How a hidden surface comes back

A hidden surface awaits a frame, so the compositor can always bring it back by asking for one, and
nothing but that or a change of the window does (`hidden_can_return`).
-/

namespace VideoOutput

namespace FramePacer

variable {options : PacerOptions} {p p' q : FramePacer} {op : Op} {ops : List Op}
  {answer : Option Bool}

/-- The parts that visibility rests on are the same. -/
structure SameWait (p p' : FramePacer) : Prop where
  options : p'.options = p.options
  waiting : p'.waiting = p.waiting
  hidden : p'.hidden = p.hidden
  misses : p'.misses = p.misses

/-- The operation has to do with clocks and feedback only. -/
def Op.IsTiming : Op → Prop
  | .setClock _ | .presented .. | .swap => True
  | _ => False

theorem presented_sameWait {seconds nanoseconds refresh sequence : Nat}
    (h : p.presented seconds nanoseconds refresh sequence = .ok p') : SameWait p p' := by
  unfold presented at h
  split_ifs at h
  · rw [← pure_eq_ok.1 h]
    exact ⟨rfl, rfl, rfl, rfl⟩
  · obtain ⟨micros, -, h⟩ := bind_eq_ok.1 h
    obtain ⟨time, -, h⟩ := bind_eq_ok.1 h
    rw [← pure_eq_ok.1 h]
    exact ⟨rfl, rfl, rfl, rfl⟩

theorem swap_sameWait (h : p.swap = .ok p') : SameWait p p' := by
  unfold swap at h
  split_ifs at h
  · rw [← pure_eq_ok.1 h]
    exact ⟨rfl, rfl, rfl, rfl⟩
  · obtain ⟨estimate, -, h⟩ := bind_eq_ok.1 h
    rw [← pure_eq_ok.1 h]
    exact ⟨rfl, rfl, rfl, rfl⟩

theorem step_cases (h : p.step op = .ok (p', answer)) :
    op.IsTiming ∧ SameWait p p'
      ∨ op = .checkVisible ∧ p' = p.checkVisible.2
      ∨ op = .frameDone ∧ p' = p.frameDone
      ∨ op = .finishWait ∧ p' = p.finishWait
      ∨ op = .resetVisibility ∧ p' = p.resetVisibility := by
  cases op with
  | setClock clock =>
    cases h
    exact .inl ⟨trivial, rfl, rfl, rfl, rfl⟩
  | presented seconds nanoseconds refresh sequence =>
    obtain ⟨r, hr, h⟩ := bind_eq_ok.1 h
    cases h
    exact .inl ⟨trivial, presented_sameWait hr⟩
  | swap =>
    obtain ⟨r, hr, h⟩ := bind_eq_ok.1 h
    cases h
    exact .inl ⟨trivial, swap_sameWait hr⟩
  | checkVisible => cases h; simp
  | frameDone => cases h; simp
  | finishWait => cases h; simp
  | resetVisibility => cases h; simp

theorem finishWait_of_waiting (h : p.waiting = true) :
    p.finishWait.waiting = true
      ∧ p.finishWait.misses = min (p.misses + 1) Word.nat32.greatest.toNat
      ∧ (p.finishWait.hidden = true
        ↔ p.hidden = true ∨ p.options.hiddenAfterMisses ≤ p.finishWait.misses) := by
  unfold finishWait
  rw [if_pos h]
  simp [h]

theorem finishWait_of_not_waiting (h : p.waiting = false) :
    p.finishWait = { p with misses := 0 } := by
  simp [finishWait, h]

theorem options_finishWait (p : FramePacer) : p.finishWait.options = p.options := by
  unfold finishWait
  split_ifs <;> rfl

theorem options_step (h : p.step op = .ok (p', answer)) : p'.options = p.options := by
  rcases step_cases h with ⟨-, hsame⟩ | ⟨-, rfl⟩ | ⟨-, rfl⟩ | ⟨-, rfl⟩ | ⟨-, rfl⟩
  · exact hsame.options
  · rfl
  · rfl
  · exact options_finishWait p
  · rfl

/-! ## Runs -/

theorem run_cons {p : FramePacer} :
    run p (op :: ops) = .ok q ↔ ∃ p' answer, p.step op = .ok (p', answer) ∧ run p' ops = .ok q := by
  unfold run
  rw [List.foldlM_cons]
  constructor
  · intro h
    obtain ⟨p', hp', hrun⟩ := bind_eq_ok.1 h
    obtain ⟨⟨_, answer⟩, hstep, rfl⟩ := map_eq_ok.1 hp'
    exact ⟨_, answer, hstep, hrun⟩
  · rintro ⟨p', answer, hstep, hrun⟩
    exact bind_eq_ok.2 ⟨p', map_eq_ok.2 ⟨_, hstep, rfl⟩, hrun⟩

theorem run_append {p : FramePacer} {ops' : List Op} :
    run p (ops ++ ops') = .ok q ↔ ∃ r, run p ops = .ok r ∧ run r ops' = .ok q := by
  unfold run
  rw [List.foldlM_append]
  exact bind_eq_ok

theorem run_concat {p : FramePacer} :
    run p (ops ++ [op]) = .ok q
      ↔ ∃ r answer, run p ops = .ok r ∧ r.step op = .ok (q, answer) := by
  rw [run_append]
  constructor
  · rintro ⟨r, hr, hlast⟩
    obtain ⟨_, answer, hstep, hend⟩ := run_cons.1 hlast
    rw [pure_eq_ok.1 hend] at hstep
    exact ⟨r, answer, hr, hstep⟩
  · rintro ⟨r, answer, hr, hstep⟩
    exact ⟨r, hr, run_cons.2 ⟨q, answer, hstep, rfl⟩⟩

theorem run_options : ∀ {ops : List Op} {p : FramePacer}, run p ops = .ok q →
    q.options = p.options
  | [], _, h => by rw [pure_eq_ok.1 h]
  | op :: ops, p, h => by
    obtain ⟨p', answer, hstep, hrun⟩ := run_cons.1 h
    rw [run_options hrun, options_step hstep]

/-! ## Hidden surfaces -/

/-- The misses are a number of the word, and a hidden surface awaits a frame after as many of them
as hide it. -/
structure Recoverable (p : FramePacer) : Prop where
  counted : p.misses ≤ Word.nat32.greatest.toNat
  awaits : p.hidden = true → p.waiting = true ∧ max 1 p.options.hiddenAfterMisses ≤ p.misses

theorem new_recoverable (options : PacerOptions) : (new options).Recoverable :=
  ⟨Nat.zero_le _, nofun⟩

theorem finishWait_recoverable (h : p.Recoverable) : p.finishWait.Recoverable := by
  obtain ⟨hcounted, hawaits⟩ := h
  have hword : 1 ≤ Word.nat32.greatest.toNat := by decide
  by_cases hwaiting : p.waiting = true
  · obtain ⟨hstays, hmisses, hhides⟩ := finishWait_of_waiting hwaiting
    refine ⟨by omega, fun hhidden => ⟨hstays, ?_⟩⟩
    rw [options_finishWait]
    -- the count goes up, or has reached the greatest word and stays there
    rcases hhides.1 hhidden with hbefore | hnow
    · have henough := (hawaits hbefore).2
      omega
    · omega
  · rw [Bool.not_eq_true] at hwaiting
    rw [finishWait_of_not_waiting hwaiting]
    refine ⟨Nat.zero_le _, fun hhidden => ?_⟩
    have hheld := (hawaits hhidden).1
    rw [hwaiting] at hheld
    cases hheld

theorem step_recoverable (hp : p.Recoverable) (h : p.step op = .ok (p', answer)) :
    p'.Recoverable := by
  rcases step_cases h with ⟨-, hsame⟩ | ⟨-, rfl⟩ | ⟨-, rfl⟩ | ⟨-, rfl⟩ | ⟨-, rfl⟩
  · refine ⟨hsame.misses ▸ hp.counted, fun hhidden => ?_⟩
    rw [hsame.hidden] at hhidden
    rw [hsame.waiting, hsame.options, hsame.misses]
    exact hp.awaits hhidden
  · exact ⟨hp.counted, fun hhidden => ⟨rfl, (hp.awaits hhidden).2⟩⟩
  · exact ⟨hp.counted, nofun⟩
  · exact finishWait_recoverable hp
  · exact ⟨Nat.zero_le _, nofun⟩

theorem run_recoverable : ∀ {ops : List Op} {p : FramePacer}, p.Recoverable →
    run p ops = .ok q → q.Recoverable
  | [], _, hp, h => pure_eq_ok.1 h ▸ hp
  | op :: ops, p, hp, h => by
    obtain ⟨p', answer, hstep, hrun⟩ := run_cons.1 h
    exact run_recoverable (step_recoverable hp hstep) hrun

/-- A visible surface is hidden by the end of a wait and by nothing else. -/
theorem step_hides (h : p.step op = .ok (p', answer)) (hvisible : p.hidden = false)
    (hhidden : p'.hidden = true) : op = .finishWait := by
  rcases step_cases h with ⟨-, hsame⟩ | ⟨-, rfl⟩ | ⟨-, rfl⟩ | ⟨hop, rfl⟩ | ⟨-, rfl⟩
  · rw [hsame.hidden, hvisible] at hhidden
    cases hhidden
  · exact absurd (hvisible.symm.trans hhidden) Bool.false_ne_true
  · cases hhidden
  · exact hop
  · cases hhidden

theorem finishWait_hidden (h : p.hidden = true) : p.finishWait.hidden = true := by
  unfold finishWait
  split_ifs
  · simp [h]
  · exact h

/-- A hidden surface is shown by a request for a frame, or by a change of the window. -/
theorem step_shows (h : p.step op = .ok (p', answer)) (hhidden : p.hidden = true) :
    p'.hidden = false ↔ op = .frameDone ∨ op = .resetVisibility := by
  rcases step_cases h with ⟨hop, hsame⟩ | ⟨rfl, rfl⟩ | ⟨rfl, rfl⟩ | ⟨rfl, rfl⟩ | ⟨rfl, rfl⟩
  · rw [hsame.hidden, hhidden]
    refine iff_of_false Bool.noConfusion ?_
    rintro (rfl | rfl) <;> exact hop
  · simp [checkVisible, hhidden]
  · simp [frameDone]
  · simp [finishWait_hidden hhidden]
  · simp [resetVisibility]

theorem run_hidden : ∀ {ops : List Op} {p : FramePacer}, p.hidden = true → .frameDone ∉ ops →
    .resetVisibility ∉ ops → run p ops = .ok q → q.hidden = true
  | [], _, hp, _, _, h => pure_eq_ok.1 h ▸ hp
  | op :: ops, p, hp, hframe, hreset, h => by
    obtain ⟨p', answer, hstep, hrun⟩ := run_cons.1 h
    rw [List.mem_cons, not_or] at hframe hreset
    have hstays : p'.hidden = true := by
      rw [← Bool.not_eq_false, step_shows hstep hp]
      rintro (rfl | rfl)
      · exact hframe.1 rfl
      · exact hreset.1 rfl
    exact run_hidden hstays hframe.2 hreset.2 hrun

/-- At the end of any run. A hidden surface awaits a frame, and has missed at least as many waits as
hide one, which are at least one. Only the end of a wait hides a surface, only a request for a frame
or a change of the window shows it again, and each of these has a result and ends the wait too.
Until then, whatever is done, every frame is refused, or none where syncs are disregarded. -/
theorem hidden_can_return (hrun : run (new options) ops = .ok p) :
    (p.hidden = true → p.waiting = true ∧ max 1 options.hiddenAfterMisses ≤ p.misses)
      ∧ (∀ op p' answer, p.step op = .ok (p', answer) →
        (p.hidden = false → p'.hidden = true → op = .finishWait)
          ∧ (p.hidden = true → (p'.hidden = false ↔ op = .frameDone ∨ op = .resetVisibility)))
      ∧ (∀ op, op = .frameDone ∨ op = .resetVisibility →
        ∃ p', p.step op = .ok (p', none) ∧ p'.hidden = false ∧ p'.waiting = false)
      ∧ (p.hidden = true → ∀ later q, .frameDone ∉ later → .resetVisibility ∉ later →
        run p later = .ok q →
          q.hidden = true ∧ ∃ q', q.step .checkVisible = .ok (q', some options.disableVsync)) := by
  have hoptions : p.options = options := run_options hrun
  refine ⟨?_, fun op p' answer hstep => ⟨step_hides hstep, step_shows hstep⟩, ?_, ?_⟩
  · rw [← hoptions]
    exact (run_recoverable (new_recoverable options) hrun).awaits
  · rintro op (rfl | rfl)
    · exact ⟨p.frameDone, rfl, rfl, rfl⟩
    · exact ⟨p.resetVisibility, rfl, rfl, rfl⟩
  · intro hhidden later q hframe hreset hlater
    have hq : q.hidden = true := run_hidden hhidden hframe hreset hlater
    have hanswer : q.isVisible = options.disableVsync := by
      unfold isVisible
      rw [hq, run_options hlater, hoptions]
      rfl
    exact ⟨hq, q.checkVisible.2, hanswer ▸ rfl⟩

/-- A surface that two misses hid, with a video that goes on. -/
theorem hidden_can_return_again :
    ∃ p, run (new {}) [.checkVisible, .finishWait, .checkVisible, .finishWait] = .ok p
      ∧ p.hidden = true ∧ p.waiting = true ∧ 2 ≤ p.misses
      ∧ ∃ q, run p [.setClock 1, .checkVisible, .finishWait, .swap] = .ok q
        ∧ q.hidden = true ∧ ∃ q', q.step .checkVisible = .ok (q', some false) := by
  obtain ⟨p, hp, hhidden⟩ : ∃ p,
      run (new {}) [.checkVisible, .finishWait, .checkVisible, .finishWait] = .ok p
        ∧ p.hidden = true := ⟨_, rfl, rfl⟩
  obtain ⟨q, hq⟩ : ∃ q, run p [.setClock 1, .checkVisible, .finishWait, .swap] = .ok q := by
    cases hp
    exact ⟨_, rfl⟩
  obtain ⟨hawaits, -, -, hrefused⟩ := hidden_can_return hp
  obtain ⟨hwaiting, hmisses⟩ := hawaits hhidden
  exact ⟨p, hp, hhidden, hwaiting, hmisses, q, hq,
    hrefused hhidden _ q (by decide) (by decide) hq⟩

end FramePacer

end VideoOutput
