import VideoOutput.Proofs.Pacing.Visibility

/-!
# How many misses hide a surface

A surface is hidden at the last of as many misses in a row as the options say. A wait is missed if
it ends before the compositor asks for a frame; a request that comes after its wait has ended is
overlooked, and the misses before and after it count as in a row (`hidden_iff_streak`).
-/

namespace VideoOutput

namespace FramePacer

variable {options : PacerOptions} {p p' q : FramePacer} {op : Op} {ops : List Op}
  {answer : Option Bool}

/-- Of the operations, those from the `n`-th last end of a wait on: each wait that ended was missed,
and visibility was not reset. -/
structure Streak (p : FramePacer) (n : Nat) (before since : List Op) : Prop where
  first : since.head? = some .finishWait
  ended : since.count .finishWait = n
  missed : ∀ pre, pre ++ [.finishWait] <+: since →
    ∃ q, run p (before ++ pre) = .ok q ∧ q.waiting = true
  kept : .resetVisibility ∉ since

theorem step_misses (h : p.step op = .ok (p', answer)) (hend : op ≠ .finishWait)
    (hreset : op ≠ .resetVisibility) : p'.misses = p.misses := by
  rcases step_cases h with ⟨-, hsame⟩ | ⟨-, rfl⟩ | ⟨-, rfl⟩ | ⟨hop, -⟩ | ⟨hop, -⟩
  · exact hsame.misses
  · rfl
  · rfl
  · exact absurd hop hend
  · exact absurd hop hreset

namespace Streak

variable {n : Nat} {before since : List Op}

theorem start (hrun : run p ops = .ok q) (hwaiting : q.waiting = true) :
    Streak p 1 ops [.finishWait] := by
  refine ⟨rfl, rfl, fun pre hpre => ?_, by simp⟩
  have hnil : pre = [] := by
    have := hpre.length_le
    simp only [List.length_append, List.length_singleton] at this
    exact List.eq_nil_of_length_eq_zero (by omega)
  rw [hnil, List.append_nil]
  exact ⟨q, hrun, hwaiting⟩

theorem concat (hs : Streak p n before since)
    (hop : op ≠ .resetVisibility)
    (hmissed : op = .finishWait → ∃ q, run p (before ++ since) = .ok q ∧ q.waiting = true) :
    Streak p (n + [op].count .finishWait) before (since ++ [op]) := by
  refine ⟨?_, ?_, fun pre hpre => ?_, ?_⟩
  · rw [List.head?_append, hs.first]
    rfl
  · rw [List.count_append, hs.ended]
  · rcases List.prefix_concat_iff.1 hpre with heq | hpre
    · obtain ⟨rfl, hlast⟩ := List.append_inj' heq rfl
      exact hmissed (List.singleton_inj.1 hlast).symm
    · exact hs.missed pre hpre
  · rw [List.mem_append, List.mem_singleton, not_or]
    exact ⟨hs.kept, Ne.symm hop⟩

theorem miss (hs : Streak p n before since)
    (hrun : run p (before ++ since) = .ok q) (hwaiting : q.waiting = true) :
    Streak p (n + 1) before (since ++ [.finishWait]) := by
  have hop : Op.finishWait ≠ .resetVisibility := nofun
  have hnext := hs.concat hop fun _ => ⟨q, hrun, hwaiting⟩
  rw [List.count_singleton_self] at hnext
  exact hnext

theorem other (hs : Streak p n before since)
    (hend : op ≠ .finishWait) (hreset : op ≠ .resetVisibility) :
    Streak p n before (since ++ [op]) := by
  have hnext := hs.concat hreset fun h => absurd h hend
  rw [List.count_singleton, if_neg (by simpa using hend)] at hnext
  exact hnext

theorem split_last (hs : Streak p n before since)
    (hsplit : ops ++ [op] = before ++ since) :
    ∃ rest, since = rest ++ [op] ∧ ops = before ++ rest := by
  rcases since.eq_nil_or_concat with rfl | ⟨rest, last, rfl⟩
  · cases hs.first
  · rw [List.concat_eq_append, ← List.append_assoc] at hsplit
    obtain ⟨hops, heq⟩ := List.append_inj' hsplit rfl
    exact ⟨rest, by rw [List.concat_eq_append, ← heq], hops⟩

end Streak

/-- As many misses as are counted came in a row. -/
theorem exists_streak (hnone : p.misses = 0) : ∀ {q : FramePacer}, run p ops = .ok q →
    ∀ n, 1 ≤ n → n ≤ q.misses →
      ∃ before since, ops = before ++ since ∧ Streak p n before since := by
  induction ops using List.reverseRecOn with
  | nil =>
    intro q hrun n hone hn
    rw [← pure_eq_ok.1 hrun] at hn
    omega
  | append_singleton ops op ih =>
    intro q hrun n hone hn
    obtain ⟨r, answer, hr, hstep⟩ := run_concat.1 hrun
    by_cases hend : op = .finishWait
    · subst hend
      obtain rfl : r.finishWait = q := by
        cases hstep
        rfl
      by_cases hwaiting : r.waiting = true
      · have hmisses := (finishWait_of_waiting hwaiting).2.1
        by_cases hfirst : n = 1
        · rw [hfirst]
          exact ⟨ops, [.finishWait], rfl, Streak.start hr hwaiting⟩
        -- the streak up to the miss before is one shorter
        · obtain ⟨before, since, rfl, hs⟩ := ih hr (n - 1) (by omega) (by omega)
          have hnext := hs.miss hr hwaiting
          rw [Nat.sub_add_cancel hone] at hnext
          exact ⟨before, since ++ [.finishWait], by simp, hnext⟩
      · rw [Bool.not_eq_true] at hwaiting
        rw [finishWait_of_not_waiting hwaiting] at hn
        dsimp only at hn
        omega
    · by_cases hreset : op = .resetVisibility
      · subst hreset
        cases hstep
        simp only [resetVisibility] at hn
        omega
      · rw [step_misses hstep hend hreset] at hn
        obtain ⟨before, since, rfl, hs⟩ := ih hr n hone hn
        exact ⟨before, since ++ [op], by simp, hs.other hend hreset⟩

/-- Misses in a row are counted, up to the greatest word. -/
theorem le_misses {before since : List Op} : ∀ {q : FramePacer},
    (∀ pre, pre ++ [.finishWait] <+: since →
      ∃ q, run p (before ++ pre) = .ok q ∧ q.waiting = true) →
    .resetVisibility ∉ since → run p (before ++ since) = .ok q →
      min (since.count .finishWait) Word.nat32.greatest.toNat ≤ q.misses := by
  induction since using List.reverseRecOn with
  | nil =>
    intro q _ _ _
    simp
  | append_singleton since op ih =>
    intro q hmissed hkept hrun
    rw [← List.append_assoc] at hrun
    obtain ⟨r, answer, hr, hstep⟩ := run_concat.1 hrun
    rw [List.mem_append, List.mem_singleton, not_or] at hkept
    have hcounted := ih (fun pre hpre => hmissed pre (hpre.trans (List.prefix_append ..)))
      hkept.1 hr
    rw [List.count_append]
    by_cases hend : op = .finishWait
    · subst hend
      obtain ⟨r', hr', hwaiting⟩ := hmissed since List.prefix_rfl
      obtain rfl : r = r' := Except.ok.inj (hr.symm.trans hr')
      cases hstep
      rw [(finishWait_of_waiting hwaiting).2.1, List.count_singleton_self]
      omega
    · rw [step_misses hstep hend (Ne.symm hkept.2), List.count_singleton,
        if_neg (by simpa using hend)]
      exact hcounted

theorem finishWait_hides (hvisible : p.hidden = false) :
    p.finishWait.hidden = true
      ↔ p.waiting = true ∧ p.options.hiddenAfterMisses ≤ p.finishWait.misses := by
  by_cases hwaiting : p.waiting = true
  · rw [(finishWait_of_waiting hwaiting).2.2, hvisible]
    simp [hwaiting]
  · rw [Bool.not_eq_true] at hwaiting
    rw [finishWait_of_not_waiting hwaiting]
    simp [hvisible, hwaiting]

/-! ## Requests that come late -/

/-- The frame is checked again before a wait ends. -/
def IsRechecked (ops : List Op) : Prop :=
  ∃ mid rest, ops = mid ++ .checkVisible :: rest ∧ .finishWait ∉ mid

theorem waiting_finishWait (p : FramePacer) : p.finishWait.waiting = p.waiting := by
  unfold finishWait
  split_ifs <;> rfl

/-- Only a check starts a wait. -/
theorem run_not_waiting : ∀ {ops : List Op} {p : FramePacer}, p.waiting = false →
    .checkVisible ∉ ops → run p ops = .ok q → q.waiting = false
  | [], _, hp, _, h => pure_eq_ok.1 h ▸ hp
  | op :: ops, p, hp, hcheck, h => by
    obtain ⟨p', answer, hstep, hrun⟩ := run_cons.1 h
    rw [List.mem_cons, not_or] at hcheck
    refine run_not_waiting ?_ hcheck.2 hrun
    rcases step_cases hstep with ⟨-, hsame⟩ | ⟨hop, -⟩ | ⟨-, rfl⟩ | ⟨-, rfl⟩ | ⟨-, rfl⟩
    · exact hsame.waiting.trans hp
    · exact absurd hop.symm hcheck.1
    · rfl
    · exact p.waiting_finishWait.trans hp
    · rfl

/-- A request for a frame among misses in a row has no wait to end. -/
theorem Streak.rechecked {n : Nat} {before since pre post : List Op}
    (hs : Streak p n before (since ++ [.finishWait]))
    (hsplit : since ++ [.finishWait] = pre ++ .frameDone :: post) : IsRechecked post := by
  have hmem : Op.finishWait ∈ post := by
    rcases post.eq_nil_or_concat with rfl | ⟨post, last, rfl⟩
    · have hlast := (List.append_inj' hsplit rfl).2
      simp at hlast
    · rw [List.concat_eq_append, ← List.cons_append, ← List.append_assoc] at hsplit
      have hlast := (List.append_inj' hsplit rfl).2
      rw [← List.singleton_inj.1 hlast]
      simp
  obtain ⟨mid, rest, rfl, hmid⟩ := List.eq_append_cons_of_mem hmem
  obtain ⟨q, hq, hwaiting⟩ := hs.missed (pre ++ .frameDone :: mid) ⟨rest, by simp [hsplit]⟩
  have hcheck : Op.checkVisible ∈ mid := by
    by_contra hcheck
    have happend : before ++ (pre ++ .frameDone :: mid)
        = before ++ pre ++ [.frameDone] ++ mid := by simp
    rw [happend] at hq
    obtain ⟨r, hr, hrun⟩ := run_append.1 hq
    obtain ⟨r', answer, -, hstep⟩ := run_concat.1 hr
    cases hstep
    rw [run_not_waiting rfl hcheck hrun] at hwaiting
    cases hwaiting
  obtain ⟨first, later, rfl, -⟩ := List.eq_append_cons_of_mem hcheck
  exact ⟨first, later ++ .finishWait :: rest, by simp,
    fun h => hmid (List.mem_append_left _ h)⟩

/-- A visible surface is hidden by the end of a wait exactly if that is the last of as many misses
in a row as the options say. A request for a frame was made since the first of them exactly if one
came late, so that the frame was checked again before a wait ended. -/
theorem hidden_iff_streak (hone : 1 ≤ options.hiddenAfterMisses)
    (hword : Word.nat32.Holds options.hiddenAfterMisses) (hrun : run (new options) ops = .ok p)
    (hvisible : p.hidden = false) :
    (p.finishWait.hidden = true ↔ ∃ before since, ops ++ [.finishWait] = before ++ since
        ∧ Streak (new options) options.hiddenAfterMisses before since)
      ∧ ∀ before since, ops ++ [.finishWait] = before ++ since →
        Streak (new options) options.hiddenAfterMisses before since →
          (.frameDone ∉ since
            ↔ ∀ pre post, since = pre ++ .frameDone :: post → ¬ IsRechecked post) := by
  have hoptions : p.options = options := run_options hrun
  have hnext : run (new options) (ops ++ [.finishWait]) = .ok p.finishWait :=
    run_concat.2 ⟨p, none, hrun, rfl⟩
  rw [finishWait_hides hvisible, hoptions]
  refine ⟨⟨?_, ?_⟩, ?_⟩
  · rintro ⟨-, henough⟩
    exact exists_streak rfl hnext _ hone henough
  · rintro ⟨before, since, hsplit, hs⟩
    obtain ⟨rest, rfl, hops⟩ := hs.split_last hsplit
    obtain ⟨q, hq, hwaiting⟩ := hs.missed rest List.prefix_rfl
    rw [← hops] at hq
    obtain rfl : p = q := Except.ok.inj (hrun.symm.trans hq)
    rw [hsplit] at hnext
    have hcounted := le_misses hs.missed hs.kept hnext
    rw [hs.ended] at hcounted
    have hfits := hword.2
    exact ⟨hwaiting, by omega⟩
  · intro before since hsplit hs
    obtain ⟨rest, rfl, -⟩ := hs.split_last hsplit
    constructor
    · rintro hnone pre post heq -
      exact hnone (heq ▸ List.mem_append_right _ (.head _))
    · intro hlate hframe
      obtain ⟨pre, post, heq⟩ := List.append_of_mem hframe
      exact hlate pre post heq (hs.rechecked heq)

/-- A late request between two misses. -/
def lateRequest : List Op := [.checkVisible, .finishWait, .frameDone, .checkVisible]

theorem hidden_iff_streak_late : ∃ p, run (new {}) lateRequest = .ok p
    ∧ p.hidden = false ∧ p.finishWait.hidden = true
    ∧ ∃ before since, lateRequest ++ [.finishWait] = before ++ since
      ∧ Streak (new {}) 2 before since := by
  obtain ⟨p, hp, hvisible, hhidden⟩ : ∃ p, run (new {}) lateRequest = .ok p
      ∧ p.hidden = false ∧ p.finishWait.hidden = true := ⟨_, rfl, rfl, rfl⟩
  have hstreak := (hidden_iff_streak (by decide) (by decide) hp hvisible).1.1 hhidden
  exact ⟨p, hp, hvisible, hhidden, hstreak⟩

/-- A surface that two misses hid and the compositor has brought back is hidden by one miss. -/
theorem exists_hidden_by_one_miss : ¬ ∀ (options : PacerOptions) (ops : List Op) (p : FramePacer),
    1 ≤ options.hiddenAfterMisses → Word.nat32.Holds options.hiddenAfterMisses →
    run (new options) ops = .ok p → p.hidden = false → p.finishWait.hidden = true →
    ∃ before since, ops ++ [.finishWait] = before ++ since
      ∧ Streak (new options) options.hiddenAfterMisses before since ∧ .frameDone ∉ since := by
  intro h
  obtain ⟨before, since, hsplit, hs, hnone⟩ := h {} [.checkVisible, .finishWait, .checkVisible,
    .finishWait, .frameDone, .checkVisible] _ (by decide) (by decide) rfl rfl rfl
  have hsuffix : ∀ s ∈ [.checkVisible, .finishWait, .checkVisible, .finishWait, .frameDone,
      .checkVisible, .finishWait].tails, s.count Op.finishWait = 2 → .frameDone ∈ s := by
    decide
  exact hnone (hsuffix since ((List.mem_tails _ _).2 ⟨before, hsplit.symm⟩) hs.ended)

end FramePacer

end VideoOutput
