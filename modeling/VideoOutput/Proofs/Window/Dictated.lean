import VideoOutput.Proofs.Window.History

/-!
# The size the compositor dictates

A fullscreen or maximized window is to have the size the compositor gives it.
`geometry_of_acknowledged` says when an acknowledged configure brings that about, at the end of any
history: exactly when its size is not the one acknowledged before it, or the window has that size
already. A size given twice is not looked at again, and a geometry that came between the two stays
(`exists_dictated_ignored`).
-/

namespace VideoOutput

namespace Window

variable {options : WindowOptions} {ops : List Op} {c : PendingConfigure} {w : Window}

/-- The window at the end of the history shows something, and acknowledges a configure that fills.
It takes the size of the configure unless the configure acknowledged before had the same; then it
stays as it is. -/
theorem geometry_of_acknowledged (h : run (new options) ops = .ok w)
    (hc : waitingAfter none ops = some c) (he : w.geometry.isEmpty = .ok false) (hfills : c.Fills)
    (hwidth : 0 < c.width) (hheight : 0 < c.height) :
    ∃ v, run (new options) (ops ++ [.configureSurface]) = .ok v
      ∧ (v.geometry = .ofSize c.width c.height
        ↔ lastSize (0, 0) (acknowledged none ops) ≠ c.size
          ∨ w.geometry = .ofSize c.width c.height)
      ∧ (lastSize (0, 0) (acknowledged none ops) = c.size → v.geometry = w.geometry) := by
  obtain ⟨hpending, hlast⟩ := run_configures h
  have hp : w.pending = some c := hpending.trans hc
  have hl : w.toplevelSize = lastSize (0, 0) (acknowledged none ops) := hlast
  refine ⟨_, run_acknowledge h hp he, ?_⟩
  have hg := (afterConfigure_of_fills hfills { w with pending := none }).2
  dsimp only at hg ⊢
  rw [hg, hl]
  by_cases hsize : lastSize (0, 0) (acknowledged none ops) = c.size
  · rw [if_pos (.inr (.inr hsize))]
    exact ⟨⟨.inr, fun h => h.resolve_left (absurd hsize)⟩, fun _ => rfl⟩
  · rw [if_neg (by simp only [hsize, or_false]; omega)]
    exact ⟨⟨fun _ => .inl hsize, fun _ => rfl⟩, fun h => absurd h hsize⟩

theorem geometry_of_acknowledged_first : ∃ v,
    run (new {}) ([.reconfig 1920 1080, .configureToplevel 1280 720 [.fullscreen]]
      ++ [.configureSurface]) = .ok v ∧ v.geometry = .ofSize 1280 720 := by
  obtain ⟨w, hw, he⟩ : ∃ w, run (new {}) [.reconfig 1920 1080,
      .configureToplevel 1280 720 [.fullscreen]] = .ok w ∧ w.geometry.isEmpty = .ok false := by
    decide +kernel
  obtain ⟨v, hv, hg, -⟩ :=
    geometry_of_acknowledged hw rfl he (by decide) (by decide) (by decide)
  exact ⟨v, hv, hg.2 (.inl (by decide))⟩

/-- The client asks to leave fullscreen, and takes the size of a new video meanwhile. -/
def leavingRefused : List Op :=
  [.reconfig 1920 1080, .configureToplevel 1280 720 [.fullscreen], .configureSurface,
    .setFullscreen false, .reconfig 640 360, .configureToplevel 1280 720 [.fullscreen]]

/-- The compositor refuses it with the size it gave before. The window stays fullscreen, and of the
size of the video. -/
theorem exists_dictated_ignored : ¬ ∀ (options : WindowOptions) (ops : List Op)
    (c : PendingConfigure) (w : Window), run (new options) ops = .ok w →
    waitingAfter none ops = some c → w.geometry.isEmpty = .ok false → c.Fills →
    0 < c.width → 0 < c.height →
    ∃ v, run (new options) (ops ++ [.configureSurface]) = .ok v
      ∧ v.geometry = .ofSize c.width c.height := by
  intro hall
  obtain ⟨w, hw, he⟩ : ∃ w, run (new {}) leavingRefused = .ok w
      ∧ w.geometry.isEmpty = .ok false := by
    decide +kernel
  obtain ⟨v, hv, hg⟩ := hall {} leavingRefused ⟨1280, 720, [.fullscreen]⟩ w hw rfl he
    (by decide) (by decide) (by decide)
  obtain ⟨u, hu, hkept⟩ : ∃ u, run (new {}) (leavingRefused ++ [.configureSurface]) = .ok u
      ∧ u.geometry = .ofSize 640 360 := by
    decide +kernel
  obtain rfl : u = v := Except.ok.inj (hu.symm.trans hv)
  rw [hkept] at hg
  exact absurd hg (by decide)

end Window

end VideoOutput
