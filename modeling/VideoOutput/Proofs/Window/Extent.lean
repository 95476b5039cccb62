import VideoOutput.Proofs.Arithmetic.Normal
import VideoOutput.Proofs.Window.History

/-!
# Windows that stay visible

A window whose content and floating rectangles are not empty is `Sized`, and a configure of positive
sides leaves it so (`Sized.afterConfigure`). A floating window may be held to the video's aspect,
which is why its sides have to be positive; in every history they are (`run_aspect`).
-/

namespace VideoOutput

namespace Window

variable {w v : Window}

theorem configureSurface_aspect {activated : Bool} (h : w.configureSurface = .ok (activated, v)) :
    v.aspect = w.aspect := by
  rcases configureSurface_ok h with ⟨-, rfl⟩ | ⟨c, -, ⟨-, rfl⟩ | ⟨-, rfl⟩⟩
  · rfl
  · rfl
  · obtain ⟨_, _, _, _, _, _, _, _, hc⟩ := afterConfigure_eq { w with pending := none } c
    rw [hc]

theorem step_aspect {op : Op} {r : Reply} (h : w.step op = .ok (v, r)) (hw : w.aspect.Positive) :
    v.aspect.Positive := by
  by_cases hop : op.IsConfigure
  · cases op with
    | configureToplevel width height states =>
      obtain ⟨rfl, -⟩ := Prod.mk.inj (pure_eq_ok.1 h)
      exact hw
    | configureSurface =>
      obtain ⟨⟨activated, u⟩, hu, h⟩ := bind_eq_ok.1 h
      obtain ⟨rfl, -⟩ := Prod.mk.inj (pure_eq_ok.1 h)
      rw [configureSurface_aspect hu]
      exact hw
    | _ => exact absurd hop id
  · rcases (step_local h hop).aspect with hkept | hnew
    · rw [hkept]
      exact hw
    · exact hnew

theorem run_aspect : ∀ {ops : List Op} {w v : Window}, run w ops = .ok v → w.aspect.Positive →
    v.aspect.Positive
  | [], _, _, h, hw => by
    obtain rfl := pure_eq_ok.1 h
    exact hw
  | op :: ops, w, v, h, hw => by
    obtain ⟨u, r, hstep, hrun⟩ := run_cons.1 h
    exact run_aspect hrun (step_aspect hstep hw)

/-- The window shows something, and would when it floats. -/
structure Sized (w : Window) : Prop where
  shown : w.geometry.isEmpty = .ok false
  floating : w.windowSize.isEmpty = .ok false
  aspect : w.aspect.Positive

theorem aspectSize_pos (hw : w.aspect.Positive) {width height : Int}
    (hc : Size.Positive (width, height)) : (w.aspectSize width height).Positive := by
  have normal : ∀ n : Int, Word.int32.Holds n ∧ 0 < n → Normal (Float.ofInt n) (-52) 3 := by
    rintro n ⟨⟨-, hn⟩, hn0⟩
    refine .of_int hn0 (lt_of_le_of_lt hn ?_)
    decide
  have hfactor := (normal _ hc.1).div (normal _ hw.1) (by omega) (by omega)
  unfold aspectSize
  split_ifs with haspect hheight
  · exact ⟨((normal _ hw.1).mul hfactor (by omega) (by omega)).ceil_pos,
      ((normal _ hw.2).mul hfactor (by omega) (by omega)).ceil_pos⟩
  · exact ⟨((normal _ hw.1).mul hfactor (by omega) (by omega)).ceil_pos, hc.2⟩
  · exact hc

theorem Sized.applySize (hw : w.Sized) (previous : Size) {width height : Int}
    (hc : Size.Positive (width, height)) : (w.applySize previous width height).1.Sized := by
  have isEmpty_ofSize : ∀ s : Size, s.Positive → (Rect.ofSize s.1 s.2).isEmpty = .ok false :=
    fun s hs => Rect.isEmpty_ofSize hs.1.1 hs.1.2 hs.2.1 hs.2.2
  have hwidth : 0 < width := hc.1.2
  have hheight : 0 < height := hc.2.2
  unfold Window.applySize
  dsimp only
  rw [if_neg (by omega : ¬ (width = 0 ∨ height = 0))]
  split_ifs with hchange hsame hfloat
  · exact ⟨hw.floating, hw.floating, hw.aspect⟩
  · exact hw
  · have haspect := isEmpty_ofSize _ (aspectSize_pos hw.aspect hc)
    exact ⟨haspect, haspect, hw.aspect⟩
  · exact ⟨isEmpty_ofSize _ hc, hw.floating, hw.aspect⟩

/-- A configure of positive sides leaves the window something to show. -/
theorem Sized.afterConfigure (hw : w.Sized) {c : PendingConfigure} (hc : c.size.Positive) :
    (w.afterConfigure c).Sized := by
  obtain ⟨_, _, _, _, _, hs⟩ := afterStates_eq w c
  have hstates : (w.afterStates c).Sized := by
    rw [hs]
    exact ⟨hw.shown, hw.floating, hw.aspect⟩
  have hsized := hstates.applySize w.toplevelSize hc
  exact ⟨hsized.shown, hsized.floating, hsized.aspect⟩

/-- A configure of positive sides that arrives and is acknowledged decides the fullscreen state, and
asks for nothing but a decoration. -/
theorem Sized.acknowledge (hw : w.Sized) {c : PendingConfigure} (hc : c.size.Positive) :
    ∃ activated u,
      (w.configureToplevel c.width c.height c.states).configureSurface = .ok (activated, u)
        ∧ u.Sized ∧ u.fullscreen = .settled c.states.isFullscreen
        ∧ u.requests = w.requests
          ++ (w.decoration.requested.map ShellRequest.setDecorationMode).toList := by
  let waiting : Window := { w with pending := none, phase := .configuring }
  obtain ⟨activated, hstep⟩ :=
    configureSurface_of_pending (w := w.configureToplevel c.width c.height c.states) rfl hw.shown
  have hsized : (waiting.afterConfigure c).Sized :=
    Sized.afterConfigure (w := waiting) ⟨hw.shown, hw.floating, hw.aspect⟩ hc
  have hfullscreen : (waiting.afterConfigure c).fullscreen = .settled c.states.isFullscreen := by
    obtain ⟨_, _, _, _, _, _, _, _, ha⟩ := afterConfigure_eq waiting c
    rw [ha]
  exact ⟨activated, _, hstep, ⟨hsized.shown, hsized.floating, hsized.aspect⟩, hfullscreen,
    waiting.afterConfigure_requests c⟩

end Window

end VideoOutput
