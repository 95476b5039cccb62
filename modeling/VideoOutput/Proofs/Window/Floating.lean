import VideoOutput.Proofs.Arithmetic.Whole
import VideoOutput.Proofs.Window.Rectangles

/-!
# Floating windows

A window that shows something, and for which neither fullscreen nor maximized is in force or asked
for, has the floating size (`geometry_of_floating`). The two rectangles part while another size is
in force or wanted, and what brings them together again is either a configure of a floating size or
the mark that a state was asked for or changed; so a request that has been withdrawn always leaves
that mark (`Consistent`).
-/

namespace VideoOutput

/-- A rectangle that shows something has positive sides in the word. -/
theorem Rect.AtOrigin.sides_pos {r : Rect} (h : r.AtOrigin) (hshown : r.isEmpty = .ok false) :
    (Word.int32.Holds r.x1 ∧ 0 < r.x1) ∧ Word.int32.Holds r.y1 ∧ 0 < r.y1 := by
  obtain ⟨hwidth, hheight⟩ := Rect.isEmpty_eq_false.1 hshown
  rw [h.1, sub_zero] at hwidth
  rw [h.2, sub_zero] at hheight
  exact ⟨hwidth, hheight⟩

/-- Scaling by the quotient of a scale with itself changes nothing. -/
theorem Rect.AtOrigin.scaleExtent_div_self {r : Rect} (h : r.AtOrigin)
    (hshown : r.isEmpty = .ok false) {s : Int} (hs : Word.int32.Holds s) (hs' : 0 < s) :
    r.scaleExtent (Float.ofInt s / Float.ofInt s) = r := by
  obtain ⟨⟨hx, hx'⟩, hy, hy'⟩ := h.sides_pos hshown
  rw [Rect.scaleExtent, truncate_mul_div_self hx hx' hs hs', truncate_mul_div_self hy hy' hs hs']

namespace Window

variable {w v : Window} {op : Op} {ops : List Op} {r : Reply} {options : WindowOptions}

/-- Neither fullscreen nor maximized is in force or in flight. -/
def IsFloating (w : Window) : Prop :=
  w.fullscreen = .settled false ∧ w.maximized = .settled false

/-- The rectangles start at the origin, a withdrawn request has left its mark, and a floating window
has the floating size. -/
structure Consistent (w : Window) : Prop where
  windowSize : w.windowSize.AtOrigin
  naturalSize : w.naturalSize.AtOrigin
  fullscreen : w.fullscreen.requested = some false → w.stateChange = true
  maximized : w.maximized.requested = some false → w.stateChange = true
  floating : w.geometry.isEmpty = .ok false → w.IsFloating → w.geometry = w.windowSize

theorem IsFloating.isFilling (h : w.IsFloating) : w.isFilling = false := by
  rw [Window.isFilling, h.1, h.2]
  rfl

theorem IsFloating.wantsArea (h : w.IsFloating) : w.wantsArea = false := by
  rw [Window.wantsArea, h.1, h.2]
  rfl

theorem new_consistent (options : WindowOptions) : (new options).Consistent where
  windowSize := ⟨rfl, rfl⟩
  naturalSize := ⟨rfl, rfl⟩
  fullscreen := by
    unfold new
    dsimp only
    split_ifs <;> exact nofun
  maximized := by
    unfold new
    dsimp only
    split_ifs <;> exact nofun
  floating := fun _ _ => rfl

namespace Consistent

/-! ## One operation -/

theorem still (hw : w.Consistent) (h : Still w v) : v.Consistent where
  windowSize := h.windowSize ▸ hw.windowSize
  naturalSize := h.naturalSize ▸ hw.naturalSize
  fullscreen := by
    rw [h.fullscreen, h.stateChange]
    exact hw.fullscreen
  maximized := by
    rw [h.maximized, h.stateChange]
    exact hw.maximized
  floating := by
    rw [h.geometry, h.windowSize, IsFloating, h.fullscreen, h.maximized]
    exact hw.floating

theorem rescaled (hw : w.Consistent) (h : Rescaled w v)
    (hscaling : w.geometry.isEmpty = .ok false → Word.int32.Holds w.scaling ∧ 0 < w.scaling
      ∧ v.scaling = w.scaling) : v.Consistent where
  windowSize := by
    rcases h.windowSize with hsize | hsize <;> rw [hsize]
    · exact hw.windowSize
    · exact hw.windowSize.scaleExtent _
  naturalSize := h.naturalSize hw.naturalSize
  fullscreen := by
    rw [h.fullscreen, h.stateChange]
    exact hw.fullscreen
  maximized := by
    rw [h.maximized, h.stateChange]
    exact hw.maximized
  floating := by
    rw [h.geometry, IsFloating, h.fullscreen, h.maximized]
    intro hshown hfloating
    have hsame := hw.floating hshown hfloating
    obtain ⟨hs, hs', hv⟩ := hscaling hshown
    rcases h.windowSize with hsize | hsize
    · rw [hsize, hsame]
    · rw [hsize, hv, hw.windowSize.scaleExtent_div_self (hsame ▸ hshown) hs hs', hsame]

theorem reconfig {width height : Int} (hw : w.Consistent)
    (h : w.reconfig width height = .ok v) : v.Consistent := by
  obtain ⟨_, _, _, _, _, _, _, _, rfl, -, hnatural, hwindow, hchange, hgeometry⟩ :=
    reconfig_ok h
  refine ⟨hwindow.atOrigin, hnatural.atOrigin, fun hr => hchange (hw.fullscreen hr),
    fun hr => hchange (hw.maximized hr), fun _ hfloating => ?_⟩
  rcases hgeometry with ⟨-, rfl⟩ | ⟨hwants, -⟩
  · rfl
  · exact absurd (hwants.symm.trans (IsFloating.wantsArea (w := w) hfloating)) (by decide)

theorem setFullscreen (hw : w.Consistent) (on : Bool) : (w.setFullscreen on).Consistent := by
  rcases setFullscreen_cases w on with ⟨-, hf⟩ | ⟨-, hf⟩ <;> rw [hf]
  · exact hw
  · exact ⟨hw.windowSize, hw.naturalSize, fun _ => rfl, fun _ => rfl, fun _ h => nomatch h.1⟩

theorem setMaximized (hw : w.Consistent) (on : Bool) : (w.setMaximized on).Consistent := by
  rcases setMaximized_cases w on with ⟨-, hm⟩ | ⟨-, hm⟩ <;> rw [hm]
  · exact hw
  · exact ⟨hw.windowSize, hw.naturalSize, fun _ => rfl, fun _ => rfl, fun _ h => nomatch h.2⟩

theorem setWindowSize {width height : Int} (hw : w.Consistent)
    (h : w.setWindowSize width height = .ok v) : v.Consistent := by
  rcases setWindowSize_ok h with rfl | ⟨_, _, _, _, rfl, -, hnatural⟩
  · exact ⟨hw.windowSize, hw.naturalSize, hw.fullscreen, hw.maximized, hw.floating⟩
  · refine ⟨hnatural.atOrigin, hnatural.atOrigin, hw.fullscreen, hw.maximized,
      fun _ hfloating => ?_⟩
    dsimp only
    rw [IsFloating.isFilling (w := w) hfloating]
    rfl

/-- A window that does not float may take any floating size. -/
theorem withWindowSize (hw : w.Consistent) {windowSize : Rect} (horigin : windowSize.AtOrigin)
    (hfilling : w.isFilling = true) : Consistent { w with windowSize } where
  windowSize := horigin
  naturalSize := hw.naturalSize
  fullscreen := hw.fullscreen
  maximized := hw.maximized
  floating := fun _ hfloating =>
    absurd (hfilling.symm.trans (IsFloating.isFilling (w := w) hfloating)) (by decide)

theorem setUnfullscreenSize {width height : Int} (hw : w.Consistent)
    (h : w.setUnfullscreenSize width height = .ok v) : v.Consistent := by
  obtain ⟨windowSize, hspans, ⟨hfullscreen, rfl⟩ | ⟨hmaximized, rfl⟩ | ⟨-, _, _, rfl⟩⟩ :=
    setUnfullscreenSize_ok h
  · exact hw.withWindowSize hspans.atOrigin (by simp [isFilling, hfullscreen])
  · exact (hw.withWindowSize hspans.atOrigin (by simp [isFilling, hmaximized])).setMaximized false
  · exact ⟨hspans.atOrigin, hw.naturalSize, hw.fullscreen, hw.maximized, fun _ _ => rfl⟩

/-- Where a configure that does not fill finds no state asked for or changed, the window floated. -/
theorem isFloating_of_unchanged (hw : w.Consistent) {c : PendingConfigure} (hfloats : ¬ c.Fills)
    (hchange : (w.afterStates c).stateChange = false) : w.IsFloating := by
  obtain ⟨_, _, _, _, _, hs⟩ := afterStates_eq w c
  rw [hs] at hchange
  simp only [PendingConfigure.Fills, not_or, Bool.not_eq_true] at hfloats
  simp only [hfloats, Bool.or_eq_false_iff, decide_eq_false_iff_not, not_or, not_not] at hchange
  obtain ⟨hunmarked, hfullscreen, hmaximized⟩ := hchange
  -- what is not wanted is withdrawn or settled, and a withdrawal would have left its mark
  have hsettled : ∀ n : Negotiated Bool, n.desired = false →
      (n.requested = some false → w.stateChange = true) → n = .settled false := by
    rintro ⟨_ | _ | _, confirmed⟩ hdesired hmark
    · rw [Negotiated.settled, ← hdesired]
      rfl
    · rw [hmark rfl] at hunmarked
      cases hunmarked
    · cases hdesired
  exact ⟨hsettled _ hfullscreen hw.fullscreen, hsettled _ hmaximized hw.maximized⟩

/-- A configure that does not fill brings the rectangles together, or leaves both where no state was
asked for or changed. -/
theorem afterConfigure (hw : w.Consistent) (hshown : w.geometry.isEmpty = .ok false)
    (c : PendingConfigure) : (w.afterConfigure c).Consistent := by
  obtain ⟨geometry, windowSize, _, _, _, _, _, _, hv⟩ := afterConfigure_eq w c
  by_cases hfills : c.Fills
  · have hsize := (afterConfigure_of_fills hfills w).1
    rw [hv] at hsize ⊢
    refine ⟨hsize ▸ hw.windowSize, hw.naturalSize, nofun, nofun, fun _ hfloating => ?_⟩
    have hstates : c.states.isFullscreen = false ∧ c.states.isMaximized = false :=
      ⟨congrArg Negotiated.confirmed hfloating.1, congrArg Negotiated.confirmed hfloating.2⟩
    simp [PendingConfigure.Fills, hstates] at hfills
  · rcases afterConfigure_of_floats hfills w with ⟨hsame, horigin⟩ | ⟨hstill, hgeometry, hsize⟩
    · rw [hv] at hsame horigin ⊢
      exact ⟨horigin hw.windowSize, hw.naturalSize, nofun, nofun, fun _ _ => hsame⟩
    · rw [hv] at hgeometry hsize ⊢
      refine ⟨hsize ▸ hw.windowSize, hw.naturalSize, nofun, nofun, fun _ _ => ?_⟩
      rw [hgeometry, hsize]
      exact hw.floating hshown (hw.isFloating_of_unchanged hfills hstill)

theorem configureSurface {activated : Bool} (hw : w.Consistent)
    (h : w.configureSurface = .ok (activated, v)) : v.Consistent := by
  rcases configureSurface_ok h with ⟨-, rfl⟩ | ⟨c, -, ⟨-, rfl⟩ | ⟨hshown, rfl⟩⟩
  · exact ⟨hw.windowSize, hw.naturalSize, hw.fullscreen, hw.maximized, hw.floating⟩
  · exact ⟨hw.windowSize, hw.naturalSize, hw.fullscreen, hw.maximized, hw.floating⟩
  · have htaken : Consistent { w with pending := none } :=
      ⟨hw.windowSize, hw.naturalSize, hw.fullscreen, hw.maximized, hw.floating⟩
    have hafter := htaken.afterConfigure hshown c
    exact ⟨hafter.windowSize, hafter.naturalSize, hafter.fullscreen, hafter.maximized,
      hafter.floating⟩

end Consistent

/-- Every operation keeps the window consistent, if the scale of a window that shows something is
not changed. -/
theorem step_consistent {s : Int} (hs : Word.int32.Holds s) (hs' : 0 < s) (hw : w.Consistent)
    (h : w.step op = .ok (v, r)) (hscaling : w.geometry.isEmpty = .ok false → w.scaling = s)
    (hscaling' : v.geometry.isEmpty = .ok false → v.scaling = s) : v.Consistent := by
  have hrescaled : Rescaled w v → v.Consistent := by
    intro hv
    refine hw.rescaled hv fun hshown => ?_
    rw [hscaling hshown, hscaling' (hv.geometry ▸ hshown)]
    exact ⟨hs, hs', rfl⟩
  cases op with
  | attachOutput scale => exact hrescaled (step_rescaled h trivial)
  | surfaceEntered scale areaChanged => exact hrescaled (step_rescaled h trivial)
  | outputDone isCurrent scale => exact hrescaled (step_rescaled h trivial)
  | reconfig width height =>
    obtain ⟨u, hu, h⟩ := bind_eq_ok.1 h
    obtain ⟨rfl, -⟩ := Prod.mk.inj (pure_eq_ok.1 h)
    exact hw.reconfig hu
  | configureSurface =>
    obtain ⟨⟨activated, u⟩, hu, h⟩ := bind_eq_ok.1 h
    obtain ⟨rfl, -⟩ := Prod.mk.inj (pure_eq_ok.1 h)
    exact hw.configureSurface hu
  | setFullscreen on =>
    obtain ⟨rfl, -⟩ := Prod.mk.inj (pure_eq_ok.1 h)
    exact hw.setFullscreen on
  | setMaximized on =>
    obtain ⟨rfl, -⟩ := Prod.mk.inj (pure_eq_ok.1 h)
    exact hw.setMaximized on
  | setWindowSize width height =>
    obtain ⟨u, hu, h⟩ := bind_eq_ok.1 h
    obtain ⟨rfl, -⟩ := Prod.mk.inj (pure_eq_ok.1 h)
    exact hw.setWindowSize hu
  | setUnfullscreenSize width height =>
    obtain ⟨u, hu, h⟩ := bind_eq_ok.1 h
    obtain ⟨rfl, -⟩ := Prod.mk.inj (pure_eq_ok.1 h)
    exact hw.setUnfullscreenSize hu
  | _ => exact hw.still (step_still h trivial)

/-! ## A whole history -/

/-- Wherever the history shows something, it does so at this scale. -/
def ShownAt (s : Int) (w : Window) (ops : List Op) : Prop :=
  ∀ pre u, pre <+: ops → run w pre = .ok u → u.geometry.isEmpty = .ok false → u.scaling = s

theorem run_consistent {s : Int} (hs : Word.int32.Holds s) (hs' : 0 < s) :
    ∀ {ops : List Op} {w : Window}, w.Consistent → run w ops = .ok v → ShownAt s w ops →
      v.Consistent
  | [], w, hw, h, _ => pure_eq_ok.1 h ▸ hw
  | op :: ops, w, hw, h, hscaling => by
    obtain ⟨u, r, hstep, hrun⟩ := run_cons.1 h
    have hu := step_consistent hs hs' hw hstep (hscaling [] w List.nil_prefix rfl)
      (hscaling [op] u (by simp) (run_singleton.2 ⟨r, hstep⟩))
    refine run_consistent hs hs' hu hrun fun pre u' hpre hu' => ?_
    exact hscaling (op :: pre) u' (List.cons_prefix_cons.2 ⟨rfl, hpre⟩)
      (run_cons.2 ⟨u, r, hstep, hu'⟩)

/-- At the end of any history that shows the window at one scale only, which is one where the scale
never changes at all, a window that shows something has its floating size, unless fullscreen or
maximized is in force or in flight. -/
theorem geometry_of_floating {s : Int} (hs : Word.int32.Holds s) (hs' : 0 < s)
    (h : run (new options) ops = .ok w) (hscaling : ShownAt s (new options) ops)
    (hshown : w.geometry.isEmpty = .ok false) (hfullscreen : w.fullscreen = .settled false)
    (hmaximized : w.maximized = .settled false) : w.geometry = w.windowSize :=
  (run_consistent hs hs' (new_consistent options) h hscaling).floating hshown
    ⟨hfullscreen, hmaximized⟩

/-- A window on an output of scale two, in fullscreen and back. -/
def thereAndBack : List Op :=
  [.attachOutput 2, .reconfig 1920 1080, .setFullscreen true,
    .configureToplevel 2560 1440 [.fullscreen], .configureSurface, .reconfig 640 360,
    .setFullscreen false, .configureToplevel 0 0 [], .configureSurface]

theorem geometry_of_floating_again : ∃ w, run (new {}) thereAndBack = .ok w
    ∧ w.geometry.isEmpty = .ok false ∧ w.fullscreen = .settled false ∧ w.maximized = .settled false
    ∧ w.geometry = w.windowSize := by
  obtain ⟨w, hw, hshown, hfullscreen, hmaximized⟩ : ∃ w, run (new {}) thereAndBack = .ok w
      ∧ w.geometry.isEmpty = .ok false ∧ w.fullscreen = .settled false
      ∧ w.maximized = .settled false := by
    decide +kernel
  have hscales : ∀ pre ∈ thereAndBack.inits, ∃ u, run (new {}) pre = .ok u
      ∧ (u.geometry.isEmpty = .ok false → u.scaling = 2) := by
    decide +kernel
  have hscaling : ShownAt 2 (new {}) thereAndBack := by
    intro pre u hpre hu
    obtain ⟨u', hu', hscale⟩ := hscales pre (List.mem_inits _ _ |>.2 hpre)
    rw [Except.ok.inj (hu.symm.trans hu')]
    exact hscale
  exact ⟨w, hw, hshown, hfullscreen, hmaximized,
    geometry_of_floating (by decide) (by decide) hw hscaling hshown hfullscreen hmaximized⟩

/-- A request that was withdrawn is still in flight, and the rectangles may differ. -/
example : ∃ w, run (new {}) [.reconfig 1920 1080, .setFullscreen true, .reconfig 640 360,
    .setFullscreen false] = .ok w ∧ w.fullscreen = ⟨some false, false⟩
    ∧ w.geometry = .ofSize 1920 1080 ∧ w.windowSize = .ofSize 640 360 := by
  decide +kernel

end Window

end VideoOutput
