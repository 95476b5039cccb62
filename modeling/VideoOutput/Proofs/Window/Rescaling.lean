import VideoOutput.Proofs.Window.Floating
import VideoOutput.Proofs.Window.Totality

/-!
# A shown window at a new scale

An output's scale converts the floating size and leaves the geometry alone, also where the window
floats. So the two part, unless the scale is the one the window has: at a larger scale the floating
size falls short of what is shown on both sides, and at a smaller one it outgrows it
(`geometry_of_new_scale`, `exists_unscaled`).
-/

namespace VideoOutput

namespace Rect.AtOrigin

variable {r : Rect} {s t : Int}

theorem scaleExtent_lt (h : r.AtOrigin) (hshown : r.isEmpty = .ok false)
    (hs : Word.int32.Holds s) (hs' : 0 < s) (ht : Word.int32.Holds t) (hst : s < t) :
    (r.scaleExtent (Float.ofInt s / Float.ofInt t)).x1 < r.x1
      ∧ (r.scaleExtent (Float.ofInt s / Float.ofInt t)).y1 < r.y1 := by
  obtain ⟨⟨hx, hx'⟩, hy, hy'⟩ := h.sides_pos hshown
  exact ⟨truncate_mul_div_lt hx hx' hs hs' ht hst, truncate_mul_div_lt hy hy' hs hs' ht hst⟩

theorem scaleExtent_ne (h : r.AtOrigin) (hshown : r.isEmpty = .ok false)
    (hs : Word.int32.Holds s) (ht : Word.int32.Holds t) (ht' : 0 < t) {side : Int}
    (hside : side ∈ [r.x1, r.y1]) (hgreatest : side < Word.int32.greatest)
    (hst : 2 * t ≤ side * (s - t)) : r.scaleExtent (Float.ofInt s / Float.ofInt t) ≠ r := by
  obtain ⟨⟨hx, hx'⟩, hy, hy'⟩ := h.sides_pos hshown
  intro hsame
  obtain rfl | rfl : side = r.x1 ∨ side = r.y1 := by simpa using hside
  · exact (lt_truncate_mul_div hx hx' hgreatest hs ht ht' hst).ne' (congrArg Rect.x1 hsame)
  · exact (lt_truncate_mul_div hy hy' hgreatest hs ht ht' hst).ne' (congrArg Rect.y1 hsame)

end Rect.AtOrigin

namespace Window

variable {w v : Window} {op : Op} {ops : List Op} {r : Reply} {options : WindowOptions}
  {outputScale : Int}

/-- The surface is told of the scale of an output that it is on. -/
def Op.Rescales (op : Op) (outputScale : Int) : Prop :=
  (∃ areaChanged, op = .surfaceEntered outputScale areaChanged)
    ∨ op = .outputDone true outputScale

theorem surfaceEntered_windowSize {areaChanged : Bool}
    (h : w.surfaceEntered outputScale areaChanged = .ok v) :
    v.windowSize = if w.targetScaling outputScale = w.scaling then w.windowSize
      else w.windowSize.scaleExtent
        (Float.ofInt w.scaling / Float.ofInt (w.targetScaling outputScale)) := by
  unfold surfaceEntered at h
  dsimp only at h
  have hscaled : (if w.targetScaling outputScale ≠ w.scaling then
      (w.setScaling outputScale).addEvents { scale := true } else w).windowSize
        = if w.targetScaling outputScale = w.scaling then w.windowSize
          else w.windowSize.scaleExtent
            (Float.ofInt w.scaling / Float.ofInt (w.targetScaling outputScale)) := by
    rw [ite_not]
    split_ifs <;> rfl
  rw [← hscaled]
  cases areaChanged
  · rw [← pure_eq_ok.1 h]
    rfl
  · obtain ⟨sized, hsized, h⟩ := bind_eq_ok.1 h
    rw [← pure_eq_ok.1 h]
    obtain ⟨_, _, rfl, -⟩ := setNaturalSize_ok hsized
    rfl

theorem outputDone_windowSize (h : w.outputDone true outputScale = .ok v) :
    v.windowSize = w.windowSize.scaleExtent
      (Float.ofInt w.scaling / Float.ofInt (w.targetScaling outputScale)) := by
  obtain ⟨sized, hsized, h⟩ := bind_eq_ok.1 h
  rw [← pure_eq_ok.1 h]
  obtain ⟨_, _, rfl, -⟩ := setNaturalSize_ok hsized
  rfl

/-- Both ways convert the floating size of a window that has one, and neither the geometry. -/
theorem step_rescales (h : w.step op = .ok (v, r)) (hop : op.Rescales outputScale)
    (horigin : w.windowSize.AtOrigin) (hshown : w.windowSize.isEmpty = .ok false)
    (hscaling : Word.int32.Holds w.scaling) (hscaling' : 1 ≤ w.scaling) :
    v.geometry = w.geometry ∧ v.scaling = w.targetScaling outputScale
      ∧ v.windowSize = w.windowSize.scaleExtent
        (Float.ofInt w.scaling / Float.ofInt (w.targetScaling outputScale)) := by
  rcases hop with ⟨areaChanged, rfl⟩ | rfl
  · refine ⟨(step_rescaled h trivial).geometry, ?_⟩
    obtain ⟨u, hu, h⟩ := bind_eq_ok.1 h
    obtain ⟨rfl, -⟩ := Prod.mk.inj (pure_eq_ok.1 h)
    refine ⟨(Prod.mk.inj (surfaceEntered_scale hu)).1, ?_⟩
    rw [surfaceEntered_windowSize hu]
    split_ifs with hsame
    · rw [hsame, horigin.scaleExtent_div_self hshown hscaling (by omega)]
    · rfl
  · refine ⟨(step_rescaled h trivial).geometry, ?_⟩
    obtain ⟨u, hu, h⟩ := bind_eq_ok.1 h
    obtain ⟨rfl, -⟩ := Prod.mk.inj (pure_eq_ok.1 h)
    exact ⟨(Prod.mk.inj (outputDone_scale hu)).1, outputDone_windowSize hu⟩

/-- A window that shows its floating size keeps showing the same when it is told of a scale, and
takes the floating size of that scale. The two stay one where the scale is the window's own. At a
larger scale the floating size is smaller than what is shown, and at a smaller scale it is another
wherever that gives a side two units more and the side has room for one. -/
theorem geometry_of_new_scale (hoptions : options.InWord) (hops : ∀ op ∈ ops, op.Fits)
    (h : run (new options) ops = .ok w) (hshown : w.geometry.isEmpty = .ok false)
    (hsame : w.geometry = w.windowSize) (houtput : Word.int32.Holds outputScale)
    (hop : op.Rescales outputScale) : ∃ v r, w.step op = .ok (v, r)
      ∧ v.geometry = w.geometry ∧ v.scaling = w.targetScaling outputScale
      ∧ v.windowSize = w.windowSize.scaleExtent (Float.ofInt w.scaling / Float.ofInt v.scaling)
      ∧ (v.scaling = w.scaling → v.geometry = v.windowSize)
      ∧ (w.scaling < v.scaling →
        v.windowSize.x1 < v.geometry.x1 ∧ v.windowSize.y1 < v.geometry.y1)
      ∧ ∀ side ∈ [v.geometry.x1, v.geometry.y1], side < Word.int32.greatest →
        2 * v.scaling ≤ side * (w.scaling - v.scaling) → v.geometry ≠ v.windowSize := by
  have hw : w.Sound := run_sound h hops (new_sound hoptions)
  have horigin := hw.measured.windowSize.atOrigin
  have hshown' : w.windowSize.isEmpty = .ok false := hsame ▸ hshown
  have hpos : 0 < w.scaling := hw.scaling_pos
  obtain ⟨v, r, hstep⟩ : ∃ v r, w.step op = .ok (v, r) := by
    apply hw.exists_step <;> rcases hop with ⟨areaChanged, rfl⟩ | rfl
    · exact ⟨nofun, fun scale hscale => Option.mem_some.1 hscale ▸ houtput⟩
    · exact ⟨nofun, fun scale hscale => Option.mem_some.1 hscale ▸ houtput⟩
    · exact id
    · exact id
  obtain ⟨hgeometry, hscaling, hsize⟩ :=
    step_rescales hstep hop horigin hshown' hw.scaling hw.scaling_pos
  have hword : Word.int32.Holds v.scaling := hscaling ▸ targetScaling_holds houtput w
  have hpos' : 0 < v.scaling := hscaling ▸ one_le_targetScaling w outputScale
  rw [← hscaling] at hsize
  refine ⟨v, r, hstep, hgeometry, hscaling, hsize, ?_, ?_, ?_⟩ <;> rw [hgeometry, hsame, hsize]
  · intro hs
    rw [hs, horigin.scaleExtent_div_self hshown' hw.scaling hpos]
  · exact horigin.scaleExtent_lt hshown' hw.scaling hpos hword
  · intro side hside hgreatest hlarger
    exact (horigin.scaleExtent_ne hshown' hw.scaling hword hpos' hside hgreatest hlarger).symm

/-- A floating window that enters an output of twice the scale. -/
theorem geometry_of_new_scale_doubled : ∃ w v r,
    run (new {}) [.attachOutput 1, .reconfig 1920 1080] = .ok w
      ∧ w.step (.surfaceEntered 2 false) = .ok (v, r)
      ∧ v.geometry = .ofSize 1920 1080 ∧ v.windowSize = .ofSize 960 540 := by
  have hop : (Op.surfaceEntered 2 false).Rescales 2 := .inl ⟨false, rfl⟩
  obtain ⟨w, hw, hshown, hsame, hgeometry, hscaling, htarget, hscaled⟩ : ∃ w,
      run (new {}) [.attachOutput 1, .reconfig 1920 1080] = .ok w
      ∧ w.geometry.isEmpty = .ok false ∧ w.geometry = w.windowSize
      ∧ w.geometry = .ofSize 1920 1080 ∧ w.scaling = 1 ∧ w.targetScaling 2 = 2
      ∧ w.windowSize.scaleExtent (Float.ofInt 1 / Float.ofInt 2) = .ofSize 960 540 := by
    decide +kernel
  obtain ⟨v, r, hstep, hkept, htaken, hsize, -⟩ :=
    geometry_of_new_scale ⟨by decide, by decide, by decide⟩ (by decide) hw hshown hsame (by decide)
      hop
  refine ⟨w, v, r, hw, hstep, hkept.trans hgeometry, ?_⟩
  rw [hsize, htaken, hscaling, htarget, hscaled]

/-- The same window is shown at the old size. -/
theorem exists_unscaled : ¬ ∀ (options : WindowOptions) (ops : List Op) (w : Window),
    options.InWord → (∀ op ∈ ops, op.Fits) → run (new options) ops = .ok w →
    w.geometry.isEmpty = .ok false → w.geometry = w.windowSize →
    w.fullscreen = .settled false → w.maximized = .settled false →
    ∀ (outputScale : Int) (op : Op), Word.int32.Holds outputScale → op.Rescales outputScale →
      ∃ v r, w.step op = .ok (v, r) ∧ v.geometry = v.windowSize := by
  intro hall
  obtain ⟨w, hw, hshown, hsame, hfullscreen, hmaximized⟩ : ∃ w,
      run (new {}) [.attachOutput 1, .reconfig 1920 1080] = .ok w
      ∧ w.geometry.isEmpty = .ok false ∧ w.geometry = w.windowSize
      ∧ w.fullscreen = .settled false ∧ w.maximized = .settled false := by
    decide +kernel
  obtain ⟨v, hv, hparted⟩ : ∃ v,
      run (new {}) ([.attachOutput 1, .reconfig 1920 1080] ++ [.surfaceEntered 2 false]) = .ok v
      ∧ v.geometry ≠ v.windowSize := by
    decide +kernel
  obtain ⟨v', r, hstep, hone⟩ := hall {} _ w ⟨by decide, by decide, by decide⟩ (by decide) hw hshown
    hsame hfullscreen hmaximized 2 (.surfaceEntered 2 false) (by decide) (.inl ⟨false, rfl⟩)
  obtain ⟨w', hw', hrun⟩ := run_append.1 hv
  obtain rfl : w = w' := Except.ok.inj (hw.symm.trans hw')
  obtain ⟨r', hstep'⟩ := run_singleton.1 hrun
  obtain ⟨rfl, -⟩ := Prod.mk.inj (Except.ok.inj (hstep.symm.trans hstep'))
  exact hparted hone

end Window

end VideoOutput
