import VideoOutput.Proofs.Window.Disregard

/-!
# What changes the rectangles of a window

The content and the floating rectangle are written by few operations: those that measure
(`reconfig_ok`, `setWindowSize_ok`, `setUnfullscreenSize_ok`), those that convert to another scale
(`step_rescaled`) and the acknowledged configures (`afterConfigure_of_floats`). All others leave
both alone (`step_still`). So a fullscreen or maximized window is resized by acknowledgements alone,
but for one case: `reconfig` looks at what is wanted and not at what is in force, and a video that
comes in after the client has asked to leave resizes the window before the compositor has decided
(`geometry_of_filling`, `exists_resized_by_video`).
-/

namespace VideoOutput

namespace Window

variable {w v : Window} {op : Op} {ops : List Op} {r : Reply}

/-! ## Configures -/

theorem applySize_of_floats (hfloats : w.isFilling = false) (previous : Size)
    (width height : Int) :
    ((w.applySize previous width height).1.geometry
        = (w.applySize previous width height).1.windowSize
      ∧ (w.windowSize.AtOrigin → (w.applySize previous width height).1.windowSize.AtOrigin))
    ∨ (w.stateChange = false ∧ (w.applySize previous width height).1 = w) := by
  unfold applySize
  simp only [hfloats, Bool.not_false, Bool.and_true, if_true]
  split_ifs with hchange hnone hsame
  · exact .inl ⟨rfl, id⟩
  · exact .inl ⟨rfl, id⟩
  · exact .inr ⟨Bool.not_eq_true _ ▸ hchange, rfl⟩
  · exact .inl ⟨rfl, fun _ => Rect.ofSize_atOrigin _ _⟩

/-- A configure that does not fill either makes the two rectangles one, or leaves both. -/
theorem afterConfigure_of_floats {c : PendingConfigure} (hfloats : ¬ c.Fills) (w : Window) :
    ((w.afterConfigure c).geometry = (w.afterConfigure c).windowSize
      ∧ (w.windowSize.AtOrigin → (w.afterConfigure c).windowSize.AtOrigin))
    ∨ ((w.afterStates c).stateChange = false ∧ (w.afterConfigure c).geometry = w.geometry
      ∧ (w.afterConfigure c).windowSize = w.windowSize) := by
  have hfilling : (w.afterStates c).isFilling = false := by
    rw [← Bool.not_eq_true, afterStates_isFilling]
    exact hfloats
  have hkept : (w.afterStates c).geometry = w.geometry
      ∧ (w.afterStates c).windowSize = w.windowSize := by
    obtain ⟨_, _, _, _, _, hs⟩ := afterStates_eq w c
    rw [hs]
    exact ⟨rfl, rfl⟩
  rw [← hkept.1, ← hkept.2]
  refine (applySize_of_floats hfilling w.toplevelSize c.width c.height).imp_right ?_
  rintro ⟨hchange, hsame⟩
  refine ⟨hchange, ?_, ?_⟩ <;> simp only [afterConfigure, addEvents, hsame]

/-! ## Operations that only convert -/

/-- What is shown is left alone. The floating size is kept or converted to another scale. -/
structure Rescaled (w v : Window) : Prop where
  geometry : v.geometry = w.geometry
  fullscreen : v.fullscreen = w.fullscreen
  maximized : v.maximized = w.maximized
  stateChange : v.stateChange = w.stateChange
  windowSize : v.windowSize = w.windowSize
    ∨ v.windowSize = w.windowSize.scaleExtent (Float.ofInt w.scaling / Float.ofInt v.scaling)
  naturalSize : w.naturalSize.AtOrigin → v.naturalSize.AtOrigin

theorem rescaled_self (w : Window) : Rescaled w w := ⟨rfl, rfl, rfl, rfl, .inl rfl, id⟩

theorem rescaled_setScaling (w : Window) (outputScale : Int) :
    Rescaled w (w.setScaling outputScale) :=
  ⟨rfl, rfl, rfl, rfl, .inr rfl, fun h => h.scaleExtent _⟩

namespace Rescaled

variable {u : Window}

theorem congr (h : Rescaled w u) (hgeometry : v.geometry = u.geometry)
    (hfullscreen : v.fullscreen = u.fullscreen) (hmaximized : v.maximized = u.maximized)
    (hchange : v.stateChange = u.stateChange) (hfloating : v.windowSize = u.windowSize)
    (hscaling : v.scaling = u.scaling)
    (hnatural : u.naturalSize.AtOrigin → v.naturalSize.AtOrigin) : Rescaled w v where
  geometry := hgeometry.trans h.geometry
  fullscreen := hfullscreen.trans h.fullscreen
  maximized := hmaximized.trans h.maximized
  stateChange := hchange.trans h.stateChange
  windowSize := by
    rw [hfloating, hscaling]
    exact h.windowSize
  naturalSize := fun hw => hnatural (h.naturalSize hw)

theorem addEvents (h : Rescaled w u) (events : WindowEvents) : Rescaled w (u.addEvents events) :=
  h.congr rfl rfl rfl rfl rfl rfl id

theorem setNaturalSize (h : Rescaled w u) (hv : u.setNaturalSize = .ok v) : Rescaled w v := by
  obtain ⟨_, _, rfl, -, hnatural⟩ := setNaturalSize_ok hv
  exact h.congr rfl rfl rfl rfl rfl rfl fun _ => hnatural.atOrigin

end Rescaled

def Op.IsRescaling : Op → Prop
  | .attachOutput _ | .surfaceEntered _ _ | .outputDone _ _ => True
  | _ => False

theorem step_rescaled (h : w.step op = .ok (v, r)) (hop : op.IsRescaling) : Rescaled w v := by
  cases op with
  | attachOutput scale =>
    obtain ⟨rfl, -⟩ := Prod.mk.inj (pure_eq_ok.1 h)
    unfold attachOutput
    split_ifs
    · exact rescaled_self w
    · exact (rescaled_setScaling w scale).congr rfl rfl rfl rfl rfl rfl id
  | surfaceEntered scale areaChanged =>
    obtain ⟨u, hu, h⟩ := bind_eq_ok.1 h
    obtain ⟨rfl, -⟩ := Prod.mk.inj (pure_eq_ok.1 h)
    unfold surfaceEntered at hu
    dsimp only at hu
    have hscaled : Rescaled w (if w.targetScaling scale ≠ w.scaling then
        (w.setScaling scale).addEvents { scale := true } else w) := by
      split_ifs
      · exact (rescaled_setScaling w scale).addEvents _
      · exact rescaled_self w
    cases areaChanged
    · rw [← pure_eq_ok.1 hu]
      exact hscaled.addEvents _
    · obtain ⟨sized, hsized, hu⟩ := bind_eq_ok.1 hu
      rw [← pure_eq_ok.1 hu]
      exact (hscaled.setNaturalSize hsized).addEvents _
  | outputDone isCurrent scale =>
    obtain ⟨u, hu, h⟩ := bind_eq_ok.1 h
    obtain ⟨rfl, -⟩ := Prod.mk.inj (pure_eq_ok.1 h)
    unfold outputDone at hu
    cases isCurrent
    · rw [← pure_eq_ok.1 hu]
      exact (rescaled_self w).addEvents _
    · obtain ⟨sized, hsized, hu⟩ := bind_eq_ok.1 hu
      rw [← pure_eq_ok.1 hu]
      exact (((rescaled_setScaling w scale).setNaturalSize hsized).addEvents _).addEvents _
  | _ => exact absurd hop id

/-! ## Operations that leave the rectangles alone -/

/-- The windows have the same rectangles, and agree on the states that decide them. -/
structure Still (w v : Window) : Prop where
  geometry : v.geometry = w.geometry
  windowSize : v.windowSize = w.windowSize
  naturalSize : v.naturalSize = w.naturalSize
  scaling : v.scaling = w.scaling
  fullscreen : v.fullscreen = w.fullscreen
  maximized : v.maximized = w.maximized
  stateChange : v.stateChange = w.stateChange

theorem still_of_without {d : Disregard} (h : without d v = without d w) : Still w v where
  geometry := by simpa only [without_keeps] using congrArg Window.geometry h
  windowSize := by simpa only [without_keeps] using congrArg windowSize h
  naturalSize := by simpa only [without_keeps] using congrArg naturalSize h
  scaling := by simpa only [without_keeps] using congrArg scaling h
  fullscreen := by simpa only [without_keeps] using congrArg fullscreen h
  maximized := by simpa only [without_keeps] using congrArg maximized h
  stateChange := by simpa only [without_keeps] using congrArg stateChange h

/-- The operation neither measures the window nor asks for a state that would give it a size. -/
def Op.IsStill : Op → Prop
  | .attachOutput _ | .surfaceEntered _ _ | .outputDone _ _ | .reconfig _ _ | .configureSurface
  | .setFullscreen _ | .setMaximized _ | .setWindowSize _ _ | .setUnfullscreenSize _ _ => False
  | _ => True

theorem step_still (h : w.step op = .ok (v, r)) (hop : op.IsStill) : Still w v := by
  by_cases haside : op.isAside .decoration = true
  · obtain ⟨v', r', hstep, hsame⟩ := step_aside haside w
    obtain ⟨rfl, -⟩ := Prod.mk.inj (Except.ok.inj (hstep.symm.trans h))
    exact still_of_without hsame
  · cases op with
    | configureBounds width height =>
      obtain ⟨rfl, -⟩ := Prod.mk.inj (pure_eq_ok.1 h)
      exact ⟨rfl, rfl, rfl, rfl, rfl, rfl, rfl⟩
    | configureToplevel width height states =>
      obtain ⟨rfl, -⟩ := Prod.mk.inj (pure_eq_ok.1 h)
      exact ⟨rfl, rfl, rfl, rfl, rfl, rfl, rfl⟩
    | unfullscreenSize =>
      obtain ⟨size, -, h⟩ := bind_eq_ok.1 h
      obtain ⟨rfl, -⟩ := Prod.mk.inj (pure_eq_ok.1 h)
      exact ⟨rfl, rfl, rfl, rfl, rfl, rfl, rfl⟩
    | pointerPressed x y =>
      obtain ⟨request, -, h⟩ := bind_eq_ok.1 h
      obtain ⟨rfl, -⟩ := Prod.mk.inj (pure_eq_ok.1 h)
      exact ⟨rfl, rfl, rfl, rfl, rfl, rfl, rfl⟩
    | touchDown x y =>
      obtain ⟨request, -, h⟩ := bind_eq_ok.1 h
      obtain ⟨rfl, -⟩ := Prod.mk.inj (pure_eq_ok.1 h)
      exact ⟨rfl, rfl, rfl, rfl, rfl, rfl, rfl⟩
    | scale =>
      obtain ⟨rfl, -⟩ := Prod.mk.inj (pure_eq_ok.1 h)
      exact ⟨rfl, rfl, rfl, rfl, rfl, rfl, rfl⟩
    | keepAspect =>
      obtain ⟨rfl, -⟩ := Prod.mk.inj (pure_eq_ok.1 h)
      exact ⟨rfl, rfl, rfl, rfl, rfl, rfl, rfl⟩
    | _ => first | exact absurd hop id | exact absurd rfl haside

/-! ## A window of the compositor's size -/

/-- A new video comes in while no size of the compositor is wanted. -/
def Op.refloats (w : Window) : Op → Bool
  | .reconfig _ _ => !w.wantsArea
  | _ => false

def NeverRefloats (w : Window) (ops : List Op) : Prop :=
  ∀ before op after u, ops = before ++ op :: after → run w before = .ok u → op.refloats u = false

/-- No operation between acknowledgements gives a fullscreen or maximized window another geometry,
but one: a new video takes its own size where the client has asked to leave, though the compositor
has not decided. -/
theorem step_geometry_of_filling (h : w.step op = .ok (v, r)) (hop : op ≠ .configureSurface)
    (hfilling : w.isFilling = true) (hshown : w.geometry.isEmpty = .ok false) :
    v.geometry = if op.refloats w then v.windowSize else w.geometry := by
  cases op with
  | reconfig width height =>
    obtain ⟨u, hu, h⟩ := bind_eq_ok.1 h
    obtain ⟨rfl, -⟩ := Prod.mk.inj (pure_eq_ok.1 h)
    obtain ⟨_, _, _, _, _, _, _, _, rfl, -, -, -, -, hgeometry⟩ := reconfig_ok hu
    rcases hgeometry with ⟨hfloats, rfl⟩ | ⟨hwants, -, rfl⟩
    · have hwants : w.wantsArea = false := hfloats.resolve_right (by simp [hshown])
      simp [Op.refloats, hwants]
    · simp [Op.refloats, hwants]
  | setWindowSize width height =>
    obtain ⟨u, hu, h⟩ := bind_eq_ok.1 h
    obtain ⟨rfl, -⟩ := Prod.mk.inj (pure_eq_ok.1 h)
    rcases setWindowSize_ok hu with rfl | ⟨_, _, _, _, rfl, -⟩
    · rfl
    · simp [Op.refloats, hfilling]
  | setUnfullscreenSize width height =>
    obtain ⟨u, hu, h⟩ := bind_eq_ok.1 h
    obtain ⟨rfl, -⟩ := Prod.mk.inj (pure_eq_ok.1 h)
    obtain ⟨windowSize, -, ⟨-, rfl⟩ | ⟨-, rfl⟩ | ⟨hfloats, -⟩⟩ := setUnfullscreenSize_ok hu
    · rfl
    · rcases setMaximized_cases { w with windowSize } false with ⟨-, hm⟩ | ⟨-, hm⟩ <;>
        rw [hm] <;> rfl
    · exact absurd (hfilling.symm.trans hfloats) (by decide)
  | setFullscreen on =>
    obtain ⟨rfl, -⟩ := Prod.mk.inj (pure_eq_ok.1 h)
    rcases setFullscreen_cases w on with ⟨-, hf⟩ | ⟨-, hf⟩ <;> rw [hf] <;> rfl
  | setMaximized on =>
    obtain ⟨rfl, -⟩ := Prod.mk.inj (pure_eq_ok.1 h)
    rcases setMaximized_cases w on with ⟨-, hm⟩ | ⟨-, hm⟩ <;> rw [hm] <;> rfl
  | configureSurface => exact absurd rfl hop
  | attachOutput scale => exact (step_rescaled h trivial).geometry
  | surfaceEntered scale areaChanged => exact (step_rescaled h trivial).geometry
  | outputDone isCurrent scale => exact (step_rescaled h trivial).geometry
  | _ => exact (step_still h trivial).geometry

theorem step_isFilling (h : w.step op = .ok (v, r)) (hop : op ≠ .configureSurface) :
    v.isFilling = w.isFilling := by
  by_cases hconfigure : op.IsConfigure
  · cases op with
    | configureToplevel width height states =>
      obtain ⟨rfl, -⟩ := Prod.mk.inj (pure_eq_ok.1 h)
      rfl
    | configureSurface => exact absurd rfl hop
    | _ => exact absurd hconfigure id
  · have hsame := step_sameDecisions h hconfigure
    rw [isFilling, hsame.fullscreen, hsame.maximized, isFilling]

theorem run_geometry_of_filling : ∀ {ops : List Op} {w : Window}, run w ops = .ok v →
    .configureSurface ∉ ops → w.isFilling = true → w.geometry.isEmpty = .ok false →
    NeverRefloats w ops → v.geometry = w.geometry
  | [], _, h, _, _, _, _ => by rw [pure_eq_ok.1 h]
  | op :: ops, w, h, hops, hfilling, hshown, hnever => by
    obtain ⟨hop, hrest⟩ := not_or.1 (mt List.mem_cons.2 hops)
    obtain ⟨u, r, hstep, hrun⟩ := run_cons.1 h
    have hkept : u.geometry = w.geometry := by
      rw [step_geometry_of_filling hstep (Ne.symm hop) hfilling hshown, hnever [] op ops w rfl rfl]
      rfl
    have hlater : NeverRefloats u ops := fun before op' after u' hsplit hu' =>
      hnever (op :: before) op' after u' (by rw [hsplit]; rfl) (run_cons.2 ⟨u, r, hstep, hu'⟩)
    rw [run_geometry_of_filling hrun hrest ((step_isFilling hstep (Ne.symm hop)).trans hfilling)
      (hkept ▸ hshown) hlater, hkept]

/-- A fullscreen or maximized window that shows something is resized by acknowledgements alone,
except where a new video comes in while no such size is wanted any more: then the window takes the
floating size before the compositor has decided. -/
theorem geometry_of_filling (hfilling : w.isFilling = true)
    (hshown : w.geometry.isEmpty = .ok false) :
    (∀ op v r, op ≠ .configureSurface → w.step op = .ok (v, r) →
      v.geometry = if op.refloats w then v.windowSize else w.geometry)
    ∧ ∀ ops v, .configureSurface ∉ ops → run w ops = .ok v → NeverRefloats w ops →
      v.geometry = w.geometry :=
  ⟨fun _ _ _ hop hstep => step_geometry_of_filling hstep hop hfilling hshown,
    fun _ _ hops hrun hnever => run_geometry_of_filling hrun hops hfilling hshown hnever⟩

/-- A window in fullscreen, after a video of another size. -/
def inFullscreen : List Op :=
  [.reconfig 1920 1080, .configureToplevel 1280 720 [.fullscreen], .configureSurface]

/-- The client sets the size it will float with, and asks to leave. -/
theorem geometry_of_filling_leaving : ∃ w v, run (new {}) inFullscreen = .ok w
    ∧ run w [.setUnfullscreenSize 800 450, .setWindowSize 640 360, .setFullscreen false] = .ok v
    ∧ v.geometry = .ofSize 1280 720 ∧ v.windowSize = .ofSize 800 450 := by
  obtain ⟨w, hw, hfilling, hshown, hgeometry⟩ : ∃ w, run (new {}) inFullscreen = .ok w
      ∧ w.isFilling = true ∧ w.geometry.isEmpty = .ok false
      ∧ w.geometry = .ofSize 1280 720 := by
    decide +kernel
  obtain ⟨v, hv, hsize⟩ : ∃ v, run (new {}) (inFullscreen ++ [.setUnfullscreenSize 800 450,
      .setWindowSize 640 360, .setFullscreen false]) = .ok v
      ∧ v.windowSize = .ofSize 800 450 := by
    decide +kernel
  obtain ⟨w', hw', hrun⟩ := run_append.1 hv
  obtain rfl : w = w' := Except.ok.inj (hw.symm.trans hw')
  refine ⟨w, v, hw, hrun, ?_, hsize⟩
  rw [(geometry_of_filling hfilling hshown).2 _ v (by simp) hrun ?_, hgeometry]
  intro before op after u hops _
  have hmem : op ∈ before ++ op :: after := by simp
  rw [← hops] at hmem
  simp only [List.mem_cons, List.not_mem_nil, or_false] at hmem
  obtain rfl | rfl | rfl := hmem <;> rfl

/-- The client has asked to leave fullscreen, and a new video comes in before the answer. -/
theorem exists_resized_by_video : ¬ ∀ (options : WindowOptions) (ops : List Op) (w : Window),
    run (new options) ops = .ok w → w.isFilling = true → w.geometry.isEmpty = .ok false →
    ∀ (op : Op) (v : Window) (r : Reply), op ≠ .configureSurface → w.step op = .ok (v, r) →
      v.geometry = w.geometry := by
  intro hall
  obtain ⟨w, hw, hfilling, hshown, hgeometry⟩ : ∃ w,
      run (new {}) (inFullscreen ++ [.setFullscreen false]) = .ok w
      ∧ w.isFilling = true ∧ w.geometry.isEmpty = .ok false
      ∧ w.geometry = .ofSize 1280 720 := by
    decide +kernel
  obtain ⟨v, hv, hsize⟩ : ∃ v, run (new {})
      ((inFullscreen ++ [.setFullscreen false]) ++ [.reconfig 640 360]) = .ok v
      ∧ v.geometry = .ofSize 640 360 := by
    decide +kernel
  obtain ⟨w', hw', hrun⟩ := run_append.1 hv
  obtain rfl : w = w' := Except.ok.inj (hw.symm.trans hw')
  obtain ⟨r, hstep⟩ := run_singleton.1 hrun
  have hkept := hall {} _ w hw hfilling hshown _ v r (by simp) hstep
  rw [hsize, hgeometry] at hkept
  exact absurd hkept (by decide)

end Window

end VideoOutput
