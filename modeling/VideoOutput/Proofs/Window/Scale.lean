import VideoOutput.Proofs.Window.Rectangles

/-!
# What changes the scale of a window

A window takes its scale from the first output it is attached to, from an output that its surface
enters, and from the current output when it is described anew (`attachOutput_scale`,
`surfaceEntered_scale`, `outputDone_scale`). No other operation changes the scale, or how it is
found.
-/

namespace VideoOutput

namespace Window

variable {w v : Window}

/-- The scale, whether an output gave it, and whether outputs may. -/
def scaleState (w : Window) : Int × Bool × Bool :=
  (w.scaling, w.hasOutput, w.options.scaleWithOutput)

theorem scaleState_eq : v.scaleState = w.scaleState ↔ v.scaling = w.scaling
    ∧ v.hasOutput = w.hasOutput ∧ v.options.scaleWithOutput = w.options.scaleWithOutput := by
  simp only [scaleState, Prod.mk.injEq]

/-! ## Operations that take a scale -/

theorem attachOutput_scale (h : w.hasOutput = false) (outputScale : Int) :
    (w.attachOutput outputScale).scaleState
      = (w.targetScaling outputScale, true, w.options.scaleWithOutput) := by
  simp [attachOutput, h, scaleState, addEvents, setScaling, targetScaling]

theorem attachOutput_of_hasOutput (h : w.hasOutput = true) (outputScale : Int) :
    w.attachOutput outputScale = w :=
  if_pos h

theorem setNaturalSize_scaleState (h : w.setNaturalSize = .ok v) : v.scaleState = w.scaleState := by
  obtain ⟨_, _, rfl, -⟩ := setNaturalSize_ok h
  rfl

theorem surfaceEntered_scale {outputScale : Int} {areaChanged : Bool}
    (h : w.surfaceEntered outputScale areaChanged = .ok v) : v.scaleState
      = (w.targetScaling outputScale, w.hasOutput, w.options.scaleWithOutput) := by
  unfold surfaceEntered at h
  dsimp only at h
  have hscaled : (if w.targetScaling outputScale ≠ w.scaling then
      (w.setScaling outputScale).addEvents { scale := true } else w).scaleState
        = (w.targetScaling outputScale, w.hasOutput, w.options.scaleWithOutput) := by
    split_ifs with hsame
    · rfl
    · rw [not_not.1 hsame, scaleState]
  rw [← hscaled]
  cases areaChanged
  · rw [← pure_eq_ok.1 h]
    rfl
  · obtain ⟨sized, hsized, h⟩ := bind_eq_ok.1 h
    rw [← pure_eq_ok.1 h]
    exact (setNaturalSize_scaleState hsized :)

theorem outputDone_scale {outputScale : Int} (h : w.outputDone true outputScale = .ok v) :
    v.scaleState = (w.targetScaling outputScale, w.hasOutput, w.options.scaleWithOutput) := by
  obtain ⟨sized, hsized, h⟩ := bind_eq_ok.1 h
  rw [← pure_eq_ok.1 h]
  exact (setNaturalSize_scaleState hsized :)

theorem outputDone_of_not_current {outputScale : Int}
    (h : w.outputDone false outputScale = .ok v) : v = w.addEvents { windowState := true } :=
  (pure_eq_ok.1 h).symm

/-! ## Operations that keep it -/

theorem pushRequest_scaleState (w : Window) (request : ShellRequest) :
    (w.pushRequest request).scaleState = w.scaleState := by
  rw [pushRequest_eq]
  rfl

theorem initDecorations_scaleState (w : Window) (available : Bool) :
    (w.initDecorations available).scaleState = w.scaleState := by
  rw [initDecorations_eq]
  rfl

theorem keyboardFocus_scaleState (w : Window) (hasKeyboard : Bool) :
    (w.keyboardFocus hasKeyboard).scaleState = w.scaleState := by
  rw [keyboardFocus, updateFocus_eq]
  rfl

theorem setMaximized_scaleState (w : Window) (maximized : Bool) :
    (w.setMaximized maximized).scaleState = w.scaleState := by
  rcases setMaximized_cases w maximized with ⟨-, h⟩ | ⟨-, h⟩ <;> rw [h]
  rfl

theorem setWindowSize_scaleState {width height : Int} (h : w.setWindowSize width height = .ok v) :
    v.scaleState = w.scaleState := by
  rcases setWindowSize_ok h with rfl | ⟨_, _, _, _, rfl, -⟩ <;> rfl

theorem setUnfullscreenSize_scaleState {width height : Int}
    (h : w.setUnfullscreenSize width height = .ok v) : v.scaleState = w.scaleState := by
  obtain ⟨windowSize, -, ⟨-, rfl⟩ | ⟨-, rfl⟩ | ⟨-, _, _, rfl⟩⟩ := setUnfullscreenSize_ok h
  · rfl
  · exact setMaximized_scaleState _ false
  · rfl

theorem configureSurface_scaleState {activated : Bool}
    (h : w.configureSurface = .ok (activated, v)) : v.scaleState = w.scaleState := by
  rcases configureSurface_ok h with ⟨-, rfl⟩ | ⟨c, -, ⟨-, rfl⟩ | ⟨-, rfl⟩⟩
  · rfl
  · rfl
  · obtain ⟨_, _, _, _, _, _, _, _, hc⟩ := afterConfigure_eq { w with pending := none } c
    rw [hc]
    rfl

/-- No operation takes a scale but those that tell of an output. -/
theorem step_scaleState {op : Op} {r : Reply} (h : w.step op = .ok (v, r))
    (hop : ¬ op.IsRescaling) : v.scaleState = w.scaleState := by
  cases op with
  | attachOutput scale => exact absurd trivial hop
  | surfaceEntered scale areaChanged => exact absurd trivial hop
  | outputDone isCurrent scale => exact absurd trivial hop
  | reconfig width height =>
    obtain ⟨u, hu, h⟩ := bind_eq_ok.1 h
    obtain ⟨rfl, -⟩ := Prod.mk.inj (pure_eq_ok.1 h)
    obtain ⟨_, _, _, _, _, _, _, _, rfl, -⟩ := reconfig_ok hu
    rfl
  | setWindowSize width height =>
    obtain ⟨u, hu, h⟩ := bind_eq_ok.1 h
    obtain ⟨rfl, -⟩ := Prod.mk.inj (pure_eq_ok.1 h)
    exact setWindowSize_scaleState hu
  | setUnfullscreenSize width height =>
    obtain ⟨u, hu, h⟩ := bind_eq_ok.1 h
    obtain ⟨rfl, -⟩ := Prod.mk.inj (pure_eq_ok.1 h)
    exact setUnfullscreenSize_scaleState hu
  | configureSurface =>
    obtain ⟨⟨activated, u⟩, hu, h⟩ := bind_eq_ok.1 h
    obtain ⟨rfl, -⟩ := Prod.mk.inj (pure_eq_ok.1 h)
    exact configureSurface_scaleState hu
  | initDecorations available =>
    obtain ⟨rfl, -⟩ := Prod.mk.inj (pure_eq_ok.1 h)
    exact initDecorations_scaleState w available
  | setBorder on =>
    obtain ⟨rfl, -⟩ := Prod.mk.inj (pure_eq_ok.1 h)
    rw [setBorder_eq]
    rfl
  | keyboardFocus hasKeyboard =>
    obtain ⟨rfl, -⟩ := Prod.mk.inj (pure_eq_ok.1 h)
    exact keyboardFocus_scaleState w hasKeyboard
  | setFullscreen on =>
    obtain ⟨rfl, -⟩ := Prod.mk.inj (pure_eq_ok.1 h)
    rcases setFullscreen_cases w on with ⟨-, hf⟩ | ⟨-, hf⟩ <;> rw [hf]
    rfl
  | setMaximized on =>
    obtain ⟨rfl, -⟩ := Prod.mk.inj (pure_eq_ok.1 h)
    exact setMaximized_scaleState w on
  | setMinimized on =>
    obtain ⟨rfl, -⟩ := Prod.mk.inj (pure_eq_ok.1 h)
    obtain ⟨_, _, hm⟩ := setMinimized_eq w on
    rw [hm]
    rfl
  | setTitle title =>
    obtain ⟨rfl, -⟩ := Prod.mk.inj (pure_eq_ok.1 h)
    exact pushRequest_scaleState w _
  | setAppId appId =>
    obtain ⟨rfl, -⟩ := Prod.mk.inj (pure_eq_ok.1 h)
    exact pushRequest_scaleState w _
  | unfullscreenSize =>
    obtain ⟨size, -, h⟩ := bind_eq_ok.1 h
    obtain ⟨rfl, -⟩ := Prod.mk.inj (pure_eq_ok.1 h)
    rfl
  | pointerPressed x y =>
    obtain ⟨request, -, h⟩ := bind_eq_ok.1 h
    obtain ⟨rfl, -⟩ := Prod.mk.inj (pure_eq_ok.1 h)
    rfl
  | touchDown x y =>
    obtain ⟨request, -, h⟩ := bind_eq_ok.1 h
    obtain ⟨rfl, -⟩ := Prod.mk.inj (pure_eq_ok.1 h)
    rfl
  | _ =>
    obtain ⟨rfl, -⟩ := Prod.mk.inj (pure_eq_ok.1 h)
    rfl

end Window

end VideoOutput
