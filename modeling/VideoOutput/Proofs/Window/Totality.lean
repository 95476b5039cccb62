import VideoOutput.Proofs.Geometry.Edges
import VideoOutput.Proofs.Window.Repetition
import VideoOutput.Proofs.Window.Scale

/-!
# Operations that always have a result

Where the sizes and scales that a window is told of are in the word, its own scale is a positive one
and its rectangles start at the origin with sides in the word, after any history (`run_sound`). So
nothing overflows and nothing is divided by zero (`Sound.exists_step`), but where a size is read in
pixels or the edge near a press is looked for; the edge is found where neither the sides nor the
reach are negative (`Sound.exists_grab`).
-/

namespace VideoOutput

/-- Both sides are of the word. -/
def Size.InWord (s : Size) : Prop := Word.int32.Holds s.1 ∧ Word.int32.Holds s.2

instance (s : Size) : Decidable s.InWord := by unfold Size.InWord; infer_instance

/-- The size asked for and the reaches of the zones are of the word. -/
structure WindowOptions.InWord (options : WindowOptions) : Prop where
  size : Size.InWord (options.width, options.height)
  pointerReach : Word.int32.Holds options.pointerReach
  touchReach : Word.int32.Holds options.touchReach

namespace Window

variable {w v : Window} {op : Op} {ops : List Op} {r : Reply}

/-- The size that the operation tells of. -/
def Op.size? : Op → Option Size
  | .reconfig width height | .setWindowSize width height | .setUnfullscreenSize width height
  | .configureToplevel width height _ => some (width, height)
  | _ => none

/-- The scale of an output that the operation tells of. -/
def Op.outputScale? : Op → Option Int
  | .attachOutput outputScale | .surfaceEntered outputScale _ | .outputDone _ outputScale =>
    some outputScale
  | _ => none

/-- What the operation tells of is in the word. -/
def Op.Fits (op : Op) : Prop :=
  (∀ size ∈ op.size?, size.InWord) ∧ ∀ scale ∈ op.outputScale?, Word.int32.Holds scale

instance (op : Op) : Decidable op.Fits := by unfold Op.Fits; infer_instance

/-- The operation reads the size in pixels, or looks for the edge near a press. -/
def Op.IsReading : Op → Prop
  | .unfullscreenSize | .pointerPressed _ _ | .touchDown _ _ => True
  | _ => False

theorem Op.Fits.inWord (h : op.Fits) : op.InWord := by
  cases op with
  | configureToplevel width height states => exact h.1 _ rfl
  | _ => trivial

/-! ## What a window is given -/

/-- The options, and the size of the video. -/
def given (w : Window) : WindowOptions × Size := (w.options, w.videoSize)

theorem reconfig_given {width height : Int} (h : w.reconfig width height = .ok v) :
    v.given = (w.options, (width, height)) := by
  obtain ⟨sized, hn, h⟩ := bind_eq_ok.1 h
  obtain ⟨_, _, rfl, -⟩ := setNaturalSize_ok hn
  obtain ⟨taken, ht, h⟩ := bind_eq_ok.1 h
  obtain ⟨_, hr, -⟩ := resetWindowSize_eq _
  rw [hr] at ht
  obtain ⟨_, hd⟩ := requestDesired_eq taken
  rw [hd] at h
  rw [← pure_eq_ok.1 h]
  rcases takeWindowSize_ok ht with ⟨-, rfl⟩ | ⟨-, -, rfl⟩ <;> rfl

theorem setWindowSize_given {width height : Int} (h : w.setWindowSize width height = .ok v) :
    v.given = ({ w.options with width, height }, w.videoSize) := by
  rcases setWindowSize_ok h with rfl | ⟨_, _, _, _, rfl, -⟩ <;> rfl

theorem given_of_without {d : Disregard} (h : without d v = without d w) : v.given = w.given := by
  have hgiven := congrArg given h
  cases d <;> exact hgiven

/-- The operation gives the window a size: the video's, or one asked for. -/
def Op.IsSizing : Op → Prop
  | .reconfig _ _ | .setWindowSize _ _ => True
  | _ => False

theorem step_given (h : w.step op = .ok (v, r)) (hop : ¬ op.IsSizing) : v.given = w.given := by
  by_cases haside : op.isAside .decoration = true
  · obtain ⟨v', r', hstep, hsame⟩ := step_aside haside w
    obtain ⟨rfl, -⟩ := Prod.mk.inj (Except.ok.inj (hstep.symm.trans h))
    exact given_of_without hsame
  · cases op with
    | reconfig width height => exact absurd trivial hop
    | setWindowSize width height => exact absurd trivial hop
    | attachOutput scale =>
      obtain ⟨rfl, -⟩ := Prod.mk.inj (pure_eq_ok.1 h)
      obtain ⟨_, _, _, _, _, ha⟩ := attachOutput_eq w scale
      exact (congrArg given ha).trans rfl
    | surfaceEntered scale areaChanged =>
      obtain ⟨u, hu, h⟩ := bind_eq_ok.1 h
      obtain ⟨rfl, -⟩ := Prod.mk.inj (pure_eq_ok.1 h)
      obtain ⟨_, _, _, _, _, rfl, -⟩ := surfaceEntered_ok hu
      rfl
    | outputDone isCurrent scale =>
      obtain ⟨u, hu, h⟩ := bind_eq_ok.1 h
      obtain ⟨rfl, -⟩ := Prod.mk.inj (pure_eq_ok.1 h)
      obtain ⟨_, _, _, _, _, rfl, -⟩ := outputDone_ok hu
      rfl
    | configureSurface =>
      obtain ⟨⟨activated, u⟩, hu, h⟩ := bind_eq_ok.1 h
      obtain ⟨rfl, -⟩ := Prod.mk.inj (pure_eq_ok.1 h)
      rcases configureSurface_ok hu with ⟨-, rfl⟩ | ⟨c, -, ⟨-, rfl⟩ | ⟨-, rfl⟩⟩
      · rfl
      · rfl
      · obtain ⟨_, _, _, _, _, _, _, _, hc⟩ := afterConfigure_eq { w with pending := none } c
        rw [hc]
        rfl
    | setFullscreen on =>
      obtain ⟨rfl, -⟩ := Prod.mk.inj (pure_eq_ok.1 h)
      rcases setFullscreen_cases w on with ⟨-, hf⟩ | ⟨-, hf⟩ <;> exact (congrArg given hf).trans rfl
    | setMaximized on =>
      obtain ⟨rfl, -⟩ := Prod.mk.inj (pure_eq_ok.1 h)
      rcases setMaximized_cases w on with ⟨-, hm⟩ | ⟨-, hm⟩ <;> exact (congrArg given hm).trans rfl
    | setUnfullscreenSize width height =>
      obtain ⟨u, hu, h⟩ := bind_eq_ok.1 h
      obtain ⟨rfl, -⟩ := Prod.mk.inj (pure_eq_ok.1 h)
      obtain ⟨windowSize, -, ⟨-, rfl⟩ | ⟨-, rfl⟩ | ⟨-, _, _, rfl⟩⟩ := setUnfullscreenSize_ok hu
      · rfl
      · rcases setMaximized_cases { w with windowSize } false with ⟨-, hm⟩ | ⟨-, hm⟩ <;>
          exact (congrArg given hm).trans rfl
      · rfl
    | unfullscreenSize =>
      obtain ⟨size, -, h⟩ := bind_eq_ok.1 h
      obtain ⟨rfl, -⟩ := Prod.mk.inj (pure_eq_ok.1 h)
      rfl
    | pointerPressed x y =>
      obtain ⟨request, -, h⟩ := bind_eq_ok.1 h
      obtain ⟨rfl, -⟩ := Prod.mk.inj (pure_eq_ok.1 h)
      rfl
    | touchDown x y =>
      obtain ⟨request, -, h⟩ := bind_eq_ok.1 h
      obtain ⟨rfl, -⟩ := Prod.mk.inj (pure_eq_ok.1 h)
      rfl
    | _ =>
      first
      | exact absurd rfl haside
      | obtain ⟨rfl, -⟩ := Prod.mk.inj (pure_eq_ok.1 h)
        rfl

/-! ## Windows whose sizes are in the word -/

/-- All that a window takes sizes from is in the word, and it never divides by a scale of zero. -/
structure Sound (w : Window) : Prop where
  options : w.options.InWord
  videoSize : w.videoSize.InWord
  scaling : Word.int32.Holds w.scaling
  scaling_pos : 1 ≤ w.scaling
  measured : w.Measured
  naturalSize : w.naturalSize.AtOrigin
  pending : ∀ c, w.pending = some c → c.InWord

theorem new_sound {options : WindowOptions} (h : options.InWord) : (new options).Sound where
  options := h
  videoSize := show Size.InWord (0, 0) by decide
  scaling := show Word.int32.Holds 1 by decide
  scaling_pos := le_rfl
  measured := new_measured options
  naturalSize := ⟨rfl, rfl⟩
  pending := fun _ => nofun

theorem one_le_targetScaling (w : Window) (outputScale : Int) :
    1 ≤ w.targetScaling outputScale := by
  unfold targetScaling
  split_ifs
  · exact le_max_right _ _
  · exact le_rfl

theorem targetScaling_holds {outputScale : Int} (h : Word.int32.Holds outputScale) (w : Window) :
    Word.int32.Holds (w.targetScaling outputScale) := by
  unfold targetScaling
  split_ifs
  · exact ⟨h.1.trans (le_max_left _ _), max_le h.2 (by decide)⟩
  · decide

/-- A new scale comes from the output that the operation tells of. -/
theorem step_scaling (h : w.step op = .ok (v, r)) :
    v.scaling = w.scaling ∨ ∃ scale ∈ op.outputScale?, v.scaling = w.targetScaling scale := by
  by_cases hop : op.IsRescaling
  · cases op with
    | attachOutput scale =>
      obtain ⟨rfl, -⟩ := Prod.mk.inj (pure_eq_ok.1 h)
      unfold attachOutput
      split_ifs
      · exact .inl rfl
      · exact .inr ⟨scale, rfl, rfl⟩
    | surfaceEntered scale areaChanged =>
      obtain ⟨u, hu, h⟩ := bind_eq_ok.1 h
      obtain ⟨rfl, -⟩ := Prod.mk.inj (pure_eq_ok.1 h)
      exact .inr ⟨scale, rfl, (Prod.mk.inj (surfaceEntered_scale hu)).1⟩
    | outputDone isCurrent scale =>
      obtain ⟨u, hu, h⟩ := bind_eq_ok.1 h
      obtain ⟨rfl, -⟩ := Prod.mk.inj (pure_eq_ok.1 h)
      cases isCurrent
      · rw [outputDone_of_not_current hu]
        exact .inl rfl
      · exact .inr ⟨scale, rfl, (Prod.mk.inj (outputDone_scale hu)).1⟩
    | _ => exact absurd hop id
  · exact .inl (scaleState_eq.1 (step_scaleState h hop)).1

theorem step_sound (h : w.step op = .ok (v, r)) (hw : w.Sound) (hop : op.Fits) : v.Sound := by
  obtain ⟨hmeasured, hnatural⟩ := step_measured h hw.measured hw.pending
  have hpending : ∀ c, v.pending = some c → c.InWord := by
    rw [(step_configures h).1]
    exact hop.inWord.waiting hw.pending
  obtain ⟨hoptions, hvideo⟩ : v.given.1.InWord ∧ v.given.2.InWord := by
    by_cases hsizing : op.IsSizing
    · cases op with
      | reconfig width height =>
        obtain ⟨u, hu, h⟩ := bind_eq_ok.1 h
        obtain ⟨rfl, -⟩ := Prod.mk.inj (pure_eq_ok.1 h)
        rw [reconfig_given hu]
        exact ⟨hw.options, hop.1 _ rfl⟩
      | setWindowSize width height =>
        obtain ⟨u, hu, h⟩ := bind_eq_ok.1 h
        obtain ⟨rfl, -⟩ := Prod.mk.inj (pure_eq_ok.1 h)
        rw [setWindowSize_given hu]
        exact ⟨⟨hop.1 _ rfl, hw.options.pointerReach, hw.options.touchReach⟩, hw.videoSize⟩
      | _ => exact absurd hsizing id
    · rw [step_given h hsizing]
      exact ⟨hw.options, hw.videoSize⟩
  obtain ⟨hscaling, hpos⟩ : Word.int32.Holds v.scaling ∧ 1 ≤ v.scaling := by
    rcases step_scaling h with hs | ⟨scale, hscale, hs⟩ <;> rw [hs]
    · exact ⟨hw.scaling, hw.scaling_pos⟩
    · exact ⟨targetScaling_holds (hop.2 scale hscale) w, one_le_targetScaling w scale⟩
  exact ⟨hoptions, hvideo, hscaling, hpos, hmeasured, hnatural hw.naturalSize, hpending⟩

theorem run_sound : ∀ {ops : List Op} {w v : Window}, run w ops = .ok v → (∀ op ∈ ops, op.Fits) →
    w.Sound → v.Sound
  | [], _, _, h, _, hw => pure_eq_ok.1 h ▸ hw
  | op :: ops, w, v, h, hops, hw => by
    obtain ⟨u, r, hstep, hrun⟩ := run_cons.1 h
    obtain ⟨hop, hrest⟩ := List.forall_mem_cons.1 hops
    exact run_sound hrun hrest (step_sound hstep hw hop)

/-! ## Results -/

theorem exists_setNaturalSize (hoptions : w.options.InWord) (hvideo : w.videoSize.InWord)
    (hscaling : 1 ≤ w.scaling) : ∃ v, w.setNaturalSize = .ok v := by
  have hpixels : w.pixelSize.InWord := by
    unfold pixelSize
    split_ifs
    · exact hoptions.size
    · exact hvideo
  rcases hsize : w.pixelSize with ⟨width, height⟩
  obtain ⟨hwidth, hheight⟩ : Size.InWord (width, height) := hsize ▸ hpixels
  obtain ⟨aspect, haspect⟩ := exists_reduceAspect hwidth hheight
  unfold setNaturalSize
  rw [hsize]
  dsimp only
  rw [haspect, ok_bind, Word.div_ok (by omega) (Word.int32_holds_tdiv hwidth hscaling), ok_bind,
    Word.div_ok (by omega) (Word.int32_holds_tdiv hheight hscaling), ok_bind]
  exact ⟨_, rfl⟩

theorem exists_takeWindowSize (hgeometry : w.geometry.Spans) : ∃ v, w.takeWindowSize = .ok v := by
  obtain ⟨empty, hempty⟩ := hgeometry.exists_isEmpty
  unfold takeWindowSize
  rw [hempty]
  split_ifs <;> exact ⟨_, rfl⟩

namespace Sound

theorem exists_surfaceEntered (hw : w.Sound) (outputScale : Int) (areaChanged : Bool) :
    ∃ v, w.surfaceEntered outputScale areaChanged = .ok v := by
  unfold surfaceEntered
  dsimp only
  cases areaChanged
  · exact ⟨_, rfl⟩
  · obtain ⟨sized, hsized⟩ : ∃ sized, (if w.targetScaling outputScale ≠ w.scaling then
        (w.setScaling outputScale).addEvents { scale := true } else w).setNaturalSize
          = .ok sized := by
      split_ifs
      · exact exists_setNaturalSize hw.options hw.videoSize (one_le_targetScaling w outputScale)
      · exact exists_setNaturalSize hw.options hw.videoSize hw.scaling_pos
    rw [if_pos rfl, hsized]
    exact ⟨_, rfl⟩

theorem exists_outputDone (hw : w.Sound) (isCurrent : Bool) (outputScale : Int) :
    ∃ v, w.outputDone isCurrent outputScale = .ok v := by
  unfold outputDone
  cases isCurrent
  · exact ⟨_, rfl⟩
  · obtain ⟨sized, hsized⟩ := exists_setNaturalSize (w := w.setScaling outputScale) hw.options
      hw.videoSize (one_le_targetScaling w outputScale)
    rw [if_pos rfl, hsized]
    exact ⟨_, rfl⟩

theorem exists_reconfig (hw : w.Sound) {width height : Int} (hsize : Size.InWord (width, height)) :
    ∃ v, w.reconfig width height = .ok v := by
  obtain ⟨sized, hsized⟩ := exists_setNaturalSize (w := { w with videoSize := (width, height) })
    hw.options hsize hw.scaling_pos
  obtain ⟨taken, htaken⟩ : ∃ taken, sized.resetWindowSize.takeWindowSize = .ok taken := by
    obtain ⟨_, hreset, -⟩ := resetWindowSize_eq sized
    obtain ⟨_, _, rfl, -⟩ := setNaturalSize_ok hsized
    rw [hreset]
    exact exists_takeWindowSize hw.measured.geometry
  unfold reconfig
  rw [hsized, ok_bind, htaken]
  exact ⟨_, rfl⟩

theorem exists_setWindowSize (hw : w.Sound) {width height : Int}
    (hsize : Size.InWord (width, height)) : ∃ v, w.setWindowSize width height = .ok v := by
  obtain ⟨sized, hsized⟩ :=
    exists_setNaturalSize (w := { w with options := { w.options with width, height } })
      ⟨hsize, hw.options.pointerReach, hw.options.touchReach⟩ hw.videoSize hw.scaling_pos
  unfold setWindowSize
  dsimp only
  rw [hsized]
  split_ifs <;> exact ⟨_, rfl⟩

theorem exists_setUnfullscreenSize (hw : w.Sound) {width height : Int}
    (hsize : Size.InWord (width, height)) : ∃ v, w.setUnfullscreenSize width height = .ok v := by
  have hscaling := hw.scaling_pos
  unfold setUnfullscreenSize
  rw [Word.div_ok (by omega) (Word.int32_holds_tdiv hsize.1 hscaling), ok_bind,
    Word.div_ok (by omega) (Word.int32_holds_tdiv hsize.2 hscaling), ok_bind]
  dsimp only
  split_ifs <;> exact ⟨_, rfl⟩

theorem exists_configureSurface (hw : w.Sound) : ∃ v, w.configureSurface = .ok v := by
  rcases hp : w.pending with _ | c
  · exact ⟨_, configureSurface_of_none hp⟩
  · obtain ⟨empty, hempty⟩ := hw.measured.geometry.exists_isEmpty
    unfold configureSurface
    rw [hp]
    dsimp only
    rw [applyConfigure_eq]
    dsimp only
    rw [hempty]
    exact ⟨_, rfl⟩

/-- Every operation has a result that is told of nothing beyond the word, if it is no reading. -/
theorem exists_step (hw : w.Sound) (hop : op.Fits) (hreading : ¬ op.IsReading) :
    ∃ v r, w.step op = .ok (v, r) := by
  cases op with
  | surfaceEntered scale areaChanged =>
    obtain ⟨v, hv⟩ := hw.exists_surfaceEntered scale areaChanged
    exact ⟨v, .none, bind_eq_ok.2 ⟨v, hv, rfl⟩⟩
  | outputDone isCurrent scale =>
    obtain ⟨v, hv⟩ := hw.exists_outputDone isCurrent scale
    exact ⟨v, .none, bind_eq_ok.2 ⟨v, hv, rfl⟩⟩
  | reconfig width height =>
    obtain ⟨v, hv⟩ := hw.exists_reconfig (hop.1 _ rfl)
    exact ⟨v, .none, bind_eq_ok.2 ⟨v, hv, rfl⟩⟩
  | setWindowSize width height =>
    obtain ⟨v, hv⟩ := hw.exists_setWindowSize (hop.1 _ rfl)
    exact ⟨v, .none, bind_eq_ok.2 ⟨v, hv, rfl⟩⟩
  | setUnfullscreenSize width height =>
    obtain ⟨v, hv⟩ := hw.exists_setUnfullscreenSize (hop.1 _ rfl)
    exact ⟨v, .none, bind_eq_ok.2 ⟨v, hv, rfl⟩⟩
  | configureSurface =>
    obtain ⟨⟨activated, v⟩, hv⟩ := hw.exists_configureSurface
    exact ⟨v, .flag activated, bind_eq_ok.2 ⟨(activated, v), hv, rfl⟩⟩
  | unfullscreenSize => exact absurd trivial hreading
  | pointerPressed x y => exact absurd trivial hreading
  | touchDown x y => exact absurd trivial hreading
  | _ => exact ⟨_, _, rfl⟩

/-- A press finds its edge where neither the sides of the window nor the reach are negative. -/
theorem exists_grab (hw : w.Sound) (hwidth : 0 ≤ w.geometry.x1) (hheight : 0 ≤ w.geometry.y1)
    {reach : Int} (hreach : 0 ≤ reach) (hreach' : Word.int32.Holds reach) (x y : Float) :
    ∃ request, w.grab x y reach = .ok request := by
  have hgeometry := hw.measured.geometry
  have hside : ∀ {side : Int}, 0 ≤ side → Word.int32.Holds side →
      Word.int32.Holds (side - reach) := fun h h' => by
    simp only [Word.Holds, Word.int32] at *
    omega
  unfold grab
  rw [hgeometry.width_eq, hgeometry.height_eq, ok_bind, ok_bind, Edge.near?,
    Edge.at?_eq (hside hwidth hgeometry.width) (hside hheight hgeometry.height), ok_bind]
  split_ifs
  · exact ⟨_, rfl⟩
  · split <;> exact ⟨_, rfl⟩

end Sound

/-- A history that is told of sizes in the word and reads nothing never stops. -/
theorem exists_run : ∀ {ops : List Op} {w : Window}, w.Sound →
    (∀ op ∈ ops, op.Fits ∧ ¬ op.IsReading) → ∃ v, run w ops = .ok v
  | [], w, _, _ => ⟨w, rfl⟩
  | op :: ops, w, hw, hops => by
    obtain ⟨⟨hop, hreading⟩, hrest⟩ := List.forall_mem_cons.1 hops
    obtain ⟨u, r, hstep⟩ := hw.exists_step hop hreading
    obtain ⟨v, hrun⟩ := exists_run (step_sound hstep hw hop) hrest
    exact ⟨v, run_cons.2 ⟨u, r, hstep, hrun⟩⟩

/-- In any history, of whatever scales, bounds and sizes, the scale stays positive and the
rectangles at the origin. So every operation but the readings has a result, and a press has one
where the window shown and the zone of that press have no negative side. -/
theorem exists_step_of_run {options : WindowOptions} (hoptions : options.InWord)
    (hops : ∀ op ∈ ops, op.Fits) (h : run (new options) ops = .ok w) :
    1 ≤ w.scaling ∧ w.geometry.AtOrigin ∧ w.windowSize.AtOrigin ∧ w.naturalSize.AtOrigin
    ∧ (∀ op : Op, op.Fits → ¬ op.IsReading → ∃ v r, w.step op = .ok (v, r))
    ∧ ∃ width height, w.geometry.size = .ok (width, height)
      ∧ (0 ≤ width → 0 ≤ height → ∀ x y,
        (0 ≤ w.options.pointerReach → ∃ r, w.step (.pointerPressed x y) = .ok (w, r))
        ∧ (0 ≤ w.options.touchReach → ∃ r, w.step (.touchDown x y) = .ok (w, r))) := by
  have hw : w.Sound := run_sound h hops (new_sound hoptions)
  have hgeometry := hw.measured.geometry
  refine ⟨hw.scaling_pos, hgeometry.atOrigin, hw.measured.windowSize.atOrigin, hw.naturalSize,
    fun op => hw.exists_step, w.geometry.x1, w.geometry.y1, ?_, fun hwidth hheight x y => ⟨?_, ?_⟩⟩
  · rw [Rect.size, hgeometry.width_eq, hgeometry.height_eq]
    rfl
  · intro hreach
    obtain ⟨request, hgrab⟩ := hw.exists_grab hwidth hheight hreach hw.options.pointerReach x y
    obtain ⟨answer, hanswer⟩ : ∃ answer, w.pointerPressed x y = .ok answer := by
      unfold pointerPressed
      rw [hgrab]
      split_ifs <;> exact ⟨_, rfl⟩
    exact ⟨.request answer, bind_eq_ok.2 ⟨answer, hanswer, rfl⟩⟩
  · intro hreach
    obtain ⟨request, hgrab⟩ := hw.exists_grab hwidth hheight hreach hw.options.touchReach x y
    exact ⟨.request (some request), bind_eq_ok.2 ⟨request, hgrab, rfl⟩⟩

/-- Sizes and scales at the ends of the word. -/
def extremes : List Op :=
  [.attachOutput (-2147483648), .reconfig (-2147483648) 2147483647,
    .configureToplevel (-2147483648) (-1) [], .configureSurface, .surfaceEntered 2147483647 true,
    .configureBounds (-1) 1, .setUnfullscreenSize 2147483647 (-2147483648)]

theorem exists_step_of_run_extremes : ∃ w, run (new {}) extremes = .ok w
    ∧ w.geometry = .ofSize 1 (-1)
    ∧ ∃ v r, w.step (.outputDone true (-2147483648)) = .ok (v, r) := by
  have hops : ∀ op ∈ extremes, op.Fits := by decide
  obtain ⟨w, hw, hgeometry⟩ : ∃ w, run (new {}) extremes = .ok w
      ∧ w.geometry = .ofSize 1 (-1) := by
    decide +kernel
  obtain ⟨-, -, -, -, hstep, -⟩ :=
    exists_step_of_run ⟨by decide, by decide, by decide⟩ hops hw
  exact ⟨w, hw, hgeometry, hstep (.outputDone true (-2147483648)) (by decide) id⟩

end Window

end VideoOutput
