import VideoOutput.Proofs.Window.Modes
import VideoOutput.Proofs.Window.Rectangles

/-!
# A configure given twice

A window that acknowledged a configure obeys it (`afterConfigure_obeys`), and a window that obeys a
configure is not changed by it, but for a decoration mode in flight, which is asked for once more
(`Obeys.afterConfigure`). So the same configure again comes to nothing (`acknowledge_again`). That
it is acknowledged at all needs sides that can be read, which the rectangles of every window in a
history have (`run_measured`).
-/

namespace VideoOutput

/-- The size is in the word. -/
def PendingConfigure.InWord (c : PendingConfigure) : Prop :=
  Word.int32.Holds c.width ∧ Word.int32.Holds c.height

namespace WindowEvents

theorem union_none (e : WindowEvents) : e ∪ {} = e := by
  simp [Union.union, union]

theorem union_resize {e : WindowEvents} (h : e.resize = true) : e ∪ { resize := true } = e := by
  simp [Union.union, union, ← h]

end WindowEvents

namespace Window

variable {w v : Window} {op : Op} {ops : List Op} {c : PendingConfigure}
  {previous : Size} {width height : Int}

/-! ## Windows that obey a configure -/

/-- What the configure says is in force. Nothing is left to be done where the window floats, and a
configure without a size has had the window laid out. -/
structure Obeys (w : Window) (c : PendingConfigure) : Prop where
  toplevelSize : w.toplevelSize = c.size
  fullscreen : w.fullscreen = .settled c.states.isFullscreen
  maximized : w.maximized = .settled c.states.isMaximized
  activated : w.activated = c.states.isActivated
  minimized : w.minimized = (w.minimized && !c.states.isActivated)
  settled : w.isFilling = false → w.stateChange = false
  floating : c.width = 0 ∨ c.height = 0 → w.isFilling = false → w.geometry = w.windowSize
  resized : c.width = 0 ∨ c.height = 0 → w.events.resize = true

/-- A window that has taken a size has nothing left to do where it floats. -/
theorem applySize_settled (w : Window) (previous : Size) (width height : Int)
    (hfloats : (w.applySize previous width height).1.isFilling = false) :
    (w.applySize previous width height).1.stateChange = false
      ∧ (width = 0 ∨ height = 0 → (w.applySize previous width height).1.geometry
        = (w.applySize previous width height).1.windowSize) := by
  obtain ⟨_, _, _, hz⟩ := applySize_eq w previous width height
  have hw : w.isFilling = false := by
    rw [hz] at hfloats
    exact hfloats
  unfold applySize
  simp only [hw, Bool.not_false, Bool.and_true, if_true]
  split_ifs with hchange hnone hsame
  · exact ⟨rfl, fun _ => rfl⟩
  · exact ⟨Bool.not_eq_true _ ▸ hchange, fun _ => rfl⟩
  · exact ⟨Bool.not_eq_true _ ▸ hchange, fun h => absurd h hnone⟩
  · exact ⟨Bool.not_eq_true _ ▸ hchange, fun h => absurd h hnone⟩

/-- A configure that leaves the size to the window has it laid out. -/
theorem applySize_resized (w : Window) (previous : Size) (hnone : width = 0 ∨ height = 0) :
    (w.applySize previous width height).2 = true := by
  unfold applySize
  dsimp only
  rw [if_pos hnone]
  split_ifs <;> rfl

theorem afterConfigure_obeys (w : Window) (c : PendingConfigure) :
    (w.afterConfigure c).Obeys c := by
  have hmodes := w.afterConfigure_modes c
  have hsettled := applySize_settled (w.afterStates c) w.toplevelSize c.width c.height
  have hminimized : (w.afterStates c).minimized = (w.minimized && !c.states.isActivated) := by
    rw [afterStates, applyActivation_eq]
    rfl
  obtain ⟨_, _, _, _, _, _, _, _, hc⟩ := afterConfigure_eq w c
  refine ⟨by rw [hc], by rw [hc], by rw [hc], congrArg Modes.activated hmodes, ?_,
    fun hfloats => (hsettled hfloats).1, fun hnone hfloats => (hsettled hfloats).2 hnone, ?_⟩
  · obtain ⟨_, _, _, hz⟩ := applySize_eq (w.afterStates c) w.toplevelSize c.width c.height
    have hkept : (w.afterConfigure c).minimized = (w.afterStates c).minimized := by
      unfold afterConfigure
      dsimp only
      rw [hz]
      rfl
    rw [hkept, hminimized, Bool.and_assoc, Bool.and_self]
  · intro hnone
    have hevents : (w.afterConfigure c).events.resize
        = (((w.afterStates c).applySize w.toplevelSize c.width c.height).1.events.resize
          || ((w.afterStates c).applySize w.toplevelSize c.width c.height).2) := rfl
    rw [hevents, applySize_resized _ _ hnone, Bool.or_true]

namespace Obeys

/-- What waits, the phase and the requests are nothing that a configure decides. -/
theorem aside (h : w.Obeys c) (pending : Option PendingConfigure) (phase : Phase)
    (requests : List ShellRequest) : Obeys { w with pending, phase, requests } c :=
  ⟨h.toplevelSize, h.fullscreen, h.maximized, h.activated, h.minimized, h.settled, h.floating,
    h.resized⟩

theorem applySize (h : w.Obeys c) :
    w.applySize w.toplevelSize c.width c.height = (w, decide (c.width = 0 ∨ c.height = 0)) := by
  have hsize : w.toplevelSize = (c.width, c.height) := h.toplevelSize
  cases hfilling : w.isFilling
  · have hgeometry (hnone : c.width = 0 ∨ c.height = 0) : { w with geometry := w.windowSize } = w :=
      congrArg (fun geometry => { w with geometry }) (h.floating hnone hfilling).symm
    have hdone : ¬ (w.stateChange && !w.isFilling) = true := by
      rw [h.settled hfilling]
      exact Bool.false_ne_true
    unfold Window.applySize
    dsimp only
    rw [if_neg hdone, hfilling, Bool.not_false, if_pos rfl]
    split_ifs with hnone
    · rw [hgeometry hnone, decide_eq_true hnone]
    · rw [decide_eq_false hnone]
  · rw [applySize_of_filling hfilling]
    split_ifs with hnone
    · rw [decide_eq_true hnone]
    · rw [decide_eq_false hnone]

theorem afterStates (h : w.Obeys c) : w.afterStates c = { w with
    requests := w.requests
      ++ (w.decoration.requested.map ShellRequest.setDecorationMode).toList } := by
  unfold Window.afterStates applyStates applyActivation
  dsimp only
  rw [if_pos h.activated, ← h.minimized, Negotiated.confirm, Negotiated.confirm, ← h.fullscreen,
    ← h.maximized, ← h.toplevelSize, h.fullscreen, h.maximized]
  simp [Negotiated.desired, Negotiated.settled]

/-- The window is left as it is, and a decoration mode in flight is asked for again. -/
theorem afterConfigure (h : w.Obeys c) : w.afterConfigure c = { w with
    requests := w.requests
      ++ (w.decoration.requested.map ShellRequest.setDecorationMode).toList } := by
  unfold Window.afterConfigure
  rw [h.afterStates]
  generalize w.decoration.requested.map ShellRequest.setDecorationMode = again
  have hsize := (h.aside w.pending w.phase (w.requests ++ again.toList)).applySize
  dsimp only at hsize ⊢
  rw [hsize]
  by_cases hnone : c.width = 0 ∨ c.height = 0
  · rw [decide_eq_true hnone, addEvents, WindowEvents.union_resize (h.resized hnone)]
  · rw [decide_eq_false hnone, addEvents, WindowEvents.union_none]

end Obeys

/-! ## Acknowledgements -/

/-- The configure comes in, and the sequence ends with it. -/
def acknowledge (w : Window) (c : PendingConfigure) : Except ArithmeticFault (Bool × Window) :=
  (w.configureToplevel c.width c.height c.states).configureSurface

/-- A window that shows nothing takes the size of the configure for the last one it was given. -/
def afterSize (w : Window) (c : PendingConfigure) : Window :=
  { w with pending := none, toplevelSize := c.size, phase := .steady }

/-- The configure has taken effect, and nothing waits. -/
def afterAcknowledge (w : Window) (c : PendingConfigure) : Window :=
  { afterConfigure { w with pending := none, phase := .configuring } c with phase := .steady }

theorem acknowledge_of_empty (hempty : w.geometry.isEmpty = .ok true) :
    w.acknowledge c = .ok (false, w.afterSize c) := by
  unfold acknowledge configureSurface configureToplevel
  dsimp only
  rw [applyConfigure_eq]
  dsimp only
  rw [hempty, ok_bind]
  simp only [if_true, Bool.not_and_self, pure_bind]
  rfl

theorem acknowledge_of_shown (hshown : w.geometry.isEmpty = .ok false) :
    w.acknowledge c = .ok (!w.activated && c.states.isActivated, w.afterAcknowledge c) := by
  have hactivated := congrArg Modes.activated
    (afterConfigure_modes { w with pending := none, phase := .configuring } c)
  unfold acknowledge configureSurface configureToplevel
  dsimp only
  rw [applyConfigure_eq]
  dsimp only
  rw [hshown, show c.states.isActivated = _ from hactivated.symm]
  rfl

theorem afterAcknowledge_obeys (w : Window) (c : PendingConfigure) :
    (w.afterAcknowledge c).Obeys c :=
  (afterConfigure_obeys { w with pending := none, phase := .configuring } c).aside _ .steady _

theorem afterAcknowledge_pending (w : Window) (c : PendingConfigure) :
    (w.afterAcknowledge c).pending = none := by
  obtain ⟨_, _, _, _, _, _, _, _, hc⟩ :=
    afterConfigure_eq { w with pending := none, phase := .configuring } c
  rw [afterAcknowledge, hc]

theorem Obeys.afterAcknowledge (h : w.Obeys c) (hpending : w.pending = none)
    (hphase : w.phase = .steady) : w.afterAcknowledge c = { w with
      requests := w.requests
        ++ (w.decoration.requested.map ShellRequest.setDecorationMode).toList } := by
  have hwaits := h.aside none .configuring w.requests
  rw [Window.afterAcknowledge, hwaits.afterConfigure, hpending, hphase]

/-! ## Rectangles that can be measured -/

/-- The sides of both rectangles can be read. -/
structure Measured (w : Window) : Prop where
  geometry : w.geometry.Spans
  windowSize : w.windowSize.Spans

/-- The size that the operation tells of is in the word, where it is a configure. -/
def Op.InWord : Op → Prop
  | .configureToplevel width height states => PendingConfigure.InWord ⟨width, height, states⟩
  | _ => True

theorem new_measured (options : WindowOptions) : (new options).Measured :=
  ⟨Rect.ofSize_spans (by decide) (by decide), Rect.ofSize_spans (by decide) (by decide)⟩

theorem aspectSize_spans (hwidth : Word.int32.Holds width) (hheight : Word.int32.Holds height)
    (w : Window) :
    (Rect.ofSize (w.aspectSize width height).1 (w.aspectSize width height).2).Spans := by
  unfold aspectSize
  split_ifs
  · exact Rect.ofSize_spans (Word.int32_holds_ceil _) (Word.int32_holds_ceil _)
  · exact Rect.ofSize_spans (Word.int32_holds_ceil _) hheight
  · exact Rect.ofSize_spans hwidth hheight

namespace Measured

theorem applySize (hw : w.Measured) (hwidth : Word.int32.Holds width)
    (hheight : Word.int32.Holds height) (previous : Size) :
    (w.applySize previous width height).1.Measured := by
  have haspect := aspectSize_spans hwidth hheight w
  unfold Window.applySize
  cases hfilling : w.isFilling
  · simp only [Bool.not_false, if_true]
    split_ifs
    · exact ⟨hw.windowSize, hw.windowSize⟩
    · exact ⟨hw.windowSize, hw.windowSize⟩
    · exact hw
    · exact ⟨haspect, haspect⟩
  · simp only [Bool.not_true, Bool.and_false, Bool.false_eq_true, if_false]
    split_ifs
    · exact hw
    · exact hw
    · exact ⟨Rect.ofSize_spans hwidth hheight, hw.windowSize⟩

theorem afterConfigure (hw : w.Measured) (hc : c.InWord) : (w.afterConfigure c).Measured := by
  have hstates : (w.afterStates c).Measured := by
    obtain ⟨_, _, _, _, _, hs⟩ := afterStates_eq w c
    rw [hs]
    exact ⟨hw.geometry, hw.windowSize⟩
  obtain ⟨hgeometry, hsize⟩ := hstates.applySize hc.1 hc.2 w.toplevelSize
  exact ⟨hgeometry, hsize⟩

theorem afterAcknowledge (hw : w.Measured) (hc : c.InWord) : (w.afterAcknowledge c).Measured := by
  obtain ⟨hgeometry, hsize⟩ :=
    afterConfigure (w := { w with pending := none, phase := .configuring })
      ⟨hw.geometry, hw.windowSize⟩ hc
  exact ⟨hgeometry, hsize⟩

theorem rescaled (hw : w.Measured) (h : Rescaled w v) : v.Measured := by
  refine ⟨h.geometry ▸ hw.geometry, ?_⟩
  rcases h.windowSize with hsize | hsize <;> rw [hsize]
  · exact hw.windowSize
  · exact hw.windowSize.atOrigin.spans_scaleExtent _

theorem still (hw : w.Measured) (h : Still w v) : v.Measured :=
  ⟨h.geometry ▸ hw.geometry, h.windowSize ▸ hw.windowSize⟩

end Measured

/-- The natural size is no part of what is measured, but it starts at the origin too. -/
theorem step_measured {r : Reply} (h : w.step op = .ok (v, r)) (hw : w.Measured)
    (hpending : ∀ c, w.pending = some c → c.InWord) :
    v.Measured ∧ (w.naturalSize.AtOrigin → v.naturalSize.AtOrigin) := by
  cases op with
  | reconfig width height =>
    obtain ⟨u, hu, h⟩ := bind_eq_ok.1 h
    obtain ⟨rfl, -⟩ := Prod.mk.inj (pure_eq_ok.1 h)
    obtain ⟨_, _, _, _, _, _, _, _, rfl, -, hnatural, hwindow, -, hgeometry⟩ := reconfig_ok hu
    rcases hgeometry with ⟨-, rfl⟩ | ⟨-, -, rfl⟩
    · exact ⟨⟨hwindow, hwindow⟩, fun _ => hnatural.atOrigin⟩
    · exact ⟨⟨hw.geometry, hwindow⟩, fun _ => hnatural.atOrigin⟩
  | configureSurface =>
    obtain ⟨⟨activated, u⟩, hu, h⟩ := bind_eq_ok.1 h
    obtain ⟨rfl, -⟩ := Prod.mk.inj (pure_eq_ok.1 h)
    rcases configureSurface_ok hu with ⟨-, rfl⟩ | ⟨c, hc, ⟨-, rfl⟩ | ⟨-, rfl⟩⟩
    · exact ⟨⟨hw.geometry, hw.windowSize⟩, id⟩
    · exact ⟨⟨hw.geometry, hw.windowSize⟩, id⟩
    · obtain ⟨hgeometry, hsize⟩ := Measured.afterConfigure (w := { w with pending := none })
        ⟨hw.geometry, hw.windowSize⟩ (hpending c hc)
      obtain ⟨_, _, _, _, _, _, _, _, ha⟩ := afterConfigure_eq { w with pending := none } c
      rw [ha] at hgeometry hsize ⊢
      exact ⟨⟨hgeometry, hsize⟩, id⟩
  | setFullscreen on =>
    obtain ⟨rfl, -⟩ := Prod.mk.inj (pure_eq_ok.1 h)
    rcases setFullscreen_cases w on with ⟨-, hf⟩ | ⟨-, hf⟩ <;> rw [hf]
    · exact ⟨hw, id⟩
    · exact ⟨⟨hw.geometry, hw.windowSize⟩, id⟩
  | setMaximized on =>
    obtain ⟨rfl, -⟩ := Prod.mk.inj (pure_eq_ok.1 h)
    rcases setMaximized_cases w on with ⟨-, hm⟩ | ⟨-, hm⟩ <;> rw [hm]
    · exact ⟨hw, id⟩
    · exact ⟨⟨hw.geometry, hw.windowSize⟩, id⟩
  | setWindowSize width height =>
    obtain ⟨u, hu, h⟩ := bind_eq_ok.1 h
    obtain ⟨rfl, -⟩ := Prod.mk.inj (pure_eq_ok.1 h)
    rcases setWindowSize_ok hu with rfl | ⟨_, _, _, _, rfl, -, hnatural⟩
    · exact ⟨⟨hw.geometry, hw.windowSize⟩, id⟩
    · refine ⟨⟨?_, hnatural⟩, fun _ => hnatural.atOrigin⟩
      dsimp only
      split_ifs
      · exact hw.geometry
      · exact hnatural
  | setUnfullscreenSize width height =>
    obtain ⟨u, hu, h⟩ := bind_eq_ok.1 h
    obtain ⟨rfl, -⟩ := Prod.mk.inj (pure_eq_ok.1 h)
    obtain ⟨windowSize, hsize, ⟨-, rfl⟩ | ⟨-, rfl⟩ | ⟨-, _, _, rfl⟩⟩ := setUnfullscreenSize_ok hu
    · exact ⟨⟨hw.geometry, hsize⟩, id⟩
    · rcases setMaximized_cases { w with windowSize } false with ⟨-, hm⟩ | ⟨-, hm⟩ <;> rw [hm] <;>
        exact ⟨⟨hw.geometry, hsize⟩, id⟩
    · exact ⟨⟨hsize, hsize⟩, id⟩
  | attachOutput scale =>
    have hv := step_rescaled h trivial
    exact ⟨hw.rescaled hv, hv.naturalSize⟩
  | surfaceEntered scale areaChanged =>
    have hv := step_rescaled h trivial
    exact ⟨hw.rescaled hv, hv.naturalSize⟩
  | outputDone isCurrent scale =>
    have hv := step_rescaled h trivial
    exact ⟨hw.rescaled hv, hv.naturalSize⟩
  | _ =>
    have hv := step_still h trivial
    exact ⟨hw.still hv, fun hnatural => hv.naturalSize ▸ hnatural⟩

/-- A configure that waits came in as an operation. -/
theorem Op.InWord.waiting (hop : op.InWord) {waiting : Option PendingConfigure}
    (hwaiting : ∀ c, waiting = some c → c.InWord) :
    ∀ c, op.waiting waiting = some c → c.InWord := by
  by_cases hconfigure : op.IsConfigure
  · cases op with
    | configureToplevel width height states =>
      rintro _ ⟨⟩
      exact hop
    | configureSurface => exact nofun
    | _ => exact absurd hconfigure id
  · rw [Op.waiting_of_not_isConfigure hconfigure]
    exact hwaiting

/-- In a history whose configures are of sizes in the word the window can always be measured. -/
theorem run_measured : ∀ {ops : List Op} {w v : Window}, run w ops = .ok v →
    (∀ op ∈ ops, op.InWord) → (∀ c, w.pending = some c → c.InWord) → w.Measured → v.Measured
  | [], _, _, h, _, _, hw => by
    obtain rfl := pure_eq_ok.1 h
    exact hw
  | op :: ops, w, v, h, hops, hpending, hw => by
    obtain ⟨u, r, hstep, hrun⟩ := run_cons.1 h
    obtain ⟨hop, hrest⟩ := List.forall_mem_cons.1 hops
    refine run_measured hrun hrest ?_ (step_measured hstep hw hpending).1
    rw [(step_configures hstep).1]
    exact hop.waiting hpending

/-- A configure that is acknowledged twice in a row is not news the second time: the window does
not come to be activated, and nothing is changed but that a decoration mode in flight is asked for
once more. Every window can acknowledge one that has a history of configures in the word. -/
theorem acknowledge_again :
    (∀ (w : Window) (c : PendingConfigure), w.Measured → c.InWord →
      ∃ activated v,
        (w.configureToplevel c.width c.height c.states).configureSurface = .ok (activated, v)
        ∧ (v.configureToplevel c.width c.height c.states).configureSurface
          = .ok (false, { v with
            requests := v.requests ++
              if v.geometry.isEmpty = .ok false then
                (v.decoration.requested.map ShellRequest.setDecorationMode).toList
              else [] }))
    ∧ ∀ (options : WindowOptions) (ops : List Op) (w : Window), (∀ op ∈ ops, op.InWord) →
      run (new options) ops = .ok w → w.Measured := by
  refine ⟨fun w c hw hc => ?_,
    fun options ops w hops hrun => run_measured hrun hops (fun _ => nofun) (new_measured options)⟩
  obtain ⟨_ | _, hempty⟩ := hw.geometry.exists_isEmpty
  · refine ⟨_, _, acknowledge_of_shown hempty, ?_⟩
    have hobeys := w.afterAcknowledge_obeys c
    -- a configure that took effect may have left nothing to show; the next one is then only noted
    obtain ⟨_ | _, hagain⟩ := (hw.afterAcknowledge hc).geometry.exists_isEmpty
    · rw [if_pos hagain, ← hobeys.afterAcknowledge (w.afterAcknowledge_pending c) rfl]
      refine (acknowledge_of_shown hagain).trans ?_
      rw [hobeys.activated, Bool.not_and_self]
    · rw [hagain, if_neg (by decide), List.append_nil]
      refine (acknowledge_of_empty hagain).trans ?_
      rw [afterSize, ← hobeys.toplevelSize, ← w.afterAcknowledge_pending c]
      rfl
  · refine ⟨_, _, acknowledge_of_empty hempty, ?_⟩
    have hagain : (w.afterSize c).geometry.isEmpty = .ok true := hempty
    rw [hagain, if_neg (by decide), List.append_nil]
    exact acknowledge_of_empty hagain

/-- The compositor has not answered the border, and makes the window fullscreen twice. -/
theorem acknowledge_again_in_flight : ∃ w v,
    run (new {}) [.initDecorations true, .reconfig 640 480] = .ok w
    ∧ (w.configureToplevel 1280 720 [.fullscreen, .activated]).configureSurface = .ok (true, v)
    ∧ (v.configureToplevel 1280 720 [.fullscreen, .activated]).configureSurface
      = .ok (false, { v with requests := v.requests ++ [.setDecorationMode .serverSide] }) := by
  obtain ⟨w, hw, ⟨_, v⟩, hv, rfl, hshown, hmode⟩ : ∃ w,
      run (new {}) [.initDecorations true, .reconfig 640 480] = .ok w
      ∧ ∃ u, (w.configureToplevel 1280 720 [.fullscreen, .activated]).configureSurface = .ok u
        ∧ u.1 = true ∧ u.2.geometry.isEmpty = .ok false
        ∧ u.2.decoration.requested = some .serverSide := by
    decide +kernel
  obtain ⟨_, _, hfirst, hsecond⟩ := acknowledge_again.1 w ⟨1280, 720, [.fullscreen, .activated]⟩
    (acknowledge_again.2 {} _ w (by simp [Op.InWord]) hw) ⟨by decide, by decide⟩
  obtain ⟨rfl, rfl⟩ := Prod.mk.inj (Except.ok.inj (hv.symm.trans hfirst))
  rw [if_pos hshown, hmode] at hsecond
  exact ⟨w, v, hw, hv, hsecond⟩

end Window

end VideoOutput
