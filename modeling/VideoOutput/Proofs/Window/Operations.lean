import VideoOutput.Proofs.Geometry.Aspect
import VideoOutput.Window.Op

/-!
# What the operations on a window write

Every operation is described by the fields it writes (`…_eq`, `…_ok`, `…_cases`); the fields it does
not name stay the window's own. A configure that takes effect is `afterConfigure`, and
`configureSurface_ok` says when that is: where a configure waits and the window shows something.
-/

namespace VideoOutput

namespace PendingConfigure

def size (c : PendingConfigure) : Size := (c.width, c.height)

/-- The configure makes the window fullscreen or maximized, so its size is the compositor's. -/
def Fills (c : PendingConfigure) : Prop :=
  c.states.isFullscreen = true ∨ c.states.isMaximized = true

instance (c : PendingConfigure) : Decidable c.Fills := by unfold Fills; infer_instance

end PendingConfigure

/-- The near corner is the origin. -/
def Rect.AtOrigin (r : Rect) : Prop := r.x0 = 0 ∧ r.y0 = 0

theorem Rect.ofSize_atOrigin (width height : Int) : (Rect.ofSize width height).AtOrigin :=
  ⟨rfl, rfl⟩

theorem Rect.AtOrigin.scaleExtent {r : Rect} (h : r.AtOrigin) (factor : Float) :
    (r.scaleExtent factor).AtOrigin := h

/-- The near corner is the origin, and the far one is in the word. -/
structure Rect.Spans (r : Rect) : Prop where
  atOrigin : r.AtOrigin
  width : Word.int32.Holds r.x1
  height : Word.int32.Holds r.y1

theorem Rect.ofSize_spans {width height : Int} (hwidth : Word.int32.Holds width)
    (hheight : Word.int32.Holds height) : (ofSize width height).Spans :=
  ⟨ofSize_atOrigin width height, hwidth, hheight⟩

theorem Rect.AtOrigin.spans_scaleExtent {r : Rect} (h : r.AtOrigin) (factor : Float) :
    (r.scaleExtent factor).Spans :=
  ⟨h.scaleExtent factor, Word.int32_holds_truncate _, Word.int32_holds_truncate _⟩

theorem Rect.Spans.width_eq {r : Rect} (h : r.Spans) : r.width = .ok r.x1 := by
  rw [Rect.width, h.atOrigin.1, Word.sub_ok (by rw [sub_zero]; exact h.width), sub_zero]

theorem Rect.Spans.height_eq {r : Rect} (h : r.Spans) : r.height = .ok r.y1 := by
  rw [Rect.height, h.atOrigin.2, Word.sub_ok (by rw [sub_zero]; exact h.height), sub_zero]

/-- The sides of the rectangle can be read. -/
theorem Rect.Spans.exists_isEmpty {r : Rect} (h : r.Spans) : ∃ empty, r.isEmpty = .ok empty := by
  unfold isEmpty
  rw [h.width_eq, h.height_eq, ok_bind]
  split_ifs <;> exact ⟨_, rfl⟩

/-- The phase after a local change. -/
def Phase.speculative : Phase → Phase
  | .steady => .configuring
  | phase => phase

namespace Window

variable {w v : Window}

/-- Fullscreen or maximized is wanted. -/
def wantsArea (w : Window) : Bool := w.fullscreen.desired || w.maximized.desired

theorem markSpeculative_eq (w : Window) :
    w.markSpeculative = { w with phase := w.phase.speculative } := by
  unfold markSpeculative
  split_ifs with h
  · rw [h]
    rfl
  · have hp : w.phase.speculative = w.phase := by
      cases hp : w.phase <;> simp_all [Phase.speculative]
    rw [hp]

theorem pushRequest_eq (w : Window) (request : ShellRequest) : w.pushRequest request
    = { w with requests := w.requests ++ [request], phase := w.phase.speculative } :=
  markSpeculative_eq _

theorem initDecorations_eq (w : Window) (available : Bool) : w.initDecorations available
    = { w with
        canDecorate := available
        decoration :=
          if available then w.decoration.request (.ofBorder w.options.border)
          else w.decoration.confirm .clientSide
        requests := w.requests ++
          if available then [.setDecorationMode (.ofBorder w.options.border)] else []
        phase := if available then w.phase.speculative else w.phase } := by
  unfold initDecorations
  cases available
  · simp
  · exact pushRequest_eq _ _

theorem setBorder_eq (w : Window) (on : Bool) : w.setBorder on
    = { w with
        decoration :=
          if w.canDecorate then w.decoration.request (.ofBorder on)
          else w.decoration.confirm .clientSide
        requests := w.requests ++
          if w.canDecorate then [.setDecorationMode (.ofBorder on)] else []
        phase := if w.canDecorate then w.phase.speculative else w.phase } := by
  unfold setBorder
  split_ifs
  · exact pushRequest_eq _ _
  · rw [List.append_nil]

theorem updateFocus_eq (w : Window) : w.updateFocus
    = { w with
        focused := w.activated && w.hasKeyboard
        events :=
          if (w.activated && w.hasKeyboard) = w.focused then w.events
          else w.events ∪ { focus := true } } := by
  unfold updateFocus
  dsimp only
  split_ifs with h
  · rw [h]
  · rfl

theorem keyboardFocus_idem (w : Window) (hasKeyboard : Bool) :
    (w.keyboardFocus hasKeyboard).keyboardFocus hasKeyboard = w.keyboardFocus hasKeyboard := by
  simp [keyboardFocus, updateFocus_eq]

/-- A call for what is wanted already does nothing. -/
theorem setFullscreen_cases (w : Window) (fullscreen : Bool) :
    (w.fullscreen.desired = fullscreen ∧ w.setFullscreen fullscreen = w)
    ∨ (w.fullscreen.desired ≠ fullscreen ∧ w.setFullscreen fullscreen
      = { w with
          fullscreen := w.fullscreen.request fullscreen
          stateChange := true
          requests := w.requests ++ [if fullscreen then .setFullscreen else .unsetFullscreen]
          phase := w.phase.speculative }) := by
  unfold setFullscreen
  by_cases h : w.fullscreen.desired = fullscreen
  · exact .inl ⟨h, if_pos h⟩
  · exact .inr ⟨h, (if_neg h).trans (pushRequest_eq _ _)⟩

theorem setMaximized_cases (w : Window) (maximized : Bool) :
    (w.maximized.desired = maximized ∧ w.setMaximized maximized = w)
    ∨ (w.maximized.desired ≠ maximized ∧ w.setMaximized maximized
      = { w with
          maximized := w.maximized.request maximized
          stateChange := true
          requests := w.requests ++ [if maximized then .setMaximized else .unsetMaximized]
          phase := w.phase.speculative }) := by
  unfold setMaximized
  by_cases h : w.maximized.desired = maximized
  · exact .inl ⟨h, if_pos h⟩
  · exact .inr ⟨h, (if_neg h).trans (pushRequest_eq _ _)⟩

theorem setMinimized_eq (w : Window) (minimized : Bool) :
    ∃ requests phase, w.setMinimized minimized = { w with minimized, requests, phase } := by
  unfold setMinimized
  cases minimized
  · exact ⟨_, _, rfl⟩
  · exact ⟨_, _, pushRequest_eq _ _⟩

theorem attachOutput_eq (w : Window) (outputScale : Int) :
    ∃ hasOutput scaling naturalSize windowSize events, w.attachOutput outputScale
      = { w with hasOutput, scaling, naturalSize, windowSize, events } := by
  unfold attachOutput
  split_ifs
  · exact ⟨_, _, _, _, _, rfl⟩
  · exact ⟨_, _, _, _, _, rfl⟩

/-- The aspect is taken anew, and from any size its sides come out positive. -/
theorem setNaturalSize_ok (h : w.setNaturalSize = .ok v) :
    ∃ aspect naturalSize, v = { w with aspect, naturalSize } ∧ Size.Positive aspect
      ∧ naturalSize.Spans := by
  obtain ⟨aspect, haspect, h⟩ := bind_eq_ok.1 h
  obtain ⟨scaledWidth, hwidth, h⟩ := bind_eq_ok.1 h
  obtain ⟨scaledHeight, hheight, h⟩ := bind_eq_ok.1 h
  exact ⟨_, _, (pure_eq_ok.1 h).symm, reduceAspect_pos haspect,
    Rect.ofSize_spans (Word.div_eq_ok hwidth).1 (Word.div_eq_ok hheight).1⟩

theorem surfaceEntered_ok {outputScale : Int} {areaChanged : Bool}
    (h : w.surfaceEntered outputScale areaChanged = .ok v) :
    ∃ scaling aspect naturalSize windowSize events,
      v = { w with scaling, aspect, naturalSize, windowSize, events }
      ∧ (aspect = w.aspect ∨ Size.Positive aspect) := by
  unfold surfaceEntered at h
  dsimp only at h
  generalize hs : (if w.targetScaling outputScale ≠ w.scaling then
    (w.setScaling outputScale).addEvents { scale := true } else w) = scaled at h
  obtain ⟨scaling, naturalSize, windowSize, events, rfl⟩ : ∃ scaling naturalSize windowSize events,
      scaled = { w with scaling, naturalSize, windowSize, events } := by
    split_ifs at hs <;> exact ⟨_, _, _, _, hs.symm⟩
  split_ifs at h
  · obtain ⟨sized, hn, h⟩ := bind_eq_ok.1 h
    obtain ⟨_, _, rfl, haspect, -⟩ := setNaturalSize_ok hn
    exact ⟨_, _, _, _, _, (pure_eq_ok.1 h).symm, .inr haspect⟩
  · exact ⟨_, _, _, _, _, (pure_eq_ok.1 h).symm, .inl rfl⟩

theorem outputDone_ok {isCurrent : Bool} {outputScale : Int}
    (h : w.outputDone isCurrent outputScale = .ok v) :
    ∃ scaling aspect naturalSize windowSize events,
      v = { w with scaling, aspect, naturalSize, windowSize, events }
      ∧ (aspect = w.aspect ∨ Size.Positive aspect) := by
  unfold outputDone at h
  split_ifs at h
  · obtain ⟨sized, hn, h⟩ := bind_eq_ok.1 h
    obtain ⟨_, _, rfl, haspect, -⟩ := setNaturalSize_ok hn
    exact ⟨_, _, _, _, _, (pure_eq_ok.1 h).symm, .inr haspect⟩
  · exact ⟨_, _, _, _, _, (pure_eq_ok.1 h).symm, .inl rfl⟩

/-- A request for a state that is made where the state is wanted. -/
theorem pushRequest_if (w : Window) (wanted : Bool) (request : ShellRequest) :
    (if wanted then pushRequest { w with stateChange := true } request else w)
      = { w with
          stateChange := w.stateChange || wanted
          requests := w.requests ++ if wanted then [request] else []
          phase := if wanted then w.phase.speculative else w.phase } := by
  cases wanted
  · simp
  · simp [pushRequest_eq]

/-- The requests that ask again for what is wanted. -/
def desiredRequests (w : Window) : List ShellRequest :=
  (if w.fullscreen.desired then [.setFullscreen] else [])
    ++ (if w.maximized.desired then [.setMaximized] else [])
    ++ if w.minimized then [.setMinimized] else []

theorem requestDesired_eq (w : Window) : ∃ phase, w.requestDesired
    = { w with
        stateChange := w.stateChange || w.fullscreen.desired || w.maximized.desired
        requests := w.requests ++ w.desiredRequests
        phase } := by
  unfold requestDesired desiredRequests
  dsimp only
  rw [← List.append_assoc, ← List.append_assoc, pushRequest_if, pushRequest_if]
  by_cases hminimized : w.minimized = true
  · rw [if_pos hminimized, if_pos hminimized]
    exact ⟨_, pushRequest_eq _ _⟩
  · rw [if_neg hminimized, if_neg hminimized, List.append_nil]
    exact ⟨_, rfl⟩

theorem resetWindowSize_eq (w : Window) :
    ∃ windowSize, w.resetWindowSize = { w with windowSize }
      ∧ (w.naturalSize.Spans → windowSize.Spans) := by
  have hside : ∀ {side bound : Int}, Word.int32.Holds side →
      Word.int32.Holds (if 0 < bound ∧ bound < side then bound else side) := by
    intro side bound h
    split_ifs with hbound
    · exact ⟨le_trans (by decide) hbound.1.le, hbound.2.le.trans h.2⟩
    · exact h
  unfold resetWindowSize applyBounds
  dsimp only
  by_cases hheeds : w.options.heedBounds = true
  · rw [if_pos hheeds]
    exact ⟨_, rfl, fun h => ⟨h.atOrigin, hside h.width, hside h.height⟩⟩
  · rw [if_neg hheeds]
    exact ⟨_, rfl, id⟩

/-- The floating size is taken where no other is wanted or nothing is shown yet. -/
theorem takeWindowSize_ok (h : w.takeWindowSize = .ok v) :
    ((w.wantsArea = false ∨ w.geometry.isEmpty = .ok true)
      ∧ v = { w with geometry := w.windowSize })
    ∨ (w.wantsArea = true ∧ w.geometry.isEmpty = .ok false ∧ v = w) := by
  unfold takeWindowSize at h
  rw [← Bool.not_or, ← wantsArea] at h
  cases hwants : w.wantsArea
  · rw [hwants] at h
    exact .inl ⟨.inl rfl, (pure_eq_ok.1 h).symm⟩
  · rw [hwants] at h
    obtain ⟨empty, hempty, h⟩ := bind_eq_ok.1 h
    cases empty
    · exact .inr ⟨rfl, hempty, (pure_eq_ok.1 h).symm⟩
    · exact .inl ⟨.inr hempty, (pure_eq_ok.1 h).symm⟩

theorem reconfig_ok {width height : Int} (h : w.reconfig width height = .ok v) :
    ∃ videoSize aspect naturalSize windowSize geometry stateChange phase events,
      v = { w with
        videoSize, aspect, naturalSize, windowSize, geometry, stateChange, phase, events
        requests := w.requests ++ w.desiredRequests }
      ∧ Size.Positive aspect ∧ naturalSize.Spans ∧ windowSize.Spans
      ∧ (w.stateChange = true → stateChange = true)
      ∧ (((w.wantsArea = false ∨ w.geometry.isEmpty = .ok true) ∧ geometry = windowSize)
        ∨ (w.wantsArea = true ∧ w.geometry.isEmpty = .ok false ∧ geometry = w.geometry)) := by
  obtain ⟨sized, hn, h⟩ := bind_eq_ok.1 h
  obtain ⟨_, _, rfl, haspect, hnatural⟩ := setNaturalSize_ok hn
  obtain ⟨taken, ht, h⟩ := bind_eq_ok.1 h
  obtain ⟨_, hr, hwindow⟩ := resetWindowSize_eq _
  rw [hr] at ht
  obtain ⟨_, hd⟩ := requestDesired_eq taken
  rw [hd] at h
  rcases takeWindowSize_ok ht with ⟨hfloats, rfl⟩ | ⟨hwants, hshown, rfl⟩
  · refine ⟨_, _, _, _, _, _, _, _, (pure_eq_ok.1 h).symm, haspect, hnatural, hwindow hnatural,
      fun hs => ?_, .inl ⟨hfloats, rfl⟩⟩
    simp [hs]
  · refine ⟨_, _, _, _, _, _, _, _, (pure_eq_ok.1 h).symm, haspect, hnatural, hwindow hnatural,
      fun hs => ?_, .inr ⟨hwants, hshown, rfl⟩⟩
    simp [hs]

theorem setWindowSize_ok {width height : Int} (h : w.setWindowSize width height = .ok v) :
    v = { w with options := { w.options with width, height } }
    ∨ ∃ aspect naturalSize phase events,
      v = { w with
        options := { w.options with width, height }
        aspect, naturalSize, phase, events
        windowSize := naturalSize
        geometry := if w.isFilling then w.geometry else naturalSize }
      ∧ Size.Positive aspect ∧ naturalSize.Spans := by
  have hgeometry : ∀ u : Window, (if u.isFilling then u else { u with geometry := u.windowSize })
      = { u with geometry := if u.isFilling then u.geometry else u.windowSize } := by
    intro u
    split_ifs <;> rfl
  unfold setWindowSize at h
  simp only [hgeometry, markSpeculative_eq] at h
  split at h
  · exact .inl (pure_eq_ok.1 h).symm
  · obtain ⟨sized, hn, h⟩ := bind_eq_ok.1 h
    obtain ⟨_, _, rfl, haspect, hnatural⟩ := setNaturalSize_ok hn
    exact .inr ⟨_, _, _, _, (pure_eq_ok.1 h).symm, haspect, hnatural⟩

/-- A fullscreen window keeps its size, and a maximized one first asks to float. -/
theorem setUnfullscreenSize_ok {width height : Int}
    (h : w.setUnfullscreenSize width height = .ok v) :
    ∃ windowSize, windowSize.Spans
      ∧ ((w.fullscreen.confirmed = true ∧ v = { w with windowSize })
        ∨ (w.maximized.confirmed = true ∧ v = setMaximized { w with windowSize } false)
        ∨ (w.isFilling = false
          ∧ ∃ phase events, v = { w with windowSize, geometry := windowSize, phase, events })) := by
  obtain ⟨scaledWidth, hwidth, h⟩ := bind_eq_ok.1 h
  obtain ⟨scaledHeight, hheight, h⟩ := bind_eq_ok.1 h
  refine ⟨_, Rect.ofSize_spans (Word.div_eq_ok hwidth).1 (Word.div_eq_ok hheight).1, ?_⟩
  dsimp only at h
  split_ifs at h with hfullscreen hmaximized
  · exact .inl ⟨hfullscreen, (pure_eq_ok.1 h).symm⟩
  · exact .inr (.inl ⟨hmaximized, (pure_eq_ok.1 h).symm⟩)
  · rw [markSpeculative_eq] at h
    refine .inr (.inr ⟨?_, _, _, (pure_eq_ok.1 h).symm⟩)
    simp_all [isFilling]

/-! ## Configures -/

theorem applyActivation_eq (w : Window) (activated : Bool) : w.applyActivation activated
    = { w with
        activated
        focused := if w.activated = activated then w.focused else activated && w.hasKeyboard
        events :=
          if w.activated = activated then w.events
          else (updateFocus { w with activated }).events ∪ { expose := activated } } := by
  unfold applyActivation
  split_ifs with h
  · rw [← h]
  · rw [updateFocus_eq]
    rfl

theorem applySize_eq (w : Window) (previous : Size) (width height : Int) :
    ∃ geometry windowSize stateChange,
      (w.applySize previous width height).1 = { w with geometry, windowSize, stateChange } := by
  unfold applySize
  dsimp only
  split_ifs <;> exact ⟨_, _, _, rfl⟩

/-- The compositor's size holds unless it is the one it gave before, or none. -/
theorem applySize_of_filling (hf : w.isFilling = true) (previous : Size) (width height : Int) :
    w.applySize previous width height
      = if width = 0 ∨ height = 0 then (w, true)
        else if previous = (width, height) then (w, false)
        else ({ w with geometry := .ofSize width height },
          decide (w.geometry ≠ .ofSize width height)) := by
  simp [applySize, hf]

/-- A window that has just stopped filling its area goes back to its floating size. -/
theorem applySize_of_change (hs : w.stateChange = true) (hf : w.isFilling = false)
    (previous : Size) (width height : Int) : w.applySize previous width height
      = ({ w with geometry := w.windowSize, stateChange := false }, true) := by
  simp [applySize, hs, hf]

/-- The states of the configure are in force; its size is not looked at yet. -/
def afterStates (w : Window) (c : PendingConfigure) : Window :=
  ({ w with toplevelSize := c.size }.applyStates c.states).applyActivation c.states.isActivated

/-- The window after a configure that takes effect. -/
def afterConfigure (w : Window) (c : PendingConfigure) : Window :=
  let sized := (w.afterStates c).applySize w.toplevelSize c.width c.height
  sized.1.addEvents { resize := sized.2 }

theorem afterStates_eq (w : Window) (c : PendingConfigure) :
    ∃ minimized activated focused events requests, w.afterStates c
      = { w with
          toplevelSize := c.size
          minimized
          stateChange := w.stateChange || decide (w.fullscreen.desired ≠ c.states.isFullscreen
            ∨ w.maximized.desired ≠ c.states.isMaximized)
          fullscreen := .settled c.states.isFullscreen
          maximized := .settled c.states.isMaximized
          activated
          focused
          events
          requests } := by
  unfold afterStates
  rw [applyActivation_eq]
  exact ⟨_, _, _, _, _, rfl⟩

theorem afterConfigure_eq (w : Window) (c : PendingConfigure) :
    ∃ geometry windowSize minimized stateChange activated focused events requests,
      w.afterConfigure c = { w with
        geometry, windowSize, minimized, stateChange, activated, focused, events, requests
        toplevelSize := c.size
        fullscreen := .settled c.states.isFullscreen
        maximized := .settled c.states.isMaximized } := by
  obtain ⟨_, _, _, hz⟩ := applySize_eq (w.afterStates c) w.toplevelSize c.width c.height
  obtain ⟨_, _, _, _, _, hs⟩ := afterStates_eq w c
  unfold afterConfigure
  dsimp only
  rw [hz, hs]
  exact ⟨_, _, _, _, _, _, _, _, rfl⟩

/-- A decoration mode in flight is asked for again; nothing else is. -/
theorem afterConfigure_requests (w : Window) (c : PendingConfigure) :
    (w.afterConfigure c).requests = w.requests
      ++ (w.decoration.requested.map ShellRequest.setDecorationMode).toList := by
  obtain ⟨_, _, _, hz⟩ := applySize_eq (w.afterStates c) w.toplevelSize c.width c.height
  unfold afterConfigure
  dsimp only
  rw [hz, afterStates, applyActivation_eq]
  rfl

theorem applyConfigure_eq (w : Window) (c : PendingConfigure) : w.applyConfigure c
    = w.geometry.isEmpty >>= fun empty =>
        pure (if empty then { w with toplevelSize := c.size } else w.afterConfigure c) := by
  unfold applyConfigure
  dsimp only
  congr 1
  funext empty
  split_ifs <;> rfl

theorem configureSurface_ok {activated : Bool} (h : w.configureSurface = .ok (activated, v)) :
    (w.pending = none ∧ v = { w with phase := .steady })
    ∨ ∃ c, w.pending = some c ∧
      ((w.geometry.isEmpty = .ok true
          ∧ v = { w with pending := none, toplevelSize := c.size, phase := .steady })
      ∨ (w.geometry.isEmpty = .ok false
          ∧ v = { afterConfigure { w with pending := none } c with phase := .steady })) := by
  unfold configureSurface at h
  rcases hp : w.pending with _ | c <;> rw [hp] at h
  · obtain ⟨-, rfl⟩ := Prod.mk.inj (pure_eq_ok.1 h)
    exact .inl ⟨rfl, by rw [← hp]⟩
  · refine .inr ⟨c, rfl, ?_⟩
    obtain ⟨configured, hc, h⟩ := bind_eq_ok.1 h
    obtain ⟨-, rfl⟩ := Prod.mk.inj (pure_eq_ok.1 h)
    rw [applyConfigure_eq] at hc
    obtain ⟨empty, he, hc⟩ := bind_eq_ok.1 hc
    obtain rfl := pure_eq_ok.1 hc
    cases empty
    · exact .inr ⟨he, rfl⟩
    · exact .inl ⟨he, rfl⟩

theorem configureSurface_of_none (hp : w.pending = none) :
    w.configureSurface = .ok (!w.activated && w.activated, { w with phase := .steady }) := by
  unfold configureSurface
  conv_lhs => rw [hp]
  rfl

/-- A configure that waits takes effect where the window shows something. -/
theorem configureSurface_of_pending {c : PendingConfigure} (hp : w.pending = some c)
    (he : w.geometry.isEmpty = .ok false) : ∃ activated, w.configureSurface
      = .ok (activated, { afterConfigure { w with pending := none } c with phase := .steady }) := by
  unfold configureSurface
  rw [hp]
  dsimp only
  rw [applyConfigure_eq]
  dsimp only
  rw [he]
  exact ⟨_, rfl⟩

theorem afterStates_isFilling (w : Window) (c : PendingConfigure) :
    (w.afterStates c).isFilling = true ↔ c.Fills := by
  obtain ⟨_, _, _, _, _, hs⟩ := afterStates_eq w c
  rw [hs]
  simp [isFilling, Negotiated.settled, PendingConfigure.Fills]

/-- A configure that fills leaves the floating size alone. Its own size holds unless it has none
or is the one acknowledged before it. -/
theorem afterConfigure_of_fills {c : PendingConfigure} (hf : c.Fills) (w : Window) :
    (w.afterConfigure c).windowSize = w.windowSize
      ∧ (w.afterConfigure c).geometry
        = if c.width = 0 ∨ c.height = 0 ∨ w.toplevelSize = c.size then w.geometry
          else .ofSize c.width c.height := by
  have hz := applySize_of_filling ((w.afterStates_isFilling c).2 hf) w.toplevelSize c.width c.height
  obtain ⟨_, _, _, _, _, hs⟩ := afterStates_eq w c
  unfold afterConfigure
  rw [hz, hs]
  dsimp only [addEvents, PendingConfigure.size]
  split_ifs <;> simp_all

/-- A configure that does not fill, after the states were asked for or changed, brings back the
floating size. -/
theorem afterConfigure_of_change {c : PendingConfigure} (hf : ¬ c.Fills)
    (hs : (w.afterStates c).stateChange = true) :
    (w.afterConfigure c).windowSize = w.windowSize
      ∧ (w.afterConfigure c).geometry = w.windowSize
      ∧ (w.afterConfigure c).events.resize = true := by
  have hfill : (w.afterStates c).isFilling = false := by
    rw [← Bool.not_eq_true, afterStates_isFilling]
    exact hf
  have hz := applySize_of_change hs hfill w.toplevelSize c.width c.height
  obtain ⟨_, _, _, _, _, he⟩ := afterStates_eq w c
  unfold afterConfigure
  rw [hz, he]
  simp [addEvents, Union.union, WindowEvents.union]

/-! ## Steps between configures -/

def Op.IsConfigure : Op → Prop
  | .configureToplevel _ _ _ | .configureSurface => True
  | _ => False

/-- The two windows have the same configure waiting and the same decisions of the compositor in
force. -/
structure SameDecisions (w v : Window) : Prop where
  pending : v.pending = w.pending
  toplevelSize : v.toplevelSize = w.toplevelSize
  activated : v.activated = w.activated
  fullscreen : v.fullscreen.confirmed = w.fullscreen.confirmed
  maximized : v.maximized.confirmed = w.maximized.confirmed

/-- The decisions are kept, and the aspect is kept or taken anew from a size. -/
structure LocalStep (w v : Window) : Prop extends SameDecisions w v where
  aspect : v.aspect = w.aspect ∨ v.aspect.Positive

theorem step_local {op : Op} {r : Reply} (h : w.step op = .ok (v, r))
    (hop : ¬ op.IsConfigure) : LocalStep w v := by
  cases op with
  | configureToplevel width height states => exact absurd trivial hop
  | configureSurface => exact absurd trivial hop
  | surfaceEntered scale areaChanged =>
    obtain ⟨u, hu, h⟩ := bind_eq_ok.1 h
    obtain ⟨rfl, -⟩ := Prod.mk.inj (pure_eq_ok.1 h)
    obtain ⟨_, _, _, _, _, rfl, haspect⟩ := surfaceEntered_ok hu
    exact ⟨⟨rfl, rfl, rfl, rfl, rfl⟩, haspect⟩
  | outputDone isCurrent scale =>
    obtain ⟨u, hu, h⟩ := bind_eq_ok.1 h
    obtain ⟨rfl, -⟩ := Prod.mk.inj (pure_eq_ok.1 h)
    obtain ⟨_, _, _, _, _, rfl, haspect⟩ := outputDone_ok hu
    exact ⟨⟨rfl, rfl, rfl, rfl, rfl⟩, haspect⟩
  | reconfig width height =>
    obtain ⟨u, hu, h⟩ := bind_eq_ok.1 h
    obtain ⟨rfl, -⟩ := Prod.mk.inj (pure_eq_ok.1 h)
    obtain ⟨_, _, _, _, _, _, _, _, rfl, haspect, -⟩ := reconfig_ok hu
    exact ⟨⟨rfl, rfl, rfl, rfl, rfl⟩, .inr haspect⟩
  | setWindowSize width height =>
    obtain ⟨u, hu, h⟩ := bind_eq_ok.1 h
    obtain ⟨rfl, -⟩ := Prod.mk.inj (pure_eq_ok.1 h)
    rcases setWindowSize_ok hu with rfl | ⟨_, _, _, _, rfl, haspect, -⟩
    · exact ⟨⟨rfl, rfl, rfl, rfl, rfl⟩, .inl rfl⟩
    · exact ⟨⟨rfl, rfl, rfl, rfl, rfl⟩, .inr haspect⟩
  | setUnfullscreenSize width height =>
    obtain ⟨u, hu, h⟩ := bind_eq_ok.1 h
    obtain ⟨rfl, -⟩ := Prod.mk.inj (pure_eq_ok.1 h)
    obtain ⟨windowSize, -, ⟨-, rfl⟩ | ⟨-, rfl⟩ | ⟨-, _, _, rfl⟩⟩ := setUnfullscreenSize_ok hu
    · exact ⟨⟨rfl, rfl, rfl, rfl, rfl⟩, .inl rfl⟩
    · rcases setMaximized_cases { w with windowSize } false with ⟨-, hm⟩ | ⟨-, hm⟩ <;> rw [hm] <;>
        exact ⟨⟨rfl, rfl, rfl, rfl, rfl⟩, .inl rfl⟩
    · exact ⟨⟨rfl, rfl, rfl, rfl, rfl⟩, .inl rfl⟩
  | initDecorations available =>
    obtain ⟨rfl, -⟩ := Prod.mk.inj (pure_eq_ok.1 h)
    rw [initDecorations_eq]
    exact ⟨⟨rfl, rfl, rfl, rfl, rfl⟩, .inl rfl⟩
  | attachOutput scale =>
    obtain ⟨rfl, -⟩ := Prod.mk.inj (pure_eq_ok.1 h)
    obtain ⟨_, _, _, _, _, ha⟩ := attachOutput_eq w scale
    rw [ha]
    exact ⟨⟨rfl, rfl, rfl, rfl, rfl⟩, .inl rfl⟩
  | setBorder on =>
    obtain ⟨rfl, -⟩ := Prod.mk.inj (pure_eq_ok.1 h)
    rw [setBorder_eq]
    exact ⟨⟨rfl, rfl, rfl, rfl, rfl⟩, .inl rfl⟩
  | keyboardFocus hasKeyboard =>
    obtain ⟨rfl, -⟩ := Prod.mk.inj (pure_eq_ok.1 h)
    rw [keyboardFocus, updateFocus_eq]
    exact ⟨⟨rfl, rfl, rfl, rfl, rfl⟩, .inl rfl⟩
  | setFullscreen on =>
    obtain ⟨rfl, -⟩ := Prod.mk.inj (pure_eq_ok.1 h)
    rcases setFullscreen_cases w on with ⟨-, hf⟩ | ⟨-, hf⟩ <;> rw [hf] <;>
      exact ⟨⟨rfl, rfl, rfl, rfl, rfl⟩, .inl rfl⟩
  | setMaximized on =>
    obtain ⟨rfl, -⟩ := Prod.mk.inj (pure_eq_ok.1 h)
    rcases setMaximized_cases w on with ⟨-, hm⟩ | ⟨-, hm⟩ <;> rw [hm] <;>
      exact ⟨⟨rfl, rfl, rfl, rfl, rfl⟩, .inl rfl⟩
  | setMinimized on =>
    obtain ⟨rfl, -⟩ := Prod.mk.inj (pure_eq_ok.1 h)
    obtain ⟨_, _, hm⟩ := setMinimized_eq w on
    rw [hm]
    exact ⟨⟨rfl, rfl, rfl, rfl, rfl⟩, .inl rfl⟩
  | setTitle title =>
    obtain ⟨rfl, -⟩ := Prod.mk.inj (pure_eq_ok.1 h)
    rw [Window.setTitle, pushRequest_eq]
    exact ⟨⟨rfl, rfl, rfl, rfl, rfl⟩, .inl rfl⟩
  | setAppId appId =>
    obtain ⟨rfl, -⟩ := Prod.mk.inj (pure_eq_ok.1 h)
    rw [Window.setAppId, pushRequest_eq]
    exact ⟨⟨rfl, rfl, rfl, rfl, rfl⟩, .inl rfl⟩
  | unfullscreenSize =>
    obtain ⟨size, -, h⟩ := bind_eq_ok.1 h
    obtain ⟨rfl, -⟩ := Prod.mk.inj (pure_eq_ok.1 h)
    exact ⟨⟨rfl, rfl, rfl, rfl, rfl⟩, .inl rfl⟩
  | pointerPressed x y =>
    obtain ⟨request, -, h⟩ := bind_eq_ok.1 h
    obtain ⟨rfl, -⟩ := Prod.mk.inj (pure_eq_ok.1 h)
    exact ⟨⟨rfl, rfl, rfl, rfl, rfl⟩, .inl rfl⟩
  | touchDown x y =>
    obtain ⟨request, -, h⟩ := bind_eq_ok.1 h
    obtain ⟨rfl, -⟩ := Prod.mk.inj (pure_eq_ok.1 h)
    exact ⟨⟨rfl, rfl, rfl, rfl, rfl⟩, .inl rfl⟩
  | _ =>
    obtain ⟨rfl, -⟩ := Prod.mk.inj (pure_eq_ok.1 h)
    exact ⟨⟨rfl, rfl, rfl, rfl, rfl⟩, .inl rfl⟩

/-- Only configures bring decisions. -/
theorem step_sameDecisions {op : Op} {r : Reply} (h : w.step op = .ok (v, r))
    (hop : ¬ op.IsConfigure) : SameDecisions w v :=
  (step_local h hop).toSameDecisions

end Window

end VideoOutput
