import VideoOutput.Proofs.Window.History

/-!
# What the events of a window report

A change of the window that the video driver has to know of raises an event, and the event stays
pending until it is taken. `Reports` says so of two states of one window, and it is kept along any
history in which the events are not taken (`run_reports`). So the events that are taken at the end
tell of what changed between any two moments since they were taken before (`takeEvents_tells`).
-/

namespace VideoOutput

namespace WindowEvents

/-- Every event of the first is among those of the second. -/
structure Among (a b : WindowEvents) : Prop where
  resize : a.resize = true → b.resize = true
  expose : a.expose = true → b.expose = true
  focus : a.focus = true → b.focus = true
  windowState : a.windowState = true → b.windowState = true
  scale : a.scale = true → b.scale = true

variable {a b c : WindowEvents}

protected theorem Among.refl (a : WindowEvents) : a.Among a := ⟨id, id, id, id, id⟩

protected theorem Among.trans (hab : a.Among b) (hbc : b.Among c) : a.Among c where
  resize h := hbc.resize (hab.resize h)
  expose h := hbc.expose (hab.expose h)
  focus h := hbc.focus (hab.focus h)
  windowState h := hbc.windowState (hab.windowState h)
  scale h := hbc.scale (hab.scale h)

theorem among_union_left (a b : WindowEvents) : a.Among (a ∪ b) := by
  constructor <;> intro h <;> simp [Union.union, union, h]

theorem among_union_right (a b : WindowEvents) : b.Among (a ∪ b) := by
  constructor <;> intro h <;> simp [Union.union, union, h]

/-- The events tell what changed from one state of a window to another. A new geometry exposes the
content too. -/
structure Tells (e : WindowEvents) (w v : Window) : Prop where
  geometry : v.geometry ≠ w.geometry → e.resize = true ∧ e.expose = true
  scaling : v.scaling ≠ w.scaling → e.scale = true
  focused : v.focused ≠ w.focused → e.focus = true
  activated : w.activated = false → v.activated = true → e.expose = true

end WindowEvents

namespace Window

variable {w u v : Window}

/-- The window is focused when it is activated and has the keyboard, and only then. -/
def Attentive (w : Window) : Prop := w.focused = (w.activated && w.hasKeyboard)

/-- Nothing is pending in the first state that is not in the second, and what changed from the one
to the other is pending there. -/
structure Reports (w v : Window) : Prop where
  events : w.events.Among v.events
  geometry : v.geometry = w.geometry ∨ v.events.resize = true
  videoSize : v.videoSize = w.videoSize ∨ v.events.resize = true
  scaling : v.scaling = w.scaling ∨ v.events.scale = true
  focused : v.focused = w.focused ∨ v.events.focus = true
  activated : v.activated = true → w.activated = true ∨ v.events.expose = true
  attentive : w.Attentive → v.Attentive
  keepAspect : v.options.keepAspect = w.options.keepAspect

namespace Reports

protected theorem trans (hwu : Reports w u) (huv : Reports u v) : Reports w v where
  events := hwu.events.trans huv.events
  geometry := huv.geometry.elim
    (fun hv => hwu.geometry.imp hv.trans huv.events.resize) .inr
  videoSize := huv.videoSize.elim
    (fun hv => hwu.videoSize.imp hv.trans huv.events.resize) .inr
  scaling := huv.scaling.elim
    (fun hv => hwu.scaling.imp hv.trans huv.events.scale) .inr
  focused := huv.focused.elim
    (fun hv => hwu.focused.imp hv.trans huv.events.focus) .inr
  activated h := (huv.activated h).elim
    (fun hu => (hwu.activated hu).imp_right huv.events.expose) .inr
  attentive h := huv.attentive (hwu.attentive h)
  keepAspect := huv.keepAspect.trans hwu.keepAspect

protected theorem refl (w : Window) : Reports w w :=
  ⟨.refl _, .inl rfl, .inl rfl, .inl rfl, .inl rfl, .inl, id, rfl⟩

/-- What the driver has to know of, and how the focus came about, stay as they are. -/
theorem of_unchanged (hevents : w.events.Among v.events) (hgeometry : v.geometry = w.geometry)
    (hvideo : v.videoSize = w.videoSize) (hscaling : v.scaling = w.scaling)
    (hfocus : (v.focused, v.activated, v.hasKeyboard) = (w.focused, w.activated, w.hasKeyboard))
    (haspect : v.options.keepAspect = w.options.keepAspect) : Reports w v := by
  obtain ⟨hfocused, hactivated, hkeyboard⟩ := by simpa only [Prod.mk.injEq] using hfocus
  refine ⟨hevents, .inl hgeometry, .inl hvideo, .inl hscaling, .inl hfocused,
    fun h => .inl (hactivated ▸ h), ?_, haspect⟩
  unfold Attentive
  rw [hfocused, hactivated, hkeyboard]
  exact id

/-- A layout is asked for, so any change of the geometry or of the video is reported. -/
theorem of_resize (hevents : w.events.Among v.events) (hresize : v.events.resize = true)
    (hscaling : v.scaling = w.scaling ∨ v.events.scale = true)
    (hfocus : (v.focused, v.activated, v.hasKeyboard) = (w.focused, w.activated, w.hasKeyboard))
    (haspect : v.options.keepAspect = w.options.keepAspect) : Reports w v := by
  obtain ⟨hfocused, hactivated, hkeyboard⟩ := by simpa only [Prod.mk.injEq] using hfocus
  refine ⟨hevents, .inr hresize, .inr hresize, hscaling, .inl hfocused,
    fun h => .inl (hactivated ▸ h), ?_, haspect⟩
  unfold Attentive
  rw [hfocused, hactivated, hkeyboard]
  exact id

theorem tells {e : WindowEvents} (h : Reports w v) (he : v.events.Among e)
    (hexpose : e.resize = true → e.expose = true) : e.Tells w v where
  geometry hne :=
    have hresize := he.resize (h.geometry.resolve_left hne)
    ⟨hresize, hexpose hresize⟩
  scaling hne := he.scale (h.scaling.resolve_left hne)
  focused hne := he.focus (h.focused.resolve_left hne)
  activated hw hv := he.expose ((h.activated hv).resolve_left (by simp [hw]))

end Reports

/-- All that is pending is taken. -/
theorem among_takeEvents (w : Window) : w.events.Among w.takeEvents.1 := by
  unfold takeEvents
  split_ifs
  · exact WindowEvents.among_union_left _ _
  · exact .refl _

/-- A resize that is taken exposes the content. -/
theorem takeEvents_expose (w : Window) (h : w.takeEvents.1.resize = true) :
    w.takeEvents.1.expose = true := by
  unfold takeEvents at h ⊢
  split_ifs at h ⊢ with hresize
  · exact (WindowEvents.among_union_right _ _).expose rfl
  · exact absurd h hresize

/-! ## One operation -/

theorem reports_addEvents (w : Window) (events : WindowEvents) :
    Reports w (w.addEvents events) :=
  .of_unchanged (WindowEvents.among_union_left _ _) rfl rfl rfl rfl rfl

theorem reports_takeRequests (w : Window) : Reports w w.takeRequests.2 :=
  .of_unchanged (.refl _) rfl rfl rfl rfl rfl

theorem reports_pushRequest (w : Window) (request : ShellRequest) :
    Reports w (w.pushRequest request) := by
  rw [pushRequest_eq]
  exact .of_unchanged (.refl _) rfl rfl rfl rfl rfl

theorem reports_initDecorations (w : Window) (available : Bool) :
    Reports w (w.initDecorations available) := by
  rw [initDecorations_eq]
  exact .of_unchanged (.refl _) rfl rfl rfl rfl rfl

theorem reports_setBorder (w : Window) (border : Bool) : Reports w (w.setBorder border) := by
  rw [setBorder_eq]
  exact .of_unchanged (.refl _) rfl rfl rfl rfl rfl

theorem reports_configureDecoration (w : Window) (mode : DecorationMode) :
    Reports w (w.configureDecoration mode) :=
  .of_unchanged (.refl _) rfl rfl rfl rfl rfl

theorem reports_configureBounds (w : Window) (width height : Int) :
    Reports w (w.configureBounds width height) :=
  .of_unchanged (.refl _) rfl rfl rfl rfl rfl

theorem reports_configureToplevel (w : Window) (width height : Int) (states : ToplevelStates) :
    Reports w (w.configureToplevel width height states) :=
  .of_unchanged (.refl _) rfl rfl rfl rfl rfl

theorem reports_setFullscreen (w : Window) (on : Bool) : Reports w (w.setFullscreen on) := by
  rcases setFullscreen_cases w on with ⟨-, hf⟩ | ⟨-, hf⟩ <;> rw [hf] <;>
    exact .of_unchanged (.refl _) rfl rfl rfl rfl rfl

theorem reports_setMaximized (w : Window) (on : Bool) : Reports w (w.setMaximized on) := by
  rcases setMaximized_cases w on with ⟨-, hm⟩ | ⟨-, hm⟩ <;> rw [hm] <;>
    exact .of_unchanged (.refl _) rfl rfl rfl rfl rfl

theorem reports_setMinimized (w : Window) (on : Bool) : Reports w (w.setMinimized on) := by
  obtain ⟨_, _, hm⟩ := setMinimized_eq w on
  rw [hm]
  exact .of_unchanged (.refl _) rfl rfl rfl rfl rfl

/-- The focus is recomputed, and reported if it is another. -/
theorem updateFocus_cases (w : Window) :
    (w.Attentive ∧ w.updateFocus = w)
    ∨ w.updateFocus = { w with
        focused := w.activated && w.hasKeyboard
        events := w.events ∪ { focus := true } } := by
  unfold updateFocus
  dsimp only
  split_ifs with h
  · exact .inl ⟨h.symm, rfl⟩
  · exact .inr rfl

theorem reports_keyboardFocus (w : Window) (hasKeyboard : Bool) :
    Reports w (w.keyboardFocus hasKeyboard) := by
  unfold keyboardFocus
  rcases updateFocus_cases { w with hasKeyboard } with ⟨hkept, hu⟩ | hu <;> rw [hu]
  · exact ⟨.refl _, .inl rfl, .inl rfl, .inl rfl, .inl rfl, .inl, fun _ => hkept, rfl⟩
  · exact ⟨WindowEvents.among_union_left _ _, .inl rfl, .inl rfl, .inl rfl,
      .inr ((WindowEvents.among_union_right _ _).focus rfl), .inl, fun _ => rfl, rfl⟩

theorem reports_applyActivation (w : Window) (activated : Bool) :
    Reports w (w.applyActivation activated) := by
  unfold applyActivation
  split_ifs with hsame
  · exact .of_unchanged (.refl _) rfl rfl rfl rfl rfl
  · have hexpose (events : WindowEvents) (h : activated = true) :
        (events ∪ { expose := activated }).expose = true :=
      (WindowEvents.among_union_right _ _).expose h
    rcases updateFocus_cases { w with activated } with ⟨hkept, hu⟩ | hu <;> rw [hu]
    · exact ⟨WindowEvents.among_union_left _ _, .inl rfl, .inl rfl, .inl rfl, .inl rfl,
        fun h => .inr (hexpose _ h), fun _ => hkept, rfl⟩
    · have hfocus := (WindowEvents.among_union_right w.events { focus := true }).focus rfl
      exact ⟨(WindowEvents.among_union_left _ _).trans (WindowEvents.among_union_left _ _),
        .inl rfl, .inl rfl, .inl rfl, .inr ((WindowEvents.among_union_left _ _).focus hfocus),
        fun h => .inr (hexpose _ h), fun _ => rfl, rfl⟩

theorem reports_attachOutput (w : Window) (outputScale : Int) :
    Reports w (w.attachOutput outputScale) := by
  unfold attachOutput
  split_ifs
  · exact .of_unchanged (.refl _) rfl rfl rfl rfl rfl
  · exact ⟨WindowEvents.among_union_left _ _, .inl rfl, .inl rfl,
      .inr ((WindowEvents.among_union_right _ _).scale rfl), .inl rfl, .inl, id, rfl⟩

theorem reports_setNaturalSize (h : w.setNaturalSize = .ok v) : Reports w v := by
  obtain ⟨_, _, rfl, -⟩ := setNaturalSize_ok h
  exact .of_unchanged (.refl _) rfl rfl rfl rfl rfl

/-- The scale of an output, taken with an event. -/
theorem reports_setScaling (w : Window) (outputScale : Int) :
    Reports w ((w.setScaling outputScale).addEvents { scale := true }) :=
  ⟨WindowEvents.among_union_left _ _, .inl rfl, .inl rfl,
    .inr ((WindowEvents.among_union_right _ _).scale rfl), .inl rfl, .inl, id, rfl⟩

theorem reports_surfaceEntered {outputScale : Int} {areaChanged : Bool}
    (h : w.surfaceEntered outputScale areaChanged = .ok v) : Reports w v := by
  unfold surfaceEntered at h
  dsimp only at h
  generalize hs : (if w.targetScaling outputScale ≠ w.scaling then
    (w.setScaling outputScale).addEvents { scale := true } else w) = scaled at h
  have hscaled : Reports w scaled := by
    rw [← hs]
    split_ifs
    · exact reports_setScaling w outputScale
    · exact .of_unchanged (.refl _) rfl rfl rfl rfl rfl
  cases areaChanged
  · rw [← pure_eq_ok.1 h]
    exact hscaled.trans (reports_addEvents scaled _)
  · obtain ⟨sized, hsized, h⟩ := bind_eq_ok.1 h
    rw [← pure_eq_ok.1 h]
    exact (hscaled.trans (reports_setNaturalSize hsized)).trans (reports_addEvents sized _)

theorem reports_outputDone {isCurrent : Bool} {outputScale : Int}
    (h : w.outputDone isCurrent outputScale = .ok v) : Reports w v := by
  unfold outputDone at h
  cases isCurrent
  · rw [← pure_eq_ok.1 h]
    exact reports_addEvents w _
  · obtain ⟨sized, hsized, h⟩ := bind_eq_ok.1 h
    obtain ⟨_, _, rfl, -⟩ := setNaturalSize_ok hsized
    rw [← pure_eq_ok.1 h]
    have hboth := WindowEvents.among_union_right w.events { scale := true, resize := true }
    refine Reports.trans ?_ (reports_addEvents _ _)
    exact .of_resize (WindowEvents.among_union_left _ _) (hboth.resize rfl)
      (.inr (hboth.scale rfl)) rfl rfl

theorem reports_reconfig {width height : Int} (h : w.reconfig width height = .ok v) :
    Reports w v := by
  obtain ⟨sized, hn, h⟩ := bind_eq_ok.1 h
  obtain ⟨_, _, rfl, -⟩ := setNaturalSize_ok hn
  obtain ⟨taken, ht, h⟩ := bind_eq_ok.1 h
  obtain ⟨_, hr, -⟩ := resetWindowSize_eq _
  rw [hr] at ht
  obtain ⟨_, hd⟩ := requestDesired_eq taken
  rw [hd] at h
  rw [← pure_eq_ok.1 h]
  rcases takeWindowSize_ok ht with ⟨-, rfl⟩ | ⟨-, -, rfl⟩ <;>
    exact .of_resize (WindowEvents.among_union_left _ _)
      ((WindowEvents.among_union_right _ _).resize rfl) (.inl rfl) rfl rfl

theorem reports_setWindowSize {width height : Int} (h : w.setWindowSize width height = .ok v) :
    Reports w v := by
  unfold setWindowSize at h
  dsimp only at h
  split_ifs at h
  · rw [← pure_eq_ok.1 h]
    exact .of_unchanged (.refl _) rfl rfl rfl rfl rfl
  all_goals
    obtain ⟨sized, hn, h⟩ := bind_eq_ok.1 h
    obtain ⟨_, _, rfl, -⟩ := setNaturalSize_ok hn
    rw [markSpeculative_eq] at h
    split_ifs at h
    all_goals
      rw [← pure_eq_ok.1 h]
      exact .of_resize (WindowEvents.among_union_left _ _)
        ((WindowEvents.among_union_right _ _).resize rfl) (.inl rfl) rfl rfl

theorem reports_setUnfullscreenSize {width height : Int}
    (h : w.setUnfullscreenSize width height = .ok v) : Reports w v := by
  obtain ⟨scaledWidth, -, h⟩ := bind_eq_ok.1 h
  obtain ⟨scaledHeight, -, h⟩ := bind_eq_ok.1 h
  have hfloating : Reports w { w with windowSize := .ofSize scaledWidth scaledHeight } :=
    .of_unchanged (.refl _) rfl rfl rfl rfl rfl
  dsimp only at h
  split_ifs at h
  · rw [← pure_eq_ok.1 h]
    exact hfloating
  · rw [← pure_eq_ok.1 h]
    exact hfloating.trans (reports_setMaximized _ _)
  · rw [markSpeculative_eq] at h
    rw [← pure_eq_ok.1 h]
    exact .of_resize (WindowEvents.among_union_left _ _)
      ((WindowEvents.among_union_right _ _).resize rfl) (.inl rfl) rfl rfl

theorem reports_geometry (w : Window) (geometry windowSize : Rect) :
    Reports w ({ w with geometry, windowSize }.addEvents
      { resize := decide (w.geometry ≠ geometry) }) := by
  refine ⟨WindowEvents.among_union_left _ _, ?_, .inl rfl, .inl rfl, .inl rfl, .inl, id, rfl⟩
  by_cases hsame : w.geometry = geometry
  · exact .inl hsame.symm
  · exact .inr ((WindowEvents.among_union_right _ _).resize (decide_eq_true hsame))

/-- A configure that gives the window another size says that the window is resized. -/
theorem reports_applySize (w : Window) (previous : Size) (width height : Int) :
    Reports w ((w.applySize previous width height).1.addEvents
      { resize := (w.applySize previous width height).2 }) := by
  have hresize : (w.events ∪ { resize := true }).resize = true :=
    (WindowEvents.among_union_right _ _).resize rfl
  unfold applySize
  dsimp only
  split_ifs
  · exact .of_resize (WindowEvents.among_union_left _ _) hresize (.inl rfl) rfl rfl
  · exact .of_resize (WindowEvents.among_union_left _ _) hresize (.inl rfl) rfl rfl
  · exact .of_resize (WindowEvents.among_union_left _ _) hresize (.inl rfl) rfl rfl
  · exact reports_addEvents w _
  · exact reports_geometry w _ _
  · exact reports_geometry w _ _

theorem reports_afterConfigure (w : Window) (c : PendingConfigure) :
    Reports w (w.afterConfigure c) := by
  have hstates : Reports w ({ w with toplevelSize := c.size }.applyStates c.states) :=
    .of_unchanged (.refl _) rfl rfl rfl rfl rfl
  exact (hstates.trans (reports_applyActivation _ _)).trans (reports_applySize _ _ _ _)

theorem reports_configureSurface {activated : Bool}
    (h : w.configureSurface = .ok (activated, v)) : Reports w v := by
  rcases configureSurface_ok h with ⟨-, rfl⟩ | ⟨c, -, ⟨-, rfl⟩ | ⟨-, rfl⟩⟩
  · exact .of_unchanged (.refl _) rfl rfl rfl rfl rfl
  · exact .of_unchanged (.refl _) rfl rfl rfl rfl rfl
  · have htaken : Reports w { w with pending := none } :=
      .of_unchanged (.refl _) rfl rfl rfl rfl rfl
    have hconfigured := htaken.trans (reports_afterConfigure { w with pending := none } c)
    exact hconfigured.trans (.of_unchanged (.refl _) rfl rfl rfl rfl rfl)

/-- An operation that cannot fail. -/
theorem Reports.of_pure {r r' : Reply}
    (h : (pure (u, r) : Except ArithmeticFault (Window × Reply)) = .ok (v, r'))
    (hu : Reports w u) : Reports w v := by
  obtain ⟨rfl, -⟩ := Prod.mk.inj (pure_eq_ok.1 h)
  exact hu

/-- An operation that may have no result. -/
theorem Reports.of_bind {x : Except ArithmeticFault Window} {r r' : Reply}
    (h : (do return (← x, r) : Except ArithmeticFault (Window × Reply)) = .ok (v, r'))
    (hx : ∀ {u}, x = .ok u → Reports w u) : Reports w v := by
  obtain ⟨u, hu, h⟩ := bind_eq_ok.1 h
  exact .of_pure h (hx hu)

/-- No operation changes what the driver has to know of without an event, and none takes an event
away but the one that takes them all. -/
theorem step_reports {op : Op} {r : Reply} (h : w.step op = .ok (v, r)) (hop : op ≠ .takeEvents) :
    Reports w v := by
  cases op with
  | takeEvents => exact absurd rfl hop
  | surfaceEntered scale areaChanged => exact .of_bind h reports_surfaceEntered
  | outputDone isCurrent scale => exact .of_bind h reports_outputDone
  | reconfig width height => exact .of_bind h reports_reconfig
  | configureSurface =>
    obtain ⟨⟨activated, u⟩, hu, h⟩ := bind_eq_ok.1 h
    exact .of_pure h (reports_configureSurface hu)
  | setWindowSize width height => exact .of_bind h reports_setWindowSize
  | setUnfullscreenSize width height => exact .of_bind h reports_setUnfullscreenSize
  | unfullscreenSize =>
    obtain ⟨size, -, h⟩ := bind_eq_ok.1 h
    exact .of_pure h (.refl w)
  | pointerPressed x y =>
    obtain ⟨request, -, h⟩ := bind_eq_ok.1 h
    exact .of_pure h (.refl w)
  | touchDown x y =>
    obtain ⟨request, -, h⟩ := bind_eq_ok.1 h
    exact .of_pure h (.refl w)
  | initDecorations available => exact .of_pure h (reports_initDecorations w available)
  | attachOutput scale => exact .of_pure h (reports_attachOutput w scale)
  | configureBounds width height => exact .of_pure h (reports_configureBounds w width height)
  | configureToplevel width height states =>
    exact .of_pure h (reports_configureToplevel w width height states)
  | configureDecoration mode => exact .of_pure h (reports_configureDecoration w mode)
  | keyboardFocus hasKeyboard => exact .of_pure h (reports_keyboardFocus w hasKeyboard)
  | setFullscreen on => exact .of_pure h (reports_setFullscreen w on)
  | setMaximized on => exact .of_pure h (reports_setMaximized w on)
  | setMinimized on => exact .of_pure h (reports_setMinimized w on)
  | setBorder on => exact .of_pure h (reports_setBorder w on)
  | setTitle title => exact .of_pure h (reports_pushRequest w _)
  | setAppId appId => exact .of_pure h (reports_pushRequest w _)
  | surfaceLeft => exact .of_pure h (reports_addEvents w _)
  | addEvents events => exact .of_pure h (reports_addEvents w events)
  | takeRequests => exact .of_pure h (reports_takeRequests w)
  | scale => exact .of_pure h (.refl w)
  | keepAspect => exact .of_pure h (.refl w)

/-! ## A whole history -/

theorem run_reports : ∀ {ops : List Op} {w v : Window}, run w ops = .ok v →
    (∀ op ∈ ops, op ≠ .takeEvents) → Reports w v
  | [], w, v, h, _ => by
    obtain rfl : w = v := pure_eq_ok.1 h
    exact .refl w
  | op :: ops, w, v, h, hops => by
    obtain ⟨u, r, hstep, hrun⟩ := run_cons.1 h
    exact (step_reports hstep (hops op (List.mem_cons_self ..))).trans
      (run_reports hrun fun o ho => hops o (List.mem_cons_of_mem _ ho))

/-- Events that are added stay pending. -/
theorem run_addEvents {ops : List Op} {events : WindowEvents} (h : run w ops = .ok v)
    (hops : ∀ op ∈ ops, op ≠ .takeEvents) (hadded : .addEvents events ∈ ops) :
    events.Among v.events := by
  obtain ⟨before, after, rfl⟩ := List.append_of_mem hadded
  obtain ⟨u, -, hu⟩ := run_append.1 h
  obtain ⟨a, r, hstep, hlast⟩ := run_cons.1 hu
  obtain ⟨rfl, -⟩ := Prod.mk.inj (pure_eq_ok.1 hstep)
  have hlater := run_reports hlast fun op hop =>
    hops op (List.mem_append_right _ (List.mem_cons_of_mem _ hop))
  exact (WindowEvents.among_union_right _ _).trans hlater.events

/-- The events are not taken in the course of the operations, and then they are. They tell what
changed between any two moments on the way, and all that were added are among them. -/
theorem takeEvents_tells {ops : List Op} (h : run w ops = .ok v)
    (hops : ∀ op ∈ ops, op ≠ .takeEvents) :
    ∃ e, v.step .takeEvents = .ok ({ v with events := .none }, .events e)
      ∧ (∀ (first between last : List Op) (a b : Window), ops = first ++ between ++ last →
        run w first = .ok a → run a between = .ok b → e.Tells a b)
      ∧ ∀ added, .addEvents added ∈ ops → added.Among e := by
  refine ⟨v.takeEvents.1, rfl, ?_, fun added hadded => ?_⟩
  · rintro first between last a b rfl ha hb
    have hlast : run b last = .ok v := by
      obtain ⟨b', hb', hlast⟩ := run_append.1 h
      obtain ⟨a', ha', hbetween⟩ := run_append.1 hb'
      obtain rfl : a = a' := Except.ok.inj (ha.symm.trans ha')
      obtain rfl : b = b' := Except.ok.inj (hb.symm.trans hbetween)
      exact hlast
    have hchanged : Reports a b := run_reports hb fun op hop => hops op (by simp [hop])
    have hkept : Reports b v := run_reports hlast fun op hop => hops op (by simp [hop])
    exact hchanged.tells (hkept.events.trans v.among_takeEvents) v.takeEvents_expose
  · exact (run_addEvents h hops hadded).trans v.among_takeEvents

/-- A window that was laid out is made fullscreen and activated, and the driver adds an event. -/
theorem takeEvents_tells_fullscreen : ∃ w, run (new {}) [.reconfig 1920 1080, .takeEvents] = .ok w
    ∧ ∃ v, run w [.configureToplevel 1280 720 [.fullscreen, .activated], .configureSurface,
        .addEvents { scale := true }] = .ok v
      ∧ v.geometry ≠ w.geometry ∧ (w.activated = false ∧ v.activated = true)
      ∧ ∃ e, v.step .takeEvents = .ok ({ v with events := .none }, .events e) ∧ e.Tells w v
        ∧ e.resize = true ∧ e.expose = true ∧ e.scale = true := by
  obtain ⟨w, hw, v, hv, hne, hactivated⟩ : ∃ w,
      run (new {}) [.reconfig 1920 1080, .takeEvents] = .ok w
      ∧ ∃ v, run w [.configureToplevel 1280 720 [.fullscreen, .activated], .configureSurface,
          .addEvents { scale := true }] = .ok v
        ∧ v.geometry ≠ w.geometry ∧ w.activated = false ∧ v.activated = true := by
    decide +kernel
  obtain ⟨e, htaken, htells, hadded⟩ := takeEvents_tells hv (by simp)
  have hall : e.Tells w v := htells [] _ [] w v (by simp) rfl hv
  exact ⟨w, hw, v, hv, hne, hactivated, e, htaken, hall, (hall.geometry hne).1,
    (hall.geometry hne).2, (hadded { scale := true } (by simp)).scale rfl⟩

end Window

end VideoOutput
