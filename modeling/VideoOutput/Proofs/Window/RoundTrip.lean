import VideoOutput.Proofs.Window.History

/-!
# Out of the floating size and back

A window that the compositor made fullscreen or maximized goes back to the floating size it had,
whatever sizes it was given and whatever states were asked for in between (`geometry_of_return`).
The floating size is not written meanwhile, and from the first such configure on the return is
announced (`Announced`): the states are in force, asked for, or marked as changed.
-/

namespace VideoOutput

/-- The configure fills, with sides of the word that are not negative. -/
structure PendingConfigure.Dictates (c : PendingConfigure) : Prop where
  fills : c.Fills
  width : Word.int32.Holds c.width ∧ 0 ≤ c.width
  height : Word.int32.Holds c.height ∧ 0 ≤ c.height

instance (c : PendingConfigure) : Decidable c.Dictates :=
  decidable_of_iff (c.Fills ∧ (Word.int32.Holds c.width ∧ 0 ≤ c.width)
      ∧ Word.int32.Holds c.height ∧ 0 ≤ c.height)
    ⟨fun ⟨hf, hw, hh⟩ => ⟨hf, hw, hh⟩, fun h => ⟨h.fills, h.width, h.height⟩⟩

namespace Window

variable {w v : Window} {size : Rect}

/-- The operation is a configure, or asks for a state, a border or a name of the window. It does
not measure the window anew. -/
def Op.IsModal : Op → Prop
  | .configureToplevel _ _ _ | .configureSurface | .configureDecoration _ | .keyboardFocus _
  | .setFullscreen _ | .setMaximized _ | .setMinimized _ | .setBorder _ | .setTitle _
  | .setAppId _ | .takeEvents | .takeRequests => True
  | _ => False

/-- The window shows something, and its floating size is still `size`. -/
structure Away (size : Rect) (w : Window) : Prop where
  windowSize : w.windowSize = size
  shown : w.geometry.isEmpty = .ok false

/-- A configure that does not fill would bring the window back. -/
def Announced (w : Window) : Prop :=
  w.stateChange = true ∨ w.fullscreen.desired = true ∨ w.maximized.desired = true

theorem Away.unchanged (hw : Away size w) (hsize : v.windowSize = w.windowSize)
    (hgeometry : v.geometry = w.geometry) (hchange : v.stateChange = w.stateChange)
    (hfullscreen : v.fullscreen = w.fullscreen) (hmaximized : v.maximized = w.maximized) :
    Away size v ∧ (w.Announced → v.Announced) := by
  refine ⟨⟨hsize.trans hw.windowSize, hgeometry ▸ hw.shown⟩, fun h => ?_⟩
  unfold Announced at h ⊢
  rwa [hchange, hfullscreen, hmaximized]

/-! ## One operation -/

theorem afterConfigure_away (hw : Away size w) {c : PendingConfigure} (hc : c.Dictates) :
    Away size (w.afterConfigure c) := by
  obtain ⟨hsize, hgeometry⟩ := afterConfigure_of_fills hc.fills w
  refine ⟨hsize.trans hw.windowSize, ?_⟩
  rw [hgeometry]
  split_ifs with hkept
  · exact hw.shown
  · have hwidth : 0 < c.width := lt_of_le_of_ne hc.width.2 (by tauto)
    have hheight : 0 < c.height := lt_of_le_of_ne hc.height.2 (by tauto)
    exact Rect.isEmpty_ofSize hc.width.1 hwidth hc.height.1 hheight

theorem afterConfigure_announced {c : PendingConfigure} (hc : c.Fills) (w : Window) :
    (w.afterConfigure c).Announced := by
  obtain ⟨_, _, _, _, _, _, _, _, h⟩ := afterConfigure_eq w c
  rw [h]
  exact .inr hc

/-- The states of a configure that does not fill differ from the ones announced. -/
theorem Announced.stateChange (h : w.Announced) {c : PendingConfigure} (hc : ¬ c.Fills) :
    (w.afterStates c).stateChange = true := by
  obtain ⟨_, _, _, _, _, hs⟩ := afterStates_eq w c
  rw [hs]
  simp only [PendingConfigure.Fills, not_or, Bool.not_eq_true] at hc
  rcases h with h | h | h <;> simp [h, hc]

theorem step_away_of_acknowledges_none {op : Op} (hw : Away size w) (hop : op.IsModal)
    (hnone : op.acknowledges w.pending = none) :
    ∃ v r, w.step op = .ok (v, r) ∧ Away size v ∧ (w.Announced → v.Announced) := by
  cases op with
  | configureSurface =>
    have hstep := configureSurface_of_none hnone
    exact ⟨_, _, bind_eq_ok.2 ⟨_, hstep, rfl⟩, hw.unchanged rfl rfl rfl rfl rfl⟩
  | configureToplevel width height states =>
    exact ⟨_, _, rfl, hw.unchanged rfl rfl rfl rfl rfl⟩
  | setFullscreen on =>
    refine ⟨_, _, rfl, ?_⟩
    rcases setFullscreen_cases w on with ⟨-, hf⟩ | ⟨-, hf⟩ <;> rw [hf]
    · exact hw.unchanged rfl rfl rfl rfl rfl
    · exact ⟨⟨hw.windowSize, hw.shown⟩, fun _ => .inl rfl⟩
  | setMaximized on =>
    refine ⟨_, _, rfl, ?_⟩
    rcases setMaximized_cases w on with ⟨-, hm⟩ | ⟨-, hm⟩ <;> rw [hm]
    · exact hw.unchanged rfl rfl rfl rfl rfl
    · exact ⟨⟨hw.windowSize, hw.shown⟩, fun _ => .inl rfl⟩
  | setMinimized on =>
    obtain ⟨_, _, hm⟩ := setMinimized_eq w on
    refine ⟨_, _, rfl, ?_⟩
    rw [hm]
    exact hw.unchanged rfl rfl rfl rfl rfl
  | setBorder on =>
    refine ⟨_, _, rfl, ?_⟩
    rw [setBorder_eq]
    exact hw.unchanged rfl rfl rfl rfl rfl
  | keyboardFocus hasKeyboard =>
    refine ⟨_, _, rfl, ?_⟩
    rw [keyboardFocus, updateFocus_eq]
    exact hw.unchanged rfl rfl rfl rfl rfl
  | setTitle title =>
    refine ⟨_, _, rfl, ?_⟩
    rw [Window.setTitle, pushRequest_eq]
    exact hw.unchanged rfl rfl rfl rfl rfl
  | setAppId appId =>
    refine ⟨_, _, rfl, ?_⟩
    rw [Window.setAppId, pushRequest_eq]
    exact hw.unchanged rfl rfl rfl rfl rfl
  | configureDecoration mode => exact ⟨_, _, rfl, hw.unchanged rfl rfl rfl rfl rfl⟩
  | takeEvents => exact ⟨_, _, rfl, hw.unchanged rfl rfl rfl rfl rfl⟩
  | takeRequests => exact ⟨_, _, rfl, hw.unchanged rfl rfl rfl rfl rfl⟩
  | _ => exact absurd hop id

theorem step_away_of_acknowledges_some {op : Op} {c : PendingConfigure} (hw : Away size w)
    (hsome : op.acknowledges w.pending = some c) (hc : c.Dictates) :
    ∃ v r, w.step op = .ok (v, r) ∧ Away size v ∧ v.Announced := by
  cases op with
  | configureSurface =>
    obtain ⟨activated, hstep⟩ := configureSurface_of_pending hsome hw.shown
    have haway := afterConfigure_away (w := { w with pending := none })
      ⟨hw.windowSize, hw.shown⟩ hc
    exact ⟨_, .flag activated, bind_eq_ok.2 ⟨_, hstep, rfl⟩, ⟨haway.windowSize, haway.shown⟩,
      afterConfigure_announced hc.fills { w with pending := none }⟩
  | _ => cases hsome

/-- An operation that acknowledges no configure but one that fills keeps the window away, and leaves
the return announced where it was or where it acknowledges one. -/
theorem step_away {op : Op} (hw : Away size w) (hop : op.IsModal)
    (hc : ∀ c ∈ op.acknowledges w.pending, c.Dictates) :
    ∃ v r, w.step op = .ok (v, r) ∧ Away size v
      ∧ (w.Announced ∨ op.acknowledges w.pending ≠ none → v.Announced) := by
  cases hack : op.acknowledges w.pending with
  | none =>
    obtain ⟨v, r, hstep, hv, hannounced⟩ := step_away_of_acknowledges_none hw hop hack
    exact ⟨v, r, hstep, hv, fun h => hannounced (h.resolve_right (not_not_intro rfl))⟩
  | some c =>
    obtain ⟨v, r, hstep, hv, hannounced⟩ := step_away_of_acknowledges_some hw hack (hc c hack)
    exact ⟨v, r, hstep, hv, fun _ => hannounced⟩

/-! ## A whole history -/

/-- From the first acknowledged configure on, a history in which all of them fill leaves the return
announced. -/
theorem run_away : ∀ {ops : List Op} {w : Window}, Away size w → (∀ op ∈ ops, op.IsModal) →
    (∀ c ∈ acknowledged w.pending ops, c.Dictates) →
    ∃ v, run w ops = .ok v ∧ Away size v
      ∧ (w.Announced ∨ acknowledged w.pending ops ≠ [] → v.Announced)
  | [], w, hw, _, _ => ⟨w, rfl, hw, fun h => h.resolve_right (not_not_intro rfl)⟩
  | op :: ops, w, hw, hops, hc => by
    rw [acknowledged] at hc ⊢
    obtain ⟨u, r, hstep, hu, hannounced⟩ := step_away hw (hops op (List.mem_cons_self ..))
      fun c hcop => hc c (List.mem_append_left _ (by simpa using hcop))
    have hpending : u.pending = op.waiting w.pending := (step_configures hstep).1
    rw [← hpending] at hc ⊢
    obtain ⟨v, hrun, hv, hrest⟩ := run_away hu (fun o ho => hops o (List.mem_cons_of_mem _ ho))
      fun c hcops => hc c (List.mem_append_right _ hcops)
    refine ⟨v, run_cons.2 ⟨u, r, hstep, hrun⟩, hv, fun h => hrest ?_⟩
    by_cases hlater : acknowledged u.pending ops = []
    · left
      apply hannounced
      rw [hlater, List.append_nil] at h
      exact h.imp_right fun hne hnone => hne (by rw [hnone]; rfl)
    · exact .inr hlater

/-- The window was given its size, perhaps many times, and is now to float: it returns to the
floating size it had, which nothing on the way has written. -/
theorem geometry_of_return {ops : List Op} {last : PendingConfigure}
    (hshown : w.geometry.isEmpty = .ok false) (hops : ∀ op ∈ ops, op.IsModal)
    (haway : acknowledged w.pending ops ≠ [])
    (hfills : ∀ c ∈ acknowledged w.pending ops, c.Dictates)
    (hlast : waitingAfter w.pending ops = some last) (hfloats : ¬ last.Fills) :
    ∃ v, run w (ops ++ [.configureSurface]) = .ok v ∧ v.geometry = w.windowSize
      ∧ v.events.resize = true
      ∧ ∀ pre, pre <+: ops ++ [.configureSurface] →
        ∃ u, run w pre = .ok u ∧ u.windowSize = w.windowSize := by
  obtain ⟨u, hrun, hu, hannounced⟩ := run_away ⟨rfl, hshown⟩ hops hfills
  have hp : u.pending = some last := (run_configures hrun).1.trans hlast
  have hchange := Announced.stateChange (w := { u with pending := none })
    (hannounced (.inr haway)) hfloats
  obtain ⟨hsize, hgeometry, hresize⟩ := afterConfigure_of_change hfloats hchange
  have hend := run_acknowledge hrun hp hu.shown
  refine ⟨_, hend, hgeometry.trans hu.windowSize, hresize, fun pre hpre => ?_⟩
  rcases List.prefix_concat_iff.1 hpre with rfl | hpre
  · exact ⟨_, hend, hsize.trans hu.windowSize⟩
  · obtain ⟨u', hrun', hu', -⟩ := @run_away w.windowSize pre w ⟨rfl, hshown⟩
      (fun op hop => hops op (hpre.subset hop))
      fun c hc => hfills c (acknowledged_subset hpre _ hc)
    exact ⟨u', hrun', hu'.windowSize⟩

theorem geometry_of_return_refused : ∃ w, run (new {}) [.reconfig 1920 1080] = .ok w
    ∧ ∃ v, run w ([.configureToplevel 1280 720 [.fullscreen], .configureSurface,
        .setFullscreen false, .setFullscreen true, .configureToplevel 640 480 []]
        ++ [.configureSurface]) = .ok v
      ∧ v.geometry = .ofSize 1920 1080 ∧ v.events.resize = true := by
  obtain ⟨w, hw, hshown, hpending, hsize⟩ : ∃ w, run (new {}) [.reconfig 1920 1080] = .ok w
      ∧ w.geometry.isEmpty = .ok false ∧ w.pending = none
      ∧ w.windowSize = .ofSize 1920 1080 := by
    decide +kernel
  obtain ⟨v, hv, hgeometry, hresize, -⟩ := @geometry_of_return w
    [.configureToplevel 1280 720 [.fullscreen], .configureSurface,
      .setFullscreen false, .setFullscreen true, .configureToplevel 640 480 []]
    ⟨640, 480, []⟩ hshown (by simp [Op.IsModal])
    (by rw [hpending]; decide) (by rw [hpending]; decide) (by rw [hpending]; rfl) (by decide)
  exact ⟨w, hw, v, hv, hgeometry.trans hsize, hresize⟩

end Window

end VideoOutput
