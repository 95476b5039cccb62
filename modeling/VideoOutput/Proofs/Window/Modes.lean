import VideoOutput.Proofs.Window.Reports

/-!
# The modes in force

A configure takes effect where it is acknowledged while the window shows something. Whether the
window is fullscreen, maximized and activated is what the last such configure said, and no other
operation changes it (`step_modes`, `run_modes`). The focus follows: it is there when the window is
activated and has the keyboard (`run_attentive`).
-/

namespace VideoOutput

/-- What a configure decides besides the size. -/
structure Modes where
  fullscreen : Bool := false
  maximized : Bool := false
  activated : Bool := false
  deriving DecidableEq

def ToplevelStates.modes (states : ToplevelStates) : Modes :=
  ⟨states.isFullscreen, states.isMaximized, states.isActivated⟩

/-- The modes of the last of the configures, or `modes` where there is none. -/
def lastModes (modes : Modes) (configures : List PendingConfigure) : Modes :=
  configures.foldl (fun _ c => c.states.modes) modes

theorem lastModes_append (modes : Modes) (cs ds : List PendingConfigure) :
    lastModes modes (cs ++ ds) = lastModes (lastModes modes cs) ds :=
  List.foldl_append

namespace Window

variable {w v : Window} {op : Op} {ops : List Op}

/-- The modes in force. -/
def modes (w : Window) : Modes := ⟨w.fullscreen.confirmed, w.maximized.confirmed, w.activated⟩

/-- The configure that the operation acknowledges, where `waiting` waits, if the window shows
something. -/
def Op.decides (op : Op) (w : Window) (waiting : Option PendingConfigure) :
    Option PendingConfigure :=
  if w.geometry.isEmpty = .ok false then op.acknowledges waiting else none

/-- The configures that the operations acknowledge while the window shows something, in order. -/
def decided (w : Window) (waiting : Option PendingConfigure) : List Op → List PendingConfigure
  | [] => []
  | op :: ops =>
    match w.step op with
    | .ok (v, _) => (op.decides w waiting).toList ++ decided v (op.waiting waiting) ops
    | .error _ => []

theorem applyActivation_activated (w : Window) (activated : Bool) :
    (w.applyActivation activated).activated = activated := by
  unfold applyActivation
  split_ifs with hsame
  · exact hsame
  · rcases updateFocus_cases { w with activated } with ⟨-, hu⟩ | hu <;> rw [hu] <;> rfl

theorem afterConfigure_modes (w : Window) (c : PendingConfigure) :
    (w.afterConfigure c).modes = c.states.modes := by
  obtain ⟨_, _, _, hz⟩ := applySize_eq (w.afterStates c) w.toplevelSize c.width c.height
  have hactivated : (w.afterStates c).activated = c.states.isActivated :=
    applyActivation_activated _ _
  obtain ⟨_, _, _, _, _, hs⟩ := afterStates_eq w c
  unfold afterConfigure modes
  dsimp only
  rw [hz]
  dsimp only [addEvents]
  rw [hactivated, hs]
  rfl

/-- A configure that takes effect decides the modes and leaves none of them asked for; without one
they stay. -/
theorem step_modes {r : Reply} (h : w.step op = .ok (v, r)) :
    (op.decides w w.pending = none → v.modes = w.modes)
      ∧ ∀ c, op.decides w w.pending = some c →
        v.modes = c.states.modes ∧ v.fullscreen.requested = none
          ∧ v.maximized.requested = none := by
  by_cases hop : op.IsConfigure
  · cases op with
    | configureToplevel width height states =>
      obtain ⟨rfl, -⟩ := Prod.mk.inj (pure_eq_ok.1 h)
      refine ⟨fun _ => rfl, fun c hc => ?_⟩
      simp [Op.decides, Op.acknowledges] at hc
    | configureSurface =>
      obtain ⟨⟨activated, u⟩, hu, h⟩ := bind_eq_ok.1 h
      obtain ⟨rfl, -⟩ := Prod.mk.inj (pure_eq_ok.1 h)
      simp only [Op.decides, Op.acknowledges]
      rcases configureSurface_ok hu with ⟨hp, rfl⟩ | ⟨c, hp, ⟨he, rfl⟩ | ⟨he, rfl⟩⟩
      · rw [hp]
        simp [modes]
      · rw [he]
        simp [modes]
      · rw [he, hp, if_pos rfl]
        refine ⟨by simp, ?_⟩
        rintro _ ⟨⟩
        obtain ⟨_, _, _, _, _, _, _, _, hc⟩ := afterConfigure_eq { w with pending := none } c
        refine ⟨afterConfigure_modes _ c, ?_⟩
        rw [hc]
        exact ⟨rfl, rfl⟩
    | _ => exact absurd hop id
  · have hs := step_sameDecisions h hop
    have hnone : op.decides w w.pending = none := by
      rw [Op.decides, Op.acknowledges_of_not_isConfigure hop, ite_self]
    refine ⟨fun _ => ?_, fun c hc => ?_⟩
    · rw [modes, hs.fullscreen, hs.maximized, hs.activated]
      rfl
    · rw [hnone] at hc
      cases hc

theorem run_modes : ∀ {ops : List Op} {w v : Window}, run w ops = .ok v →
    v.modes = lastModes w.modes (decided w w.pending ops)
  | [], _, _, h => by
    obtain rfl := pure_eq_ok.1 h
    rfl
  | op :: ops, w, v, h => by
    obtain ⟨u, r, hstep, hrun⟩ := run_cons.1 h
    obtain ⟨hkept, hdecided⟩ := step_modes hstep
    have hu : u.modes = lastModes w.modes (op.decides w w.pending).toList := by
      cases hop : op.decides w w.pending with
      | none => exact hkept hop
      | some c => exact (hdecided c hop).1
    rw [run_modes hrun, hu, decided, hstep, (step_configures hstep).1]
    exact (lastModes_append _ _ _).symm

theorem run_attentive : ∀ {ops : List Op} {w v : Window}, run w ops = .ok v → w.Attentive →
    v.Attentive
  | [], _, _, h, hw => by
    obtain rfl := pure_eq_ok.1 h
    exact hw
  | op :: ops, w, v, h, hw => by
    obtain ⟨u, r, hstep, hrun⟩ := run_cons.1 h
    refine run_attentive hrun ?_
    by_cases htaken : op = .takeEvents
    · subst htaken
      obtain ⟨rfl, -⟩ := Prod.mk.inj (pure_eq_ok.1 hstep)
      exact hw
    · exact (step_reports hstep htaken).attentive hw

end Window

end VideoOutput
