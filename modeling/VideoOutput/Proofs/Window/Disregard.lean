import VideoOutput.Proofs.Window.History

/-!
# What an operation does not look at

Two windows that differ only in what an operation does not look at differ in no more after it.
`Disregard` names what may be left out of account and `Op.Heeds` the operations that look at it; any
other comes to the same whether the window has it or not (`step_without`). The operations that
write nothing else are aside (`step_aside`).
-/

namespace VideoOutput

/-- What a comparison of windows leaves out of account, the phase always with it. -/
inductive Disregard where
  /-- The configure that waits. -/
  | waiting
  /-- Minimizing, activation, the keyboard and the focus, and the events and requests that wait. -/
  | traffic
  /-- That, and the decoration. -/
  | decoration

namespace Window

variable {d : Disregard} {u v w : Window} {op : Op} {ops : List Op}

/-- The window as if there were no traffic. -/
def quiet (w : Window) : Window :=
  { w with
    phase := .unconfigured
    minimized := false
    activated := false
    hasKeyboard := false
    focused := false
    events := .none
    requests := [] }

/-- The window with nothing in place of what is disregarded. -/
def without : Disregard → Window → Window
  | .waiting, w => { w with phase := .unconfigured, pending := none }
  | .traffic, w => w.quiet
  | .decoration, w => { w.quiet with decoration := .settled .clientSide, canDecorate := false }

theorem without_keeps (d : Disregard) (w : Window) :
    (without d w).options = w.options ∧ (without d w).geometry = w.geometry
      ∧ (without d w).windowSize = w.windowSize ∧ (without d w).naturalSize = w.naturalSize
      ∧ (without d w).aspect = w.aspect ∧ (without d w).scaling = w.scaling
      ∧ (without d w).hasOutput = w.hasOutput ∧ (without d w).fullscreen = w.fullscreen
      ∧ (without d w).maximized = w.maximized ∧ (without d w).toplevelSize = w.toplevelSize
      ∧ (without d w).stateChange = w.stateChange ∧ (without d w).isFilling = w.isFilling := by
  cases d <;> exact ⟨rfl, rfl, rfl, rfl, rfl, rfl, rfl, rfl, rfl, rfl, rfl, rfl⟩

/-- The function comes to the same, but for what is disregarded, where the window lacks it. -/
def Blind (d : Disregard) (f : Window → Window) : Prop :=
  ∀ w, without d (f (without d w)) = without d (f w)

/-- The same of a computation that may have no result. -/
def Regardless (d : Disregard) (f : Window → Except ArithmeticFault Window) : Prop :=
  ∀ w, without d <$> f (without d w) = without d <$> f w

namespace Blind

variable {f g : Window → Window}

protected theorem id : Blind d fun w => w := by
  intro w
  cases d <;> rfl

theorem comp (hf : Blind d f) (hg : Blind d g) : Blind d fun w => f (g w) := by
  intro w
  dsimp only
  rw [← hf (g (without d w)), hg w, hf (g w)]

theorem ite {c : Window → Prop} [DecidablePred c] (hc : ∀ w, c (without d w) ↔ c w)
    (hf : Blind d f) (hg : Blind d g) : Blind d fun w => if c w then f w else g w := by
  intro w
  simp only [hc]
  split_ifs
  · exact hf w
  · exact hg w

end Blind

namespace Regardless

variable {f g : Window → Except ArithmeticFault Window}

theorem of_blind {f : Window → Window} (hf : Blind d f) : Regardless d fun w => pure (f w) :=
  fun w => congrArg Except.ok (hf w)

theorem comp {g : Window → Window} (hf : Regardless d f) (hg : Blind d g) :
    Regardless d fun w => f (g w) := by
  intro w
  dsimp only
  rw [← hf (g (without d w)), hg w, hf (g w)]

theorem ite {c : Window → Prop} [DecidablePred c] (hc : ∀ w, c (without d w) ↔ c w)
    (hf : Regardless d f) (hg : Regardless d g) :
    Regardless d fun w => if c w then f w else g w := by
  intro w
  simp only [hc]
  split_ifs
  · exact hf w
  · exact hg w

theorem bind {g : Window → Window → Except ArithmeticFault Window} (hf : Regardless d f)
    (hg : ∀ w, Regardless d (g w)) (hsame : ∀ w, g (without d w) = g w) :
    Regardless d fun w => f w >>= g w := by
  intro w
  -- what is disregarded may be left out before `g` or after it
  have hlate : ∀ x : Except ArithmeticFault Window,
      without d <$> (x >>= g w) = (without d <$> x) >>= fun u => without d <$> g w u := by
    intro x
    cases x with
    | error fault => rfl
    | ok u => exact (hg w u).symm
  dsimp only
  rw [hsame, hlate, hlate, hf w]

theorem read {α : Type} {x : Window → Except ArithmeticFault α}
    {g : α → Window → Except ArithmeticFault Window} (hx : ∀ w, x (without d w) = x w)
    (hg : ∀ a, Regardless d (g a)) : Regardless d fun w => x w >>= fun a => g a w := by
  intro w
  dsimp only
  rw [hx]
  cases x w with
  | error fault => rfl
  | ok a => exact hg a w

end Regardless

/-! ## Operations that always have a result -/

section Blind

variable {outputScale : Int} {on : Bool}

theorem blind_addEvents (events : WindowEvents) : Blind d fun w => w.addEvents events := by
  intro w
  cases d <;> rfl

theorem blind_markSpeculative : Blind d markSpeculative := by
  intro w
  simp only [markSpeculative_eq]
  cases d <;> rfl

theorem blind_pushRequest (request : ShellRequest) : Blind d fun w => w.pushRequest request := by
  intro w
  simp only [pushRequest_eq]
  cases d <;> rfl

theorem blind_initDecorations : Blind d fun w => w.initDecorations on := by
  intro w
  cases on <;> simp only [initDecorations, pushRequest_eq] <;> cases d <;> rfl

theorem blind_setBorder : Blind d fun w => w.setBorder on := by
  intro w
  simp only [setBorder_eq]
  cases d <;> rfl

theorem blind_keyboardFocus : Blind d fun w => w.keyboardFocus on := by
  intro w
  simp only [keyboardFocus, updateFocus_eq]
  cases d <;> rfl

theorem blind_setFullscreen : Blind d fun w => w.setFullscreen on := by
  refine .ite (fun w => by simp only [without_keeps]) .id fun w => ?_
  simp only [pushRequest_eq]
  cases d <;> rfl

theorem blind_setMaximized : Blind d fun w => w.setMaximized on := by
  intro w
  simp only [setMaximized, without_keeps, pushRequest_eq]
  split_ifs <;> cases d <;> rfl

theorem blind_setMinimized : Blind d fun w => w.setMinimized on := by
  intro w
  cases on <;> simp only [setMinimized, pushRequest_eq] <;> cases d <;> rfl

theorem blind_setScaling : Blind d fun w => w.setScaling outputScale := by
  intro w
  cases d <;> rfl

theorem blind_attachOutput : Blind d fun w => w.attachOutput outputScale := by
  intro w
  simp only [attachOutput, without_keeps]
  split_ifs <;> cases d <;> rfl

theorem blind_resetWindowSize : Blind d resetWindowSize := by
  intro w
  simp only [resetWindowSize, without_keeps]
  split_ifs <;> cases d <;> rfl

theorem blind_requestDesired : Blind d requestDesired := by
  intro w
  obtain ⟨_, hw⟩ := requestDesired_eq w
  obtain ⟨_, hw'⟩ := requestDesired_eq (without d w)
  rw [hw, hw']
  cases d <;> rfl

theorem blind_afterStates (c : PendingConfigure) : Blind d fun w => w.afterStates c := by
  intro w
  simp only [afterStates, applyActivation_eq, updateFocus_eq]
  cases d <;> rfl

theorem applySize_without (w : Window) (previous : Size) (width height : Int) :
    (without d w).applySize previous width height
      = (without d (w.applySize previous width height).1,
          (w.applySize previous width height).2) := by
  simp only [applySize, aspectSize, without_keeps]
  split_ifs <;> cases d <;> rfl

theorem blind_afterConfigure (c : PendingConfigure) : Blind d fun w => w.afterConfigure c := by
  intro w
  have hsize := congrArg (fun v => applySize v w.toplevelSize c.width c.height)
    (blind_afterStates c w : without d ((without d w).afterStates c) = without d (w.afterStates c))
  simp only [applySize_without, Prod.mk.injEq] at hsize
  obtain ⟨hwindow, hresized⟩ := hsize
  simp only [afterConfigure, without_keeps]
  rw [← blind_addEvents _ (applySize _ _ _ _).1, hwindow, hresized]
  exact blind_addEvents _ _

end Blind

/-! ## Operations that may have no result -/

section Regardless

variable {outputScale width height : Int} {on : Bool}

theorem regardless_setNaturalSize : Regardless d setNaturalSize := by
  intro w
  cases d <;> simp only [setNaturalSize, map_bind, map_pure] <;> rfl

theorem regardless_takeWindowSize : Regardless d takeWindowSize := by
  intro w
  simp only [takeWindowSize, without_keeps]
  split_ifs
  · cases d <;> rfl
  · cases w.geometry.isEmpty with
    | error fault => rfl
    | ok empty => cases empty <;> cases d <;> rfl

theorem regardless_surfaceEntered :
    Regardless d fun w => w.surfaceEntered outputScale on := by
  have hscaled : Blind d fun w => if w.targetScaling outputScale ≠ w.scaling then
      (w.setScaling outputScale).addEvents { scale := true } else w := by
    refine .ite (fun w => ?_) ((blind_addEvents _).comp blind_setScaling) .id
    simp only [targetScaling, without_keeps]
  unfold surfaceEntered
  cases on
  · refine .bind (.of_blind hscaled) (fun w => .of_blind (blind_addEvents _)) fun w => ?_
    cases d <;> rfl
  · refine .bind (regardless_setNaturalSize.comp hscaled) (fun w => .of_blind (blind_addEvents _))
      fun w => ?_
    cases d <;> rfl

theorem regardless_outputDone : Regardless d fun w => w.outputDone on outputScale := by
  unfold outputDone
  cases on
  · exact .of_blind (blind_addEvents _)
  · exact .bind (regardless_setNaturalSize.comp blind_setScaling)
      (fun _ => .of_blind ((blind_addEvents _).comp (blind_addEvents _))) fun _ => rfl

theorem regardless_reconfig : Regardless d fun w => w.reconfig width height := by
  have hvideo : Blind d fun w => { w with videoSize := (width, height) } := by
    intro w
    cases d <;> rfl
  refine .bind (regardless_setNaturalSize.comp hvideo) (fun _ => ?_) fun _ => rfl
  exact .bind (regardless_takeWindowSize.comp blind_resetWindowSize)
    (fun _ => .of_blind ((blind_addEvents _).comp blind_requestDesired)) fun _ => rfl

theorem regardless_setWindowSize : Regardless d fun w => w.setWindowSize width height := by
  have hasked : Blind d fun w => { w with options := { w.options with width, height } } := by
    intro w
    cases d <;> rfl
  have hfloating : Blind d fun w =>
      if w.isFilling then { w with windowSize := w.naturalSize }
      else { w with windowSize := w.naturalSize, geometry := w.naturalSize } := by
    refine .ite (fun w => by simp only [without_keeps]) ?_ ?_ <;> intro w <;>
      cases d <;> rfl
  have hresized := (blind_addEvents (d := d) { resize := true }).comp blind_markSpeculative
  unfold setWindowSize
  refine .ite (fun w => by cases d <;> rfl) (.of_blind hasked) ?_
  exact .bind (regardless_setNaturalSize.comp hasked)
    (fun _ => .of_blind (hresized.comp hfloating)) fun _ => rfl

theorem regardless_setUnfullscreenSize :
    Regardless d fun w => w.setUnfullscreenSize width height := by
  have hfloating : ∀ r : Rect, Blind d fun w => { w with windowSize := r } := by
    intro r w
    cases d <;> rfl
  unfold setUnfullscreenSize
  refine .read (fun w => by simp only [without_keeps]) fun scaledWidth => ?_
  refine .read (fun w => by simp only [without_keeps]) fun scaledHeight => ?_
  refine .ite (fun w => by cases d <;> rfl) (.of_blind (hfloating _)) ?_
  refine .ite (fun w => by cases d <;> rfl) (.of_blind (blind_setMaximized.comp (hfloating _))) ?_
  refine .of_blind ((blind_addEvents _).comp (blind_markSpeculative.comp ?_))
  intro w
  cases d <;> rfl

theorem regardless_applyConfigure (c : PendingConfigure) :
    Regardless d fun w => w.applyConfigure c := by
  simp only [applyConfigure_eq]
  refine .read (fun w => by simp only [without_keeps]) fun empty => .of_blind ?_
  cases empty
  · exact blind_afterConfigure c
  · intro w
    cases d <;> rfl

/-- The configure that waits is looked at. -/
theorem regardless_configureSurface (hd : d ≠ .waiting) :
    Regardless d fun w => Prod.snd <$> w.configureSurface := by
  have hpending : ∀ w, (without d w).pending = w.pending := by
    intro w
    cases d with
    | waiting => exact absurd rfl hd
    | traffic => rfl
    | decoration => rfl
  have htaken : Blind d fun w => { w with pending := none } := by
    intro w
    cases d <;> rfl
  have hsteady : Blind d fun w => { w with phase := .steady } := by
    intro w
    cases d <;> rfl
  have hsnd : ∀ w : Window, Prod.snd <$> w.configureSurface
      = (w.pending.elim (pure w) fun c => applyConfigure { w with pending := none } c)
        >>= fun u => pure { u with phase := .steady } := by
    intro w
    unfold configureSurface
    cases hp : w.pending with
    | none => rfl
    | some c =>
      dsimp only [Option.elim_some]
      cases applyConfigure { w with pending := none } c <;> rfl
  simp only [hsnd]
  refine .bind (fun w => ?_) (fun _ => .of_blind hsteady) fun _ => rfl
  rw [hpending w]
  cases w.pending with
  | none => exact Regardless.of_blind .id w
  | some c => exact (regardless_applyConfigure c).comp htaken w

end Regardless

/-! ## Any operation -/

/-- The operation looks at what is disregarded. -/
def Op.Heeds : Disregard → Op → Prop
  | .waiting, .configureSurface | .decoration, .pointerPressed _ _
  | .decoration, .touchDown _ _ => True
  | _, _ => False

/-- What is left of a window and of an answer. Without the configure that waits the answers are
all there. -/
def view : Disregard → Window × Reply → Window × Reply
  | .waiting, (w, r) => (without .waiting w, r)
  | d, (w, _) => (without d w, .none)

theorem view_of_regardless {f : Window → Except ArithmeticFault Window} (hf : Regardless d f)
    (w : Window) (r : Reply) :
    view d <$> (do return (← f (without d w), r)) = view d <$> (do return (← f w, r)) := by
  have hview : ∀ x : Except ArithmeticFault Window, view d <$> (do return (← x, r))
      = (fun v => view d (v, r)) <$> without d <$> x := by
    intro x
    cases x with
    | error fault => rfl
    | ok v => cases d <;> rfl
  rw [hview, hview, hf w]

theorem view_of_blind {f : Window → Window} (hf : Blind d f) (w : Window) (r : Reply) :
    view d <$> (pure (f (without d w), r) : Except ArithmeticFault (Window × Reply))
      = view d <$> pure (f w, r) :=
  view_of_regardless (.of_blind hf) w r

theorem view_of_answer {α : Type} {x y : Except ArithmeticFault α} (hxy : x = y)
    (answer : α → Reply) (h : without d u = without d w) :
    view d <$> (do return (u, answer (← x))) = view d <$> (do return (w, answer (← y))) := by
  subst hxy
  cases x with
  | error fault => rfl
  | ok a => cases d <;> exact congrArg (fun v => Except.ok (v, _)) h

/-- An operation that looks at nothing that is disregarded comes to the same without it, also in
having no result. -/
theorem step_without (hop : ¬ op.Heeds d) (w : Window) :
    view d <$> (without d w).step op = view d <$> w.step op := by
  cases op with
  | surfaceEntered scale areaChanged => exact view_of_regardless regardless_surfaceEntered w _
  | outputDone isCurrent scale => exact view_of_regardless regardless_outputDone w _
  | reconfig width height => exact view_of_regardless regardless_reconfig w _
  | setWindowSize width height => exact view_of_regardless regardless_setWindowSize w _
  | setUnfullscreenSize width height =>
    exact view_of_regardless regardless_setUnfullscreenSize w _
  | configureSurface =>
    have hd : d ≠ .waiting := fun hd => hop (hd ▸ trivial)
    -- the answer tells of the activation, which is disregarded
    have hview : ∀ w : Window, view d <$> w.step .configureSurface
        = (fun u => (u, .none)) <$> without d <$> Prod.snd <$> w.configureSurface := by
      intro w
      change view d <$> (w.configureSurface >>= _) = _
      cases w.configureSurface with
      | error fault => rfl
      | ok result => cases d <;> first | rfl | exact absurd rfl hd
    rw [hview, hview, regardless_configureSurface hd w]
  | initDecorations available => exact view_of_blind blind_initDecorations w _
  | attachOutput scale => exact view_of_blind blind_attachOutput w _
  | setBorder on => exact view_of_blind blind_setBorder w _
  | keyboardFocus hasKeyboard => exact view_of_blind blind_keyboardFocus w _
  | setFullscreen on => exact view_of_blind blind_setFullscreen w _
  | setMaximized on => exact view_of_blind blind_setMaximized w _
  | setMinimized on => exact view_of_blind blind_setMinimized w _
  | setTitle title => exact view_of_blind (blind_pushRequest _) w _
  | setAppId appId => exact view_of_blind (blind_pushRequest _) w _
  | addEvents events => exact view_of_blind (blind_addEvents _) w _
  | surfaceLeft => exact view_of_blind (blind_addEvents _) w _
  | pointerPressed x y =>
    have hpress : (without d w).pointerPressed x y = w.pointerPressed x y := by
      cases d <;> first | rfl | exact absurd trivial hop
    exact view_of_answer hpress .request (Blind.id w)
  | touchDown x y =>
    have hpress : (without d w).touchDown x y = w.touchDown x y := by
      cases d <;> first | rfl | exact absurd trivial hop
    exact view_of_answer hpress (fun request => .request (some request)) (Blind.id w)
  | unfullscreenSize =>
    have hsize : (without d w).unfullscreenSize = w.unfullscreenSize := by
      cases d <;> rfl
    exact view_of_answer hsize .size (Blind.id w)
  | _ => cases d <;> rfl

theorem step_congr (hop : ¬ op.Heeds d) (h : without d u = without d w) :
    view d <$> u.step op = view d <$> w.step op := by
  rw [← step_without hop u, h, step_without hop w]

/-- The operation neither measures the window nor decorates it nor waits for a configure. -/
def Op.isTraffic : Op → Bool
  | .surfaceLeft | .keyboardFocus _ | .setMinimized _ | .setTitle _ | .setAppId _ | .addEvents _
  | .takeEvents | .takeRequests => true
  | _ => false

def Op.isDecoration : Op → Bool
  | .initDecorations _ | .configureDecoration _ | .setBorder _ => true
  | _ => false

/-- The operation writes nothing but what is disregarded. -/
def Op.isAside : Disregard → Op → Bool
  | .waiting, .configureToplevel _ _ _ => true
  | .waiting, _ => false
  | .traffic, op => op.isTraffic
  | .decoration, op => op.isTraffic || op.isDecoration

theorem step_quiet (hop : op.isTraffic = true) (w : Window) :
    ∃ v r, w.step op = .ok (v, r) ∧ v.quiet = w.quiet := by
  have hpush : ∀ request, (w.pushRequest request).quiet = w.quiet := by
    intro request
    rw [pushRequest_eq]
    rfl
  cases op with
  | setTitle title => exact ⟨_, _, rfl, hpush _⟩
  | setAppId appId => exact ⟨_, _, rfl, hpush _⟩
  | keyboardFocus hasKeyboard =>
    refine ⟨_, _, rfl, ?_⟩
    rw [keyboardFocus, updateFocus_eq]
    rfl
  | setMinimized on =>
    obtain ⟨_, _, hminimized⟩ := setMinimized_eq w on
    refine ⟨_, _, rfl, ?_⟩
    rw [hminimized]
    rfl
  | surfaceLeft => exact ⟨_, _, rfl, rfl⟩
  | addEvents events => exact ⟨_, _, rfl, rfl⟩
  | takeEvents => exact ⟨_, _, rfl, rfl⟩
  | takeRequests => exact ⟨_, _, rfl, rfl⟩
  | _ => exact absurd hop Bool.false_ne_true

theorem step_aside (hop : op.isAside d = true) (w : Window) :
    ∃ v r, w.step op = .ok (v, r) ∧ without d v = without d w := by
  cases d with
  | waiting =>
    cases op with
    | configureToplevel width height states => exact ⟨_, _, rfl, rfl⟩
    | _ => exact absurd hop Bool.false_ne_true
  | traffic => exact step_quiet hop w
  | decoration =>
    rcases Bool.or_eq_true_iff.1 hop with htraffic | hdecoration
    · obtain ⟨v, r, hstep, hquiet⟩ := step_quiet htraffic w
      exact ⟨v, r, hstep, by rw [without, without, hquiet]⟩
    · cases op with
      | initDecorations available =>
        refine ⟨_, _, rfl, ?_⟩
        rw [initDecorations_eq]
        rfl
      | setBorder on =>
        refine ⟨_, _, rfl, ?_⟩
        rw [setBorder_eq]
        rfl
      | configureDecoration mode => exact ⟨_, _, rfl, rfl⟩
      | _ => exact absurd hdecoration Bool.false_ne_true

end Window

end VideoOutput
