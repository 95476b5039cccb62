import VideoOutput.Proofs.Window.History

/-!
# What the phase tells

The phase is written by a dozen operations, but it says three things about a history only: whether
a configure ever came, whether one waits, and whether anything was asked or changed since the last
acknowledgment (`phase_of_history`). Between acknowledgments an operation queues requests and does
or does not take a size (`Marks`); an acknowledgment may queue a request too, and is steady still.
-/

namespace VideoOutput

namespace Phase

theorem speculative_speculative (p : Phase) : p.speculative.speculative = p.speculative := by
  cases p <;> rfl

theorem speculative_ne_steady (p : Phase) : p.speculative ≠ .steady := by
  cases p <;> simp [speculative]

theorem speculative_eq_unconfigured {p : Phase} :
    p.speculative = .unconfigured ↔ p = .unconfigured := by
  cases p <;> simp [speculative]

end Phase

namespace Window

variable {u w v : Window}

/-- The operation takes a size at once: an explicit one where there is an output to measure it by,
and a floating one where the window floats and it becomes the content rectangle
(`setUnfullscreenSize_ok`). -/
def Op.takesSize (w : Window) : Op → Bool
  | .setWindowSize _ _ => w.hasOutput
  | .setUnfullscreenSize _ _ => !w.isFilling
  | _ => false

/-- The operation, which led from the one window to the other, ends the steady phase. -/
def Op.Unsettles (w v : Window) (op : Op) : Prop :=
  (∃ width height states, op = .configureToplevel width height states)
    ∨ (∃ queued ≠ [], v.requests = w.requests ++ queued) ∨ op.takesSize w = true

/-- An acknowledgment came, and no operation since the last one ended the steady phase. -/
def Undisturbed (u : Window) (ops : List Op) : Prop :=
  ∃ past recent, ops = past ++ [.configureSurface] ++ recent ∧ .configureSurface ∉ recent
    ∧ ∀ before op w v r, before ++ [op] <+: recent →
      run u (past ++ [.configureSurface] ++ before) = .ok w → w.step op = .ok (v, r) →
      ¬ op.Unsettles w v

/-! ## Operations between acknowledgments -/

/-- Requests are queued, maybe none, and the phase is left if one is or if a size was `taken`. -/
def Marks (taken : Bool) (w v : Window) : Prop :=
  ∃ queued, v.requests = w.requests ++ queued
    ∧ v.phase = if taken || !queued.isEmpty then w.phase.speculative else w.phase

theorem Marks.of_eq (hrequests : v.requests = w.requests) (hphase : v.phase = w.phase) :
    Marks false w v :=
  ⟨[], by simp [hrequests], by simp [hphase]⟩

theorem Marks.trans {a b : Bool} (h : Marks a w u) (h' : Marks b u v) : Marks (a || b) w v := by
  obtain ⟨first, hrequests, hphase⟩ := h
  obtain ⟨second, hrequests', hphase'⟩ := h'
  refine ⟨first ++ second, by simp [hrequests', hrequests], ?_⟩
  rw [hphase', hphase]
  cases a <;> cases b <;> cases first <;> cases second <;> simp [Phase.speculative_speculative]

theorem Marks.of_markSpeculative (hrequests : u.requests = w.requests)
    (hphase : u.phase = w.phase) (events : WindowEvents) :
    Marks true w (u.markSpeculative.addEvents events) := by
  rw [markSpeculative_eq]
  exact ⟨[], by simp [addEvents, hrequests], by simp [addEvents, hphase]⟩

theorem marks_pushRequest (w : Window) (request : ShellRequest) :
    Marks false w (w.pushRequest request) := by
  rw [pushRequest_eq]
  exact ⟨[request], rfl, by simp⟩

theorem marks_pushRequest_if (w : Window) (wanted : Bool) (request : ShellRequest) :
    Marks false w
      (if wanted then pushRequest { w with stateChange := true } request else w) := by
  split_ifs
  · exact marks_pushRequest { w with stateChange := true } request
  · exact .of_eq rfl rfl

theorem marks_setMaximized (w : Window) (on : Bool) : Marks false w (w.setMaximized on) := by
  rcases setMaximized_cases w on with ⟨-, h⟩ | ⟨-, h⟩ <;> rw [h]
  · exact .of_eq rfl rfl
  · exact ⟨_, rfl, by simp⟩

theorem marks_setFullscreen (w : Window) (on : Bool) : Marks false w (w.setFullscreen on) := by
  rcases setFullscreen_cases w on with ⟨-, h⟩ | ⟨-, h⟩ <;> rw [h]
  · exact .of_eq rfl rfl
  · exact ⟨_, rfl, by simp⟩

theorem marks_setMinimized (w : Window) (on : Bool) : Marks false w (w.setMinimized on) := by
  unfold setMinimized
  cases on
  · exact .of_eq rfl rfl
  · exact marks_pushRequest { w with minimized := true } _

theorem marks_requestDesired (w : Window) : Marks false w w.requestDesired := by
  unfold requestDesired
  dsimp only
  have hfullscreen := marks_pushRequest_if w w.fullscreen.desired .setFullscreen
  generalize (if w.fullscreen.desired then _ else w) = asked at hfullscreen ⊢
  have hmaximized := marks_pushRequest_if asked asked.maximized.desired .setMaximized
  generalize (if asked.maximized.desired then _ else asked) = asked' at hmaximized ⊢
  refine hfullscreen.trans (hmaximized.trans (b := false) ?_)
  split_ifs
  · exact marks_pushRequest _ _
  · exact .of_eq rfl rfl

theorem marks_reconfig {width height : Int} (h : w.reconfig width height = .ok v) :
    Marks false w v := by
  obtain ⟨sized, hn, h⟩ := bind_eq_ok.1 h
  obtain ⟨_, _, rfl, -⟩ := setNaturalSize_ok hn
  obtain ⟨taken, ht, h⟩ := bind_eq_ok.1 h
  obtain ⟨_, hr, -⟩ := resetWindowSize_eq _
  rw [hr] at ht
  have htaken : Marks false w taken := by
    rcases takeWindowSize_ok ht with ⟨-, rfl⟩ | ⟨-, -, rfl⟩ <;> exact .of_eq rfl rfl
  rw [← pure_eq_ok.1 h]
  exact htaken.trans (marks_requestDesired taken)

theorem marks_setWindowSize {width height : Int} (h : w.setWindowSize width height = .ok v) :
    Marks w.hasOutput w v := by
  unfold setWindowSize at h
  cases houtput : w.hasOutput
  · simp only [houtput] at h
    rw [← pure_eq_ok.1 h]
    exact .of_eq rfl rfl
  · simp only [houtput] at h
    obtain ⟨sized, hn, h⟩ := bind_eq_ok.1 h
    obtain ⟨_, _, rfl, -⟩ := setNaturalSize_ok hn
    rw [← pure_eq_ok.1 h]
    apply Marks.of_markSpeculative <;> split_ifs <;> rfl

theorem marks_setUnfullscreenSize {width height : Int}
    (h : w.setUnfullscreenSize width height = .ok v) : Marks (!w.isFilling) w v := by
  obtain ⟨scaledWidth, -, h⟩ := bind_eq_ok.1 h
  obtain ⟨scaledHeight, -, h⟩ := bind_eq_ok.1 h
  dsimp only at h
  split_ifs at h with hfullscreen hmaximized <;> rw [← pure_eq_ok.1 h]
  · rw [show w.isFilling = true by simp [isFilling, hfullscreen]]
    exact .of_eq rfl rfl
  · rw [show w.isFilling = true by simp [isFilling, hmaximized]]
    exact marks_setMaximized { w with windowSize := _ } false
  · rw [show w.isFilling = false by simp_all [isFilling]]
    exact .of_markSpeculative rfl rfl _

theorem step_marks {op : Op} {r : Reply} (h : w.step op = .ok (v, r)) (hop : ¬ op.IsConfigure)
    (htake : op ≠ .takeRequests) : Marks (op.takesSize w) w v := by
  cases op with
  | configureToplevel width height states => exact absurd trivial hop
  | configureSurface => exact absurd trivial hop
  | takeRequests => exact absurd rfl htake
  | surfaceEntered scale areaChanged =>
    obtain ⟨u, hu, h⟩ := bind_eq_ok.1 h
    obtain ⟨rfl, -⟩ := Prod.mk.inj (pure_eq_ok.1 h)
    obtain ⟨_, _, _, _, _, rfl, -⟩ := surfaceEntered_ok hu
    exact .of_eq rfl rfl
  | outputDone isCurrent scale =>
    obtain ⟨u, hu, h⟩ := bind_eq_ok.1 h
    obtain ⟨rfl, -⟩ := Prod.mk.inj (pure_eq_ok.1 h)
    obtain ⟨_, _, _, _, _, rfl, -⟩ := outputDone_ok hu
    exact .of_eq rfl rfl
  | reconfig width height =>
    obtain ⟨u, hu, h⟩ := bind_eq_ok.1 h
    obtain ⟨rfl, -⟩ := Prod.mk.inj (pure_eq_ok.1 h)
    exact marks_reconfig hu
  | setWindowSize width height =>
    obtain ⟨u, hu, h⟩ := bind_eq_ok.1 h
    obtain ⟨rfl, -⟩ := Prod.mk.inj (pure_eq_ok.1 h)
    exact marks_setWindowSize hu
  | setUnfullscreenSize width height =>
    obtain ⟨u, hu, h⟩ := bind_eq_ok.1 h
    obtain ⟨rfl, -⟩ := Prod.mk.inj (pure_eq_ok.1 h)
    exact marks_setUnfullscreenSize hu
  | attachOutput scale =>
    obtain ⟨rfl, -⟩ := Prod.mk.inj (pure_eq_ok.1 h)
    obtain ⟨_, _, _, _, _, ha⟩ := attachOutput_eq w scale
    rw [ha]
    exact .of_eq rfl rfl
  | keyboardFocus hasKeyboard =>
    obtain ⟨rfl, -⟩ := Prod.mk.inj (pure_eq_ok.1 h)
    rw [keyboardFocus, updateFocus_eq]
    exact .of_eq rfl rfl
  | initDecorations available =>
    obtain ⟨rfl, -⟩ := Prod.mk.inj (pure_eq_ok.1 h)
    rw [initDecorations_eq]
    exact ⟨_, rfl, by cases available <;> simp [Op.takesSize]⟩
  | setBorder on =>
    obtain ⟨rfl, -⟩ := Prod.mk.inj (pure_eq_ok.1 h)
    rw [setBorder_eq]
    exact ⟨_, rfl, by cases w.canDecorate <;> simp [Op.takesSize]⟩
  | setFullscreen on =>
    obtain ⟨rfl, -⟩ := Prod.mk.inj (pure_eq_ok.1 h)
    exact marks_setFullscreen w on
  | setMaximized on =>
    obtain ⟨rfl, -⟩ := Prod.mk.inj (pure_eq_ok.1 h)
    exact marks_setMaximized w on
  | setMinimized on =>
    obtain ⟨rfl, -⟩ := Prod.mk.inj (pure_eq_ok.1 h)
    exact marks_setMinimized w on
  | setTitle _ | setAppId _ =>
    obtain ⟨rfl, -⟩ := Prod.mk.inj (pure_eq_ok.1 h)
    exact marks_pushRequest w _
  | unfullscreenSize | pointerPressed _ _ | touchDown _ _ =>
    obtain ⟨answer, -, h⟩ := bind_eq_ok.1 h
    obtain ⟨rfl, -⟩ := Prod.mk.inj (pure_eq_ok.1 h)
    exact .of_eq rfl rfl
  | _ =>
    obtain ⟨rfl, -⟩ := Prod.mk.inj (pure_eq_ok.1 h)
    exact .of_eq rfl rfl

/-! ## One step -/

theorem step_configureSurface {r : Reply} (h : w.step .configureSurface = .ok (v, r)) :
    v.phase = .steady := by
  obtain ⟨⟨activated, u⟩, hu, h⟩ := bind_eq_ok.1 h
  obtain ⟨rfl, -⟩ := Prod.mk.inj (pure_eq_ok.1 h)
  rcases configureSurface_ok hu with ⟨-, rfl⟩ | ⟨c, -, ⟨-, rfl⟩ | ⟨-, rfl⟩⟩ <;> rfl

/-- Between acknowledgments the phase is left by what unsettles, and by nothing else. -/
theorem step_phase {op : Op} {r : Reply} (h : w.step op = .ok (v, r)) (hop : ¬ op.IsConfigure) :
    (op.Unsettles w v → v.phase = w.phase.speculative)
      ∧ (¬ op.Unsettles w v → v.phase = w.phase) := by
  have htoplevel : ¬ ∃ width height states, op = .configureToplevel width height states := by
    rintro ⟨_, _, _, rfl⟩
    exact hop trivial
  by_cases htake : op = .takeRequests
  · subst htake
    obtain ⟨rfl, -⟩ := Prod.mk.inj (pure_eq_ok.1 h)
    simp [Op.Unsettles, Op.takesSize, takeRequests]
  · obtain ⟨queued, hrequests, hphase⟩ := step_marks h hop htake
    have hunsettles : op.Unsettles w v ↔ queued ≠ [] ∨ op.takesSize w = true := by
      simp [Op.Unsettles, htoplevel, hrequests]
    rw [hunsettles, hphase]
    cases queued <;> cases op.takesSize w <;> simp

theorem step_steady {op : Op} {r : Reply} (h : w.step op = .ok (v, r))
    (hop : op ≠ .configureSurface) :
    v.phase = .steady ↔ w.phase = .steady ∧ ¬ op.Unsettles w v := by
  by_cases hconfigure : op.IsConfigure
  · obtain ⟨width, height, states, rfl⟩ :
        ∃ width height states, op = .configureToplevel width height states := by
      cases op <;> simp_all [Op.IsConfigure]
    obtain ⟨rfl, -⟩ := Prod.mk.inj (pure_eq_ok.1 h)
    simp [configureToplevel, Op.Unsettles]
  · obtain ⟨hleft, hkept⟩ := step_phase h hconfigure
    by_cases hunsettles : op.Unsettles w v
    · rw [hleft hunsettles]
      simp [hunsettles, Phase.speculative_ne_steady]
    · rw [hkept hunsettles]
      simp [hunsettles]

theorem step_unconfigured {op : Op} {r : Reply} (h : w.step op = .ok (v, r)) :
    v.phase = .unconfigured ↔ w.phase = .unconfigured ∧ ¬ op.IsConfigure := by
  by_cases hconfigure : op.IsConfigure
  · cases op with
    | configureToplevel width height states =>
      obtain ⟨rfl, -⟩ := Prod.mk.inj (pure_eq_ok.1 h)
      simp [configureToplevel, hconfigure]
    | configureSurface => simp [step_configureSurface h, hconfigure]
    | _ => exact absurd hconfigure id
  · obtain ⟨hleft, hkept⟩ := step_phase h hconfigure
    by_cases hunsettles : op.Unsettles w v
    · simp [hleft hunsettles, Phase.speculative_eq_unconfigured, hconfigure]
    · simp [hkept hunsettles, hconfigure]

theorem step_configuring {op : Op} {r : Reply} (h : w.step op = .ok (v, r))
    (hw : w.pending ≠ none → w.phase = .configuring) (hv : v.pending ≠ none) :
    v.phase = .configuring := by
  by_cases hconfigure : op.IsConfigure
  · cases op with
    | configureToplevel width height states =>
      obtain ⟨rfl, -⟩ := Prod.mk.inj (pure_eq_ok.1 h)
      rfl
    | configureSurface =>
      rw [(step_configures h).1] at hv
      exact absurd rfl hv
    | _ => exact absurd hconfigure id
  · have hphase := hw (by rwa [(step_sameDecisions h hconfigure).pending] at hv)
    obtain ⟨hleft, hkept⟩ := step_phase h hconfigure
    by_cases hunsettles : op.Unsettles w v
    · rw [hleft hunsettles, hphase]
      rfl
    · rw [hkept hunsettles, hphase]

/-! ## Histories -/

variable {ops : List Op}

theorem undisturbed_concat {op : Op} {r : Reply} (h : run u ops = .ok w)
    (hstep : w.step op = .ok (v, r)) (hop : op ≠ .configureSurface) :
    Undisturbed u (ops ++ [op]) ↔ Undisturbed u ops ∧ ¬ op.Unsettles w v := by
  constructor
  · rintro ⟨past, recent, hops, hnone, hcalm⟩
    rcases List.eq_nil_or_concat recent with rfl | ⟨recent, op', rfl⟩
    · simp_all
    · rw [List.concat_eq_append, ← List.append_assoc] at hops
      obtain ⟨rfl, hops⟩ := List.append_inj' hops rfl
      obtain rfl : op = op' := by simpa using hops
      refine ⟨⟨past, recent, rfl, by simp_all, ?_⟩,
        hcalm recent op w v r (by simp) h hstep⟩
      intro before op w v r hbefore
      exact hcalm before op w v r (hbefore.trans (by simp))
  · rintro ⟨⟨past, recent, rfl, hnone, hcalm⟩, hunsettles⟩
    refine ⟨past, recent ++ [op], by simp, by simp [hnone, hop.symm], ?_⟩
    intro before op' w' v' r' hbefore hrun hstep'
    rcases List.prefix_concat_iff.1 hbefore with hlast | hearlier
    · -- the run so far and its last step have one outcome
      obtain ⟨rfl, hop'⟩ := List.append_inj' hlast rfl
      obtain rfl : op' = op := by simpa using hop'
      obtain rfl : w' = w := by simpa using hrun.symm.trans h
      obtain ⟨rfl, -⟩ : v' = v ∧ r' = r := by simpa using hstep'.symm.trans hstep
      exact hunsettles
    · exact hcalm before op' w' v' r' hearlier hrun hstep'

theorem undisturbed_concat_configureSurface : Undisturbed u (ops ++ [.configureSurface]) :=
  ⟨ops, [], by simp, by simp, by simp⟩

/-- Until a configure comes the window is unconfigured. It is configuring while a configure waits to
be acknowledged, and steady while nothing has disturbed the last acknowledgment. -/
theorem phase_of_history (options : WindowOptions) (h : run (new options) ops = .ok w) :
    (w.phase = .unconfigured ↔ ∀ op ∈ ops, ¬ op.IsConfigure)
      ∧ (waitingAfter none ops ≠ none → w.phase = .configuring)
      ∧ (w.phase = .steady ↔ Undisturbed (new options) ops) := by
  rw [show waitingAfter none ops = w.pending from (run_configures h).1.symm]
  induction ops using List.reverseRecOn generalizing w with
  | nil =>
    obtain rfl := pure_eq_ok.1 h
    simp [new, Undisturbed]
  | append_singleton ops op ih =>
    obtain ⟨u, r, hu, hstep⟩ := run_concat.1 h
    obtain ⟨hnone, hwaits, hsteady⟩ := ih hu
    refine ⟨?_, step_configuring hstep hwaits, ?_⟩
    · rw [step_unconfigured hstep, hnone]
      simp [or_imp, forall_and]
    · by_cases hop : op = .configureSurface
      · subst hop
        simp [step_configureSurface hstep, undisturbed_concat_configureSurface]
      · rw [step_steady hstep hop, hsteady, undisturbed_concat hu hstep hop]

/-- A configure that finds a decoration mode in flight. -/
def asking : List Op :=
  [.initDecorations true, .attachOutput 2, .reconfig 640 480,
    .configureToplevel 640 480 [.activated]]

/-- The acknowledgment asks for the mode again and is steady still; a size taken after it is not. -/
theorem phase_of_history_asking :
    (∃ w, run (new {}) (asking ++ [.configureSurface]) = .ok w ∧ w.phase = .steady
      ∧ w.requests = [.setDecorationMode .serverSide, .setDecorationMode .serverSide])
    ∧ ¬ Undisturbed (new {}) (asking ++ [.configureSurface, .setUnfullscreenSize 320 240]) := by
  constructor
  · obtain ⟨w, hw, hrequests⟩ : ∃ w, run (new {}) (asking ++ [.configureSurface]) = .ok w
        ∧ w.requests = [.setDecorationMode .serverSide, .setDecorationMode .serverSide] := by
      decide +kernel
    exact ⟨w, hw, (phase_of_history {} hw).2.2.2 undisturbed_concat_configureSurface, hrequests⟩
  · obtain ⟨w, hw, hphase⟩ : ∃ w, run (new {})
        (asking ++ [.configureSurface, .setUnfullscreenSize 320 240]) = .ok w
        ∧ w.phase ≠ .steady := by
      decide +kernel
    exact mt (phase_of_history {} hw).2.2.2 hphase

end Window

end VideoOutput
