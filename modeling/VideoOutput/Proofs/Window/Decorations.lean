import VideoOutput.Proofs.Window.Disregard

/-!
# The border and its negotiation

The client asks for a decoration mode and the compositor decides one. The mode in flight is the one
asked for last, until a decision comes in, and it is asked for again with every configure that takes
effect (`Negotiates`). Where there is nobody to negotiate with nothing is asked for at all
(`Undecorated`). No other operation touches the decoration (`step_sameDecoration`).
-/

namespace VideoOutput

namespace Window

variable {options : WindowOptions} {available : Bool} {w v : Window} {op : Op} {ops : List Op}
  {r : Reply}

/-- The mode that the operation asks for, where there is somebody to ask. -/
def Op.asks? (options : WindowOptions) : Op → Option DecorationMode
  | .initDecorations _ => some (.ofBorder options.border)
  | .setBorder on => some (.ofBorder on)
  | _ => none

/-- The mode that the compositor has decided. -/
def Op.answers? : Op → Option DecorationMode
  | .configureDecoration mode => some mode
  | _ => none

/-- The mode asked for by the last of the operations on the decoration; an answer asks for none. -/
def askedMode (options : WindowOptions) (ops : List Op) : Option DecorationMode :=
  (ops.filter Op.isDecoration).getLast?.bind (Op.asks? options)

/-- The mode of the last answer. -/
def answeredMode (ops : List Op) : Option DecorationMode := (ops.filterMap Op.answers?).getLast?

theorem askedMode_append_singleton (options : WindowOptions) (ops : List Op) (op : Op) :
    askedMode options (ops ++ [op])
      = if op.isDecoration then op.asks? options else askedMode options ops := by
  unfold askedMode
  rw [List.filter_append]
  cases hop : op.isDecoration <;> simp [hop]

theorem answeredMode_append_singleton (ops : List Op) (op : Op) :
    answeredMode (ops ++ [op]) = op.answers?.or (answeredMode ops) := by
  unfold answeredMode
  rw [List.filterMap_append, List.getLast?_append]
  cases hop : op.answers? <;> simp [hop]

theorem Op.answers?_of_not_isDecoration (hop : op.isDecoration = false) : op.answers? = none := by
  cases op with
  | configureDecoration mode => cases hop
  | _ => rfl

theorem askedMode_of_not_isDecoration (options : WindowOptions)
    (hops : ∀ op ∈ ops, op.isDecoration = false) : askedMode options ops = none := by
  have hnone : ops.filter Op.isDecoration = [] :=
    List.filter_eq_nil_iff.2 fun op hmem => by simp [hops op hmem]
  rw [askedMode, hnone]
  rfl

theorem answeredMode_of_not_isDecoration (hops : ∀ op ∈ ops, op.isDecoration = false) :
    answeredMode ops = none := by
  have hnone : ops.filterMap Op.answers? = [] :=
    List.filterMap_eq_nil_iff.2 fun op hmem => Op.answers?_of_not_isDecoration (hops op hmem)
  rw [answeredMode, hnone]
  rfl

/-! ## Operations on anything else -/

/-- The decoration is left alone, and of the modes only the one in flight may be asked for. -/
structure SameDecoration (w v : Window) : Prop where
  decoration : v.decoration = w.decoration
  canDecorate : v.canDecorate = w.canDecorate
  border : v.options.border = w.options.border
  requests : ∀ mode, .setDecorationMode mode ∈ v.requests →
    .setDecorationMode mode ∈ w.requests ∨ w.decoration.requested = some mode

theorem SameDecoration.of_append {added : List ShellRequest}
    (hdecoration : v.decoration = w.decoration) (hcan : v.canDecorate = w.canDecorate)
    (hborder : v.options.border = w.options.border) (hrequests : v.requests = w.requests ++ added)
    (hadded : ∀ mode, .setDecorationMode mode ∉ added) : SameDecoration w v := by
  refine ⟨hdecoration, hcan, hborder, fun mode hmem => .inl ?_⟩
  rw [hrequests] at hmem
  exact (List.mem_append.1 hmem).resolve_right (hadded mode)

theorem sameDecoration_pushRequest (w : Window) {request : ShellRequest}
    (h : ∀ mode, request ≠ .setDecorationMode mode) : SameDecoration w (w.pushRequest request) := by
  rw [pushRequest_eq]
  exact .of_append rfl rfl rfl rfl fun mode hmem => h mode (List.mem_singleton.1 hmem).symm

theorem notMem_desiredRequests (w : Window) (mode : DecorationMode) :
    .setDecorationMode mode ∉ w.desiredRequests := by
  unfold desiredRequests
  split_ifs <;> simp

theorem sameDecoration_setFullscreen (w : Window) (on : Bool) :
    SameDecoration w (w.setFullscreen on) := by
  rcases setFullscreen_cases w on with ⟨-, h⟩ | ⟨-, h⟩ <;> rw [h]
  · exact ⟨rfl, rfl, rfl, fun _ => .inl⟩
  · refine .of_append rfl rfl rfl rfl fun mode => ?_
    cases on <;> simp

theorem sameDecoration_setMaximized (w : Window) (on : Bool) :
    SameDecoration w (w.setMaximized on) := by
  rcases setMaximized_cases w on with ⟨-, h⟩ | ⟨-, h⟩ <;> rw [h]
  · exact ⟨rfl, rfl, rfl, fun _ => .inl⟩
  · refine .of_append rfl rfl rfl rfl fun mode => ?_
    cases on <;> simp

theorem sameDecoration_configureSurface {activated : Bool}
    (h : w.configureSurface = .ok (activated, v)) : SameDecoration w v := by
  rcases configureSurface_ok h with ⟨-, rfl⟩ | ⟨c, -, ⟨-, rfl⟩ | ⟨-, rfl⟩⟩
  · exact ⟨rfl, rfl, rfl, fun _ => .inl⟩
  · exact ⟨rfl, rfl, rfl, fun _ => .inl⟩
  · have hrequests := afterConfigure_requests { w with pending := none } c
    obtain ⟨_, _, _, _, _, _, _, _, hc⟩ := afterConfigure_eq { w with pending := none } c
    rw [hc] at hrequests ⊢
    refine ⟨rfl, rfl, rfl, fun mode hmem => ?_⟩
    dsimp only at hrequests hmem
    rw [hrequests, List.mem_append] at hmem
    refine hmem.imp_right fun hagain => ?_
    simpa using hagain

theorem step_sameDecoration (h : w.step op = .ok (v, r)) (hop : op.isDecoration = false) :
    SameDecoration w v := by
  cases op with
  | initDecorations available => cases hop
  | configureDecoration mode => cases hop
  | setBorder on => cases hop
  | attachOutput scale =>
    obtain ⟨rfl, -⟩ := Prod.mk.inj (pure_eq_ok.1 h)
    obtain ⟨_, _, _, _, _, ha⟩ := attachOutput_eq w scale
    rw [ha]
    exact ⟨rfl, rfl, rfl, fun _ => .inl⟩
  | surfaceEntered scale areaChanged =>
    obtain ⟨u, hu, h⟩ := bind_eq_ok.1 h
    obtain ⟨rfl, -⟩ := Prod.mk.inj (pure_eq_ok.1 h)
    obtain ⟨_, _, _, _, _, rfl, -⟩ := surfaceEntered_ok hu
    exact ⟨rfl, rfl, rfl, fun _ => .inl⟩
  | outputDone isCurrent scale =>
    obtain ⟨u, hu, h⟩ := bind_eq_ok.1 h
    obtain ⟨rfl, -⟩ := Prod.mk.inj (pure_eq_ok.1 h)
    obtain ⟨_, _, _, _, _, rfl, -⟩ := outputDone_ok hu
    exact ⟨rfl, rfl, rfl, fun _ => .inl⟩
  | reconfig width height =>
    obtain ⟨u, hu, h⟩ := bind_eq_ok.1 h
    obtain ⟨rfl, -⟩ := Prod.mk.inj (pure_eq_ok.1 h)
    obtain ⟨_, _, _, _, _, _, _, _, rfl, -⟩ := reconfig_ok hu
    exact .of_append rfl rfl rfl rfl w.notMem_desiredRequests
  | configureSurface =>
    obtain ⟨⟨activated, u⟩, hu, h⟩ := bind_eq_ok.1 h
    obtain ⟨rfl, -⟩ := Prod.mk.inj (pure_eq_ok.1 h)
    exact sameDecoration_configureSurface hu
  | keyboardFocus hasKeyboard =>
    obtain ⟨rfl, -⟩ := Prod.mk.inj (pure_eq_ok.1 h)
    rw [keyboardFocus, updateFocus_eq]
    exact ⟨rfl, rfl, rfl, fun _ => .inl⟩
  | setFullscreen on =>
    obtain ⟨rfl, -⟩ := Prod.mk.inj (pure_eq_ok.1 h)
    exact sameDecoration_setFullscreen w on
  | setMaximized on =>
    obtain ⟨rfl, -⟩ := Prod.mk.inj (pure_eq_ok.1 h)
    exact sameDecoration_setMaximized w on
  | setMinimized on =>
    obtain ⟨rfl, -⟩ := Prod.mk.inj (pure_eq_ok.1 h)
    cases on
    · exact ⟨rfl, rfl, rfl, fun _ => .inl⟩
    · obtain ⟨hdecoration, hcan, hborder, hrequests⟩ :
          SameDecoration _ (pushRequest { w with minimized := true } .setMinimized) :=
        sameDecoration_pushRequest _ fun _ => by simp
      exact ⟨hdecoration, hcan, hborder, hrequests⟩
  | setWindowSize width height =>
    obtain ⟨u, hu, h⟩ := bind_eq_ok.1 h
    obtain ⟨rfl, -⟩ := Prod.mk.inj (pure_eq_ok.1 h)
    rcases setWindowSize_ok hu with rfl | ⟨_, _, _, _, rfl, -⟩ <;>
      exact ⟨rfl, rfl, rfl, fun _ => .inl⟩
  | setUnfullscreenSize width height =>
    obtain ⟨u, hu, h⟩ := bind_eq_ok.1 h
    obtain ⟨rfl, -⟩ := Prod.mk.inj (pure_eq_ok.1 h)
    obtain ⟨windowSize, -, ⟨-, rfl⟩ | ⟨-, rfl⟩ | ⟨-, _, _, rfl⟩⟩ := setUnfullscreenSize_ok hu
    · exact ⟨rfl, rfl, rfl, fun _ => .inl⟩
    · obtain ⟨hdecoration, hcan, hborder, hrequests⟩ :=
        sameDecoration_setMaximized { w with windowSize } false
      exact ⟨hdecoration, hcan, hborder, hrequests⟩
    · exact ⟨rfl, rfl, rfl, fun _ => .inl⟩
  | unfullscreenSize =>
    obtain ⟨size, -, h⟩ := bind_eq_ok.1 h
    obtain ⟨rfl, -⟩ := Prod.mk.inj (pure_eq_ok.1 h)
    exact ⟨rfl, rfl, rfl, fun _ => .inl⟩
  | setTitle title =>
    obtain ⟨rfl, -⟩ := Prod.mk.inj (pure_eq_ok.1 h)
    exact sameDecoration_pushRequest w fun _ => by simp
  | setAppId appId =>
    obtain ⟨rfl, -⟩ := Prod.mk.inj (pure_eq_ok.1 h)
    exact sameDecoration_pushRequest w fun _ => by simp
  | pointerPressed x y =>
    obtain ⟨request, -, h⟩ := bind_eq_ok.1 h
    obtain ⟨rfl, -⟩ := Prod.mk.inj (pure_eq_ok.1 h)
    exact ⟨rfl, rfl, rfl, fun _ => .inl⟩
  | touchDown x y =>
    obtain ⟨request, -, h⟩ := bind_eq_ok.1 h
    obtain ⟨rfl, -⟩ := Prod.mk.inj (pure_eq_ok.1 h)
    exact ⟨rfl, rfl, rfl, fun _ => .inl⟩
  | takeRequests =>
    obtain ⟨rfl, -⟩ := Prod.mk.inj (pure_eq_ok.1 h)
    exact ⟨rfl, rfl, rfl, fun _ hmem => absurd hmem List.not_mem_nil⟩
  | _ =>
    obtain ⟨rfl, -⟩ := Prod.mk.inj (pure_eq_ok.1 h)
    exact ⟨rfl, rfl, rfl, fun _ => .inl⟩

/-! ## Where the compositor can decorate -/

/-- The operations tell the mode in flight and the mode in force. -/
structure Negotiates (options : WindowOptions) (ops : List Op) (w : Window) : Prop where
  canDecorate : w.canDecorate = true
  border : w.options.border = options.border
  requested : w.decoration.requested = askedMode options ops
  confirmed : w.decoration.confirmed = (answeredMode ops).getD .clientSide

theorem Negotiates.step (hw : Negotiates options ops w) (h : w.step op = .ok (v, r))
    (hop : op ≠ .initDecorations false) : Negotiates options (ops ++ [op]) v := by
  cases hdecorates : op.isDecoration
  · have hsame := step_sameDecoration h hdecorates
    refine ⟨hsame.canDecorate.trans hw.canDecorate, hsame.border.trans hw.border, ?_, ?_⟩
    · rw [hsame.decoration, hw.requested, askedMode_append_singleton, hdecorates]
      rfl
    · rw [hsame.decoration, hw.confirmed, answeredMode_append_singleton,
        Op.answers?_of_not_isDecoration hdecorates, Option.none_or]
  · cases op with
    | initDecorations available =>
      obtain ⟨rfl, -⟩ := Prod.mk.inj (pure_eq_ok.1 h)
      cases available
      · exact absurd rfl hop
      · rw [initDecorations_eq]
        refine ⟨rfl, hw.border, ?_, ?_⟩
        · rw [askedMode_append_singleton, if_pos rfl, Op.asks?, ← hw.border]
          rfl
        · rw [answeredMode_append_singleton]
          exact hw.confirmed
    | setBorder on =>
      obtain ⟨rfl, -⟩ := Prod.mk.inj (pure_eq_ok.1 h)
      rw [setBorder_eq, hw.canDecorate]
      refine ⟨rfl, hw.border, ?_, ?_⟩
      · rw [askedMode_append_singleton]
        rfl
      · rw [answeredMode_append_singleton]
        exact hw.confirmed
    | configureDecoration mode =>
      obtain ⟨rfl, -⟩ := Prod.mk.inj (pure_eq_ok.1 h)
      refine ⟨hw.canDecorate, hw.border, ?_, ?_⟩
      · rw [askedMode_append_singleton]
        rfl
      · rw [answeredMode_append_singleton]
        rfl
    | _ => cases hdecorates

theorem run_negotiates : ∀ {ops' ops : List Op} {w v : Window}, run w ops' = .ok v →
    .initDecorations false ∉ ops' → Negotiates options ops w → Negotiates options (ops ++ ops') v
  | [], ops, _, _, h, _, hw => by
    obtain rfl := pure_eq_ok.1 h
    rw [List.append_nil]
    exact hw
  | op :: ops', ops, w, v, h, hops, hw => by
    obtain ⟨u, r, hstep, hrun⟩ := run_cons.1 h
    obtain ⟨hop, hrest⟩ := not_or.1 (mt List.mem_cons.2 hops)
    rw [List.append_cons]
    exact run_negotiates hrun hrest (hw.step hstep (Ne.symm hop))

/-! ## Where it cannot -/

/-- The window knows of nobody who draws a border, and has asked for none. -/
structure Undecorated (options : WindowOptions) (w : Window) : Prop where
  canDecorate : w.canDecorate = false
  border : w.options.border = options.border
  decoration : w.decoration = .settled .clientSide
  requests : ∀ mode, .setDecorationMode mode ∉ w.requests

/-- The operation does not say that the compositor can decorate, and brings no mode from it. -/
structure Op.IsMute (op : Op) : Prop where
  unavailable : op ≠ .initDecorations true
  answers : op.answers? = none

theorem Op.isMute_of_not_isDecoration (hop : op.isDecoration = false) : op.IsMute where
  unavailable := by
    rintro rfl
    cases hop
  answers := Op.answers?_of_not_isDecoration hop

theorem new_undecorated (options : WindowOptions) : Undecorated options (new options) :=
  ⟨rfl, rfl, rfl, fun _ => List.not_mem_nil⟩

theorem Undecorated.step (hw : Undecorated options w) (h : w.step op = .ok (v, r))
    (hop : op.IsMute) : Undecorated options v := by
  cases hdecorates : op.isDecoration
  · have hsame := step_sameDecoration h hdecorates
    refine ⟨hsame.canDecorate.trans hw.canDecorate, hsame.border.trans hw.border,
      hsame.decoration.trans hw.decoration, fun mode hmem => ?_⟩
    rcases hsame.requests mode hmem with hbefore | hasked
    · exact hw.requests mode hbefore
    · rw [hw.decoration] at hasked
      cases hasked
  · cases op with
    | initDecorations available =>
      obtain ⟨rfl, -⟩ := Prod.mk.inj (pure_eq_ok.1 h)
      cases available
      · exact ⟨rfl, hw.border, rfl, hw.requests⟩
      · exact absurd rfl hop.unavailable
    | setBorder on =>
      obtain ⟨rfl, -⟩ := Prod.mk.inj (pure_eq_ok.1 h)
      rw [setBorder_eq, hw.canDecorate]
      exact ⟨rfl, hw.border, rfl, by simpa using hw.requests⟩
    | configureDecoration mode => cases hop.answers
    | _ => cases hdecorates

theorem run_undecorated : ∀ {ops : List Op} {w v : Window}, run w ops = .ok v →
    (∀ op ∈ ops, op.IsMute) → Undecorated options w → Undecorated options v
  | [], _, _, h, _, hw => by
    obtain rfl := pure_eq_ok.1 h
    exact hw
  | op :: ops, w, v, h, hops, hw => by
    obtain ⟨u, r, hstep, hrun⟩ := run_cons.1 h
    obtain ⟨hop, hrest⟩ := List.forall_mem_cons.1 hops
    exact run_undecorated hrun hrest (hw.step hstep hop)

theorem Undecorated.initDecorations (hw : Undecorated options w)
    (hops : ∀ op ∈ ops, op.isDecoration = false) :
    Negotiates options (ops ++ [.initDecorations true]) (w.initDecorations true) := by
  rw [initDecorations_eq]
  refine ⟨rfl, hw.border, ?_, ?_⟩
  · rw [askedMode_append_singleton, if_pos rfl, Op.asks?, ← hw.border]
    rfl
  · rw [answeredMode_append_singleton, answeredMode_of_not_isDecoration hops, hw.decoration]
    rfl

/-! ## Histories -/

/-- The client learns once whether the compositor can decorate, and does nothing else about the
decoration before. -/
def ToldOnce (available : Bool) (ops : List Op) : Prop :=
  ∃ before after, ops = before ++ .initDecorations available :: after
    ∧ (∀ op ∈ before, op.isDecoration = false) ∧ ∀ on, .initDecorations on ∉ after

/-- By any time the client has learned it, or has done nothing about the decoration yet. -/
theorem ToldOnce.of_prefix {pre : List Op} (h : ToldOnce available ops) (hpre : pre <+: ops) :
    (∀ op ∈ pre, op.isDecoration = false) ∨ ToldOnce available pre := by
  obtain ⟨before, after, rfl, hbefore, hafter⟩ := h
  -- the prefix ends before the client is told, just there, or later
  rcases List.prefix_or_prefix_of_prefix hpre (List.prefix_append before _) with
    hearly | ⟨rest, rfl⟩
  · exact .inl fun op hop => hbefore op (hearly.subset hop)
  · rcases List.prefix_cons_iff.1 ((List.prefix_append_right_inj before).1 hpre) with
      rfl | ⟨rest, rfl, hrest⟩
    · rw [List.append_nil]
      exact .inl hbefore
    · exact .inr ⟨before, rest, rfl, hbefore, fun on hmem => hafter on (hrest.subset hmem)⟩

theorem ToldOnce.negotiates (hops : ToldOnce true ops) (h : run (new options) ops = .ok w) :
    Negotiates options ops w := by
  obtain ⟨before, after, rfl, hbefore, hafter⟩ := hops
  obtain ⟨u, hu, h⟩ := run_append.1 h
  obtain ⟨_, _, hstep, hrun⟩ := run_cons.1 h
  obtain ⟨rfl, -⟩ := Prod.mk.inj (pure_eq_ok.1 hstep)
  have hearly := run_undecorated hu
    (fun op hop => Op.isMute_of_not_isDecoration (hbefore op hop)) (new_undecorated options)
  rw [List.append_cons]
  exact run_negotiates hrun (hafter false) (hearly.initDecorations hbefore)

theorem ToldOnce.isMute (hops : ToldOnce false ops)
    (hanswers : ∀ mode, .configureDecoration mode ∉ ops) : ∀ op ∈ ops, op.IsMute := by
  obtain ⟨before, after, rfl, hbefore, hafter⟩ := hops
  rintro op hop
  refine ⟨?_, ?_⟩
  · rintro rfl
    rcases List.mem_append.1 hop with hmem | hmem
    · cases hbefore _ hmem
    · rcases List.mem_cons.1 hmem with hsame | hmem
      · cases hsame
      · exact hafter true hmem
  · cases op with
    | configureDecoration mode => exact absurd hop (hanswers mode)
    | _ => rfl

/-- The operations so far tell the modes also where the client has learned nothing yet. -/
theorem ToldOnce.modes {pre : List Op} (hops : ToldOnce true ops) (hpre : pre <+: ops)
    (h : run (new options) pre = .ok w) : w.decoration.requested = askedMode options pre
      ∧ w.decoration.confirmed = (answeredMode pre).getD .clientSide := by
  rcases hops.of_prefix hpre with hnone | htold
  · have hw := run_undecorated h (fun op hop => Op.isMute_of_not_isDecoration (hnone op hop))
      (new_undecorated options)
    rw [hw.decoration, askedMode_of_not_isDecoration options hnone,
      answeredMode_of_not_isDecoration hnone]
    exact ⟨rfl, rfl⟩
  · have hw := htold.negotiates h
    exact ⟨hw.requested, hw.confirmed⟩

/-- A client that learns once whether the compositor can decorate, before it does anything else
about the decoration. Where the compositor can, the mode in flight is always the one asked for last,
unless it has been answered, and there is a border where the last answer says so. Every configure
that takes effect asks for the mode in flight once, and for nothing else. Where the compositor
cannot, and brings no mode, there is no border, and no mode is ever asked for. -/
theorem decoration_negotiated (options : WindowOptions) {available : Bool} {ops pre : List Op}
    (hops : ToldOnce available ops) (hpre : pre <+: ops) (hrun : run (new options) pre = .ok w) :
    (available = true → w.decoration.requested = askedMode options pre
      ∧ w.border = (answeredMode pre == some .serverSide)
      ∧ ∀ c, w.pending = some c → w.geometry.isEmpty = .ok false →
        ∃ v r, w.step .configureSurface = .ok (v, r) ∧ v.requests = w.requests
          ++ ((askedMode options pre).map ShellRequest.setDecorationMode).toList)
    ∧ (available = false → (∀ mode, .configureDecoration mode ∉ pre) →
      w.border = false ∧ w.decoration.requested = none
        ∧ ∀ mode, .setDecorationMode mode ∉ w.requests) := by
  constructor
  · rintro rfl
    obtain ⟨hasked, hanswered⟩ := hops.modes hpre hrun
    refine ⟨hasked, ?_, fun c hc hshown => ?_⟩
    · rw [border, hanswered]
      rcases answeredMode pre with _ | _ | _ <;> rfl
    · obtain ⟨activated, hconfigure⟩ := configureSurface_of_pending hc hshown
      refine ⟨_, .flag activated, bind_eq_ok.2 ⟨_, hconfigure, rfl⟩, ?_⟩
      rw [← hasked]
      exact afterConfigure_requests { w with pending := none } c
  · rintro rfl hanswers
    have hmute : ∀ op ∈ pre, op.IsMute := by
      rcases hops.of_prefix hpre with hnone | htold
      · exact fun op hop => Op.isMute_of_not_isDecoration (hnone op hop)
      · exact htold.isMute hanswers
    have hw := run_undecorated hrun hmute (new_undecorated options)
    rw [border, hw.decoration]
    exact ⟨rfl, rfl, hw.requests⟩

/-- The compositor has granted the border, and the client asks to be without before it goes
fullscreen. -/
def unbordering : List Op :=
  [.initDecorations true, .reconfig 640 480, .configureDecoration .serverSide, .setBorder false,
    .configureToplevel 1280 720 [.fullscreen]]

/-- The border is still there, and the configure asks once more; without anybody to ask the client
asks in vain. -/
theorem decoration_negotiated_unbordering :
    (∃ w v r, run (new {}) unbordering = .ok w ∧ w.decoration.requested = some .clientSide
      ∧ w.border = true ∧ w.step .configureSurface = .ok (v, r)
      ∧ v.requests = w.requests ++ [.setDecorationMode .clientSide])
    ∧ ∃ w, run (new {}) [.initDecorations false, .setBorder true] = .ok w ∧ w.border = false
      ∧ w.decoration.requested = none ∧ ∀ mode, .setDecorationMode mode ∉ w.requests := by
  constructor
  · obtain ⟨w, hw, c, hc, hshown⟩ : ∃ w, run (new {}) unbordering = .ok w
        ∧ ∃ c ∈ w.pending, w.geometry.isEmpty = .ok false := by
      decide +kernel
    have htold : ToldOnce true unbordering := ⟨[], _, rfl, nofun, by simp⟩
    obtain ⟨hasked, hborder, hconfigure⟩ :=
      (decoration_negotiated {} htold (List.prefix_refl _) hw).1 rfl
    obtain ⟨v, r, hv, hrequests⟩ := hconfigure c hc hshown
    exact ⟨w, v, r, hw, hasked, hborder, hv, hrequests⟩
  · obtain ⟨w, hw, -⟩ : ∃ w, run (new {}) [.initDecorations false, .setBorder true] = .ok w
        ∧ True := by
      decide +kernel
    exact ⟨w, hw, (decoration_negotiated {} ⟨[], _, rfl, nofun, by simp⟩ (List.prefix_refl _) hw).2
      rfl (by simp)⟩

end Window

end VideoOutput
