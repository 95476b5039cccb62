import VideoOutput.Client.Life
import VideoOutput.Proofs.Pool.Gating
import VideoOutput.Proofs.Seats.Operations
import VideoOutput.Proofs.Window.Reports
import VideoOutput.Proofs.Window.Scale
import VideoOutput.Proofs.Wire.Requests

/-!
# What a client keeps while it works

Only a layout lays surfaces out, and only taking them takes the window's events away. Everything
else that a client does keeps its surfaces and their layout and lets the window report what changed
(`Continues`): the calls of a driver, the shell's requests, and the reaction to any event
(`leads_react`).
-/

namespace VideoOutput

open Wire

/-- The event is about outputs that there are, or about those that a surface is on. -/
def Wire.Event.tellsOfOutputs : Event → Bool
  | .announced global => global.interface = .output
  | .withdrawn _ | .entered _ | .left _ | .outputGeometry _ _ _ _ | .outputMode _
  | .outputScale _ | .outputName _ | .outputDone => true
  | _ => false

namespace Client

/-- The client has the surfaces it had, with the layout they had, and what its window changed it
reports. Its devices are of their kinds. -/
structure Continues (c d : Client) : Prop where
  window : c.window.Reports d.window
  log : c.log.Continues d.log
  layout : d.layout = c.layout
  bindings : d.bindings = c.bindings
  surface : d.surface = c.surface
  video : d.video = c.video
  typed : c.seats.Typed → d.seats.Typed

instance : Std.Refl Continues := ⟨fun _ => ⟨.refl _, .refl _, rfl, rfl, rfl, rfl, id⟩⟩

instance : IsTrans Client Continues where
  trans _ _ _ h h' :=
    ⟨h.window.trans h'.window, IsTrans.trans _ _ _ h.log h'.log, h'.layout.trans h.layout,
      h'.bindings.trans h.bindings, h'.surface.trans h.surface, h'.video.trans h.video,
      h'.typed ∘ h.typed⟩

protected theorem Continues.refl (c : Client) : c.Continues c := Std.Refl.refl c

protected theorem Continues.trans {c d e : Client} (h : c.Continues d) (h' : d.Continues e) :
    c.Continues e :=
  IsTrans.trans _ _ _ h h'

/-- What the relation speaks of. -/
def stage (c : Client) : Window × RequestLog × Option Layout × Bindings × Object
    × Option VideoSurface × (DeviceKind → Option Object) :=
  (c.window, c.log, c.layout, c.bindings, c.surface, c.video, c.seats.device?)

theorem Continues.aside {c d e : Client} (h : c.Continues d) (he : e.stage = d.stage) :
    c.Continues e := by
  obtain ⟨hwindow, hlog, hlayout, hbindings, hsurface, hvideo, hdevices⟩ := by
    simpa only [stage, Prod.mk.injEq] using he
  refine ⟨hwindow ▸ h.window, hlog ▸ h.log, hlayout.trans h.layout, hbindings.trans h.bindings,
    hsurface.trans h.surface, hvideo.trans h.video, fun hc => ?_⟩
  rw [Seats.Typed, hdevices]
  exact h.typed hc

theorem Continues.of_stage {c d : Client} (h : d.stage = c.stage) : c.Continues d :=
  (Continues.refl c).aside h

theorem continues_of_window (c : Client) {window : Window} (h : c.window.Reports window) :
    c.Continues { c with window } :=
  ⟨h, .refl _, rfl, rfl, rfl, rfl, id⟩

theorem continues_of_log (c : Client) {log : RequestLog} (h : c.log.Continues log) :
    c.Continues { c with log } :=
  ⟨.refl _, h, rfl, rfl, rfl, rfl, id⟩

theorem Continues.withSeats {c d : Client} (h : c.Continues d) {seats : Seats}
    (htyped : d.seats.Typed → seats.Typed) : c.Continues { d with seats } :=
  { h with typed := fun hc => htyped (h.typed hc) }

theorem continues_issuing (c : Client) {work : Issuing α} (h : Leads RequestLog.Continues work) :
    c.Continues (c.issuing work).2 :=
  c.continues_of_log (h c.log)

theorem continues_ask (c : Client) (target : Object) {verb : Verb} (arguments : List Argument)
    (h : verb.lays = false) : c.Continues (c.ask target verb arguments) :=
  c.continues_issuing (Issuing.leads_ask arguments h)

/-- Beyond that the client has the outputs it had, and the window its scale. -/
structure Stays (c d : Client) : Prop extends Continues c d where
  outputs : d.outputs = c.outputs
  scale : d.window.scaleState = c.window.scaleState

instance : Std.Refl Stays := ⟨fun c => ⟨.refl c, rfl, rfl⟩⟩

instance : IsTrans Client Stays where
  trans _ _ _ h h' :=
    ⟨h.toContinues.trans h'.toContinues, h'.outputs.trans h.outputs, h'.scale.trans h.scale⟩

protected theorem Stays.refl (c : Client) : c.Stays c := Std.Refl.refl c

protected theorem Stays.trans {c d e : Client} (h : c.Stays d) (h' : d.Stays e) : c.Stays e :=
  IsTrans.trans _ _ _ h h'

theorem Stays.aside {c d e : Client} (h : c.Stays d) (he : e.stage = d.stage)
    (ho : e.outputs = d.outputs) : c.Stays e where
  toContinues := h.toContinues.aside he
  outputs := ho.trans h.outputs
  scale := by
    have hwindow : e.window = d.window := (Prod.mk.inj he).1
    rw [hwindow, h.scale]

theorem Stays.of_stage {c d : Client} (h : d.stage = c.stage) (ho : d.outputs = c.outputs) :
    c.Stays d :=
  (Stays.refl c).aside h ho

theorem stays_of_window (c : Client) {window : Window} (h : c.window.Reports window)
    (hscale : window.scaleState = c.window.scaleState) : c.Stays { c with window } :=
  ⟨c.continues_of_window h, rfl, hscale⟩

theorem stays_of_log (c : Client) {log : RequestLog} (h : c.log.Continues log) :
    c.Stays { c with log } :=
  ⟨c.continues_of_log h, rfl, rfl⟩

theorem Stays.withSeats {c d : Client} (h : c.Stays d) {seats : Seats}
    (htyped : d.seats.Typed → seats.Typed) : c.Stays { d with seats } :=
  { h with toContinues := h.toContinues.withSeats htyped }

theorem stays_issuing (c : Client) {work : Issuing α} (h : Leads RequestLog.Continues work) :
    c.Stays (c.issuing work).2 :=
  c.stays_of_log (h c.log)

theorem stays_ask (c : Client) (target : Object) {verb : Verb} (arguments : List Argument)
    (h : verb.lays = false) : c.Stays (c.ask target verb arguments) :=
  c.stays_issuing (Issuing.leads_ask arguments h)

/-! ## The shell -/

theorem stays_askGrab (c : Client) {verb : Verb} (serial : Option Nat) (rest : List Argument)
    (h : verb.lays = false) : c.Stays (c.askGrab verb serial rest) := by
  unfold askGrab
  split
  · exact c.stays_ask _ _ h
  · exact .refl c

theorem stays_sendShellRequest (c : Client) (request : ShellRequest) (serial : Option Nat) :
    c.Stays (c.sendShellRequest request serial) := by
  cases request with
  | setDecorationMode mode =>
    unfold sendShellRequest
    cases c.decoration with
    | none => exact .refl c
    | some decoration => exact c.stays_ask _ _ rfl
  | move => exact c.stays_askGrab _ _ rfl
  | resize edge => exact c.stays_askGrab _ _ rfl
  | _ => exact c.stays_ask _ _ rfl

theorem stays_flushShellRequests (c : Client) : c.Stays c.flushShellRequests :=
  (c.stays_of_window (Window.reports_takeRequests _) rfl).trans
    (rel_foldl (fun d request => d.stays_sendShellRequest request none) _ _)

/-! ## Buffers -/

section Pool

variable {dmabuf : Option Object}

theorem leads_addPlanes (params : Object) (objects : List Descriptor) :
    ∀ (number : Nat) (planes : List BufferPlane),
      Leads RequestLog.Continues (addPlanes params objects number planes)
  | _, [] => .pure _
  | number, plane :: rest => by
    unfold addPlanes
    split_ifs
    · exact .pure _
    · exact .bind (Issuing.leads_ask _ rfl) fun _ => leads_addPlanes params objects _ rest

theorem leads_makeBuffer (dmabuf : Object) (d : BufferDescription) :
    Leads RequestLog.Continues (makeBuffer dmabuf d) := by
  refine .bind (Issuing.leads_make _ _ _ rfl) fun params => ?_
  refine .bind (leads_addPlanes _ _ _ _) fun added => ?_
  rcases added with e | ⟨⟩
  · exact .bind (Issuing.leads_unmake _) fun _ => .pure _
  · exact .bind (Issuing.leads_make _ _ _ rfl) fun _ =>
      .bind (Issuing.leads_unmake _) fun _ => .pure _

theorem continues_create (dmabuf : Option Object) (d : BufferDescription) (l : RequestLog) :
    l.Continues ((allocator dmabuf).create d l).2 := by
  unfold allocator
  dsimp only
  split
  · exact .refl l
  · exact .refl l
  · exact leads_makeBuffer _ d l

theorem continues_clear (p : BufferPool Object) (l : RequestLog) :
    l.Continues (p.clear (allocator dmabuf) l).2 :=
  rel_foldl (fun l _ => l.continues_issue rfl) _ _

theorem continues_beginCycle {p p' : BufferPool Object} {l l' : RequestLog}
    (h : p.beginCycle (allocator dmabuf) l = (p', l')) : l.Continues l' := by
  obtain ⟨reset, hkept | hcleared⟩ := p.beginCycle_cases (allocator dmabuf) l
  · cases hkept.symm.trans h
    exact .refl l
  · cases hcleared.symm.trans h
    exact continues_clear _ l

theorem continues_getEntry {p p' : BufferPool Object} {frame : VideoFrame}
    {catalog : FormatCatalog} {entry : Except ImportError (PoolEntry Object)} {l l' : RequestLog}
    (h : p.getEntry (allocator dmabuf) frame catalog l = (entry, p', l')) : l.Continues l' := by
  rcases p.getEntry_eq frame catalog with ⟨answer, hget⟩ | ⟨d, identity, -, hget⟩
  · cases (hget _ l).symm.trans h
    exact .refl l
  · have hcreate := continues_create dmabuf d l
    rw [hget] at h
    rcases hanswer : (allocator dmabuf).create d l with ⟨e | buffer, log⟩
    all_goals
      rw [hanswer] at h hcreate
      cases h
      exact hcreate

end Pool

theorem stays_attach (c : Client) (buffer : Object) : c.Stays (c.attach buffer) :=
  (c.stays_ask _ _ rfl).trans (stays_ask _ _ _ rfl)

theorem stays_draw (c : Client) (frame : VideoFrame) : c.Stays (c.draw frame).2 := by
  unfold draw
  rcases c.pacer.checkVisible with ⟨visible, pacer⟩
  cases visible with
  | false => exact .of_stage rfl rfl
  | true =>
    simp only [Bool.not_true, Bool.false_eq_true, if_false]
    generalize hcycle : BufferPool.beginCycle _ _ _ = cycled
    obtain ⟨pool, log⟩ := cycled
    generalize hentry : BufferPool.getEntry _ _ _ _ _ = got
    obtain ⟨entry, pool', log'⟩ := got
    have hlog : c.log.Continues log' :=
      IsTrans.trans _ _ _ (continues_beginCycle hcycle) (continues_getEntry hentry)
    have hdrawn : c.Stays { c with pacer, pool := some pool', log := log' } :=
      (c.stays_of_log hlog).aside rfl rfl
    cases entry with
    | error e => exact hdrawn
    | ok entry => exact hdrawn.trans (stays_attach _ _)

theorem stays_clearPool (c : Client) : c.Stays c.clearPool := by
  unfold clearPool
  cases c.pool with
  | none => exact .refl c
  | some pool => exact (c.stays_of_log (continues_clear pool c.log)).aside rfl rfl

theorem stays_setDisplay {c d : Client} {display : SurfaceDisplay}
    (h : c.setDisplay display = .ok d) : c.Stays d := by
  unfold setDisplay at h
  split at h
  · cases h
    exact .of_stage rfl rfl
  · obtain ⟨pool, -, h⟩ := bind_eq_ok.1 h
    rw [← pure_eq_ok.1 h]
    exact .of_stage rfl rfl

theorem stays_fillSolid (c : Client) : c.Stays c.fillSolid := by
  unfold fillSolid
  split_ifs
  · exact .refl c
  · have hwork : Leads RequestLog.Continues (do
        let pool ← Issuing.make c.bindings.shm .createPool .shmPool []
          [.descriptor, .int solidStride]
        let buffer ← Issuing.make pool .createBuffer .buffer []
          [.int 0, .int 1, .int 1, .int solidStride, .int solidFormat]
        Issuing.ask c.surface .attach [.object buffer, .int 0, .int 0]
        return (⟨pool, buffer⟩ : SolidBuffer)) :=
      .bind (Issuing.leads_make _ _ _ rfl) fun pool =>
        .bind (Issuing.leads_make _ _ _ rfl) fun buffer =>
          .bind (Issuing.leads_ask _ rfl) fun _ => .pure _
    exact (c.stays_issuing hwork).aside rfl rfl

theorem stays_inhibitIdle (c : Client) (on : Bool) : c.Stays (c.inhibitIdle on).2 := by
  unfold inhibitIdle
  cases c.bindings.inhibitManager with
  | none => exact .refl c
  | some manager =>
    rcases on with _ | _ <;> rcases c.inhibitor with _ | inhibitor
    · exact .refl c
    · exact (c.stays_ask inhibitor [] rfl).aside rfl rfl
    · exact (c.stays_issuing (Issuing.leads_make _ _ _ rfl)).aside rfl rfl
    · exact .refl c

/-! ## Globals that come and go -/

theorem continues_announced (c : Client) (global : Global) :
    c.Continues (c.announced global) := by
  unfold announced
  split
  · exact (c.continues_issuing (Issuing.leads_bind global outputVersion)).aside rfl
  · have hwork : Leads RequestLog.Continues (bindSeat global) :=
      .bind (Issuing.leads_bind global seatVersion) fun _ => .pure _
    exact (c.continues_issuing hwork).aside rfl
  · exact .refl c

theorem stays_announced (c : Client) {global : Global} (h : global.interface ≠ .output) :
    c.Stays (c.announced global) where
  toContinues := c.continues_announced global
  outputs := by
    unfold announced
    split
    · exact absurd ‹_› h
    · rfl
    · rfl
  scale := by
    unfold announced
    split <;> rfl

theorem continues_dropOutput (c : Client) (output : TrackedOutput) :
    c.Continues (c.dropOutput output) := by
  have hdropped : c.Continues { c with
      outputs := (c.outputs.remove c.window output.object).1
      window := (c.outputs.remove c.window output.object).2 } :=
    (c.continues_of_window (c.window.reports_addEvents { windowState := true })).aside rfl
  unfold dropOutput
  dsimp only
  split_ifs
  · exact hdropped.trans (continues_ask _ _ _ rfl)
  · exact hdropped

theorem continues_withdrawn (c : Client) (global : Nat) : c.Continues (c.withdrawn global) := by
  unfold withdrawn
  split
  · exact c.continues_dropOutput _
  · split
    · exact .of_stage rfl
    · exact .refl c

/-! ## Input -/

theorem continues_gain (s : Seats) (log : RequestLog) (seat : Seat) (kind : DeviceKind) :
    log.Continues (s.gain log seat kind).2 := by
  unfold Seats.gain
  dsimp only
  split_ifs
  · exact .refl log
  all_goals cases kind <;> exact log.continues_issue rfl

theorem continues_lose (s : Seats) (log : RequestLog) (kind : DeviceKind) :
    log.Continues (s.lose log kind).2.2 := by
  unfold Seats.lose
  cases s.device? kind with
  | none => exact .refl log
  | some device => exact log.continues_issue rfl

theorem stays_changeCapability (c : Client) (seat : Seat) (kind : DeviceKind) (has : Bool) :
    c.Stays (c.changeCapability seat kind has) := by
  unfold changeCapability
  cases has with
  | true =>
    exact (c.stays_of_log (continues_gain c.seats c.log seat kind)).withSeats
      fun htyped => htyped.gain c.log seat kind
  | false =>
    have hlost := (c.stays_of_log (continues_lose c.seats c.log kind)).withSeats
      fun htyped => htyped.lose c.log kind
    simp only [Bool.false_eq_true, if_false]
    split_ifs
    · exact hlost.trans (stays_of_window _ (Window.reports_keyboardFocus _ false)
        (Window.keyboardFocus_scaleState _ false))
    · exact hlost

theorem stays_setCapabilities (c : Client) (seat : Object) (capabilities : List DeviceKind) :
    c.Stays (c.setCapabilities seat capabilities) := by
  unfold setCapabilities
  cases c.seats.seat? seat with
  | none => exact .refl c
  | some seat =>
    have hfirst : c.Stays
        { c with seats := c.seats.updateSeat seat.object ({ · with capabilities }) } :=
      .of_stage rfl rfl
    exact hfirst.trans (rel_foldl
      (fun d kind => d.stays_changeCapability seat kind (capabilities.contains kind)) _ _)

theorem leads_pressed (press : ButtonPress) : Leads Stays (pressed press).run := by
  refine .except_get_bind fun c => ?_
  split_ifs
  · rcases c.window.pointerPressed (pixels press.x) (pixels press.y) with fault | _ | request
    · exact .refl c
    · exact .refl c
    · exact c.stays_sendShellRequest request _
  · exact .refl c

theorem leads_touched (serial : Nat) (x y : Int) : Leads Stays (touched serial x y).run := by
  refine .except_get_bind fun c => ?_
  rcases c.window.touchDown (pixels x) (pixels y) with fault | request
  · exact .refl c
  · exact c.stays_sendShellRequest request _

theorem leads_setPointer (pointer : Pointer) (frameEnded : Bool) :
    Leads Stays (setPointer pointer frameEnded).run :=
  .except_bind (.except_modify fun _ => .of_stage rfl rfl) fun _ =>
    .except_forM leads_pressed _

theorem leads_buttonChanged (pointer : Pointer) (serial button : Nat) (isPress : Bool) :
    Leads Stays (buttonChanged pointer serial button isPress).run := by
  unfold buttonChanged
  cases pointer.surface with
  | none => exact .except_pure _
  | some surface => exact leads_setPointer _ _

theorem leads_pointed (target : Object) {react : Pointer → Act Unit}
    (h : ∀ pointer, Leads Stays (react pointer).run) :
    Leads Stays (pointed target react).run := by
  refine .except_get_bind fun c => ?_
  cases c.seats.pointer? target with
  | none => exact .refl c
  | some pointer => exact h pointer c

/-! ## The window -/

theorem leads_window {change : Window → Except ArithmeticFault Window}
    (h : ∀ {w v}, change w = .ok v → w.Reports v ∧ v.scaleState = w.scaleState) :
    Leads Stays (Act.window change).run := by
  refine .except_get_bind fun c => ?_
  rcases hchange : change c.window with fault | window
  · exact .refl c
  · exact c.stays_of_window (h hchange).1 (h hchange).2

theorem leads_window_ok {change : Window → Window}
    (h : ∀ w : Window, w.Reports (change w) ∧ (change w).scaleState = w.scaleState) :
    Leads Stays (Act.window fun w => .ok (change w)).run :=
  leads_window fun hchange => by
    cases hchange
    exact h _

theorem stays_frameDone (c : Client) : c.Stays c.frameDone := by
  have hdone {work : Issuing Unit} (h : Leads RequestLog.Continues work) :
      c.Stays { (c.issuing work).2 with pacer := c.pacer.frameDone } :=
    (c.stays_issuing h).aside rfl rfl
  refine hdone (.bind (Issuing.leads_make _ _ _ rfl) fun _ => ?_)
  cases c.bindings.presentation with
  | none => exact .pure _
  | some presentation => exact .bind (Issuing.leads_make _ _ _ rfl) fun _ => .pure _

theorem leads_surfaceConfigured (target : Object) (serial : Nat) :
    Leads Stays (surfaceConfigured target serial).run := by
  refine .except_bind (.except_modify fun c => c.stays_ask _ _ rfl) fun _ => ?_
  refine .except_get_bind fun c => ?_
  rcases hconfigured : c.window.configureSurface with fault | ⟨activated, window⟩
  · exact .refl c
  · have hwindow : c.Stays { c with
        window
        pacer := if activated then c.pacer.resetVisibility else c.pacer } :=
      (c.stays_of_window (Window.reports_configureSurface hconfigured)
        (Window.configureSurface_scaleState hconfigured)).aside rfl rfl
    exact Leads.except_set (hwindow.trans (stays_flushShellRequests _))

/-! ## Outputs -/

theorem leads_onOutputs
    {change : Outputs → Window → Except ArithmeticFault (Outputs × Window)}
    (h : ∀ {o w o' v}, change o w = .ok (o', v) → w.Reports v) :
    Leads Continues (onOutputs change).run := by
  refine .except_get_bind fun c => ?_
  rcases hchange : change c.outputs c.window with fault | ⟨outputs, window⟩
  · exact .refl c
  · exact (c.continues_of_window (h hchange)).aside rfl

theorem reports_enter {o o' : Outputs} {w v : Window} {output : Object}
    (h : o.enter w output = .ok (o', v)) : w.Reports v := by
  unfold Outputs.enter at h
  dsimp only at h
  generalize (if o.entered.contains output then o
    else { o with entered := o.entered ++ [output] }) = known at h
  split_ifs at h
  · cases h
    exact .refl w
  · split at h
    · cases h
      exact .refl w
    · obtain ⟨entered, hentered, h⟩ := bind_eq_ok.1 h
      cases h
      exact Window.reports_surfaceEntered hentered

theorem reports_done {o o' : Outputs} {w v : Window} {output : Object}
    (h : o.done w output = .ok (o', v)) : w.Reports v := by
  unfold Outputs.done at h
  split at h
  · cases h
    exact .refl w
  · obtain ⟨info, -, h⟩ := bind_eq_ok.1 h
    obtain ⟨done, hdone, h⟩ := bind_eq_ok.1 h
    cases h
    exact Window.reports_outputDone hdone

theorem leads_describeOutput (target : Object) (change : OutputDescription → OutputDescription) :
    Leads Continues (describeOutput target change).run :=
  leads_onOutputs fun h => by
    cases h
    exact .refl _

/-! ## Events -/

theorem leads_onCatalog (op : FormatCatalog.Op) : Leads Stays (onCatalog op).run :=
  .except_modify fun _ => .of_stage rfl rfl

theorem leads_focused (surface : Object) (hasKeyboard : Bool) : Leads Stays (do
    if surface = (← get).surface then
      Act.window fun w => .ok (w.keyboardFocus hasKeyboard) : Act Unit).run := by
  refine .except_get_bind fun c => ?_
  split_ifs
  · exact leads_window_ok
      (fun w => ⟨w.reports_keyboardFocus _, w.keyboardFocus_scaleState _⟩) c
  · exact .refl c

/-- Only the events that tell of outputs change them, and only they change the window's scale. -/
theorem leads_react_stays {d : Delivery} (h : d.event.tellsOfOutputs = false) :
    Leads Stays (react d).run := by
  obtain ⟨target, event⟩ := d
  cases event with
  | announced global =>
    exact .except_modify fun c => c.stays_announced (of_decide_eq_false h)
  | ping serial => exact .except_modify fun c => c.stays_ask _ _ rfl
  | toplevelConfigure width height states =>
    exact leads_window_ok fun w => ⟨w.reports_configureToplevel _ _ _, rfl⟩
  | boundsConfigure width height =>
    exact leads_window_ok fun w => ⟨w.reports_configureBounds _ _, rfl⟩
  | closed => exact .except_modify fun _ => .of_stage rfl rfl
  | surfaceConfigure serial => exact leads_surfaceConfigured target serial
  | decorationConfigure mode =>
    unfold react
    dsimp only
    cases DecorationMode.ofCode? mode with
    | none => exact .except_pure _
    | some mode => exact leads_window_ok fun w => ⟨w.reports_configureDecoration _, rfl⟩
  | frameDone => exact .except_modify stays_frameDone
  | clock id => exact .except_modify fun _ => .of_stage rfl rfl
  | presented seconds nanoseconds refresh sequence =>
    refine .except_get_bind fun c => ?_
    rcases c.pacer.presented seconds nanoseconds refresh sequence with fault | pacer
    · exact .refl c
    · exact Leads.except_set (Stays.of_stage rfl rfl)
  | discarded => exact .except_pure _
  | format format => exact leads_onCatalog _
  | formatModifier format modifier => exact leads_onCatalog _
  | formatTable source size => exact leads_onCatalog _
  | trancheFormats indices => exact leads_onCatalog _
  | feedbackDone => exact leads_onCatalog _
  | capabilities bits => exact .except_modify fun c => c.stays_setCapabilities _ _
  | pointerEntered serial surface x y => exact leads_pointed _ fun p => leads_setPointer _ _
  | pointerLeft surface => exact leads_pointed _ fun p => leads_setPointer _ _
  | pointerMoved x y => exact leads_pointed _ fun p => leads_setPointer _ _
  | buttonChanged serial button isPress =>
    exact leads_pointed _ fun p => leads_buttonChanged p serial button isPress
  | pointerFrame => exact leads_pointed _ fun p => leads_setPointer _ _
  | keyboardEntered surface => exact leads_focused surface true
  | keyboardLeft surface => exact leads_focused surface false
  | touchedDown serial x y => exact leads_touched serial x y
  | _ => cases h

/-- No event lays a surface out or takes the window's events away. -/
theorem leads_react (d : Delivery) : Leads Continues (react d).run := by
  rcases htells : d.event.tellsOfOutputs with _ | _
  · exact (leads_react_stays htells).mono fun h => h.toContinues
  obtain ⟨target, event⟩ := d
  cases event with
  | announced global => exact .except_modify fun c => c.continues_announced global
  | withdrawn global => exact .except_modify fun c => c.continues_withdrawn global
  | entered output =>
    refine .except_get_bind fun c => ?_
    split_ifs
    · exact leads_onOutputs reports_enter c
    · exact .refl c
  | left output =>
    refine .except_get_bind fun c => ?_
    split_ifs
    · refine leads_onOutputs (fun h => ?_) c
      cases h
      exact Window.reports_addEvents _ _
    · exact .refl c
  | outputGeometry x y make model => exact leads_describeOutput _ _
  | outputMode mode => exact leads_describeOutput _ _
  | outputScale scale => exact leads_describeOutput _ _
  | outputName name => exact leads_describeOutput _ _
  | outputDone => exact leads_onOutputs reports_done
  | _ => cases htells

/-! ## Opening -/

theorem stays_introduce (c : Client) (title appId : String) :
    c.Stays (c.introduce title appId) := by
  have hwindow := ((c.window.reports_initDecorations c.decoration.isSome).trans
    (Window.reports_pushRequest _ (.setTitle title))).trans
    (Window.reports_pushRequest _ (.setAppId appId))
  have hscale := (Window.pushRequest_scaleState _ (.setAppId appId)).trans
    ((Window.pushRequest_scaleState _ (.setTitle title)).trans
      (c.window.initDecorations_scaleState c.decoration.isSome))
  have hwork (surface : Object) : Leads RequestLog.Continues (do
      let _ ← Issuing.make surface .frame .callback [] []
      Issuing.ask surface .commit []) :=
    .bind (Issuing.leads_make _ _ _ rfl) fun _ => Issuing.leads_ask _ rfl
  exact ((c.stays_of_window hwindow hscale).trans (stays_flushShellRequests _)).trans
    (stays_issuing _ (hwork _))

end Client

end VideoOutput
