import VideoOutput.Proofs.Client.Turns

/-!
# What a client cannot undo

Only a dispatch touches the poller of a client, and nothing takes a request to close back. So both
are left alone by the reaction to any event (`persists_react`) and by every turn that the client
takes by itself (`Turn.leads_persists`).
-/

namespace VideoOutput

open Wire

namespace Client

/-- The client has the poller it had, and is asked to close if it was. -/
structure Persists (c d : Client) : Prop where
  poller : d.poller = c.poller
  closing : c.closeRequested = true → d.closeRequested = true

instance : Std.Refl Persists := ⟨fun _ => ⟨rfl, id⟩⟩

instance : IsTrans Client Persists where
  trans _ _ _ h h' := ⟨h'.poller.trans h.poller, h'.closing ∘ h.closing⟩

protected theorem Persists.refl (c : Client) : c.Persists c := Std.Refl.refl c

protected theorem Persists.trans {c d e : Client} (h : c.Persists d) (h' : d.Persists e) :
    c.Persists e :=
  IsTrans.trans _ _ _ h h'

/-! ## Requests of the shell -/

theorem persists_ask (c : Client) (target : Object) (verb : Verb) (arguments : List Argument) :
    c.Persists (c.ask target verb arguments) :=
  ⟨rfl, id⟩

theorem persists_askGrab (c : Client) (verb : Verb) (serial : Option Nat) (rest : List Argument) :
    c.Persists (c.askGrab verb serial rest) := by
  unfold askGrab
  split
  · exact c.persists_ask _ _ _
  · exact .refl c

theorem persists_sendShellRequest (c : Client) (request : ShellRequest) (serial : Option Nat) :
    c.Persists (c.sendShellRequest request serial) := by
  cases request with
  | setDecorationMode mode =>
    unfold sendShellRequest
    cases c.decoration with
    | none => exact .refl c
    | some decoration => exact c.persists_ask _ _ _
  | move => exact c.persists_askGrab _ _ _
  | resize edge => exact c.persists_askGrab _ _ _
  | _ => exact c.persists_ask _ _ _

theorem persists_flushShellRequests (c : Client) : c.Persists c.flushShellRequests :=
  have htaken : c.Persists { c with window := c.window.takeRequests.2 } := ⟨rfl, id⟩
  htaken.trans (rel_foldl (fun d request => d.persists_sendShellRequest request none) _ _)

/-! ## Input -/

theorem persists_changeCapability (c : Client) (seat : Seat) (kind : DeviceKind) (has : Bool) :
    c.Persists (c.changeCapability seat kind has) := by
  unfold changeCapability
  dsimp only
  split_ifs <;> exact ⟨rfl, id⟩

theorem persists_setCapabilities (c : Client) (seat : Object) (capabilities : List DeviceKind) :
    c.Persists (c.setCapabilities seat capabilities) := by
  unfold setCapabilities
  cases c.seats.seat? seat with
  | none => exact .refl c
  | some seat =>
    have hnoted : c.Persists
        { c with seats := c.seats.updateSeat seat.object ({ · with capabilities }) } := ⟨rfl, id⟩
    exact hnoted.trans (rel_foldl
      (fun d kind => d.persists_changeCapability seat kind (capabilities.contains kind)) _ _)

theorem persists_pressed (press : ButtonPress) : Leads Persists (pressed press).run := by
  refine .except_get_bind fun c => ?_
  split_ifs
  · rcases c.window.pointerPressed (pixels press.x) (pixels press.y) with fault | _ | request
    · exact .refl c
    · exact .refl c
    · exact c.persists_sendShellRequest request _
  · exact .refl c

theorem persists_touched (serial : Nat) (x y : Int) : Leads Persists (touched serial x y).run := by
  refine .except_get_bind fun c => ?_
  rcases c.window.touchDown (pixels x) (pixels y) with fault | request
  · exact .refl c
  · exact c.persists_sendShellRequest request _

theorem persists_setPointer (pointer : Pointer) (frameEnded : Bool) :
    Leads Persists (setPointer pointer frameEnded).run :=
  .except_bind (.except_modify fun _ => ⟨rfl, id⟩) fun _ => .except_forM persists_pressed _

theorem persists_pointed (target : Object) {react : Pointer → Act Unit}
    (h : ∀ pointer, Leads Persists (react pointer).run) :
    Leads Persists (pointed target react).run := by
  refine .except_get_bind fun c => ?_
  cases c.seats.pointer? target with
  | none => exact .refl c
  | some pointer => exact h pointer c

/-! ## Events -/

theorem persists_window (change : Window → Except ArithmeticFault Window) :
    Leads Persists (Act.window change).run := by
  refine .except_get_bind fun c => ?_
  cases change c.window with
  | error fault => exact .refl c
  | ok window => exact ⟨rfl, id⟩

theorem persists_surfaceConfigured (target : Object) (serial : Nat) :
    Leads Persists (surfaceConfigured target serial).run := by
  refine .except_bind (.except_modify fun c => c.persists_ask _ _ _) fun _ => ?_
  refine .except_get_bind fun c => ?_
  rcases c.window.configureSurface with fault | ⟨activated, window⟩
  · exact .refl c
  · have hconfigured : c.Persists { c with
        window
        pacer := if activated then c.pacer.resetVisibility else c.pacer } := ⟨rfl, id⟩
    exact Leads.except_set (hconfigured.trans (persists_flushShellRequests _))

theorem persists_onOutputs (change : Outputs → Window → Except ArithmeticFault (Outputs × Window)) :
    Leads Persists (onOutputs change).run := by
  refine .except_get_bind fun c => ?_
  rcases change c.outputs c.window with fault | ⟨outputs, window⟩
  · exact .refl c
  · exact ⟨rfl, id⟩

/-- What is done only if something is so of the client. -/
theorem persists_ite {condition : Client → Prop} [DecidablePred condition] {work : Act Unit}
    (h : Leads Persists work.run) : Leads Persists (do
      let c ← get
      if condition c then work : Act Unit).run := by
  refine .except_get_bind fun c => ?_
  split_ifs
  · exact h c
  · exact .refl c

theorem persists_announced (c : Client) (global : Global) : c.Persists (c.announced global) := by
  unfold announced
  split <;> exact ⟨rfl, id⟩

theorem persists_withdrawn (c : Client) (global : Nat) : c.Persists (c.withdrawn global) := by
  unfold withdrawn dropOutput
  dsimp only
  split
  · split_ifs <;> exact ⟨rfl, id⟩
  · split <;> exact ⟨rfl, id⟩

/-- No event touches the poller, and none takes a request to close back. -/
theorem persists_react (d : Delivery) : Leads Persists (react d).run := by
  obtain ⟨target, event⟩ := d
  cases event with
  | announced global => exact .except_modify fun c => c.persists_announced global
  | withdrawn global => exact .except_modify fun c => c.persists_withdrawn global
  | closed => exact .except_modify fun _ => ⟨rfl, fun _ => rfl⟩
  | toplevelConfigure width height states => exact persists_window _
  | boundsConfigure width height => exact persists_window _
  | surfaceConfigure serial => exact persists_surfaceConfigured target serial
  | decorationConfigure mode =>
    unfold react
    dsimp only
    cases DecorationMode.ofCode? mode with
    | none => exact .except_pure _
    | some mode => exact persists_window _
  | presented seconds nanoseconds refresh sequence =>
    refine .except_get_bind fun c => ?_
    cases c.pacer.presented seconds nanoseconds refresh sequence with
    | error fault => exact .refl c
    | ok pacer => exact ⟨rfl, id⟩
  | discarded => exact .except_pure _
  | entered output => exact persists_ite (persists_onOutputs _)
  | left output => exact persists_ite (persists_onOutputs _)
  | outputGeometry x y make model => exact persists_onOutputs _
  | outputMode mode => exact persists_onOutputs _
  | outputScale scale => exact persists_onOutputs _
  | outputName name => exact persists_onOutputs _
  | outputDone => exact persists_onOutputs _
  | capabilities bits => exact .except_modify fun c => c.persists_setCapabilities _ _
  | pointerEntered serial surface x y => exact persists_pointed _ fun _ => persists_setPointer _ _
  | pointerLeft surface => exact persists_pointed _ fun _ => persists_setPointer _ _
  | pointerMoved x y => exact persists_pointed _ fun _ => persists_setPointer _ _
  | buttonChanged serial button isPress =>
    refine persists_pointed _ fun pointer => ?_
    unfold buttonChanged
    cases pointer.surface with
    | none => exact .except_pure _
    | some surface => exact persists_setPointer _ _
  | pointerFrame => exact persists_pointed _ fun _ => persists_setPointer _ _
  | keyboardEntered surface => exact persists_ite (persists_window _)
  | keyboardLeft surface => exact persists_ite (persists_window _)
  | touchedDown serial x y => exact persists_touched serial x y
  | _ => exact .except_modify fun _ => ⟨rfl, id⟩

/-! ## Turns of its own -/

theorem persists_introduce (c : Client) (title appId : String) :
    c.Persists (c.introduce title appId) :=
  have htitled : c.Persists { c with
      window := ((c.window.initDecorations c.decoration.isSome).setTitle title).setAppId appId } :=
    ⟨rfl, id⟩
  (htitled.trans (persists_flushShellRequests _)).trans ⟨rfl, id⟩

theorem persists_draw (c : Client) (frame : VideoFrame) : c.Persists (c.draw frame).2 := by
  unfold draw
  dsimp only
  split_ifs
  · exact ⟨rfl, id⟩
  · split <;> exact ⟨rfl, id⟩

theorem persists_clearPool (c : Client) : c.Persists c.clearPool := by
  unfold clearPool
  split <;> exact ⟨rfl, id⟩

theorem persists_setDisplay {c d : Client} {display : SurfaceDisplay}
    (h : c.setDisplay display = .ok d) : c.Persists d := by
  unfold setDisplay at h
  split at h
  · cases h
    exact ⟨rfl, id⟩
  · rename_i pool hpool
    rcases hbind : pool.bind (.probe (some display)) with e | bound <;> rw [hbind] at h <;> cases h
    exact ⟨rfl, id⟩

theorem persists_fillSolid (c : Client) : c.Persists c.fillSolid := by
  unfold fillSolid
  split_ifs <;> exact ⟨rfl, id⟩

theorem persists_inhibitIdle (c : Client) (on : Bool) : c.Persists (c.inhibitIdle on).2 := by
  unfold inhibitIdle
  split
  · exact .refl c
  · split <;> exact ⟨rfl, id⟩

theorem persists_relayout : Leads Persists relayout.run := by
  refine .except_get_bind fun c => ?_
  rcases Layout.of? c.window.geometry c.window.videoSize c.window.options.keepAspect
    with fault | _ | layout
  · exact .refl c
  · exact .refl c
  · exact ⟨rfl, id⟩

theorem Turn.leads_persists {t : Turn} (h : t.IsOwn) : Leads Persists t.work.run := by
  cases t with
  | introduce title appId => exact .except_modify fun c => c.persists_introduce title appId
  | fillSolid => exact .except_modify persists_fillSolid
  | settle =>
    refine .except_modify fun c => ?_
    unfold Client.settle
    split
    · exact ⟨rfl, id⟩
    · exact .refl c
  | onWindow op asked => exact persists_window _
  | flushShellRequests => exact .except_modify persists_flushShellRequests
  | submit =>
    exact .except_modify fun c => c.persists_flushShellRequests.trans (persists_ask _ _ _ _)
  | commit =>
    refine .except_modify fun c => ?_
    dsimp only
    split <;> exact ⟨rfl, id⟩
  | pace op =>
    refine .except_get_bind fun c => ?_
    rcases c.pacer.step op with fault | ⟨pacer, visible⟩
    · exact .refl c
    · exact ⟨rfl, id⟩
  | relayout => exact persists_relayout
  | draw frame => exact .except_modify fun c => c.persists_draw frame
  | clearPool => exact .except_modify persists_clearPool
  | setDisplay display =>
    refine .except_modify fun c => ?_
    rcases hdisplay : c.setDisplay display with e | d
    · exact .refl c
    · exact persists_setDisplay hdisplay
  | inhibitIdle on => exact .except_modify fun c => c.persists_inhibitIdle on
  | takeEvents => exact .except_modify fun _ => ⟨rfl, id⟩
  | reset => exact .except_modify fun _ => ⟨rfl, id⟩
  | _ => exact h.elim

end Client

end VideoOutput
