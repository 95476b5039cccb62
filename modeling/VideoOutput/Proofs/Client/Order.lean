import VideoOutput.Proofs.Client.Holdings
import VideoOutput.Proofs.Client.Turns

/-!
# Clients stay in order

A client that is in order stays so whatever it does by itself (`Turn.leads_order`) and whatever
event it handles (`leads_react_order`), if only the event is one of the object that it comes to.
Devices and outputs come and go with the events; all requests that go to the target of an event are
to objects that are there until the end.
-/

namespace VideoOutput

open Wire

/-- The interface whose objects have the event. -/
def Wire.Event.interface : Event → Interface
  | announced _ | withdrawn _ => .registry
  | ping _ => .shell
  | toplevelConfigure _ _ _ | boundsConfigure _ _ | closed => .toplevel
  | surfaceConfigure _ => .shellSurface
  | decorationConfigure _ => .decoration
  | frameDone => .callback
  | clock _ => .presentation
  | presented _ _ _ _ | discarded => .presentationFeedback
  | format _ | formatModifier _ _ => .dmabuf
  | formatTable _ _ | trancheFormats _ | feedbackDone => .formatFeedback
  | entered _ | left _ => .surface
  | outputGeometry _ _ _ _ | outputMode _ | outputScale _ | outputName _ | outputDone => .output
  | capabilities _ => .seat
  | pointerEntered _ _ _ _ | pointerLeft _ | pointerMoved _ _ | buttonChanged _ _ _
  | pointerFrame => .pointer
  | keyboardEntered _ | keyboardLeft _ => .keyboard
  | touchedDown _ _ _ => .touch

/-- The event is one of the object that it comes to. -/
def Wire.Delivery.Fits (d : Delivery) : Prop := d.target.interface = d.event.interface

instance (d : Delivery) : Decidable d.Fits := inferInstanceAs (Decidable (_ = _))

namespace Seats

variable {s s' : Seats} {device : Object}

/-- With one more device of a kind that had none. -/
theorem devices_perm (kind : DeviceKind) (hnone : s.device? kind = none)
    (hdevices : ∀ other, s'.device? other = if other = kind then some device else s.device? other) :
    s'.devices.Perm (device :: s.devices) := by
  obtain ⟨rest, hall, hkind⟩ : ∃ rest, DeviceKind.all.Perm (kind :: rest) ∧ kind ∉ rest := by
    cases kind with
    | keyboard => exact ⟨[.pointer, .touch], by decide, by decide⟩
    | pointer => exact ⟨[.keyboard, .touch], by decide, by decide⟩
    | touch => exact ⟨[.keyboard, .pointer], by decide, by decide⟩
  have hrest : rest.filterMap s'.device? = rest.filterMap s.device? := by
    refine List.filterMap_congr fun other hother => ?_
    rw [hdevices, if_neg (ne_of_mem_of_not_mem hother hkind)]
  have hnow : s'.devices.Perm (device :: rest.filterMap s.device?) := by
    have hperm := hall.filterMap s'.device?
    rwa [List.filterMap_cons_some (by rw [hdevices, if_pos rfl]), hrest] at hperm
  have hbefore : s.devices.Perm (rest.filterMap s.device?) := by
    have hperm := hall.filterMap s.device?
    rwa [List.filterMap_cons_none hnone] at hperm
  exact hnow.trans (hbefore.symm.cons device)

end Seats

/-- All outputs but one that is offered. -/
theorem Outputs.live_perm {o : Outputs} {output : Object} (hnodup : o.live.Nodup)
    (h : output ∈ o.live) : o.live.Perm (output :: o.live.filter (· ≠ output)) := by
  have hothers : o.live.erase output = o.live.filter (· ≠ output) := by
    rw [hnodup.erase_eq_filter]
    exact List.filter_congr fun x _ => by rw [bne, beq_eq_decide, decide_not]
  rw [← hothers]
  exact List.perm_cons_erase h

namespace Client

variable {seen : List Request} {c d : Client}

/-! ## The shell -/

theorem keepsOrder_askGrab (c : Client) {verb : Verb} (serial : Option Nat) (rest : List Argument)
    (hverb : verb.isDestructor = false) (hrest : rest.filterMap Argument.made? = []) :
    c.KeepsOrder seen (c.askGrab verb serial rest) := by
  unfold askGrab
  split
  · exact keepsOrder_ask toplevel_mem hverb hrest
  · exact .refl c

theorem keepsOrder_sendShellRequest (c : Client) (request : ShellRequest) (serial : Option Nat) :
    c.KeepsOrder seen (c.sendShellRequest request serial) := by
  cases request with
  | setDecorationMode mode =>
    unfold sendShellRequest
    rcases hdecoration : c.decoration with _ | decoration
    · exact .refl c
    · exact keepsOrder_ask (by simp [fixtures, hdecoration]) rfl rfl
  | move => exact c.keepsOrder_askGrab _ _ rfl rfl
  | resize edge => exact c.keepsOrder_askGrab _ _ rfl rfl
  | _ => exact keepsOrder_ask toplevel_mem rfl rfl

theorem keepsOrder_flushShellRequests (c : Client) : c.KeepsOrder seen c.flushShellRequests :=
  have htaken : c.KeepsOrder seen { c with window := c.window.takeRequests.2 } :=
    fun h => ⟨h.ledger, h.brief, h.free⟩
  htaken.trans (rel_foldl (fun d request => d.keepsOrder_sendShellRequest request none) _ _)

theorem viewport_mem {viewport : Object} (h : c.viewport = some viewport) :
    viewport ∈ c.fixtures := by
  simp [fixtures, h]

theorem target_mem_of_videoRequests {video : VideoSurface} {l : Layout} {r : Request}
    (hvideo : c.video = some video) (h : r ∈ videoRequests l video) : r.target ∈ c.fixtures := by
  have hmem : r.target ∈ video.objects := by
    rcases List.mem_append.1 h with h | h
    · split_ifs at h
      · obtain ⟨viewport, hviewport, rfl⟩ := List.mem_map.1 h
        exact List.mem_append_left _ hviewport
      · cases h
    · rw [List.mem_singleton.1 h]
      exact List.mem_append_right _ (.head _)
  simp [fixtures, hvideo, hmem]

/-- What a layout asks of the surfaces, beside the region. -/
theorem layoutRequests_calm {l : Layout} {r : Request}
    (h : r ∈ c.viewport.toList.map (scaleRequest · l.mainSize)
      ++ c.video.toList.flatMap (videoRequests l) ++ [⟨c.surface, .commit, []⟩]) :
    r.target ∈ c.fixtures ∧ r.verb.isDestructor = false ∧ r.makes = [] := by
  simp only [List.mem_append, List.mem_map, List.mem_flatMap, List.mem_singleton,
    Option.mem_toList] at h
  rcases h with (⟨viewport, hviewport, rfl⟩ | ⟨video, hvideo, hr⟩) | rfl
  · exact ⟨viewport_mem hviewport, rfl, rfl⟩
  · refine ⟨target_mem_of_videoRequests hvideo hr, ?_⟩
    rcases List.mem_append.1 hr with hr | hr
    · split_ifs at hr
      · obtain ⟨viewport, -, rfl⟩ := List.mem_map.1 hr
        exact ⟨rfl, rfl⟩
      · cases hr
    · rw [List.mem_singleton.1 hr]
      exact ⟨rfl, rfl⟩
  · exact ⟨surface_mem, rfl, rfl⟩

/-- A layout makes one region, and ends it. -/
theorem keepsOrder_applyLayout (c : Client) (l : Layout) :
    c.KeepsOrder seen (c.applyLayout l) := by
  intro h
  have hmade := h.ledger.make (r := ⟨c.bindings.compositor, .createRegion,
    [.new (c.log.fresh .region)]⟩)
    (h.ledger.alive _ (mem_held_of_grounds (by simp [grounds]))) rfl rfl rfl
  have hcovering : ∀ r ∈ ([⟨c.log.fresh .region, .add,
        [.int 0, .int 0, .int l.window.1, .int l.window.2]⟩,
      ⟨c.surface, .setOpaqueRegion, [.object (c.log.fresh .region)]⟩] : List Request),
      r.target ∈ c.log.fresh .region ::ₘ c.held ∧ r.verb.isDestructor = false
        ∧ r.makes = [] := by
    simp [Verb.isDestructor, Request.makes, Argument.made?, mem_held_of_fixtures surface_mem]
  have hcovered := hmade.askAll hcovering
  have hended := hcovered.unmake (r := ⟨c.log.fresh .region, .destroy, []⟩) rfl rfl rfl
  have hlaid := hended.askAll fun r hr =>
    (layoutRequests_calm (l := l) hr).imp_left mem_held_of_fixtures
  refine ⟨?_, h.brief, h.free⟩
  rw [applyLayout_log, layoutRequests, mainRequests, List.append_assoc, List.append_assoc,
    ← List.append_assoc (c.viewport.toList.map _), List.foldl_append]
  exact hlaid

theorem keepsOrder_relayout : Leads (KeepsOrder seen) relayout.run := by
  intro c
  rcases c.relayout_cases with ⟨fault, -, hrun⟩ | ⟨-, hrun⟩ | ⟨l, -, hrun⟩
  · rw [show relayout.run.run c = (.error fault, c) from hrun]
    exact .refl c
  · rw [show relayout.run.run c = (.ok (), c) from hrun]
    exact .refl c
  · rw [show relayout.run.run c = (.ok (), c.applyLayout l) from hrun]
    exact c.keepsOrder_applyLayout l

/-! ## Input -/

/-- Another device is made on behalf of a seat. -/
theorem keepsOrder_gain (c : Client) {seat : Seat} (hseat : seat.object.interface = .seat)
    (kind : DeviceKind) : c.KeepsOrder seen { c with
      seats := (c.seats.gain c.log seat kind).1, log := (c.seats.gain c.log seat kind).2 } := by
  intro h
  have hcases := c.seats.gain_cases c.log seat kind
  generalize c.seats.gain c.log seat kind = gained at *
  obtain ⟨seats, log⟩ := gained
  obtain ⟨hsame, rfl⟩ | ⟨hnone, hdevices, rfl⟩ := hcases
  · have hguests : guests { c with seats } = c.guests := by
      unfold guests Seats.devices
      rw [hsame]
    refine h.change rfl ?_ (fun o ho => .inl ho) fun o ho => .inl (hguests ▸ ho)
    rw [hguests]
    exact h.ledger
  · have hguests (log : RequestLog) : guests { c with seats, log }
        = c.log.fresh kind.interface ::ₘ c.guests := by
      unfold guests
      rw [Multiset.coe_eq_coe.2 (Seats.devices_perm kind hnone hdevices), ← Multiset.cons_coe,
        Multiset.cons_add]
    have hmade := h.ledger.make (r := ⟨seat.object, kind.verb, [.new (c.log.fresh kind.interface)]⟩)
      (h.ledger.alive_of_lasting (hseat ▸ rfl)) (by cases kind <;> rfl) rfl (by cases kind <;> rfl)
    refine h.change rfl ?_ (fun o ho => .inl ho) fun o ho => ?_
    · rw [hguests, holding_cons_guests]
      exact hmade
    · rw [hguests, Multiset.mem_cons] at ho
      refine ho.symm.imp_right fun ho => ?_
      rw [ho]
      cases kind <;> exact ⟨rfl, rfl⟩

/-- The device of a kind ends when it is lost. -/
theorem keepsOrder_lose (c : Client) (kind : DeviceKind) : c.KeepsOrder seen { c with
    seats := (c.seats.lose c.log kind).2.1, log := (c.seats.lose c.log kind).2.2 } := by
  intro h
  rcases hdevice : c.seats.device? kind with _ | device
  · rw [Seats.lose_of_none hdevice]
    exact ⟨h.ledger, h.brief, h.free⟩
  · rw [Seats.lose_of_some hdevice]
    have hperm : c.seats.devices.Perm (device :: (c.seats.setDevice none kind).devices) := by
      refine Seats.devices_perm kind ?_ fun other => ?_
      · rw [Seats.device?_setDevice, if_pos rfl]
      · rw [Seats.device?_setDevice]
        split_ifs with hother
        · rw [hother, hdevice]
        · rfl
    have hguests (log : RequestLog) : c.guests
        = device ::ₘ guests { c with seats := c.seats.setDevice none kind, log } := by
      unfold guests
      rw [Multiset.coe_eq_coe.2 hperm, ← Multiset.cons_coe, Multiset.cons_add]
    have hledger := h.ledger
    have hbrief : device.interface.isLasting = false :=
      h.brief device (by simp [hguests c.log])
    rw [held, hguests (c.log.issue ⟨device, .release, []⟩), holding_cons_guests] at hledger
    refine h.change rfl (hledger.unmake (r := ⟨device, .release, []⟩) rfl hbrief rfl)
      (fun o ho => .inl ho) fun o ho => .inl ?_
    rw [hguests (c.log.issue ⟨device, .release, []⟩)]
    exact Multiset.mem_cons_of_mem ho

theorem keepsOrder_changeCapability (c : Client) {seat : Seat}
    (hseat : seat.object.interface = .seat) (kind : DeviceKind) (has : Bool) :
    c.KeepsOrder seen (c.changeCapability seat kind has) := by
  unfold changeCapability
  cases has with
  | true => exact c.keepsOrder_gain hseat kind
  | false =>
    have hlost : c.KeepsOrder seen _ := c.keepsOrder_lose kind
    simp only [Bool.false_eq_true, if_false]
    split_ifs
    · exact hlost.trans fun h => ⟨h.ledger, h.brief, h.free⟩
    · exact hlost

theorem keepsOrder_setCapabilities (c : Client) {seat : Object} (hseat : seat.interface = .seat)
    (capabilities : List DeviceKind) : c.KeepsOrder seen (c.setCapabilities seat capabilities) := by
  unfold setCapabilities
  rcases hfound : c.seats.seat? seat with _ | known
  · exact .refl c
  · have hobject : known.object = seat := by simpa using List.find?_some hfound
    have hnoted : c.KeepsOrder seen
        { c with seats := c.seats.updateSeat known.object ({ · with capabilities }) } :=
      fun h => ⟨h.ledger, h.brief, h.free⟩
    exact hnoted.trans (rel_foldl (fun d kind => d.keepsOrder_changeCapability
      (hobject ▸ hseat) kind (capabilities.contains kind)) _ _)

theorem leads_pressed_order (press : ButtonPress) :
    Leads (KeepsOrder seen) (pressed press).run := by
  refine .except_get_bind fun c => ?_
  split_ifs
  · rcases c.window.pointerPressed (pixels press.x) (pixels press.y) with fault | _ | request
    · exact .refl c
    · exact .refl c
    · exact c.keepsOrder_sendShellRequest request _
  · exact .refl c

theorem leads_touched_order (serial : Nat) (x y : Int) :
    Leads (KeepsOrder seen) (touched serial x y).run := by
  refine .except_get_bind fun c => ?_
  rcases c.window.touchDown (pixels x) (pixels y) with fault | request
  · exact .refl c
  · exact c.keepsOrder_sendShellRequest request _

theorem leads_setPointer_order (pointer : Pointer) (frameEnded : Bool) :
    Leads (KeepsOrder seen) (setPointer pointer frameEnded).run :=
  .except_bind (.except_modify fun _ h => ⟨h.ledger, h.brief, h.free⟩) fun _ =>
    .except_forM leads_pressed_order _

theorem leads_buttonChanged_order (pointer : Pointer) (serial button : Nat) (isPress : Bool) :
    Leads (KeepsOrder seen) (buttonChanged pointer serial button isPress).run := by
  unfold buttonChanged
  cases pointer.surface with
  | none => exact .except_pure _
  | some surface => exact leads_setPointer_order _ _

theorem leads_pointed_order (target : Object) {react : Pointer → Act Unit}
    (h : ∀ pointer, Leads (KeepsOrder seen) (react pointer).run) :
    Leads (KeepsOrder seen) (pointed target react).run := by
  refine .except_get_bind fun c => ?_
  cases c.seats.pointer? target with
  | none => exact .refl c
  | some pointer => exact h pointer c

/-! ## The window -/

theorem leads_window_order (change : Window → Except ArithmeticFault Window) :
    Leads (KeepsOrder seen) (Act.window change).run := by
  refine .except_get_bind fun c => ?_
  cases change c.window with
  | error fault => exact .refl c
  | ok window => exact fun h => ⟨h.ledger, h.brief, h.free⟩

/-- What is done only if something is so of the client. -/
theorem leads_ite_order {condition : Client → Prop} [DecidablePred condition] {work : Act Unit}
    (h : Leads (KeepsOrder seen) work.run) : Leads (KeepsOrder seen) (do
      let c ← get
      if condition c then work : Act Unit).run := by
  refine .except_get_bind fun c => ?_
  split_ifs
  · exact h c
  · exact .refl c

theorem leads_surfaceConfigured_order {target : Object} (htarget : target.interface = .shellSurface)
    (serial : Nat) : Leads (KeepsOrder seen) (surfaceConfigured target serial).run := by
  have hlasting : target.interface.isLasting = true := htarget ▸ rfl
  refine .except_bind (.except_modify fun c h =>
    h.ask (h.ledger.alive_of_lasting hlasting) rfl rfl) fun _ => ?_
  refine .except_get_bind fun c => ?_
  rcases c.window.configureSurface with fault | ⟨activated, window⟩
  · exact .refl c
  · have hconfigured : c.KeepsOrder seen { c with
        window
        pacer := if activated then c.pacer.resetVisibility else c.pacer } :=
      fun h => ⟨h.ledger, h.brief, h.free⟩
    exact Leads.except_set (hconfigured.trans (keepsOrder_flushShellRequests _))

theorem presentation_mem {o : Object} (h : c.bindings.presentation = some o) : o ∈ c.fixtures :=
  managers_subset (List.mem_filterMap.2 ⟨some o, by simp [h.symm], rfl⟩)

/-- What tells when the next frame is due is not ended by the client. -/
theorem keepsOrder_frameDone (c : Client) : c.KeepsOrder seen c.frameDone := by
  intro h
  have hdone {work : Issuing Unit}
      (hwork : Secures (Ledger seen c.ties · c.held) work fun _ l => Ledger seen c.ties l c.held) :
      Orderly seen { (c.issuing work).2 with pacer := c.pacer.frameDone } :=
    ⟨(h.issuing hwork).ledger, h.brief, h.free⟩
  have hsurface := mem_held_of_fixtures (surface_mem (c := c))
  refine hdone (.bind (Ledger.secures_makeFree rfl hsurface rfl rfl fun _ => rfl) fun _ => ?_)
  rcases hpresentation : c.bindings.presentation with _ | presentation
  · exact .pure fun _ hledger => hledger
  · exact .bind (Ledger.secures_makeFree rfl
      (mem_held_of_fixtures (presentation_mem hpresentation)) rfl rfl fun _ => rfl) fun _ =>
      .pure fun _ hledger => hledger

theorem keepsOrder_introduce (c : Client) (title appId : String) :
    c.KeepsOrder seen (c.introduce title appId) := by
  have hnamed : c.KeepsOrder seen { c with
      window := ((c.window.initDecorations c.decoration.isSome).setTitle title).setAppId appId } :=
    fun h => ⟨h.ledger, h.brief, h.free⟩
  have hshown (d : Client) : d.KeepsOrder seen (d.issuing do
      let _ ← Issuing.make d.surface .frame .callback [] []
      Issuing.ask d.surface .commit []).2 := fun h =>
    have hsurface := mem_held_of_fixtures surface_mem
    h.issuing (.bind (Ledger.secures_makeFree rfl hsurface rfl rfl fun _ => rfl) fun _ =>
      Ledger.secures_ask hsurface rfl rfl)
  exact (hnamed.trans (keepsOrder_flushShellRequests _)).trans (hshown _)

/-! ## Outputs -/

theorem leads_onOutputs_order
    {change : Outputs → Window → Except ArithmeticFault (Outputs × Window)}
    (hchange : ∀ {o w o' v}, change o w = .ok (o', v) → o'.live = o.live) :
    Leads (KeepsOrder seen) (onOutputs change).run := by
  refine .except_get_bind fun c => ?_
  rcases hchanged : change c.outputs c.window with fault | ⟨outputs, window⟩
  · exact .refl c
  · have hguests : guests { c with outputs, window } = c.guests := by
      unfold guests
      rw [hchange hchanged]
    have hkept : c.KeepsOrder seen { c with outputs, window } := by
      intro h
      refine h.change rfl ?_ (fun o ho => .inl ho) fun o ho => .inl (hguests ▸ ho)
      rw [hguests]
      exact h.ledger
    exact hkept

theorem leads_describeOutput_order (target : Object)
    (change : OutputDescription → OutputDescription) :
    Leads (KeepsOrder seen) (describeOutput target change).run :=
  leads_onOutputs_order fun h => by
    cases h
    exact Outputs.live_describe change

theorem keepsOrder_announced (c : Client) (global : Global) :
    c.KeepsOrder seen (c.announced global) := by
  intro h
  have hbind (greatest : Nat) := Ledger.secures_bind global greatest c.log h.ledger
  unfold announced
  split
  · rename_i houtput
    obtain ⟨hinterface, hledger⟩ := hbind outputVersion
    rw [houtput] at hinterface
    have htracked {output : TrackedOutput} {log : RequestLog}
        (ho : output.object.interface = .output)
        (hlog : Ledger seen c.ties log (output.object ::ₘ c.held)) :
        Orderly seen { c with log, outputs := c.outputs.track output } := by
      have hguests : guests { c with log, outputs := c.outputs.track output }
          = output.object ::ₘ c.guests := by
        unfold guests
        rw [Outputs.live_track, ← Multiset.coe_add, ← add_assoc, add_comm]
        rfl
      refine h.change rfl ?_ (fun o ho => .inl ho) fun o hmem => ?_
      · rw [hguests, holding_cons_guests]
        exact hlog
      · rw [hguests, Multiset.mem_cons] at hmem
        refine hmem.symm.imp_right fun heq => ?_
        rw [heq, ho]
        exact ⟨rfl, rfl⟩
    exact htracked hinterface hledger
  · rename_i hseat
    obtain ⟨hinterface, hledger⟩ := hbind seatVersion
    exact ⟨hledger.drop (by rw [hinterface, hseat]; rfl), h.brief, h.free⟩
  · exact h

/-- An output that is withdrawn is released, or forgotten where it is too old for that. -/
theorem keepsOrder_dropOutput (c : Client) {output : TrackedOutput}
    (hmem : output ∈ c.outputs.tracked) : c.KeepsOrder seen (c.dropOutput output) := by
  intro h
  have hnodup : c.outputs.live.Nodup := by
    have hguests := (Multiset.nodup_add.1 (Multiset.nodup_add.1 h.ledger.nodup).2.1).1
    exact (Multiset.nodup_add.1 (Multiset.nodup_add.1 hguests).2.1).2.1
  let removed : Client := { c with
    outputs := (c.outputs.remove c.window output.object).1
    window := (c.outputs.remove c.window output.object).2 }
  have hguests : c.guests = output.object ::ₘ removed.guests := by
    unfold guests
    rw [Outputs.live_remove, Multiset.coe_eq_coe.2 (Outputs.live_perm hnodup
      (List.mem_map_of_mem hmem)), ← Multiset.cons_coe, Multiset.add_cons]
  have hdropped {log : RequestLog}
      (hlog : Ledger seen c.ties log (c.holding c.extras removed.guests)) :
      Orderly seen { removed with log } := by
    refine h.change rfl hlog (fun o ho => .inl ho) fun o ho => .inl ?_
    rw [hguests]
    exact Multiset.mem_cons_of_mem ho
  have hledger := h.ledger
  rw [held, hguests, holding_cons_guests] at hledger
  unfold dropOutput
  dsimp only
  split_ifs
  · have hbrief : output.object.interface.isLasting = false :=
      h.brief output.object (by simp [hguests])
    exact hdropped (hledger.unmake (r := ⟨output.object, .release, []⟩) rfl hbrief rfl)
  · exact hdropped (hledger.drop (h.free output.object (by simp [hguests])))

theorem keepsOrder_withdrawn (c : Client) (global : Nat) :
    c.KeepsOrder seen (c.withdrawn global) := by
  unfold withdrawn
  split
  · rename_i output houtput
    exact c.keepsOrder_dropOutput (List.mem_of_find?_eq_some houtput)
  · split
    · exact fun h => ⟨h.ledger, h.brief, h.free⟩
    · exact .refl c

/-! ## Events -/

theorem leads_onCatalog_order (op : FormatCatalog.Op) :
    Leads (KeepsOrder seen) (onCatalog op).run :=
  .except_modify fun _ h => ⟨h.ledger, h.brief, h.free⟩

theorem leads_react_order {d : Delivery} (hfits : d.Fits) :
    Leads (KeepsOrder seen) (react d).run := by
  obtain ⟨target, event⟩ := d
  cases event with
  | announced global => exact .except_modify fun c => c.keepsOrder_announced global
  | withdrawn global => exact .except_modify fun c => c.keepsOrder_withdrawn global
  | ping serial =>
    have hlasting : target.interface.isLasting = true := hfits ▸ rfl
    exact .except_modify fun c h => h.ask (h.ledger.alive_of_lasting hlasting) rfl rfl
  | toplevelConfigure width height states => exact leads_window_order _
  | boundsConfigure width height => exact leads_window_order _
  | surfaceConfigure serial => exact leads_surfaceConfigured_order hfits serial
  | decorationConfigure mode =>
    unfold react
    dsimp only
    cases DecorationMode.ofCode? mode with
    | none => exact .except_pure _
    | some mode => exact leads_window_order _
  | frameDone => exact .except_modify keepsOrder_frameDone
  | presented seconds nanoseconds refresh sequence =>
    refine .except_get_bind fun c => ?_
    cases c.pacer.presented seconds nanoseconds refresh sequence with
    | error fault => exact .refl c
    | ok pacer => exact fun h => ⟨h.ledger, h.brief, h.free⟩
  | discarded => exact .except_pure _
  | format format => exact leads_onCatalog_order _
  | formatModifier format modifier => exact leads_onCatalog_order _
  | formatTable source size => exact leads_onCatalog_order _
  | trancheFormats indices => exact leads_onCatalog_order _
  | feedbackDone => exact leads_onCatalog_order _
  | entered output =>
    exact leads_ite_order (leads_onOutputs_order fun h =>
      congrArg (List.map _) (Outputs.enter_ok h).1)
  | left output =>
    refine leads_ite_order (leads_onOutputs_order fun h => ?_)
    cases h
    rfl
  | outputGeometry x y make model => exact leads_describeOutput_order _ _
  | outputMode mode => exact leads_describeOutput_order _ _
  | outputScale scale => exact leads_describeOutput_order _ _
  | outputName name => exact leads_describeOutput_order _ _
  | outputDone =>
    refine leads_onOutputs_order fun h => ?_
    rcases Outputs.done_ok h with ⟨-, rfl, -⟩ | ⟨info, -, -, hlive, -⟩
    · rfl
    · exact hlive
  | capabilities bits => exact .except_modify fun c => c.keepsOrder_setCapabilities hfits _
  | pointerEntered serial surface x y =>
    exact leads_pointed_order _ fun _ => leads_setPointer_order _ _
  | pointerLeft surface => exact leads_pointed_order _ fun _ => leads_setPointer_order _ _
  | pointerMoved x y => exact leads_pointed_order _ fun _ => leads_setPointer_order _ _
  | buttonChanged serial button isPress =>
    exact leads_pointed_order _ fun p => leads_buttonChanged_order p serial button isPress
  | pointerFrame => exact leads_pointed_order _ fun _ => leads_setPointer_order _ _
  | keyboardEntered surface => exact leads_ite_order (leads_window_order _)
  | keyboardLeft surface => exact leads_ite_order (leads_window_order _)
  | touchedDown serial x y => exact leads_touched_order serial x y
  | _ => exact .except_modify fun _ h => ⟨h.ledger, h.brief, h.free⟩

/-! ## Turns of its own -/

theorem Turn.leads_order {t : Turn} (h : t.IsOwn) : Leads (KeepsOrder seen) t.work.run := by
  cases t with
  | introduce title appId => exact .except_modify fun c => c.keepsOrder_introduce title appId
  | fillSolid => exact .except_modify keepsOrder_fillSolid
  | settle =>
    refine .except_modify fun c => ?_
    unfold Client.settle
    split
    · exact fun h => ⟨h.ledger, h.brief, h.free⟩
    · exact .refl c
  | onWindow op asked => exact leads_window_order _
  | flushShellRequests => exact .except_modify keepsOrder_flushShellRequests
  | submit =>
    refine .except_modify fun c => c.keepsOrder_flushShellRequests.trans ?_
    have hsame : c.flushShellRequests.surface = c.surface := c.stays_flushShellRequests.surface
    exact keepsOrder_ask (hsame ▸ surface_mem) rfl rfl
  | commit =>
    refine .except_modify fun c => ?_
    dsimp only
    split
    · rename_i video hvideo
      have hmem : video.surface ∈ c.fixtures := by simp [fixtures, hvideo, VideoSurface.objects]
      exact (keepsOrder_ask hmem rfl rfl).trans
        (keepsOrder_ask (c := c.ask _ _ _) surface_mem rfl rfl)
    · exact keepsOrder_ask surface_mem rfl rfl
  | pace op =>
    refine .except_get_bind fun c => ?_
    rcases c.pacer.step op with fault | ⟨pacer, visible⟩
    · exact .refl c
    · exact fun h => ⟨h.ledger, h.brief, h.free⟩
  | takeEvents => exact .except_modify fun _ h => ⟨h.ledger, h.brief, h.free⟩
  | relayout => exact keepsOrder_relayout
  | draw frame => exact .except_modify fun c => c.keepsOrder_draw frame
  | reset => exact .except_modify keepsOrder_reset
  | clearPool => exact .except_modify keepsOrder_clearPool
  | setDisplay display =>
    refine .except_modify fun c => ?_
    rcases hdisplay : c.setDisplay display with e | d
    · exact .refl c
    · exact keepsOrder_setDisplay hdisplay
  | inhibitIdle on => exact .except_modify fun c => c.keepsOrder_inhibitIdle on
  | _ => exact h.elim

end Client

end VideoOutput
