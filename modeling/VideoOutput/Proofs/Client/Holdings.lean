import VideoOutput.Proofs.Client.Layout
import VideoOutput.Proofs.Outputs.Operations
import VideoOutput.Proofs.Pool.Gating
import VideoOutput.Proofs.Seats.Operations
import VideoOutput.Proofs.Wire.Lifetimes

/-!
# What a client holds

Some of the objects of a client are there from the start until it closes (`fixtures`), the others
come and go: those it has to end (`belongings`), and the devices and outputs that are only offered
to it (`guests`). A client is in order when the account of its log is that it holds just these
(`Orderly`). Buffers that are made and destroyed, the black pixel and the inhibitor, and requests to
anything that is held keep it so.
-/

namespace VideoOutput

open Wire

/-- The buffers that the pool keeps. -/
def BufferPool.buffers {β : Type} (p : BufferPool β) : List β := p.entries.map PoolEntry.buffer

/-- The devices there are. -/
def Seats.devices (s : Seats) : List Object := DeviceKind.all.filterMap s.device?

namespace VideoSurface

/-- The objects of the surface, in the order in which they end. -/
def objects (v : VideoSurface) : List Object := v.viewport.toList ++ [v.subsurface, v.surface]

/-- What belongs to the surface. -/
def ties (v : VideoSurface) : List (Object × Object) :=
  (v.viewport.toList ++ [v.subsurface]).map (·, v.surface)

end VideoSurface

/-- The objects of the black pixel, in the order in which they end. -/
def SolidBuffer.objects (s : SolidBuffer) : List Object := [s.buffer, s.pool]

/-- The globals that are optional, in the order in which they end. -/
def Bindings.managers (b : Bindings) : List Object :=
  [b.decorationManager, b.inhibitManager, b.presentation, b.viewporter, b.subcompositor,
    b.dmabuf].filterMap id

namespace Client

/-- The objects that are there from the start, in the order in which they end. -/
def fixtures (c : Client) : List Object :=
  c.decoration.toList ++ c.viewport.toList ++ c.video.toList.flatMap VideoSurface.objects
    ++ c.feedback.toList ++ [c.toplevel, c.shellSurface, c.surface] ++ c.bindings.managers
    ++ [c.bindings.shell]

/-- The globals that do not end. -/
def grounds (c : Client) : List Object := [c.bindings.compositor, c.bindings.shm]

/-- What belongs to what. -/
def ties (c : Client) : List (Object × Object) :=
  c.decoration.toList.map (·, c.toplevel)
    ++ [(c.toplevel, c.shellSurface), (c.shellSurface, c.surface)]
    ++ c.viewport.toList.map (·, c.surface) ++ c.video.toList.flatMap VideoSurface.ties

def buffers (c : Client) : List Object := (c.pool.map BufferPool.buffers).getD []

/-- The objects other than buffers that come and go and have to be ended. -/
def extras (c : Client) : Multiset Object :=
  c.solid.toList.flatMap SolidBuffer.objects + c.inhibitor.toList

/-- The objects that come and go and need not be ended. -/
def guests (c : Client) : Multiset Object := c.seats.devices + c.outputs.live

/-- What the client would hold with other things that come and go. -/
def holding (c : Client) (extras guests : Multiset Object) : Multiset Object :=
  c.buffers + (extras + guests + (c.fixtures + c.grounds))

/-- Everything that the client holds. -/
def held (c : Client) : Multiset Object := c.holding c.extras c.guests

/-- By the account of its log the client holds just what it has. What comes and goes may end at any
time, and guests never have to. -/
structure Orderly (seen : List Request) (c : Client) : Prop where
  ledger : Ledger seen c.ties c.log c.held
  brief : ∀ o ∈ c.buffers + (c.extras + c.guests), o.interface.isLasting = false
  free : ∀ o ∈ c.guests + c.grounds, o.interface.isOwned = false

/-- If the first client is in order, so is the other. -/
def KeepsOrder (seen : List Request) (c d : Client) : Prop := c.Orderly seen → d.Orderly seen

variable {seen : List Request} {c d : Client}

instance : Std.Refl (KeepsOrder seen) := ⟨fun _ => id⟩

instance : IsTrans Client (KeepsOrder seen) := ⟨fun _ _ _ h h' => h' ∘ h⟩

protected theorem KeepsOrder.refl (c : Client) : c.KeepsOrder seen c := id

protected theorem KeepsOrder.trans {c d e : Client} (h : c.KeepsOrder seen d)
    (h' : d.KeepsOrder seen e) : c.KeepsOrder seen e :=
  h' ∘ h

theorem holding_cons_extras (o : Object) (extras guests : Multiset Object) :
    c.holding (o ::ₘ extras) guests = o ::ₘ c.holding extras guests := by
  simp [holding]

theorem holding_cons_guests (o : Object) (extras guests : Multiset Object) :
    c.holding extras (o ::ₘ guests) = o ::ₘ c.holding extras guests := by
  simp [holding]

theorem mem_held_of_fixtures {o : Object} (h : o ∈ c.fixtures) : o ∈ c.held := by
  simp [held, holding, h]

theorem mem_held_of_grounds {o : Object} (h : o ∈ c.grounds) : o ∈ c.held := by
  simp [held, holding, h]

theorem surface_mem : c.surface ∈ c.fixtures := by simp [fixtures]

theorem toplevel_mem : c.toplevel ∈ c.fixtures := by simp [fixtures]

theorem videoSurface_mem : c.videoSurface ∈ c.fixtures := by
  unfold videoSurface
  rcases hvideo : c.video with _ | video
  · exact surface_mem
  · simp [fixtures, hvideo, VideoSurface.objects]

theorem managers_subset : c.bindings.managers ⊆ c.fixtures := fun o ho => by simp [fixtures, ho]

namespace Orderly

theorem alive (h : c.Orderly seen) {o : Object} (ho : o ∈ c.fixtures) : c.log.isUnmade o = false :=
  h.ledger.alive o (mem_held_of_fixtures ho)

theorem ask (h : c.Orderly seen) {target : Object} {verb : Verb} {arguments : List Argument}
    (halive : c.log.isUnmade target = false) (hverb : verb.isDestructor = false)
    (hmakes : Request.makes ⟨target, verb, arguments⟩ = []) :
    (c.ask target verb arguments).Orderly seen :=
  ⟨h.ledger.ask halive hverb hmakes, h.brief, h.free⟩

/-- Work that leaves the client with what it held. -/
theorem issuing (h : c.Orderly seen) {α : Type} {work : Issuing α}
    (hwork : Secures (Ledger seen c.ties · c.held) work fun _ l => Ledger seen c.ties l c.held) :
    (c.issuing work).2.Orderly seen :=
  ⟨hwork c.log h.ledger, h.brief, h.free⟩

/-- What was in the outbox has been received. -/
theorem emptyOutbox (h : c.Orderly seen) :
    Orderly (seen ++ c.log.outbox) { c with log := c.log.emptyOutbox } :=
  ⟨h.ledger.emptyOutbox, h.brief, h.free⟩

/-- Something has come or gone. -/
theorem change (h : c.Orderly seen)
    (hsame : (d.buffers, d.fixtures, d.grounds, d.ties)
      = (c.buffers, c.fixtures, c.grounds, c.ties))
    (hledger : Ledger seen c.ties d.log (c.holding d.extras d.guests))
    (hextras : ∀ o ∈ d.extras, o ∈ c.extras ∨ o.interface.isLasting = false)
    (hguests : ∀ o ∈ d.guests,
      o ∈ c.guests ∨ o.interface.isLasting = false ∧ o.interface.isOwned = false) :
    d.Orderly seen := by
  obtain ⟨hbuffers, hfixtures, hgrounds, hties⟩ := by simpa only [Prod.mk.injEq] using hsame
  refine ⟨?_, fun o ho => ?_, fun o ho => ?_⟩
  · rw [held, holding, hbuffers, hfixtures, hgrounds, hties]
    exact hledger
  · have hbrief := h.brief o
    simp only [Multiset.mem_add, hbuffers] at ho hbrief
    rcases ho with ho | ho | ho
    · exact hbrief (.inl ho)
    · exact (hextras o ho).elim (fun ho => hbrief (.inr (.inl ho))) id
    · exact (hguests o ho).elim (fun ho => hbrief (.inr (.inr ho))) And.left
  · have hfree := h.free o
    simp only [Multiset.mem_add, hgrounds] at ho hfree
    rcases ho with ho | ho
    · exact (hguests o ho).elim (fun ho => hfree (.inl ho)) And.right
    · exact hfree (.inr ho)

end Orderly

/-- A request to something that is there from the start. -/
theorem keepsOrder_ask {target : Object} {verb : Verb} {arguments : List Argument}
    (hmem : target ∈ c.fixtures) (hverb : verb.isDestructor = false)
    (hmakes : Request.makes ⟨target, verb, arguments⟩ = []) :
    c.KeepsOrder seen (c.ask target verb arguments) :=
  fun h => h.ask (h.alive hmem) hverb hmakes

/-! ## Buffers -/

section Pool

variable {ties : List (Object × Object)} {l l' l'' : RequestLog} {held : Multiset Object}
  {dmabuf : Option Object}

theorem secures_addPlanes {params : Object} (hparams : params ∈ held) (objects : List Descriptor) :
    ∀ (number : Nat) (planes : List BufferPlane), Secures (Ledger seen ties · held)
      (addPlanes params objects number planes) fun _ l => Ledger seen ties l held
  | _, [] => .pure fun _ h => h
  | number, plane :: rest => by
    unfold addPlanes
    split_ifs
    · exact .pure fun _ h => h
    · exact .bind (Ledger.secures_ask hparams rfl rfl) fun _ =>
        secures_addPlanes hparams objects (number + 1) rest

/-- The account when a buffer was asked for: if it was made, it is held. -/
def Allotted (seen : List Request) (ties : List (Object × Object)) (held : Multiset Object) :
    Except ImportError Object → RequestLog → Prop
  | .error _, l => Ledger seen ties l held
  | .ok buffer, l => buffer.interface = .buffer ∧ Ledger seen ties l (buffer ::ₘ held)

/-- Whether a buffer is made or not, the object that asks for it is ended. -/
theorem secures_makeBuffer {dmabuf : Object} (hdmabuf : dmabuf ∈ held) (d : BufferDescription) :
    Secures (Ledger seen ties · held) (makeBuffer dmabuf d) (Allotted seen ties held) := by
  refine .bind (Ledger.secures_make hdmabuf rfl rfl fun _ => rfl) fun params =>
    .of_and fun hparams => ?_
  have hmem := Multiset.mem_cons_self params held
  have hlasting : params.interface.isLasting = false := hparams ▸ rfl
  refine .bind (secures_addPlanes hmem d.objects 0 d.planes) fun added => ?_
  cases added with
  | error e => exact .bind (Ledger.secures_unmake hlasting) fun _ => .pure fun _ h => h
  | ok _ =>
    refine .bind (Ledger.secures_make hmem rfl rfl fun _ => rfl) fun buffer =>
      .of_and fun hbuffer => ?_
    rw [Multiset.cons_swap]
    exact .bind (Ledger.secures_unmake hlasting) fun _ => .pure fun _ h => ⟨hbuffer, h⟩

theorem create_allotted (h : Ledger seen ties l held) (hdmabuf : ∀ o ∈ dmabuf, o ∈ held)
    (d : BufferDescription) :
    Allotted seen ties held ((allocator dmabuf).create d l).1
      ((allocator dmabuf).create d l).2 := by
  unfold allocator
  dsimp only
  split
  · exact h
  · exact h
  · exact secures_makeBuffer (hdmabuf _ rfl) d l h

/-- What a pool keeps and the rest of what is held. -/
structure Stocked (seen : List Request) (ties : List (Object × Object)) (rest : Multiset Object)
    (p : BufferPool Object) (l : RequestLog) : Prop where
  ledger : Ledger seen ties l (p.buffers + rest)
  brief : ∀ o ∈ p.buffers, o.interface.isLasting = false

namespace Stocked

variable {rest : Multiset Object} {p p' : BufferPool Object}

theorem clear (h : Stocked seen ties rest p l) :
    Stocked seen ties rest (p.clear (allocator dmabuf) l).1 (p.clear (allocator dmabuf) l).2 := by
  obtain ⟨backend, entries, reset⟩ := p
  refine ⟨?_, List.forall_mem_nil _⟩
  induction entries generalizing l with
  | nil => exact h.ledger
  | cons e entries ih =>
    obtain ⟨hfirst, hothers⟩ := List.forall_mem_cons.1 h.brief
    have hheld : Ledger seen ties l (e.buffer ::ₘ (entries.map PoolEntry.buffer + rest)) := by
      rw [← Multiset.cons_add]
      exact h.ledger
    exact ih ⟨hheld.unmake (r := ⟨e.buffer, .destroy, []⟩) rfl hfirst rfl, hothers⟩

theorem beginCycle (h : Stocked seen ties rest p l)
    (hcycle : p.beginCycle (allocator dmabuf) l = (p', l')) : Stocked seen ties rest p' l' := by
  obtain ⟨reset, hkept | hcleared⟩ := p.beginCycle_cases (allocator dmabuf) l
  · cases hkept.symm.trans hcycle
    exact ⟨h.ledger, h.brief⟩
  · have hreset : Stocked seen ties rest { p with reset } l := ⟨h.ledger, h.brief⟩
    cases hcleared.symm.trans hcycle
    exact hreset.clear

theorem store (h : Stocked seen ties rest p l) {entry : Object → PoolEntry Object}
    (hentry : ∀ o, (entry o).buffer = o) {created : Except ImportError Object}
    (hcreated : Allotted seen ties (p.buffers + rest) created l')
    {answer : Except ImportError (PoolEntry Object)}
    (hstore : p.store entry (created, l') = (answer, p', l'')) : Stocked seen ties rest p' l'' := by
  cases created with
  | error e =>
    cases hstore
    exact ⟨hcreated, h.brief⟩
  | ok buffer =>
    cases hstore
    obtain ⟨hinterface, hledger⟩ := hcreated
    have hbuffers : BufferPool.buffers { p with entries := p.entries ++ [entry buffer] }
        = p.buffers ++ [buffer] := by
      simp [BufferPool.buffers, hentry]
    constructor
    · rw [hbuffers, ← Multiset.coe_add, Multiset.coe_singleton, add_right_comm, add_comm,
        Multiset.singleton_add]
      exact hledger
    · rw [hbuffers]
      refine List.forall_mem_append.2 ⟨h.brief, List.forall_mem_singleton.2 ?_⟩
      rw [hinterface]
      rfl

theorem getEntry (h : Stocked seen ties rest p l) (hdmabuf : ∀ o ∈ dmabuf, o ∈ rest)
    {frame : VideoFrame} {catalog : FormatCatalog} {answer : Except ImportError (PoolEntry Object)}
    (hget : p.getEntry (allocator dmabuf) frame catalog l = (answer, p', l')) :
    Stocked seen ties rest p' l' := by
  rcases p.getEntry_eq frame catalog with ⟨refusal, hkept⟩ | ⟨d, identity, -, hstore⟩
  · cases (hkept _ l).symm.trans hget
    exact h
  · rw [hstore] at hget
    have hheld : ∀ o ∈ dmabuf, o ∈ (p.buffers + rest : Multiset Object) :=
      fun o ho => Multiset.mem_add.2 (.inr (hdmabuf o ho))
    exact h.store (fun _ => rfl) (create_allotted h.ledger hheld d) hget

end Stocked

end Pool

theorem buffers_poolOrNew (c : Client) : c.poolOrNew.buffers = c.buffers := by
  unfold poolOrNew buffers
  cases c.pool with
  | none => rfl
  | some pool => rfl

/-- What the client holds beside its buffers. -/
def others (c : Client) : Multiset Object := c.extras + c.guests + (c.fixtures + c.grounds)

theorem dmabuf_mem : ∀ o ∈ c.bindings.dmabuf, o ∈ c.others := fun o ho =>
  have hmanager : o ∈ c.bindings.managers := List.mem_filterMap.2 ⟨some o, by simp [ho.symm], rfl⟩
  Multiset.mem_add.2 (.inr (Multiset.mem_add.2 (.inl (managers_subset hmanager))))

namespace Orderly

theorem stocked (h : c.Orderly seen) : Stocked seen c.ties c.others c.poolOrNew c.log where
  ledger := by
    rw [buffers_poolOrNew]
    exact h.ledger
  brief o ho := by
    rw [buffers_poolOrNew] at ho
    exact h.brief o (Multiset.mem_add.2 (.inl ho))

theorem withPool (h : c.Orderly seen) {pool : BufferPool Object} {log : RequestLog}
    (hpool : Stocked seen c.ties c.others pool log) :
    Orderly seen { c with pool := some pool, log } where
  ledger := hpool.ledger
  brief o ho := (Multiset.mem_add.1 ho).elim (hpool.brief o) fun ho =>
    h.brief o (Multiset.mem_add.2 (.inr ho))
  free := h.free

end Orderly

theorem keepsOrder_attach (c : Client) (buffer : Object) : c.KeepsOrder seen (c.attach buffer) :=
  (keepsOrder_ask videoSurface_mem rfl rfl).trans
    (keepsOrder_ask (c := c.ask _ _ _) videoSurface_mem rfl rfl)

theorem keepsOrder_draw (c : Client) (frame : VideoFrame) :
    c.KeepsOrder seen (c.draw frame).2 := by
  intro h
  unfold draw
  rcases c.pacer.checkVisible with ⟨visible, pacer⟩
  have hpaced : Orderly seen { c with pacer } := ⟨h.ledger, h.brief, h.free⟩
  cases visible with
  | false => exact hpaced
  | true =>
    simp only [Bool.not_true, Bool.false_eq_true, if_false]
    generalize hcycle : BufferPool.beginCycle _ _ _ = cycled
    obtain ⟨pool, log⟩ := cycled
    generalize hentry : BufferPool.getEntry _ _ _ _ _ = got
    obtain ⟨entry, pool', log'⟩ := got
    have hdrawn := hpaced.withPool ((hpaced.stocked.beginCycle hcycle).getEntry dmabuf_mem hentry)
    cases entry with
    | error e => exact hdrawn
    | ok entry => exact keepsOrder_attach _ _ hdrawn

theorem keepsOrder_clearPool (c : Client) : c.KeepsOrder seen c.clearPool := by
  intro h
  unfold clearPool
  rcases hpool : c.pool with _ | pool
  · exact h
  · have hstocked := h.stocked
    rw [poolOrNew, hpool] at hstocked
    exact h.withPool hstocked.clear

theorem keepsOrder_reset (c : Client) : c.KeepsOrder seen c.reset := by
  intro h
  have hbuffers : c.reset.buffers = c.buffers := by
    unfold reset buffers
    cases c.pool with
    | none => rfl
    | some pool => rfl
  refine h.change ?_ h.ledger (fun o ho => .inl ho) fun o ho => .inl ho
  rw [hbuffers]
  rfl

theorem keepsOrder_setDisplay {display : SurfaceDisplay} (h : c.setDisplay display = .ok d) :
    c.KeepsOrder seen d := by
  intro horder
  unfold setDisplay at h
  split at h
  · cases h
    exact ⟨horder.ledger, horder.brief, horder.free⟩
  · rename_i pool hpool
    obtain ⟨bound, hbound, h⟩ := bind_eq_ok.1 h
    rw [← pure_eq_ok.1 h]
    have hstocked := horder.stocked
    rw [poolOrNew, hpool] at hstocked
    have hkept : bound.buffers = pool.buffers := by
      rcases pool.bind_cases (.probe (some display)) with ⟨-, hbind⟩ | ⟨current, -, hbind⟩
      · cases hbind.symm.trans hbound
        rfl
      · cases hbind.symm.trans hbound
    have hbound' : Stocked seen c.ties c.others bound c.log :=
      ⟨hkept ▸ hstocked.ledger, hkept ▸ hstocked.brief⟩
    have horder' := horder.withPool hbound'
    exact ⟨horder'.ledger, horder'.brief, horder'.free⟩

/-! ## What else is made and ended -/

theorem Orderly.withSolid (h : c.Orderly seen) (hnone : c.solid = none) {solid : SolidBuffer}
    {log : RequestLog} (hpool : solid.pool.interface = .shmPool)
    (hbuffer : solid.buffer.interface = .buffer)
    (hledger : Ledger seen c.ties log (solid.buffer ::ₘ solid.pool ::ₘ c.held)) :
    Orderly seen { c with log, solid := some solid } := by
  have hextras : extras { c with log, solid := some solid }
      = solid.buffer ::ₘ solid.pool ::ₘ c.extras := by
    simp [extras, hnone, SolidBuffer.objects]
  refine h.change rfl ?_ (fun o ho => ?_) fun o ho => .inl ho
  · rw [hextras, holding_cons_extras, holding_cons_extras]
    exact hledger
  · rw [hextras, Multiset.mem_cons, Multiset.mem_cons] at ho
    rcases ho with rfl | rfl | ho
    · exact .inr (hbuffer ▸ rfl)
    · exact .inr (hpool ▸ rfl)
    · exact .inl ho

/-- The black pixel is made at most once, and ends with the client. -/
theorem keepsOrder_fillSolid (c : Client) : c.KeepsOrder seen c.fillSolid := by
  intro h
  unfold fillSolid
  split_ifs with hnone
  · exact h
  have hsolid : c.solid = none := by
    rcases hsolid : c.solid with _ | solid
    · rfl
    · rw [hsolid] at hnone
      exact absurd rfl hnone
  have hwork : Secures (Ledger seen c.ties · c.held) (do
      let pool ← Issuing.make c.bindings.shm .createPool .shmPool [] [.descriptor, .int solidStride]
      let buffer ← Issuing.make pool .createBuffer .buffer []
        [.int 0, .int 1, .int 1, .int solidStride, .int solidFormat]
      Issuing.ask c.surface .attach [.object buffer, .int 0, .int 0]
      return (⟨pool, buffer⟩ : SolidBuffer))
      fun s l => (s.pool.interface = .shmPool ∧ s.buffer.interface = .buffer)
        ∧ Ledger seen c.ties l (s.buffer ::ₘ s.pool ::ₘ c.held) := by
    have hshm : c.bindings.shm ∈ c.held := mem_held_of_grounds (by simp [grounds])
    refine .bind (Ledger.secures_make hshm rfl rfl fun _ => rfl) fun pool =>
      .of_and fun hpool => ?_
    refine .bind (Ledger.secures_make (Multiset.mem_cons_self _ _) rfl rfl fun _ => rfl)
      fun buffer => .of_and fun hbuffer => ?_
    have hsurface : c.surface ∈ buffer ::ₘ pool ::ₘ c.held := Multiset.mem_cons_of_mem
      (Multiset.mem_cons_of_mem (mem_held_of_fixtures surface_mem))
    exact .bind (Ledger.secures_ask hsurface rfl rfl) fun _ =>
      .pure fun _ hledger => ⟨⟨hpool, hbuffer⟩, hledger⟩
  obtain ⟨⟨hpool, hbuffer⟩, hledger⟩ := hwork c.log h.ledger
  exact h.withSolid hsolid hpool hbuffer hledger

theorem inhibitManager_mem {o : Object} (h : c.bindings.inhibitManager = some o) :
    o ∈ c.fixtures :=
  managers_subset (List.mem_filterMap.2 ⟨some o, by simp [h.symm], rfl⟩)

theorem extras_of_inhibitor {inhibitor : Object} (h : d.inhibitor = some inhibitor)
    (hnone : c.inhibitor = none) (hsolid : d.solid = c.solid) :
    d.extras = inhibitor ::ₘ c.extras := by
  unfold extras
  rw [h, hnone, hsolid, Option.toList_none, Multiset.coe_nil, add_zero]
  exact add_comm _ _

/-- An inhibitor is made where there is none, and ends when it is given up. -/
theorem keepsOrder_inhibitIdle (c : Client) (on : Bool) :
    c.KeepsOrder seen (c.inhibitIdle on).2 := by
  intro h
  unfold inhibitIdle
  rcases hmanager : c.bindings.inhibitManager with _ | manager
  · exact h
  rcases on with _ | _ <;> rcases hinhibitor : c.inhibitor with _ | inhibitor
  · exact h
  · have hextras : c.extras = inhibitor ::ₘ extras { c with inhibitor := none } :=
      extras_of_inhibitor hinhibitor rfl rfl
    have hledger := h.ledger
    have hbrief : inhibitor.interface.isLasting = false := h.brief inhibitor (by simp [hextras])
    rw [held, hextras, holding_cons_extras] at hledger
    refine h.change rfl (hledger.unmake (r := ⟨inhibitor, .destroy, []⟩) rfl hbrief rfl)
      (fun o ho => .inl ?_) fun o ho => .inl ho
    rw [hextras]
    exact Multiset.mem_cons_of_mem ho
  · have hmake : Secures (Ledger seen c.ties · c.held)
        (Issuing.make manager .createInhibitor .inhibitor [] [.object c.surface])
        fun o l => o.interface = .inhibitor ∧ Ledger seen c.ties l (o ::ₘ c.held) :=
      Ledger.secures_make (mem_held_of_fixtures (inhibitManager_mem hmanager)) rfl rfl fun _ => rfl
    obtain ⟨hinterface, hledger⟩ := hmake c.log h.ledger
    have hinhibited {o : Object} {log : RequestLog} (ho : o.interface = .inhibitor)
        (hlog : Ledger seen c.ties log (o ::ₘ c.held)) :
        Orderly seen { c with log, inhibitor := some o } := by
      have hextras : extras { c with log, inhibitor := some o } = o ::ₘ c.extras :=
        extras_of_inhibitor rfl hinhibitor rfl
      refine h.change rfl ?_ (fun x hx => ?_) fun x hx => .inl hx
      · rw [hextras, holding_cons_extras]
        exact hlog
      · rw [hextras, Multiset.mem_cons] at hx
        rcases hx with rfl | hx
        · exact .inr (ho ▸ rfl)
        · exact .inl hx
    exact hinhibited hinterface hledger
  · exact h

end Client

end VideoOutput
