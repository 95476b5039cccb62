import VideoOutput.Proofs.Client.Lifetimes
import VideoOutput.Proofs.Client.Order
import VideoOutput.Proofs.Exchange.Freshness
import VideoOutput.Proofs.Exchange.Moves

/-!
# The end of a session

A client that has opened is in order, and stays so by all that is called and all that comes in, as
long as its link is sound: what the peer has received is what the client has sent, and the rest is
in its outbox (`upholds_follows`). So when the client closes, and the link is sound to the last, the
peer receives the end of everything that the client made, once and in the right order, and nothing
after it (`concluded_of_close`).
-/

namespace VideoOutput

open Wire Client

variable {σ : Type}

namespace Peer

/-- The peer, with all requests that came to it. -/
def recording (p : Peer σ) : Peer (σ × List Request) where
  receive requests s :=
    let (answers, peer) := p.receive requests s.1
    (answers, (peer, s.2 ++ requests))

/-- The peer answers with events of the objects that they go to. -/
def IsApt (p : Peer σ) : Prop := ∀ requests s, ∀ d ∈ (p.receive requests s).1, d.Fits

end Peer

/-- A dispatch hands on nothing but what it read. -/
theorem DisplayPoller.subset_of_conclude {ε α : Type} {p : DisplayPoller} {r : Readiness}
    {outcome : Except ε (List α)} {batch : List α}
    (h : (p.conclude r outcome).1 = .ok (some batch)) : batch ⊆ outcome.toOption.getD [] := by
  unfold conclude at h
  split at h
  · cases h
  · split_ifs at h
    · cases h
    · cases h
      exact List.Subset.refl _
    · cases h
      exact List.nil_subset _

namespace Link

variable {l l' : Link σ}

theorem send_of_sound (p : Peer σ) {requests : List Request} (h : l.health = .sound) :
    l.send p requests = (.ok (), { l with
      peer := (p.receive requests l.peer).2
      inbox := l.inbox ++ (p.receive requests l.peer).1 }) := by
  unfold send
  rw [h]

/-- No request mends a link. -/
theorem send_of_not_sound (p : Peer σ) {requests : List Request} (h : l.health ≠ .sound) :
    (l.send p requests).2.health ≠ .sound := by
  unfold send
  split
  · exact h
  · split_ifs
    · exact h
    · exact nofun
  · exact h
  · contradiction

/-- The link is left so when the batch is read of it, or it fails. -/
structure Gives (l : Link σ) (batch : List Delivery) (l' : Link σ) : Prop where
  sound : l'.health = .sound → l.health = .sound
  peer : l'.peer = l.peer
  read : batch ⊆ l.inbox
  rest : l'.inbox ⊆ l.inbox

theorem gives_nothing (l : Link σ) : l.Gives [] l :=
  ⟨id, rfl, List.nil_subset _, List.Subset.refl _⟩

theorem gives_fail {α : Type} (l : Link σ) (fault : LinkFault) :
    l.Gives [] (l.fail fault : Except LinkFault α × Link σ).2 :=
  ⟨nofun, rfl, List.nil_subset _, List.Subset.refl _⟩

theorem read_gives (l : Link σ) (count : Nat) :
    l.Gives ((l.read count).1.toOption.getD []) (l.read count).2 := by
  unfold read
  split
  · exact l.gives_nothing
  · exact l.gives_fail _
  · exact l.gives_fail _
  · exact ⟨fun _ => ‹_›, rfl, List.take_subset _ _, List.drop_subset _ _⟩

theorem connection_read_gives (p : Peer σ) (patient : Bool) (early : Nat) (l : Link σ) :
    let (reading, l') := (connection p patient early).read l
    l.Gives (reading.outcome.toOption.getD []) l' := by
  have hread := l.read_gives (l.awaited patient early)
  unfold connection
  dsimp only
  rcases h : l.read (l.awaited patient early) with ⟨fault | batch, l'⟩
  · rw [h] at hread
    exact hread
  · rw [h] at hread
    exact hread

end Link

namespace Exchange

/-- The client is in order by what its peer has received, and the events that wait for it are of the
objects that they go to. -/
structure Orderly (x : Exchange (σ × List Request)) : Prop where
  fits : ∀ d ∈ x.link.inbox, d.Fits
  client : x.client.Orderly x.link.peer.2

/-- If the link is sound it was before, and then the exchange is in order if it was. -/
structure Upholds (x y : Exchange (σ × List Request)) : Prop where
  sound : y.link.health = .sound → x.link.health = .sound
  orderly : y.link.health = .sound → x.Orderly → y.Orderly

instance : Std.Refl (Upholds (σ := σ)) := ⟨fun _ => ⟨id, fun _ => id⟩⟩

instance : IsTrans (Exchange (σ × List Request)) Upholds where
  trans _ _ _ h h' :=
    ⟨h.sound ∘ h'.sound, fun hsound hx => h'.orderly hsound (h.orderly (h'.sound hsound) hx)⟩

protected theorem Upholds.refl (x : Exchange (σ × List Request)) : x.Upholds x := Std.Refl.refl x

protected theorem Upholds.trans {x y z : Exchange (σ × List Request)} (h : x.Upholds y)
    (h' : y.Upholds z) : x.Upholds z :=
  IsTrans.trans _ _ _ h h'

variable {x y : Exchange (σ × List Request)}

/-- What a client does by itself. -/
theorem upholds_of_client {c : Client} (h : x.Orderly → c.Orderly x.link.peer.2) :
    x.Upholds { x with client := c } :=
  ⟨id, fun _ hx => ⟨hx.fits, h hx⟩⟩

theorem upholds_of_not_sound (h : y.link.health ≠ .sound) : x.Upholds y :=
  ⟨fun hsound => absurd hsound h, fun hsound => absurd hsound h⟩

/-- Until what was read of the link is handled. -/
theorem upholds_of_gives {batch : List Delivery} {link : Link (σ × List Request)}
    (h : x.link.Gives batch link) : x.Upholds { x with link } :=
  ⟨h.sound, fun _ hx => ⟨fun d hd => hx.fits d (h.rest hd), h.peer ▸ hx.client⟩⟩

/-- What is concluded from a look at the connection was read of the link. -/
theorem upholds_look (p : Peer (σ × List Request)) (patient watch : Bool) (early : Nat)
    (x : Exchange (σ × List Request)) :
    let looked := x.look (Link.connection p patient early) watch
    x.Upholds looked.2 ∧ ∀ batch, looked.1 = .ok (some batch) → batch ⊆ x.link.inbox := by
  unfold look
  dsimp only
  generalize x.client.poller.poll _ _ watch = polled
  obtain ⟨readiness, poller⟩ := polled
  dsimp only
  generalize hreading : (if readiness.readable then _ else _) = reading
  obtain ⟨reading, link⟩ := reading
  have hgives : x.link.Gives (reading.outcome.toOption.getD []) link := by
    have hread := x.link.connection_read_gives p patient early
    split_ifs at hreading
    · change (Link.connection p patient early).read x.link = _ at hreading
      rw [hreading] at hread
      exact hread
    · cases hreading
      exact x.link.gives_nothing
  refine ⟨(upholds_of_gives hgives).trans (upholds_of_client fun hx =>
    ⟨hx.client.ledger, hx.client.brief, hx.client.free⟩), fun batch h => ?_⟩
  exact List.Subset.trans (DisplayPoller.subset_of_conclude h) hgives.read

end Exchange

namespace Talk

open Exchange

variable {x y : Exchange (σ × List Request)} {p : Peer σ}

theorem upholds_flush (hp : p.IsApt) (error : LinkFault → ExchangeError) :
    Leads Upholds (flush p.recording error).run := by
  intro x
  by_cases hsound : x.link.health = .sound
  · unfold flush
    rw [handOver_run (Link.send_of_sound p.recording hsound)]
    exact ⟨fun _ => hsound, fun _ hx =>
      ⟨List.forall_mem_append.2 ⟨hx.fits, hp _ _⟩, hx.client.emptyOutbox⟩⟩
  · refine upholds_of_not_sound ?_
    rw [flush_link]
    exact Link.send_of_not_sound _ hsound

/-- The events that are handled came over the link. -/
theorem upholds_handle {batch : List Delivery} (h : x.Upholds y)
    (hread : batch ⊆ x.link.inbox) : x.Upholds ((handle batch).run.run y).2 := by
  unfold handle
  rw [client_bind_run, act_run]
  refine ⟨h.sound, fun hsound hx => ?_⟩
  have hy := h.orderly hsound hx
  have hreact : Leads (KeepsOrder y.link.peer.2)
      ((batch.filter fun d => !y.client.log.isUnmade d.target).forM react).run :=
    .except_forM_mem fun d hd => leads_react_order (hx.fits d (hread (List.mem_of_mem_filter hd)))
  exact ⟨hy.fits, hreact y.client hy.client⟩

theorem upholds_receive (count : Nat) :
    Leads Upholds (receive count : Talk (σ × List Request) Unit).run := by
  intro x
  have hlink := onLink_run .dispatch (fun link => link.read count) x
  have hgives := x.link.read_gives count
  rcases hread : (x.link.read count).1 with fault | batch
  · rw [hread] at hlink
    unfold receive
    rw [run_bind_of_error hlink]
    exact upholds_of_gives hgives
  · rw [hread] at hlink hgives
    unfold receive
    rw [run_bind_of_ok hlink]
    exact upholds_handle (upholds_of_gives hgives) hgives.read

theorem upholds_settle {conclusion : Except LinkFault (Option (List Delivery))} (h : x.Upholds y)
    (hread : ∀ batch, conclusion = .ok (some batch) → batch ⊆ x.link.inbox) :
    x.Upholds ((settle conclusion).run.run y).2 := by
  rcases conclusion with fault | _ | batch
  · exact h
  · exact h.trans (upholds_of_client fun hy => ⟨hy.client.ledger, hy.client.brief, hy.client.free⟩)
  · unfold settle
    rw [run_bind_pure_snd]
    exact upholds_handle h (hread batch rfl)

theorem upholds_dispatch (hp : p.IsApt) (patient watch : Bool) :
    Leads Upholds (dispatch p.recording patient watch).run := by
  have hclient : Leads Upholds (client : Talk (σ × List Request) Client).run := Upholds.refl
  have hlost : Leads Upholds (loseDisplay : Talk (σ × List Request) (Option Nat)).run :=
    fun _ => upholds_of_client fun hx => ⟨hx.client.ledger, hx.client.brief, hx.client.free⟩
  refine .except_get_bind fun x => Leads.except_bind hclient (fun c => ?_) x
  split_ifs
  · exact hlost
  · refine .except_bind (upholds_flush hp .connection) fun _ => .except_get_bind fun y => ?_
    obtain ⟨hlook, hbatch⟩ := y.upholds_look p.recording patient watch x.link.inbox.length
    exact upholds_settle hlook hbatch

theorem upholds_follows (hp : p.IsApt) :
    Follows p.recording Turn.IsOwn fun x _ y => x.Upholds y :=
  follows_of_leads (fun _ ht _ => upholds_of_client fun hx => Turn.leads_order ht _ hx.client)
    (upholds_flush hp) upholds_receive (upholds_dispatch hp) fun _ =>
    upholds_of_client fun hx => ⟨hx.client.ledger, hx.client.brief, hx.client.free⟩

end Talk

/-- The link changes without the client: nothing is sent, the events that come in are of the objects
that they go to, and a link that is not sound is not mended. -/
structure Link.IsNatural (change : Link (σ × List Request) → Link (σ × List Request)) : Prop where
  received : ∀ l, (change l).peer.2 = l.peer.2
  fits : ∀ l, (∀ d ∈ l.inbox, d.Fits) → ∀ d ∈ (change l).inbox, d.Fits
  sound : ∀ l, (change l).health = .sound → l.health = .sound

/-- Events of the objects that they go to may come in at any time. -/
theorem Link.natural_deliver {events : List Delivery} (h : ∀ d ∈ events, d.Fits) :
    IsNatural (σ := σ) (·.deliver events) := by
  refine ⟨fun l => ?_, fun l hl => ?_, fun l => ?_⟩ <;> unfold deliver <;> split_ifs
  · rfl
  · rfl
  · exact List.forall_mem_append.2 ⟨hl, h⟩
  · exact hl
  · exact id
  · exact id

namespace Exchange

variable {p : Peer σ} {x y : Exchange (σ × List Request)} {steps : List (Step (σ × List Request))}

def Step.IsNatural : Step (σ × List Request) → Prop
  | .call _ _ => True
  | .link change => Link.IsNatural change

/-- What a step leaves. A call that arithmetic ends leaves what it did until then. -/
def leave (p : Peer σ) (x : Exchange σ) : Step σ → Exchange σ
  | .call rounds call => ((Talk.answer p rounds call).run.run x).2
  | .link change => { x with link := change x.link }

theorem upholds_leave (hp : p.IsApt) {s : Step (σ × List Request)} (hs : s.IsNatural) :
    x.Upholds (x.leave p.recording s) := by
  cases s with
  | call rounds call => exact (Talk.upholds_follows hp).answer rounds call (fun _ _ => id) x
  | link change =>
    exact ⟨hs.sound x.link, fun _ hx =>
      ⟨hs.fits x.link hx.fits, (hs.received x.link).symm ▸ hx.client⟩⟩

theorem upholds_foldl (hp : p.IsApt) : ∀ {steps : List (Step (σ × List Request))}
    {x : Exchange (σ × List Request)}, (∀ s ∈ steps, s.IsNatural) →
    x.Upholds (steps.foldl (leave p.recording) x)
  | [], x, _ => .refl x
  | s :: steps, x, h => by
    obtain ⟨hs, hsteps⟩ := List.forall_mem_cons.1 h
    exact (upholds_leave hp hs).trans (upholds_foldl hp hsteps)

/-- Whatever globals there are beside those it needs, and whatever is called and comes in after it
has opened: if the link is sound when the client closes, it takes all that is left to send. What the
peer has received by then is all that the client asked for, and in it all lives have ended well. -/
theorem concluded_of_close (hp : p.IsApt) {globals : List Global} {s : Settings} {c : Client}
    {start : Link (σ × List Request)} (hnew : Client.new globals s = .ok c)
    (hstart : start.peer.2 = [] ∧ ∀ d ∈ start.inbox, d.Fits)
    (hopened : (Talk.introduce p.recording s).run.run ⟨c, start⟩ = (.ok (), x))
    (hsteps : ∀ s ∈ steps, s.IsNatural)
    (hsound : (steps.foldl (leave p.recording) x).link.health = .sound) :
    let y := steps.foldl (leave p.recording) x
    ∃ link, y.link.send p.recording y.client.close.log.outbox = (.ok (), link)
      ∧ link.peer.2 = y.client.close.log.issued ∧ Request.Concluded link.peer.2 := by
  intro y
  have hfirst : Orderly ⟨c, start⟩ := ⟨hstart.2, hstart.1.symm ▸ Client.new_orderly hnew⟩
  have hopen : Upholds ⟨c, start⟩ x := by
    have h : Upholds ⟨c, start⟩ ((Talk.introduce p.recording s).run.run ⟨c, start⟩).2 :=
      (Talk.upholds_follows hp).introduce s ⟨c, start⟩
    rw [hopened] at h
    exact h
  have hy : y.Orderly := (hopen.trans (upholds_foldl hp hsteps)).orderly hsound hfirst
  have hreceived := hy.client.append_outbox
  have hconcluded := hy.client.concluded
  rw [← hreceived] at hconcluded
  exact ⟨_, Link.send_of_sound _ hsound, hreceived, hconcluded⟩

/-- All globals that a client can use. -/
def usefulGlobals : List Global := silentGlobals ++ [⟨7, .decorationManager, 1⟩,
  ⟨8, .inhibitManager, 1⟩, ⟨9, .presentation, 1⟩, ⟨10, .dmabuf, 4⟩, ⟨11, .seat, 7⟩]

/-- A client that makes use of them has opened. -/
def equipped (c : Client) : Except Stop Unit × Exchange (Unit × List Request) :=
  (Talk.introduce silent.recording {}).run.run ⟨c, { peer := ((), []) }⟩

/-- A format and a pointer are announced, a frame is shown, and shown again after the buffers were
cleared, and the display is kept awake twice. -/
def busySteps : List (Step (Unit × List Request)) :=
  let format : FourCc := ⟨0x34325258⟩
  let frame : VideoFrame :=
    ⟨64, 32, .layout ⟨[⟨5, linearModifier⟩], [⟨format, [⟨0, 0, 256⟩]⟩]⟩⟩
  [.link (·.deliver [⟨⟨.dmabuf, 1⟩, .formatModifier format linearModifier⟩,
      ⟨⟨.seat, 1⟩, .capabilities 1⟩]),
    .call 0 .check, .call 0 (.reconfig 64 32), .call 0 (.inhibitIdle true), .call 0 (.draw frame),
    .call 0 .flip, .call 0 (.inhibitIdle false), .call 0 .clearPool, .call 0 (.draw frame),
    .call 0 (.inhibitIdle true)]

/-- All that ends then, in that order. -/
def busyEndings : List Object :=
  [⟨.region, 1⟩, ⟨.bufferParams, 1⟩, ⟨.inhibitor, 1⟩, ⟨.buffer, 2⟩, ⟨.bufferParams, 2⟩,
    ⟨.buffer, 3⟩, ⟨.buffer, 1⟩, ⟨.shmPool, 1⟩, ⟨.inhibitor, 2⟩, ⟨.decoration, 1⟩, ⟨.viewport, 1⟩,
    ⟨.viewport, 2⟩, ⟨.subsurface, 1⟩, ⟨.surface, 2⟩, ⟨.formatFeedback, 1⟩, ⟨.toplevel, 1⟩,
    ⟨.shellSurface, 1⟩, ⟨.surface, 1⟩, ⟨.decorationManager, 1⟩, ⟨.inhibitManager, 1⟩,
    ⟨.presentation, 1⟩, ⟨.viewporter, 1⟩, ⟨.subcompositor, 1⟩, ⟨.dmabuf, 1⟩, ⟨.shell, 1⟩]

/-- Twice a buffer, what asks for it and an inhibitor were made, and all of them end. -/
theorem concluded_of_close_busy : ∃ c, Client.new usefulGlobals {} = .ok c
    ∧ (equipped c).1 = .ok ()
    ∧ let y := busySteps.foldl (leave silent.recording) (equipped c).2
      ∃ link, y.link.send silent.recording y.client.close.log.outbox = (.ok (), link)
        ∧ Request.Concluded link.peer.2
        ∧ (link.peer.2.filter (·.verb.isDestructor)).map Request.target = busyEndings := by
  obtain ⟨c, hnew, hopened, hsound, hended⟩ : ∃ c, Client.new usefulGlobals {} = .ok c
      ∧ (equipped c).1 = .ok ()
      ∧ (busySteps.foldl (leave silent.recording) (equipped c).2).link.health = .sound
      ∧ ((busySteps.foldl (leave silent.recording) (equipped c).2).client.close.log.issued.filter
          (·.verb.isDestructor)).map Request.target = busyEndings := by
    decide +kernel
  have hquiet : silent.IsApt := fun _ _ => List.forall_mem_nil _
  have hsteps : ∀ s ∈ busySteps, s.IsNatural := by
    refine List.forall_mem_cons.2 ⟨Link.natural_deliver (by decide), fun s hs => ?_⟩
    simp only [List.mem_cons, List.not_mem_nil, or_false] at hs
    rcases hs with rfl | rfl | rfl | rfl | rfl | rfl | rfl | rfl | rfl <;> trivial
  have hopening : (Talk.introduce silent.recording {}).run.run ⟨c, { peer := ((), []) }⟩
      = (.ok (), (equipped c).2) := Prod.ext hopened rfl
  obtain ⟨link, hsend, hreceived, hconcluded⟩ := concluded_of_close hquiet hnew
    ⟨rfl, List.forall_mem_nil _⟩ hopening hsteps hsound
  rw [← hreceived] at hended
  exact ⟨c, hnew, hopened, link, hsend, hconcluded, hended⟩

end Exchange

end VideoOutput
