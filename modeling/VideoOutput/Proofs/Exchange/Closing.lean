import VideoOutput.Proofs.Client.Closing
import VideoOutput.Proofs.Exchange.Freshness
import VideoOutput.Proofs.Exchange.Moves

/-!
# Broken displays

A dispatch that finds the connection in error closes the display and asks the client to close,
readable or not, but for one case: where it is readable and the read fails, the dispatch ends with
the failure and has forgotten the error. Once it is closed the display stays closed and is let alone
(`closes_of_error`): no dispatch looks at its connection again, and a wait is over at once.

A connection is whatever answers a dispatch: nothing is assumed of it.
-/

namespace VideoOutput

open Wire

namespace DisplayPoller

@[simp] theorem poll_closed (p : DisplayPoller) (readable error watch : Bool) :
    (p.poll readable error watch).2.closed = p.closed := by
  unfold poll
  dsimp only
  split_ifs <;> rfl

theorem conclude_closed {ε α : Type} {p : DisplayPoller} (h : p.closed = true) (r : Readiness)
    (outcome : Except ε (List α)) : (p.conclude r outcome).2.closed = true := by
  unfold conclude
  split
  · exact h
  · by_cases herror : r.error = true
    · rw [if_pos herror]
    · rwa [if_neg herror]

/-- An error is concluded with unless a read failed. -/
theorem conclude_of_error {ε α : Type} (p : DisplayPoller) {r : Readiness} (herror : r.error = true)
    {outcome : Except ε (List α)} (hread : r.readable = true → ∀ e, outcome ≠ .error e) :
    p.conclude r outcome = (.ok none, { p with closed := true }) := by
  unfold conclude
  split
  · rename_i e hreadable
    exact absurd rfl (hread hreadable e)
  · rw [if_pos herror]

end DisplayPoller

variable {σ : Type}

namespace Exchange

/-- The display is closed if it was, and the client is asked to close if it was. -/
structure Persists (x y : Exchange σ) : Prop where
  closed : x.client.poller.closed = true → y.client.poller.closed = true
  closing : x.client.closeRequested = true → y.client.closeRequested = true

instance : Std.Refl (Persists (σ := σ)) := ⟨fun _ => ⟨id, id⟩⟩

instance : IsTrans (Exchange σ) Persists where
  trans _ _ _ h h' := ⟨h'.closed ∘ h.closed, h'.closing ∘ h.closing⟩

protected theorem Persists.refl (x : Exchange σ) : x.Persists x := Std.Refl.refl x

protected theorem Persists.trans {x y z : Exchange σ} (h : x.Persists y) (h' : y.Persists z) :
    x.Persists z :=
  IsTrans.trans _ _ _ h h'

theorem persists_of_client {x y : Exchange σ} (h : x.client.Persists y.client) : x.Persists y :=
  ⟨fun hclosed => by rwa [h.poller], h.closing⟩

theorem persists_look (k : Connection σ) (watch : Bool) (x : Exchange σ) :
    x.Persists (x.look k watch).2 where
  closed h := by
    have hpolled := (x.client.poller.poll_closed (k.poll x.link).1.readable
      (k.poll x.link).1.error watch).trans h
    exact DisplayPoller.conclude_closed hpolled _ _
  closing := id

end Exchange

namespace Talk

variable {α β : Type} (p : Peer σ)

/-- Whatever it comes to, the work keeps a closed display closed. -/
abbrev Persists (work : Talk σ α) : Prop := Leads Exchange.Persists work.run

theorem persists_client : Persists (client : Talk σ Client) := Exchange.Persists.refl

theorem persists_get : Persists (get : Talk σ (Exchange σ)) := Exchange.Persists.refl

theorem persists_throw (stop : Stop) : Persists (throw stop : Talk σ α) := Exchange.Persists.refl

theorem persists_modifyClient {change : Client → Client} (h : ∀ c, Client.Persists c (change c)) :
    Persists (modifyClient change : Talk σ Unit) :=
  fun x => Exchange.persists_of_client (h x.client)

theorem persists_act {work : Act α} (h : Leads Client.Persists work.run) :
    Persists (act work : Talk σ α) := by
  intro x
  rw [act_run]
  exact Exchange.persists_of_client (h x.client)

theorem persists_onLink (error : LinkFault → ExchangeError)
    (work : Link σ → Except LinkFault α × Link σ) : Persists (onLink error work) := by
  refine .except_get_bind fun x => ?_
  rcases work x.link with ⟨fault | a, link⟩
  · exact ⟨id, id⟩
  · exact ⟨id, id⟩

/-! ## Dispatches -/

theorem persists_handOver (send : List Request → Link σ → Except LinkFault Unit × Link σ)
    (error : LinkFault → ExchangeError) : Persists (handOver send error) :=
  .except_bind persists_client fun _ => .except_bind (persists_onLink _ _) fun _ =>
    persists_modifyClient fun _ => ⟨rfl, id⟩

theorem persists_handle (batch : List Delivery) : Persists (handle batch : Talk σ Unit) :=
  .except_bind persists_client fun _ => persists_act (.except_forM Client.persists_react _)

theorem persists_receive (count : Nat) : Persists (receive count : Talk σ Unit) :=
  .except_bind (persists_onLink _ _) persists_handle

theorem persists_loseDisplay : Persists (loseDisplay : Talk σ (Option Nat)) :=
  .except_bind (persists_modifyClient fun _ => ⟨rfl, fun _ => rfl⟩) fun _ => .except_pure _

theorem persists_settle (conclusion : Except LinkFault (Option (List Delivery))) :
    Persists (settle conclusion : Talk σ (Option Nat)) := by
  rcases conclusion with fault | _ | batch
  · exact persists_throw _
  · exact persists_loseDisplay
  · exact .except_bind (persists_handle batch) fun _ => .except_pure _

theorem persists_dispatchOver (k : Connection σ) (watch : Bool) :
    Persists (dispatchOver k watch) := by
  refine .except_bind persists_client fun c => ?_
  split_ifs
  · exact persists_loseDisplay
  refine .except_bind (persists_handOver _ _) fun _ => .except_get_bind fun x => ?_
  exact (x.persists_look k watch).trans (persists_settle _ _)

theorem persists_dispatch (patient watch : Bool) : Persists (dispatch p patient watch) :=
  .except_bind persists_get fun _ => persists_dispatchOver _ watch

/-- No move opens a display that is closed. -/
theorem persists_follows : Follows p Client.Turn.IsOwn fun x _ y => x.Persists y :=
  follows_of_leads
    (fun _ ht x => Exchange.persists_of_client (Client.Turn.leads_persists ht x.client))
    (persists_handOver _) persists_receive (persists_dispatch p) fun _ => ⟨id, id⟩

/-! ## Closed displays -/

theorem dispatchOver_of_closed {x : Exchange σ} (h : x.client.poller.closed = true)
    (k : Connection σ) (watch : Bool) : (dispatchOver k watch).run.run x
      = (.ok none, { x with client := { x.client with closeRequested := true } }) := by
  unfold dispatchOver
  rw [client_bind_run, if_pos h]
  rfl

theorem wait_of_closed {x : Exchange σ} (h : x.client.poller.closed = true) :
    (wait p).run.run x = (.ok (), x) := by
  unfold wait
  rw [client_bind_run, if_pos h]
  rfl

/-- The requests of an open display are handed over, and the rest is what looking at the connection
gives. -/
theorem dispatchOver_of_open {x : Exchange σ} (h : x.client.poller.closed = false)
    {k : Connection σ} {sent : Link σ} (hsend : k.send x.client.log.outbox x.link = (.ok (), sent))
    (watch : Bool) :
    let y : Exchange σ := ⟨{ x.client with log := x.client.log.emptyOutbox }, sent⟩
    (dispatchOver k watch).run.run x
      = (settle (y.look k watch).1).run.run (y.look k watch).2 := by
  intro y
  have hopen : ¬ x.client.poller.closed = true := by rw [h]; exact Bool.false_ne_true
  unfold dispatchOver
  rw [client_bind_run, if_neg hopen, run_bind_of_ok (handOver_run hsend)]
  rfl

end Talk

namespace Exchange

theorem step_persists {p : Peer σ} {x y : Exchange σ} {s : Step σ} (h : step p x s = .ok y) :
    x.Persists y := by
  cases s with
  | link change =>
    cases h
    exact ⟨id, id⟩
  | call rounds call =>
    obtain ⟨rfl, -⟩ := step_call_ok h
    exact (Talk.persists_follows p).answer rounds call (fun _ _ => id) x

theorem run_persists {p : Peer σ} : ∀ {steps : List (Step σ)} {x y : Exchange σ},
    run p x steps = .ok y → x.Persists y
  | [], x, y, h => by
    cases h
    exact .refl x
  | s :: steps, x, z, h => by
    obtain ⟨y, hstep, hrun⟩ := run_cons.1 h
    exact (step_persists hstep).trans (run_persists hrun)

/-- A dispatch over the connection polls it and finds it in error: whether there is also something
to read, and the link that the poll leaves. -/
structure FindsError (k : Connection σ) (x : Exchange σ) (readable : Bool) (link : Link σ) :
    Prop where
  isOpen : x.client.poller.closed = false
  polled : ∃ sent, k.send x.client.log.outbox x.link = (.ok (), sent)
    ∧ k.poll sent = (⟨readable, true⟩, link)

section Look

variable {k : Connection σ} {x : Exchange σ} {readable : Bool} {link : Link σ}

/-- What a dispatch reads of a connection that its poll left so. -/
def readIf (k : Connection σ) (readable : Bool) (link : Link σ) : Reading × Link σ :=
  if readable then k.read link else (.wouldBlock, link)

theorem look_eq (hpoll : k.poll x.link = (⟨readable, true⟩, link)) (watch : Bool) :
    let polled := x.client.poller.poll readable true watch
    let concluded := polled.2.conclude polled.1 (readIf k readable link).1.outcome
    x.look k watch = (concluded.1,
      ⟨{ x.client with poller := concluded.2 }, (readIf k readable link).2⟩) := by
  unfold look
  rw [hpoll]
  rfl

/-- Whatever is read, an error closes the display. -/
theorem look_of_error (hpoll : k.poll x.link = (⟨readable, true⟩, link))
    (hread : readable = true → ∀ fault, (k.read link).1 ≠ .failed fault) (watch : Bool) :
    (x.look k watch).1 = .ok none ∧ (x.look k watch).2.client.poller.closed = true := by
  have houtcome (h : readable = true) (fault : LinkFault) :
      (readIf k readable link).1.outcome ≠ .error fault := by
    rw [readIf, if_pos h]
    cases hreading : (k.read link).1 with
    | events batch => exact nofun
    | wouldBlock => exact nofun
    | failed fault' => exact absurd hreading (hread h fault')
  have hconclude := (x.client.poller.poll readable true watch).2.conclude_of_error
    (r := (x.client.poller.poll readable true watch).1) rfl houtcome
  rw [look_eq hpoll, hconclude]
  exact ⟨rfl, rfl⟩

/-- A read that fails is all that is heeded. -/
theorem look_of_failure (hpoll : k.poll x.link = (⟨true, true⟩, link)) {fault : LinkFault}
    (hread : (k.read link).1 = .failed fault) (watch : Bool) :
    (x.look k watch).1 = .error fault
      ∧ (x.look k watch).2.client.poller.closed = x.client.poller.closed := by
  have houtcome : (readIf k true link).1.outcome = .error fault := by
    rw [readIf, if_pos rfl, hread]
    rfl
  rw [look_eq hpoll, houtcome]
  exact ⟨rfl, x.client.poller.poll_closed true true watch⟩

end Look

/-- Over any connection, from any state of the session. A dispatch whose poll finds an error closes
the display and asks the client to close, whether there is something to read or not and whatever the
read gives, but for a read that fails: that ends the dispatch with its failure, and the display
stays open. Once it is closed the display stays closed, whatever is called and whatever becomes of
the link, and the wish to close stays too; no dispatch touches the connection, the requests or the
events any more, and a wait is over at once. -/
theorem closes_of_error {k : Connection σ} {x : Exchange σ} {readable : Bool} {link : Link σ}
    (h : FindsError k x readable link) (watch : Bool) :
    ((readable = true → ∀ fault, (k.read link).1 ≠ .failed fault) →
      ∃ y, (Talk.dispatchOver k watch).run.run x = (.ok none, y)
        ∧ y.client.poller.closed = true ∧ y.client.closeRequested = true)
    ∧ (∀ fault, readable = true → (k.read link).1 = .failed fault →
      ∃ y, (Talk.dispatchOver k watch).run.run x = (.error (.error (.connection fault)), y)
        ∧ y.client.poller.closed = false ∧ y.client.closeRequested = x.client.closeRequested)
    ∧ ∀ (p : Peer σ) (steps : List (Step σ)) (y z : Exchange σ),
      y.client.poller.closed = true → run p y steps = .ok z →
      z.client.poller.closed = true
        ∧ (y.client.closeRequested = true → z.client.closeRequested = true)
        ∧ (∀ k watch, (Talk.dispatchOver k watch).run.run z
          = (.ok none, { z with client := { z.client with closeRequested := true } }))
        ∧ (Talk.wait p).run.run z = (.ok (), z) := by
  obtain ⟨hopen, sent, hsend, hpoll⟩ := h
  refine ⟨fun hread => ?_, ?_, fun p steps y z hclosed hrun => ?_⟩
  · obtain ⟨hconclusion, hclosed⟩ := look_of_error
      (x := ⟨{ x.client with log := x.client.log.emptyOutbox }, sent⟩) hpoll hread watch
    rw [Talk.dispatchOver_of_open hopen hsend, hconclusion]
    exact ⟨_, rfl, hclosed, rfl⟩
  · rintro fault rfl hread
    obtain ⟨hconclusion, hclosed⟩ := look_of_failure
      (x := ⟨{ x.client with log := x.client.log.emptyOutbox }, sent⟩) hpoll hread watch
    rw [Talk.dispatchOver_of_open hopen hsend, hconclusion]
    exact ⟨_, rfl, hclosed.trans hopen, rfl⟩
  · have hpersists := run_persists hrun
    have hstill := hpersists.closed hclosed
    exact ⟨hstill, hpersists.closing, Talk.dispatchOver_of_closed hstill,
      Talk.wait_of_closed p hstill⟩

/-- The connection is in error, and there is nothing to read after all. -/
def errorOnly : Connection σ where
  send _ link := (.ok (), link)
  poll link := (⟨true, true⟩, link)
  read link := (.wouldBlock, link)

/-- After the error the driver still asks for a fullscreen window and checks for events. -/
theorem closes_of_error_once : ∃ c, Client.new silentGlobals {} = .ok c
    ∧ (opened c).1 = .ok ()
    ∧ FindsError errorOnly (opened c).2 true (opened c).2.link
    ∧ ∃ y, (Talk.dispatchOver errorOnly true).run.run (opened c).2 = (.ok none, y)
      ∧ y.client.poller.closed = true ∧ y.client.closeRequested = true
      ∧ ∃ z, run silent y [.call 0 (.setFullscreen true), .call 0 .check] = .ok z
        ∧ z.client.poller.closed = true ∧ z.client.closeRequested = true
        ∧ (Talk.wait silent).run.run z = (.ok (), z) := by
  obtain ⟨c, hnew, hopened, hopen, hgoes⟩ : ∃ c, Client.new silentGlobals {} = .ok c
      ∧ (opened c).1 = .ok () ∧ (opened c).2.client.poller.closed = false
      ∧ ∃ z, run silent ((Talk.dispatchOver errorOnly true).run.run (opened c).2).2
        [.call 0 (.setFullscreen true), .call 0 .check] = .ok z ∧ True := by
    decide +kernel
  have herror : FindsError errorOnly (opened c).2 true (opened c).2.link :=
    ⟨hopen, _, rfl, rfl⟩
  obtain ⟨hcloses, -, hstays⟩ := closes_of_error herror true
  obtain ⟨y, hy, hclosed, hclosing⟩ := hcloses fun _ _ => nofun
  rw [hy] at hgoes
  obtain ⟨z, hz, -⟩ := hgoes
  obtain ⟨hstill, hwish, -, hwait⟩ := hstays silent _ y z hclosed hz
  exact ⟨c, hnew, hopened, herror, y, hy, hclosed, hclosing, z, hz, hstill, hwish hclosing, hwait⟩

/-- The compositor hangs up, and a check for events that finds it so fails without closing. -/
theorem exists_hangUp_open : ∃ c, Client.new silentGlobals {} = .ok c ∧ (opened c).1 = .ok ()
    ∧ ∃ x, run silent (opened c).2 [.link Link.hangUp] = .ok x
      ∧ FindsError (Link.connection silent false x.link.inbox.length) x true x.link
      ∧ ((Talk.check silent).run.run x).1 = .error (.error (.connection .brokenPipe))
      ∧ ((Talk.check silent).run.run x).2.client.poller.closed = false
      ∧ ((Talk.check silent).run.run x).2.client.closeRequested = false := by
  obtain ⟨c, hnew, hopened, x, hx, hopen, hhealth, hempty, houtcome⟩ :
      ∃ c, Client.new silentGlobals {} = .ok c ∧ (opened c).1 = .ok ()
      ∧ ∃ x, run silent (opened c).2 [.link Link.hangUp] = .ok x
        ∧ x.client.poller.closed = false ∧ x.link.health = .hungUp
        ∧ x.client.log.outbox.isEmpty = true
        ∧ ((Talk.check silent).run.run x).1 = .error (.error (.connection .brokenPipe))
        ∧ ((Talk.check silent).run.run x).2.client.poller.closed = false
        ∧ ((Talk.check silent).run.run x).2.client.closeRequested = false := by
    decide +kernel
  have hsend : Link.send silent x.client.log.outbox x.link = (.ok (), x.link) := by
    unfold Link.send
    rw [hhealth]
    exact if_pos hempty
  have hpoll : (Link.connection silent false x.link.inbox.length).poll x.link
      = (⟨true, true⟩, x.link) := by
    simp [Link.connection, Link.isReadable, Link.isHungUp, hhealth]
  exact ⟨c, hnew, hopened, x, hx, ⟨hopen, x.link, hsend, hpoll⟩, houtcome⟩

end Exchange

end VideoOutput
