import VideoOutput.Exchange.Call
import VideoOutput.Proofs.Client.Turns

/-!
# An exchange move by move

The client takes turns of its own, its requests are flushed, events are received, the connection is
dispatched, and the client is woken: whatever an exchange does comes down to these moves. So a
course that all of them take, one after another (`Follows`), is taken by the opening of a window and
by every call (`Follows.introduce`, `Follows.answer`), whether they succeed or not.
-/

namespace VideoOutput

open Wire Client

variable {σ : Type}

namespace Talk

variable {α β : Type} {p : Peer σ} {P : Turn → Prop}

/-! ## What work comes to -/

theorem map_fst_bind {ε : Type} (x : Except ε α) (b : β) :
    Prod.fst <$> (x >>= fun a => pure (a, b)) = x := by
  cases x <;> rfl

theorem client_bind_run (f : Client → Talk σ α) (x : Exchange σ) :
    (client >>= f).run.run x = (f x.client).run.run x :=
  rfl

theorem act_run (work : Act α) (x : Exchange σ) : (act work : Talk σ α).run.run x
    = ((work.run x.client).1.mapError Stop.fault, { x with client := (work.run x.client).2 }) := by
  unfold act
  rw [StateT.run, run_get_bind]
  rcases work.run x.client with ⟨fault | a, client⟩ <;> rfl

theorem onLink_run (error : LinkFault → ExchangeError)
    (work : Link σ → Except LinkFault α × Link σ) (x : Exchange σ) :
    (onLink error work).run.run x = ((work x.link).1.mapError fun fault => .error (error fault),
      { x with link := (work x.link).2 }) := by
  unfold onLink
  rw [StateT.run, run_get_bind]
  rcases work x.link with ⟨fault | a, link⟩ <;> rfl

/-- What was handed over waits no more. -/
theorem handOver_run {send : List Request → Link σ → Except LinkFault Unit × Link σ}
    {error : LinkFault → ExchangeError} {x : Exchange σ} {sent : Link σ}
    (h : send x.client.log.outbox x.link = (.ok (), sent)) : (handOver send error).run.run x
      = (.ok (), ⟨{ x.client with log := x.client.log.emptyOutbox }, sent⟩) := by
  have hlink := onLink_run error (send x.client.log.outbox) x
  rw [h] at hlink
  unfold handOver
  rw [client_bind_run, run_bind_of_ok hlink]
  rfl

/-- Whether a flush succeeds or not, it is the requests in the outbox that it sends. -/
theorem flush_link (p : Peer σ) (error : LinkFault → ExchangeError) (x : Exchange σ) :
    ((flush p error).run.run x).2.link = (x.link.send p x.client.log.outbox).2 := by
  have hlink := onLink_run error (Link.send p x.client.log.outbox) x
  unfold flush handOver
  rw [client_bind_run]
  rcases hsend : (x.link.send p x.client.log.outbox).1 with fault | ⟨⟩
  · rw [hsend] at hlink
    rw [run_bind_of_error hlink]
  · rw [hsend] at hlink
    rw [run_bind_of_ok hlink]
    rfl

/-! ## Courses -/

/-- What may be so of an exchange, of how work on it ended, and of the exchange it left. -/
abbrev Course (σ : Type) := Exchange σ → Except Stop Unit → Exchange σ → Prop

variable {Q : Course σ}

/-- How work ended, but for its answer. -/
def outcome (answer : Except Stop α) : Except Stop Unit := answer.map fun _ => ()

/-- From there the work takes the course. -/
def RunsFrom (Q : Course σ) (x : Exchange σ) (work : Talk σ α) : Prop :=
  Q x (outcome (work.run.run x).1) (work.run.run x).2

def Runs (Q : Course σ) (work : Talk σ α) : Prop := ∀ x, RunsFrom Q x work

/-- Work that reads the client may use that it is the one of the exchange. -/
theorem runs_client_bind {f : Client → Talk σ α} (h : ∀ x : Exchange σ, RunsFrom Q x (f x.client)) :
    Runs Q (client >>= f) :=
  h

theorem runs_get_bind {f : Exchange σ → Talk σ α} (h : ∀ x, RunsFrom Q x (f x)) :
    Runs Q (get >>= f) :=
  h

/-- A course is taken by one part of the work after another, by work that stops, and by turns of the
kind. -/
structure Admits (P : Turn → Prop) (Q : Course σ) : Prop where
  refl : ∀ x, Q x (.ok ()) x
  trans : ∀ {x y z result}, Q x (.ok ()) y → Q y result z → Q x result z
  stop : ∀ x error, Q x (.error (.error error)) x
  turn : ∀ t, P t → ∀ x, Q x ((t.work.run.run x.client).1.mapError .fault)
    { x with client := (t.work.run.run x.client).2 }

namespace Admits

variable (h : Admits P Q)
include h

protected theorem pure (a : α) : Runs Q (pure a : Talk σ α) := h.refl

protected theorem throw (error : ExchangeError) : Runs Q (throw (.error error) : Talk σ α) :=
  fun x => h.stop x error

protected theorem bind {work : Talk σ α} {f : α → Talk σ β} (hwork : Runs Q work)
    (hf : ∀ a, Runs Q (f a)) : Runs Q (work >>= f) := by
  intro x
  have hfirst := hwork x
  unfold RunsFrom at hfirst ⊢
  rcases run_bind_cases work f x with ⟨a, y, hrun, hall⟩ | ⟨stop, y, hrun, hall⟩
  · rw [hrun] at hfirst
    rw [hall]
    exact h.trans hfirst (hf a y)
  · rw [hrun] at hfirst
    rw [hall]
    exact hfirst

/-- Work whose answer is put in other words. -/
theorem answering {work : Talk σ α} (hwork : Runs Q work) (f : α → β) :
    Runs Q (work >>= fun a => pure (f a)) :=
  h.bind hwork fun _ => h.pure _

protected theorem act (t : Turn) (ht : P t) : Runs Q (act t.work : Talk σ Unit) := by
  intro x
  have hturn := h.turn t ht x
  unfold RunsFrom
  rw [act_run]
  rcases hrun : t.work.run.run x.client with ⟨fault | ⟨⟩, c⟩
  · rw [hrun] at hturn
    have hrun' : t.work.run x.client = (.error fault, c) := hrun
    rw [hrun']
    exact hturn
  · rw [hrun] at hturn
    have hrun' : t.work.run x.client = (.ok (), c) := hrun
    rw [hrun']
    exact hturn

/-- A change of the client that a turn makes. -/
protected theorem modifyClient {change : Client → Client} (t : Turn) (ht : P t)
    (hwork : t.work = modify change) : Runs Q (modifyClient change : Talk σ Unit) := by
  have hact : (modifyClient change : Talk σ Unit) = act (modify change) := rfl
  rw [hact, ← hwork]
  exact h.act t ht

protected theorem ask {change : Client → α × Client} (t : Turn) (ht : P t)
    (hwork : t.work = modify fun c => (change c).2) : Runs Q (ask change : Talk σ α) :=
  h.modifyClient t ht hwork

/-- An operation on the window that the driver asks for. -/
theorem window {change : Window → Except ArithmeticFault Window} (op : Window.Op)
    (asked : op.isCall = true) (ht : P (.onWindow op asked))
    (hop : ∀ w : Window, Prod.fst <$> w.step op = change w) :
    Runs Q (act (Act.window change) : Talk σ Unit) := by
  have hchange : (fun w : Window => Prod.fst <$> w.step op) = change := funext hop
  rw [← hchange]
  exact h.act (.onWindow op asked) ht

theorem adoptOutput (ht : P .settle) : Runs Q (adoptOutput : Talk σ Unit) := by
  refine runs_client_bind fun x => ?_
  have hsettle := h.turn .settle ht x
  have hsettled : (Turn.settle.work).run.run x.client = (.ok (), x.client.settle) := rfl
  rw [hsettled] at hsettle
  unfold Client.settle at hsettle
  rcases hcurrent : x.client.outputs.current with _ | current
  · rw [hcurrent] at hsettle
    rcases hscreen : x.client.screen? with _ | output
    · exact h.stop x .noOutputs
    · rw [hscreen] at hsettle
      exact hsettle
  · exact h.refl x

theorem swap (ht : P (.pace .swap)) : Runs Q (do
    match (← client).pacer.swap with
    | .ok pacer => Talk.modifyClient ({ · with pacer })
    | .error fault => throw (.fault fault) : Talk σ Unit) := by
  refine runs_client_bind fun x => ?_
  have hturn := h.turn (.pace .swap) ht x
  have hstep : x.client.pacer.step .swap
    = (x.client.pacer.swap >>= fun pacer => pure (pacer, none)) := rfl
  rcases hswap : x.client.pacer.swap with fault | pacer
  · rw [Turn.pace_run_error (by rw [hstep, hswap]; rfl)] at hturn
    exact hturn
  · rw [Turn.pace_run_ok (by rw [hstep, hswap]; rfl)] at hturn
    exact hturn

theorem unfullscreenSize (ht : P (.onWindow .unfullscreenSize rfl)) : Runs Q (do
    match (← client).window.unfullscreenSize with
    | .ok size => return .size size
    | .error fault => throw (.fault fault) : Talk σ Answer) := by
  refine runs_client_bind fun x => ?_
  have hturn := h.turn (.onWindow .unfullscreenSize rfl) ht x
  have hstep : x.client.window.step .unfullscreenSize
    = (x.client.window.unfullscreenSize >>= fun size => pure (x.client.window, .size size)) := rfl
  rcases hsize : x.client.window.unfullscreenSize with fault | size
  · have hrun : (Turn.onWindow .unfullscreenSize rfl).work.run.run x.client
        = (.error fault, x.client) := Turn.onWindow_run_error (by rw [hstep, hsize]; rfl)
    rw [hrun] at hturn
    exact hturn
  · exact h.refl x

theorem setDisplay (display : SurfaceDisplay) (ht : P (.setDisplay display)) : Runs Q (do
    match (← client).setDisplay display with
    | .ok c => do
      Talk.modifyClient fun _ => c
      return .none
    | .error e => return .alreadyBound e : Talk σ Answer) := by
  refine runs_client_bind fun x => ?_
  have hturn := h.turn (.setDisplay display) ht x
  have hwork : (Turn.setDisplay display).work.run.run x.client
    = (.ok (), (x.client.setDisplay display).toOption.getD x.client) := rfl
  rw [hwork] at hturn
  rcases hset : x.client.setDisplay display with e | c
  · exact h.refl x
  · rw [hset] at hturn
    exact hturn

/-- The end of a reconfiguration, once there is an output. -/
theorem configure (hflush : Runs Q (flush p .connection)) {width height : Int}
    (hwindow : P (.onWindow (.reconfig width height) rfl)) (hsubmit : P .submit) : Runs Q (do
      Talk.act (Act.window (·.reconfig width height))
      Talk.modifyClient fun c => c.flushShellRequests.ask c.surface .commit []
      flush p .connection : Talk σ Unit) :=
  h.bind (h.window (.reconfig width height) rfl hwindow fun _ => map_fst_bind _ _) fun _ =>
    h.bind (h.modifyClient .submit hsubmit rfl) fun _ => hflush

end Admits

/-- All moves take the course, and all turns of the client's own but those that take events or lay
surfaces out are of the kind. -/
structure Follows (p : Peer σ) (P : Turn → Prop) (Q : Course σ) : Prop extends Admits P Q where
  own : ∀ t, t.IsOwn ∧ t.IsOrdinary → P t
  flush : ∀ error, Runs Q (Talk.flush p error)
  receive : ∀ count, Runs Q (Talk.receive count : Talk σ Unit)
  dispatch : ∀ patient watch, Runs Q (Talk.dispatch p patient watch)
  wake : ∀ x, Q x (.ok ()) { x with client := { x.client with poller := x.client.poller.wakeup } }

/-- A course that does not depend on how the work ends. -/
theorem follows_of_leads {R : Exchange σ → Exchange σ → Prop} [Std.Refl R] [IsTrans (Exchange σ) R]
    (turn : ∀ t : Turn, t.IsOwn → ∀ x, R x { x with client := (t.work.run.run x.client).2 })
    (flush : ∀ error, Leads R (Talk.flush p error).run)
    (receive : ∀ count, Leads R (Talk.receive count : Talk σ Unit).run)
    (dispatch : ∀ patient watch, Leads R (Talk.dispatch p patient watch).run)
    (wake : ∀ x, R x { x with client := { x.client with poller := x.client.poller.wakeup } }) :
    Follows p Turn.IsOwn fun x _ y => R x y where
  refl x := Std.Refl.refl x
  trans h h' := IsTrans.trans _ _ _ h h'
  stop x _ := Std.Refl.refl x
  turn := turn
  own _ ht := ht.1
  flush := flush
  receive := receive
  dispatch := dispatch
  wake := wake

namespace Follows

variable (h : Follows p P Q)
include h

protected theorem change {change : Client → Client} (t : Turn) (ht : t.IsOwn ∧ t.IsOrdinary)
    (hwork : t.work = modify change) : Runs Q (modifyClient change : Talk σ Unit) :=
  h.modifyClient t (h.own t ht) hwork

theorem changeWindow {change : Window → Except ArithmeticFault Window} (op : Window.Op)
    (asked : op.isCall = true) (hop : ∀ w : Window, Prod.fst <$> w.step op = change w) :
    Runs Q (changeWindow change : Talk σ Unit) :=
  h.bind (h.window op asked (h.own _ ⟨trivial, trivial⟩) hop) fun _ =>
    h.change .flushShellRequests ⟨trivial, trivial⟩ rfl

theorem roundtrip : Runs Q (roundtrip p) := by
  refine h.bind h.refl fun x => h.bind (h.flush _) fun _ => ?_
  dsimp only
  split_ifs
  · exact h.bind (h.receive _) fun _ => h.bind (h.flush _) fun _ => h.bind h.refl fun _ =>
      h.receive _
  · exact h.bind h.refl fun _ => h.receive _

/-- Nothing that opens a window does is beyond the moves. -/
theorem introduce (s : Settings) : Runs Q (introduce p s) := by
  refine h.bind h.roundtrip fun _ => h.bind h.refl fun c => ?_
  split_ifs
  · exact h.throw _
  · exact h.bind (h.change (.introduce _ _) ⟨trivial, trivial⟩ rfl) fun _ => h.roundtrip

/-! ## Calls -/

theorem reconfig (width height : Int) : Runs Q (reconfig p width height) := by
  have hconfigured : Runs Q (do
      Talk.modifyClient Client.fillSolid
      Talk.adoptOutput
      Talk.act (Act.window (·.reconfig width height))
      Talk.modifyClient fun c => c.flushShellRequests.ask c.surface .commit []
      Talk.flush p .connection : Talk σ Unit) :=
    h.bind (h.change .fillSolid ⟨trivial, trivial⟩ rfl) fun _ =>
      h.bind (h.adoptOutput (h.own _ ⟨trivial, trivial⟩)) fun _ =>
      h.configure (h.flush _) (h.own _ ⟨trivial, trivial⟩) (h.own _ ⟨trivial, trivial⟩)
  refine h.bind h.refl fun c => ?_
  split_ifs
  · exact h.bind h.roundtrip fun _ => hconfigured
  · exact hconfigured

theorem awaitFrame : ∀ rounds : Nat, Runs Q (awaitFrame p rounds)
  | 0 => h.pure _
  | rounds + 1 => by
    refine h.bind h.refl fun c => ?_
    split_ifs
    · refine h.bind (h.dispatch _ _) fun count => ?_
      split
      · exact h.pure _
      · exact h.pure _
      · exact awaitFrame rounds
    · exact h.pure _

theorem pace (rounds : Nat) : Runs Q (pace p rounds) := by
  have hfinish : Runs Q
      (Talk.modifyClient fun c => { c with pacer := c.pacer.finishWait } : Talk σ Unit) :=
    h.change (.pace .finishWait) ⟨trivial, trivial⟩ rfl
  have hconfirm : Runs Q (do
      let c ← client
      if !c.pacer.usesPresentation && !c.poller.closed then Talk.roundtrip p
      Talk.modifyClient fun c => { c with pacer := c.pacer.finishWait } : Talk σ Unit) := by
    refine h.bind h.refl fun c => ?_
    split_ifs
    · exact h.bind h.roundtrip fun _ => hfinish
    · exact hfinish
  refine h.bind h.refl fun c => ?_
  split_ifs
  · exact h.bind (h.awaitFrame rounds) fun _ => hconfirm
  · exact hconfirm

theorem flip (rounds : Nat) : Runs Q (flip p rounds) := by
  have hswap := h.swap (h.own _ ⟨trivial, trivial⟩)
  refine h.bind (h.change .commit ⟨trivial, trivial⟩ rfl) fun _ => h.bind h.refl fun c => ?_
  -- with or without a wait before it, the frames are swapped at last
  split_ifs
  · exact h.bind (h.pace rounds) fun _ => hswap
  · exact hswap

theorem check (hown : ∀ t, t.IsOwn → P t) : Runs Q (check p) := by
  refine h.bind (h.dispatch _ _) fun _ =>
    h.bind (h.change .flushShellRequests ⟨trivial, trivial⟩ rfl) fun _ =>
    h.bind (h.ask .takeEvents (hown _ trivial) rfl) fun events => ?_
  split_ifs
  · exact h.bind (h.change (.pace .resetVisibility) ⟨trivial, trivial⟩ rfl) fun _ =>
      h.answering (h.act .relayout (hown _ trivial)) _
  · exact h.pure _

theorem wait : Runs Q (wait p) := by
  refine h.bind h.refl fun c => ?_
  split_ifs
  · exact h.pure _
  · exact h.answering (h.dispatch _ _) _

/-- No call does anything beyond the moves. Only the one that checks for events takes them or lays
surfaces out. -/
theorem answer (rounds : Nat) (call : Call) (hown : call = .check → ∀ t, t.IsOwn → P t) :
    Runs Q (answer p rounds call) := by
  cases call with
  | reconfig width height => exact h.answering (h.reconfig width height) _
  | draw frame => exact h.answering (h.ask (.draw frame) (h.own _ ⟨trivial, trivial⟩) rfl) _
  | flip => exact h.answering (h.flip rounds) _
  | check => exact h.answering (h.check (hown rfl)) _
  | wait => exact h.answering h.wait _
  | wakeup => exact h.wake
  | reset => exact h.answering (h.change .reset ⟨trivial, trivial⟩ rfl) _
  | clearPool => exact h.answering (h.change .clearPool ⟨trivial, trivial⟩ rfl) _
  | setDisplay display => exact h.setDisplay display (h.own _ ⟨trivial, trivial⟩)
  | setFullscreen on => exact h.answering (h.changeWindow (.setFullscreen on) rfl fun _ => rfl) _
  | setMaximized on => exact h.answering (h.changeWindow (.setMaximized on) rfl fun _ => rfl) _
  | setMinimized on => exact h.answering (h.changeWindow (.setMinimized on) rfl fun _ => rfl) _
  | setBorder on => exact h.answering (h.changeWindow (.setBorder on) rfl fun _ => rfl) _
  | setWindowSize width height =>
    exact h.answering (h.window (.setWindowSize width height) rfl (h.own _ ⟨trivial, trivial⟩)
      fun _ => map_fst_bind _ _) _
  | setUnfullscreenSize width height =>
    exact h.answering (h.changeWindow (.setUnfullscreenSize width height) rfl
      fun _ => map_fst_bind _ _) _
  | unfullscreenSize => exact h.unfullscreenSize (h.own _ ⟨trivial, trivial⟩)
  | setTitle title => exact h.answering (h.changeWindow (.setTitle title) rfl fun _ => rfl) _
  | setAppId appId => exact h.answering (h.changeWindow (.setAppId appId) rfl fun _ => rfl) _
  | inhibitIdle on => exact h.answering (h.ask (.inhibitIdle on) (h.own _ ⟨trivial, trivial⟩) rfl) _
  | outputs => exact h.refl
  | formats => exact h.refl

end Follows

end Talk

end VideoOutput
