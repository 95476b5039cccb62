import VideoOutput.Proofs.Exchange.Moves

/-!
# An exchange in turns

Whatever an exchange does to its client is done in turns of the client (`Spends`): a link that fails
ends a call, but no turn, and where arithmetic ends a call it has ended its last turn. So a history
of calls and of changes of the link is a life of the client (`run_lives`).
-/

namespace VideoOutput

open Wire Client

variable {σ : Type}

namespace Talk

variable {α β : Type} {P : Turn → Prop} (p : Peer σ)

/-- How the client's last turn ended, if the work ended so. -/
def ending : Except Stop α → Except ArithmeticFault Unit
  | .error (.fault fault) => .error fault
  | _ => .ok ()

/-- From there the work changes the client by turns of the kind. -/
def SpendsFrom (P : Turn → Prop) (x : Exchange σ) (work : Talk σ α) : Prop :=
  ∃ turns, (∀ t ∈ turns, P t)
    ∧ (live turns).run.run x.client = (ending (work.run.run x).1, (work.run.run x).2.client)

def Spends (P : Turn → Prop) (work : Talk σ α) : Prop := ∀ x, SpendsFrom P x work

/-- The course of work that changes the client by turns of the kind. -/
def Spending (P : Turn → Prop) : Course σ := fun x result y =>
  ∃ turns, (∀ t ∈ turns, P t) ∧ (live turns).run.run x.client = (ending result, y.client)

theorem ending_outcome (answer : Except Stop α) : ending (outcome answer) = ending answer := by
  rcases answer with (fault | error) | a <;> rfl

theorem ending_fault (answer : Except ArithmeticFault Unit) :
    ending (answer.mapError Stop.fault) = answer := by
  rcases answer with fault | ⟨⟩ <;> rfl

theorem spends_of_runs {work : Talk σ α} (h : Runs (Spending P) work) : Spends P work := by
  intro x
  obtain ⟨turns, hturns, hlive⟩ := h x
  rw [ending_outcome] at hlive
  exact ⟨turns, hturns, hlive⟩

theorem spending_admits : Admits P (Spending P : Course σ) where
  refl _ := ⟨[], List.forall_mem_nil _, rfl⟩
  trans := by
    rintro x y z result ⟨turns, hturns, hlive⟩ ⟨rest, hrest, hlater⟩
    refine ⟨turns ++ rest, fun t ht => ?_, ?_⟩
    · exact (List.mem_append.1 ht).elim (hturns t) (hrest t)
    · rw [live_append, run_bind_of_ok hlive, hlater]
  stop _ _ := ⟨[], List.forall_mem_nil _, rfl⟩
  turn t ht x := by
    refine ⟨[t], List.forall_mem_singleton.2 ht, ?_⟩
    rw [live_singleton, ending_fault]
    rfl

/-! ## Events -/

theorem spending_onLink (error : LinkFault → ExchangeError)
    (work : Link σ → Except LinkFault α × Link σ) : Runs (Spending P) (onLink error work) := by
  intro x
  unfold RunsFrom
  rw [onLink_run]
  rcases work x.link with ⟨fault | a, link⟩
  · exact ⟨[], List.forall_mem_nil _, rfl⟩
  · exact ⟨[], List.forall_mem_nil _, rfl⟩

theorem spending_handOver (send : List Request → Link σ → Except LinkFault Unit × Link σ)
    (error : LinkFault → ExchangeError) (h : P .send) :
    Runs (Spending P) (handOver send error) :=
  spending_admits.bind spending_admits.refl fun _ => spending_admits.bind (spending_onLink _ _)
    fun _ => spending_admits.modifyClient .send h rfl

theorem spending_handle (h : ∀ d, P (.react d)) (batch : List Delivery) :
    Runs (Spending P) (handle batch : Talk σ Unit) := by
  intro x
  refine ⟨(batch.filter fun d => !x.client.log.isUnmade d.target).map .react, fun t ht => ?_, ?_⟩
  · obtain ⟨d, -, rfl⟩ := List.mem_map.1 ht
    exact h d
  · unfold handle
    rw [client_bind_run, act_run, ending_outcome, ending_fault, live_react]
    rfl

theorem spending_receive (h : ∀ d, P (.react d)) (count : Nat) :
    Runs (Spending P) (receive count : Talk σ Unit) :=
  spending_admits.bind (spending_onLink _ _) (spending_handle h)

theorem spending_loseDisplay (h : P .loseDisplay) :
    Runs (Spending P) (loseDisplay : Talk σ (Option Nat)) :=
  spending_admits.answering (spending_admits.modifyClient .loseDisplay h rfl) _

variable (hP : ∀ t, t.IsOrdinary → P t)
include hP

theorem spending_settle (conclusion : Except LinkFault (Option (List Delivery))) :
    Runs (Spending P) (settle conclusion : Talk σ (Option Nat)) := by
  rcases conclusion with fault | _ | batch
  · exact spending_admits.throw _
  · exact spending_loseDisplay (hP _ trivial)
  · exact spending_admits.answering (spending_handle (fun _ => hP _ trivial) batch) _

theorem spending_dispatchOver (k : Connection σ) (watch : Bool) :
    Runs (Spending P) (dispatchOver k watch) := by
  refine spending_admits.bind spending_admits.refl fun c => ?_
  split_ifs
  · exact spending_loseDisplay (hP _ trivial)
  refine spending_admits.bind (spending_handOver _ _ (hP _ trivial)) fun _ =>
    runs_get_bind fun x => ?_
  -- the client has another poller, the link is as reading left it, and the work goes on
  obtain ⟨turns, hturns, hlive⟩ := spending_settle hP (x.look k watch).1 (x.look k watch).2
  refine ⟨.poll (x.look k watch).2.client.poller :: turns, ?_, hlive⟩
  exact List.forall_mem_cons.2 ⟨hP _ trivial, hturns⟩

theorem spending_follows : Follows p P (Spending P) where
  toAdmits := spending_admits
  own t ht := hP t ht.2
  flush error := spending_handOver _ error (hP _ trivial)
  receive := spending_receive fun _ => hP _ trivial
  dispatch _ watch := spending_admits.bind spending_admits.refl fun _ =>
    spending_dispatchOver hP _ watch
  wake x := ⟨[.poll x.client.poller.wakeup], List.forall_mem_singleton.2 (hP _ trivial), rfl⟩

omit hP

/-! ## Opening and calls -/

theorem spends_dispatch (patient watch : Bool) :
    Spends Turn.IsOrdinary (dispatch p patient watch) :=
  spends_of_runs ((spending_follows p fun _ => id).dispatch patient watch)

theorem spends_introduce (s : Settings) : Spends Turn.IsOrdinary (introduce p s) :=
  spends_of_runs ((spending_follows p fun _ => id).introduce s)

/-- The end of a reconfiguration, once there is an output. -/
theorem spends_configure (width height : Int) :
    Spends (fun t => t.IsOrdinary ∧ ¬ t.IsOfOutputs) (do
      act (Act.window (·.reconfig width height))
      modifyClient fun c => c.flushShellRequests.ask c.surface .commit []
      flush p .connection : Talk σ Unit) :=
  spends_of_runs (spending_admits.configure (spending_handOver _ _ ⟨trivial, id⟩) ⟨trivial, id⟩
    ⟨trivial, id⟩)

/-- Only the call that checks for events takes them or lays surfaces out. -/
theorem spends_answer (rounds : Nat) {call : Call} (h : call ≠ .check) :
    Spends Turn.IsOrdinary (answer p rounds call) :=
  spends_of_runs ((spending_follows p fun _ => id).answer rounds call fun hcall => absurd hcall h)

theorem spends_call (rounds : Nat) (call : Call) :
    Spends (fun _ => True) (answer p rounds call) :=
  spends_of_runs ((spending_follows p fun _ _ => trivial).answer rounds call fun _ _ _ => trivial)

end Talk

end VideoOutput
