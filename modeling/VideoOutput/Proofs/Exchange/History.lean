import VideoOutput.Proofs.Exchange.Turns

/-!
# The history of an exchange

A client is opened, and then a driver calls it while its link changes as the compositor likes. All
that becomes of the client is a life of it (`session_lives`). Of all that may be done only the check
for events takes events or lays surfaces out; everything else keeps what a client keeps while it
works (`leads_answer`), whether it succeeds or not.
-/

namespace VideoOutput

open Wire

variable {σ : Type}

namespace Exchange

/-- The client goes on from the one it was, whatever became of the link. -/
def Continues (x y : Exchange σ) : Prop := x.client.Continues y.client

end Exchange

namespace Talk

variable {α : Type} {p : Peer σ}

theorem leads_live {turns : List Client.Turn} (h : ∀ t ∈ turns, t.IsOrdinary) :
    Leads Client.Continues (Client.live turns).run := by
  induction turns with
  | nil => exact .except_pure _
  | cons t turns ih =>
    obtain ⟨ht, hturns⟩ := List.forall_mem_cons.1 h
    exact .except_bind (Client.Turn.leads_continues ht) fun _ => ih hturns

theorem Spends.leads {work : Talk σ α} (h : Spends Client.Turn.IsOrdinary work) :
    Leads Exchange.Continues work.run := by
  intro x
  obtain ⟨turns, hturns, hlive⟩ := h x
  have hcontinues := leads_live hturns x.client
  rw [hlive] at hcontinues
  exact hcontinues

theorem leads_dispatch (p : Peer σ) (patient watch : Bool) :
    Leads Exchange.Continues (dispatch p patient watch).run :=
  (spends_dispatch p patient watch).leads

theorem leads_introduce (p : Peer σ) (s : Settings) :
    Leads Exchange.Continues (introduce p s).run :=
  (spends_introduce p s).leads

/-- No call lays surfaces out or takes the window's events away but the one that checks for them. -/
theorem leads_answer (p : Peer σ) (rounds : Nat) {call : Call} (h : call ≠ .check) :
    Leads Exchange.Continues (answer p rounds call).run :=
  (spends_answer p rounds h).leads

end Talk

namespace Exchange

/-- What happens to a client that is open. -/
inductive Step (σ : Type) where
  /-- A call, and how often the compositor can answer before its deadline. -/
  | call (rounds : Nat) (call : Talk.Call)
  /-- Events come in, the compositor fails, or anything else becomes of the link. -/
  | link (change : Link σ → Link σ)

/-- A call that fails is over, with what it did until then. One that arithmetic ends is the last. -/
def step (p : Peer σ) (x : Exchange σ) : Step σ → Except ArithmeticFault (Exchange σ)
  | .call rounds call =>
    match (Talk.answer p rounds call).run.run x with
    | (.error (.fault fault), _) => .error fault
    | (_, y) => .ok y
  | .link change => .ok { x with link := change x.link }

def run (p : Peer σ) (x : Exchange σ) (steps : List (Step σ)) :
    Except ArithmeticFault (Exchange σ) :=
  steps.foldlM (step p) x

/-- What became of a call is what its work left, and no arithmetic ended it. -/
theorem step_call_ok {p : Peer σ} {x y : Exchange σ} {rounds : Nat} {call : Talk.Call}
    (h : step p x (.call rounds call) = .ok y) : ((Talk.answer p rounds call).run.run x).2 = y
      ∧ ∀ fault, ((Talk.answer p rounds call).run.run x).1 ≠ .error (.fault fault) := by
  unfold step at h
  dsimp only at h
  split at h
  · cases h
  · rename_i outcome u hsound hanswer
    cases h
    rw [hanswer]
    exact ⟨rfl, hsound⟩

theorem run_cons {p : Peer σ} {x z : Exchange σ} {s : Step σ} {steps : List (Step σ)} :
    run p x (s :: steps) = .ok z ↔ ∃ y, step p x s = .ok y ∧ run p y steps = .ok z :=
  bind_eq_ok

/-! ## Histories as lives -/

/-- A call that arithmetic does not end is a part of the client's life. -/
theorem step_lives {p : Peer σ} {x y : Exchange σ} {s : Step σ} (h : step p x s = .ok y) :
    ∃ turns, x.client.Lives turns y.client := by
  cases s with
  | link change =>
    cases h
    exact ⟨[], Client.lives_nil.2 rfl⟩
  | call rounds call =>
    obtain ⟨rfl, hsound⟩ := step_call_ok h
    obtain ⟨turns, -, hlive⟩ := Talk.spends_call p rounds call x
    refine ⟨turns, hlive.trans (Prod.ext ?_ rfl)⟩
    revert hsound
    rcases ((Talk.answer p rounds call).run.run x).1 with (fault | error) | answer
    · exact fun hsound => absurd rfl (hsound fault)
    · exact fun _ => rfl
    · exact fun _ => rfl

/-- Whatever is called and whatever comes in, the client lives on. -/
theorem run_lives {p : Peer σ} : ∀ {steps : List (Step σ)} {x y : Exchange σ},
    run p x steps = .ok y → ∃ turns, x.client.Lives turns y.client
  | [], x, y, h => by
    cases h
    exact ⟨[], Client.lives_nil.2 rfl⟩
  | s :: steps, x, z, h => by
    obtain ⟨y, hstep, hrun⟩ := run_cons.1 h
    obtain ⟨turns, hturns⟩ := step_lives hstep
    obtain ⟨rest, hrest⟩ := run_lives hrun
    exact ⟨turns ++ rest, Client.lives_append.2 ⟨y.client, hturns, hrest⟩⟩

/-- Whatever becomes of a client that has opened is a life of it. -/
theorem session_lives {p : Peer σ} {s : Settings} {c : Client} {link : Link σ}
    {x y : Exchange σ} {steps : List (Step σ)}
    (hopened : (Talk.introduce p s).run.run ⟨c, link⟩ = (.ok (), x))
    (hrun : run p x steps = .ok y) : ∃ turns, c.Lives turns y.client := by
  obtain ⟨turns, -, hlive⟩ := Talk.spends_introduce p s ⟨c, link⟩
  rw [hopened] at hlive
  obtain ⟨rest, hrest⟩ := run_lives hrun
  exact ⟨turns ++ rest, Client.lives_append.2 ⟨x.client, hlive, hrest⟩⟩

end Exchange

end VideoOutput
