import VideoOutput.Proofs.Exchange.Freshness
import VideoOutput.Proofs.Outputs.Changes

/-!
# The current output

A client has no current output until it settles on one, and a reconfiguration that succeeds leaves
it with one (`reconfig_current`). It loses the current output when that is withdrawn while the
surface is on no other, and then it has none until it settles again (`current_iff`). As long as it
has one, an output that the surface enters becomes the current one; while it has none, no output
does (`entered_current_iff`).
-/

namespace VideoOutput

open Wire

namespace Client

variable {c d e : Client} {t : Turn} {turns : List Turn}

/-- The client settles on an output, where it had none. -/
def Settles (c : Client) (t : Turn) : Prop := ∃ output, t.news? c = some (.settled output)

/-- The current output is withdrawn, and the surface is on no other. -/
def LosesCurrent (c : Client) (t : Turn) : Prop :=
  ∃ output, t.news? c = some (.withdrawn output) ∧ c.outputs.current = some output
    ∧ ∀ x ∈ c.outputs.entered, x = output

theorem Takes.current_ne_none (h : c.Takes t d) : d.outputs.current ≠ none
    ↔ Settles c t ∨ (c.outputs.current ≠ none ∧ ¬ LosesCurrent c t) := by
  have hchange := h.change
  unfold Settles LosesCurrent
  generalize t.news? c = news at hchange
  cases hchange with
  | none outputs => simp [outputs]
  | offered output fresh made outputs => simp [outputs, Outputs.track]
  | withdrawn output outputs =>
    rw [outputs]
    by_cases hcurrent : c.outputs.current = some output
    -- the output that was entered first among the others takes its place, if there is one
    · simp [Outputs.remove, hcurrent]
    · simp [Outputs.remove, hcurrent]
  | entered output enter =>
    obtain ⟨-, -, ⟨hnone, hnone', -⟩ | ⟨hsome, hsome', -⟩⟩ := Outputs.enter_ok enter
    · simp [hnone, hnone']
    · simp [hsome, hsome']
  | left output outputs => simp [outputs, Outputs.leave]
  | described output change outputs => simp [outputs, Outputs.describe]
  | done output done =>
    rcases Outputs.done_ok done with ⟨-, houtputs, -⟩ | ⟨info, -, -, -, -, hcurrent, -⟩
    · simp [houtputs]
    · simp [hcurrent]
  | settled output first live outputs => simp [outputs]

theorem not_settles_of_loses (h : LosesCurrent c t) : ¬ Settles c t := by
  obtain ⟨output, hnews, -⟩ := h
  rintro ⟨settled, hsettled⟩
  cases hnews.symm.trans hsettled

/-- A client with a current output has one later unless it lost it and has not settled since. -/
theorem current_iff (hcurrent : c.outputs.current ≠ none) (h : c.Lives turns d) :
    d.outputs.current ≠ none ↔ ¬ Since LosesCurrent Settles c turns := by
  refine Lives.induction
    (motive := fun turns d => d.outputs.current ≠ none ↔ ¬ Since LosesCurrent Settles c turns)
    ?_ ?_ h
  · exact iff_of_true hcurrent not_since_nil
  · intro turns t d e hlives ht ih
    rw [ht.current_ne_none, since_concat hlives ht, ih]
    have hapart := not_settles_of_loses (c := d) (t := t)
    tauto

theorem enter_takes {output : Object} (h : d.Takes (.react ⟨d.surface, .entered output⟩) e) :
    d.outputs.enter d.window output = .ok (e.outputs, e.window) := by
  have hchange := h.change
  rw [Turn.news?, if_pos rfl] at hchange
  cases hchange with
  | entered output enter => exact enter

theorem lives_outputs (h : c.Lives turns d) (hturns : ∀ t ∈ turns, ¬ t.IsOfOutputs) :
    d.outputs = c.outputs := by
  induction turns generalizing c with
  | nil => rw [lives_nil.1 h]
  | cons t turns ih =>
    obtain ⟨b, ht, hrest⟩ := lives_cons.1 h
    obtain ⟨hfirst, hturns⟩ := List.forall_mem_cons.1 hturns
    exact (ih hrest hturns).trans (ht.keeps hfirst).outputs

end Client

namespace Talk

variable {σ : Type} {p : Peer σ} {x y : Exchange σ}

theorem adoptOutput_current (h : adoptOutput.run.run x = (.ok (), y)) :
    y.client.outputs.current ≠ none := by
  rw [adoptOutput, client_bind_run] at h
  rcases hcurrent : x.client.outputs.current with _ | current
  · rw [hcurrent, if_pos Option.isNone_none] at h
    rcases hscreen : x.client.screen? with _ | output
    · rw [hscreen] at h
      cases h
    · rw [hscreen] at h
      cases h
      exact Option.some_ne_none output
  · rw [hcurrent, if_neg (by simp)] at h
    cases h
    rw [hcurrent]
    exact Option.some_ne_none current

/-- A reconfiguration that succeeds leaves a current output. -/
theorem reconfig_current {width height : Int}
    (h : (reconfig p width height).run.run x = (.ok (), y)) : y.client.outputs.current ≠ none := by
  have hconfigured : Answers (fun (_ : Unit) (y : Exchange σ) => y.client.outputs.current ≠ none)
      (do
        modifyClient Client.fillSolid
        adoptOutput
        act (Act.window (·.reconfig width height))
        modifyClient fun c => c.flushShellRequests.ask c.surface .commit []
        flush p .connection : Talk σ Unit) := by
    refine .bind fun _ u a z hrun => ?_
    rcases run_bind_cases adoptOutput _ u with ⟨⟨⟩, v, hadopt, hall⟩ | ⟨stop, v, -, hall⟩
    · rw [hall] at hrun
      obtain ⟨turns, hturns, hlive⟩ := spends_configure p width height v
      rw [hrun] at hlive
      rw [Client.lives_outputs hlive fun t ht => (hturns t ht).2]
      exact adoptOutput_current hadopt
    · cases hall.symm.trans hrun
  have hanswers : Answers (fun (_ : Unit) (y : Exchange σ) => y.client.outputs.current ≠ none)
      (reconfig p width height) := by
    refine .bind fun c => ?_
    split_ifs
    · exact .bind fun _ => hconfigured
    · exact hconfigured
  exact hanswers x () y h

end Talk

namespace Exchange

open Client

variable {σ : Type} {p : Peer σ} {x y : Exchange σ}

/-- After a reconfiguration that succeeded an output that the surface enters becomes the current
one, unless the current output was lost since and the client has not settled on one again. -/
theorem entered_current_iff {width height : Int} {d e : Client} {turns : List Turn}
    {output : Object} (hreconfig : (Talk.reconfig p width height).run.run x = (.ok (), y))
    (hlives : y.client.Lives turns d)
    (henter : d.Takes (.react ⟨d.surface, .entered output⟩) e) :
    e.outputs.current = some output ↔ ¬ Since LosesCurrent Settles y.client turns := by
  rw [← current_iff (Talk.reconfig_current hreconfig) hlives]
  obtain ⟨-, -, ⟨hnone, hnone', -⟩ | ⟨hsome, hsome', -⟩⟩ := Outputs.enter_ok (enter_takes henter)
  · simp [hnone, hnone']
  · simp [hsome, hsome']

/-- The compositor offers two outputs. -/
def twoOutputs : List Global := silentGlobals ++ [⟨7, .output, 1⟩]

/-- A video is configured on the first output. -/
def configured (c : Client) : Except Stop Unit × Exchange Unit :=
  (Talk.reconfig silent 640 360).run.run (opened c).2

/-- The surface enters an output. -/
def entering (c : Client) (output : Object) : Except ArithmeticFault Unit × Client :=
  (react ⟨c.surface, .entered output⟩).run.run c

theorem configured_eq {c : Client} (h : (configured c).1 = .ok ()) :
    (Talk.reconfig silent 640 360).run.run (opened c).2 = (.ok (), (configured c).2) :=
  Prod.ext h rfl

theorem takes_entering {c : Client} {output : Object} (h : (entering c output).1 = .ok ()) :
    c.Takes (.react ⟨c.surface, .entered output⟩) (entering c output).2 :=
  Prod.ext h rfl

/-- The surface goes from the first output to the second. -/
theorem entered_current_moved : ∃ c, Client.new twoOutputs {} = .ok c ∧ (configured c).1 = .ok ()
    ∧ (entering (configured c).2.client ⟨.output, 1⟩).1 = .ok ()
    ∧ (entering (entering (configured c).2.client ⟨.output, 1⟩).2 ⟨.output, 2⟩).1 = .ok ()
    ∧ (entering (entering (configured c).2.client ⟨.output, 1⟩).2 ⟨.output, 2⟩).2.outputs.current
      = some ⟨.output, 2⟩ := by
  obtain ⟨c, hnew, hconfigured, hfirst, hsome, hsecond⟩ :
      ∃ c, Client.new twoOutputs {} = .ok c ∧ (configured c).1 = .ok ()
      ∧ (entering (configured c).2.client ⟨.output, 1⟩).1 = .ok ()
      ∧ (entering (configured c).2.client ⟨.output, 1⟩).2.outputs.current ≠ none
      ∧ (entering (entering (configured c).2.client ⟨.output, 1⟩).2 ⟨.output, 2⟩).1 = .ok () := by
    decide +kernel
  have hlives := lives_singleton.2 (takes_entering hfirst)
  have hreconfig := configured_eq hconfigured
  have hkept := (current_iff (Talk.reconfig_current hreconfig) hlives).1 hsome
  exact ⟨c, hnew, hconfigured, hfirst, hsecond,
    (entered_current_iff hreconfig hlives (takes_entering hsecond)).2 hkept⟩

/-- The first output is withdrawn and the surface enters the second. -/
def replugSteps : List (Step Unit) :=
  [.link (·.deliver [⟨.registry, .withdrawn 6⟩, ⟨⟨.surface, 1⟩, .entered ⟨.output, 2⟩⟩]),
    .call 0 .check]

/-- The output that the client settled on is withdrawn before the surface was on any; the surface
enters the other one, which is offered still, and that does not become the current one. -/
theorem exists_enter_ignored : ∃ c, Client.new twoOutputs {} = .ok c ∧ (opened c).1 = .ok ()
    ∧ (configured c).1 = .ok () ∧ ∃ y, run silent (configured c).2 replugSteps = .ok y
    ∧ y.client.outputs.live = [⟨.output, 2⟩] ∧ y.client.outputs.entered = [⟨.output, 2⟩]
    ∧ y.client.outputs.current = none := by
  decide +kernel

end Exchange

end VideoOutput
