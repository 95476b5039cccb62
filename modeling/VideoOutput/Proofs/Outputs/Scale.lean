import VideoOutput.Proofs.Outputs.Current

/-!
# The scale of the current output

Where the window takes its scale from outputs, it takes that of the output it settles on first, of
an output that becomes the current one because the surface entered it, and of the current one when
it is described anew (`Rescales`). An output can become the current one in two other ways, in place
of one that is withdrawn and when the client settles again, and then the window keeps the scale it
had (`Replaces`, `lives_scaling`). From every other history the window has the scale of the current
output (`scaling_of_current`).
-/

namespace VideoOutput

open Wire

namespace Window

variable {w v : Window}

theorem scaling_of_scaleState {scaling : Int} {hasOutput scaleWithOutput : Bool}
    (h : v.scaleState = (scaling, hasOutput, scaleWithOutput)) : v.scaling = scaling
      ∧ v.hasOutput = hasOutput ∧ v.options.scaleWithOutput = scaleWithOutput := by
  simpa only [scaleState, Prod.mk.injEq] using h

theorem targetScaling_eq (h : w.options.scaleWithOutput = true) (outputScale : Int) :
    w.targetScaling outputScale = max outputScale 1 :=
  if_pos h

end Window

namespace Outputs

variable {o o' : Outputs} {w v : Window} {output x : Object}

theorem currentInfo?_congr (hcurrent : o'.current = o.current)
    (hinfo : ∀ x, o.current = some x → o'.info? x = o.info? x) :
    o'.currentInfo? = o.currentInfo? := by
  rw [currentInfo?, currentInfo?, hcurrent]
  rcases hx : o.current with _ | x
  · rfl
  · exact hinfo x hx

theorem info?_of_not_live (h : x ∉ o.live) : o.info? x = none := by
  have hnone : o.tracked.find? (·.object = x) = none := by
    refine List.find?_eq_none.2 fun t ht => ?_
    rw [decide_eq_true_iff]
    rintro rfl
    exact h (List.mem_map_of_mem ht)
  rw [info?, hnone, Option.bind_none]

theorem done_keeps (h : o.done w output = .ok (o', v)) (hcurrent : o.current ≠ some output) :
    o'.currentInfo? = o.currentInfo? ∧ v.scaleState = w.scaleState := by
  rcases done_ok h with ⟨-, rfl, rfl⟩ | ⟨known, -, hothers, -, -, hsame, ⟨hold, -⟩ | ⟨-, hscaled⟩⟩
  · exact ⟨rfl, rfl⟩
  · exact absurd hold hcurrent
  · refine ⟨currentInfo?_congr hsame fun x hx => hothers x ?_, hscaled⟩
    rintro rfl
    exact hcurrent hx

/-! ## The scale that is taken -/

section Taken

variable {info : OutputInfo} (hscale : w.options.scaleWithOutput = true)
include hscale

theorem enter_agrees (h : o.enter w output = .ok (o', v)) (hinfo : o'.currentInfo? = some info) :
    v.scaling = max info.scale 1 := by
  obtain ⟨htracked, -, ⟨-, hnone, -⟩ | ⟨-, hcurrent, hknown⟩⟩ := enter_ok h
  · rw [currentInfo?, hnone] at hinfo
    cases hinfo
  · rw [currentInfo?, hcurrent, Option.bind_some, info?, htracked] at hinfo
    rcases hknown with ⟨hunknown, -⟩ | ⟨known, hknown, hscaled⟩
    · cases hunknown.symm.trans hinfo
    · cases hknown.symm.trans hinfo
      rw [(Window.scaling_of_scaleState hscaled).1, Window.targetScaling_eq hscale]

theorem done_agrees (h : o.done w output = .ok (o', v)) (hcurrent : o.current = some output)
    (hinfo : o'.currentInfo? = some info) : v.scaling = max info.scale 1 := by
  rcases done_ok h with ⟨hlive, rfl, rfl⟩ |
    ⟨known, hknown, -, -, -, hsame, ⟨-, hscaled⟩ | ⟨hother, -⟩⟩
  · rw [currentInfo?, hcurrent, Option.bind_some, info?_of_not_live hlive] at hinfo
    cases hinfo
  · rw [currentInfo?, hsame, hcurrent, Option.bind_some, hknown] at hinfo
    cases hinfo
    rw [(Window.scaling_of_scaleState hscaled).1, Window.targetScaling_eq hscale]
  · exact absurd hcurrent hother

theorem attachOutput_agrees (hfirst : w.hasOutput = false) (hinfo : o.info? output = some info) :
    (w.attachOutput (o.scaleOf output)).scaling = max info.scale 1 := by
  have hscaled := Window.attachOutput_scale hfirst (o.scaleOf output)
  rw [(Window.scaling_of_scaleState hscaled).1, Window.targetScaling_eq hscale, scaleOf, hinfo]
  rfl

end Taken

end Outputs

namespace Client

variable {c d : Client} {t : Turn} {turns : List Turn}

/-- The surface enters an output that becomes the current one, or the current one is described
anew. -/
def Rescales (c : Client) (t : Turn) : Prop :=
  ∃ output, t.news? c = some (.entered output) ∧ c.outputs.current ≠ none
    ∨ t.news? c = some (.done output) ∧ c.outputs.current = some output

/-- An output becomes the current one without a word to the window: it takes the place of one that
is withdrawn, or the window has had an output before. -/
def Replaces (c : Client) (t : Turn) : Prop :=
  ∃ output, t.news? c = some (.withdrawn output) ∧ c.outputs.current = some output
      ∧ (∃ x ∈ c.outputs.entered, x ≠ output)
    ∨ t.news? c = some (.settled output) ∧ c.window.hasOutput = true

/-- The scaling is that of the current output, as far as it is known. -/
def Agrees (c : Client) : Prop :=
  ∀ info, c.outputs.currentInfo? = some info → c.window.scaling = max info.scale 1

section Step

variable (h : c.Takes t d)
include h

/-- Outputs scale the window as they did, and if it had an output it has had one. -/
theorem Takes.scale_settings :
    d.window.options.scaleWithOutput = c.window.options.scaleWithOutput
      ∧ (d.window.hasOutput = c.window.hasOutput ∨ d.window.hasOutput = true) := by
  have hchange := h.change
  generalize t.news? c = news at hchange
  have hkept (hscale : d.window.scaleState = c.window.scaleState) :
      d.window.options.scaleWithOutput = c.window.options.scaleWithOutput
        ∧ (d.window.hasOutput = c.window.hasOutput ∨ d.window.hasOutput = true) :=
    ⟨(Window.scaleState_eq.1 hscale).2.2, .inl (Window.scaleState_eq.1 hscale).2.1⟩
  have hscaled {info : OutputInfo} (hscale : d.window.scaleState
      = (c.window.targetScaling info.scale, c.window.hasOutput,
        c.window.options.scaleWithOutput)) :
      d.window.options.scaleWithOutput = c.window.options.scaleWithOutput
        ∧ (d.window.hasOutput = c.window.hasOutput ∨ d.window.hasOutput = true) :=
    ⟨(Window.scaling_of_scaleState hscale).2.2, .inl (Window.scaling_of_scaleState hscale).2.1⟩
  cases hchange with
  | entered output enter =>
    obtain ⟨-, -, ⟨-, -, hscale⟩ | ⟨-, -, ⟨-, hscale⟩ | ⟨info, -, hscale⟩⟩⟩ :=
      Outputs.enter_ok enter
    · exact hkept hscale
    · exact hkept hscale
    · exact hscaled hscale
  | done output done =>
    rcases Outputs.done_ok done with ⟨-, -, hwindow⟩ |
      ⟨info, -, -, -, -, -, ⟨-, hscale⟩ | ⟨-, hscale⟩⟩
    · exact hkept (congrArg Window.scaleState hwindow)
    · exact hscaled hscale
    · exact hkept hscale
  | settled output first live outputs window =>
    rw [window]
    rcases hattached : c.window.hasOutput with _ | _
    · have hscale := Window.attachOutput_scale hattached (c.outputs.scaleOf output)
      exact ⟨(Window.scaling_of_scaleState hscale).2.2,
        .inr (Window.scaling_of_scaleState hscale).2.1⟩
    · rw [Window.attachOutput_of_hasOutput hattached]
      exact ⟨rfl, .inr hattached⟩
  | none outputs scale | offered output fresh made outputs scale | withdrawn output outputs scale
  | left output outputs scale | described output change outputs scale => exact hkept scale

theorem Takes.hasOutput (hattached : c.window.hasOutput = true) : d.window.hasOutput = true := by
  rcases h.scale_settings.2 with hsame | htrue
  · rw [hsame, hattached]
  · exact htrue

/-- A window whose client has a current output has had an output. -/
theorem Takes.attached (hc : c.outputs.current ≠ none → c.window.hasOutput = true)
    (hd : d.outputs.current ≠ none) : d.window.hasOutput = true := by
  rcases h.current_ne_none.1 hd with ⟨output, hnews⟩ | ⟨hcurrent, -⟩
  · have hchange := h.change
    rw [hnews] at hchange
    cases hchange with
    | settled output first live outputs window =>
      rw [window]
      rcases hattached : c.window.hasOutput with _ | _
      · exact (Window.scaling_of_scaleState (Window.attachOutput_scale hattached _)).2.1
      · rw [Window.attachOutput_of_hasOutput hattached, hattached]
  · exact h.hasOutput (hc hcurrent)

/-- Once the window has had an output, only a turn that rescales it changes its scale. -/
theorem Takes.scaling (hattached : c.window.hasOutput = true) (hkeeps : ¬ Rescales c t) :
    d.window.scaling = c.window.scaling := by
  have hchange := h.change
  unfold Rescales at hkeeps
  generalize t.news? c = news at hchange hkeeps
  cases hchange with
  | entered output enter =>
    obtain ⟨-, -, ⟨-, -, hscale⟩ | ⟨hsome, -⟩⟩ := Outputs.enter_ok enter
    · exact (Window.scaleState_eq.1 hscale).1
    · exact absurd ⟨output, .inl ⟨rfl, hsome⟩⟩ hkeeps
  | done output done =>
    have hcurrent : c.outputs.current ≠ some output := fun hcurrent =>
      hkeeps ⟨output, .inr ⟨rfl, hcurrent⟩⟩
    exact (Window.scaleState_eq.1 (Outputs.done_keeps done hcurrent).2).1
  | settled output first live outputs window =>
    rw [window, Window.attachOutput_of_hasOutput hattached]
  | none outputs scale | offered output fresh made outputs scale | withdrawn output outputs scale
  | left output outputs scale | described output change outputs scale =>
    exact (Window.scaleState_eq.1 scale).1

theorem Takes.agrees (hmade : c.OutputsMade) (hscale : c.window.options.scaleWithOutput = true)
    (hreplaces : ¬ Replaces c t) (hc : Agrees c ∨ Rescales c t) : Agrees d := by
  have hchange := h.change
  unfold Rescales at hc
  unfold Replaces at hreplaces
  generalize t.news? c = news at hchange hc hreplaces
  -- where the window and what is known of the current output stay as they are
  have hkept (hinfo : d.outputs.currentInfo? = c.outputs.currentInfo?)
      (hscale : d.window.scaleState = c.window.scaleState) (hagrees : Agrees c) : Agrees d := by
    intro info hd
    rw [(Window.scaleState_eq.1 hscale).1, hagrees info (hinfo ▸ hd)]
  -- only an output that is entered, done or settled on brings a scale of its own
  cases hchange with
  | none outputs scale =>
    exact hkept (by rw [outputs]) scale (hc.resolve_right (by simp))
  | offered output fresh made outputs scale =>
    refine hkept ?_ scale (hc.resolve_right (by simp))
    rw [outputs]
    refine Outputs.currentInfo?_congr rfl fun x hx => Outputs.info?_track ?_
    rintro rfl
    exact fresh (hmade.current _ hx)
  | withdrawn output outputs scale =>
    by_cases hcurrent : c.outputs.current = some output
    · have hlost : d.outputs.current = none := by
        rw [outputs]
        have hothers : ∀ x ∈ c.outputs.entered, x = output := by
          by_contra! hother
          exact hreplaces ⟨output, .inl ⟨rfl, hcurrent, hother⟩⟩
        simpa [Outputs.remove, hcurrent] using hothers
      intro info hd
      rw [Outputs.currentInfo?, hlost] at hd
      cases hd
    · refine hkept ?_ scale (hc.resolve_right (by simp))
      rw [outputs]
      refine Outputs.currentInfo?_congr (if_neg hcurrent) fun x hx => Outputs.info?_remove ?_
      rintro rfl
      exact hcurrent hx
  | entered output enter => exact fun info => Outputs.enter_agrees hscale enter
  | left output outputs scale =>
    refine hkept ?_ scale (hc.resolve_right (by simp))
    rw [outputs]
    rfl
  | described output change outputs scale =>
    refine hkept ?_ scale (hc.resolve_right (by simp))
    rw [outputs]
    exact Outputs.currentInfo?_congr rfl fun x _ => Outputs.info?_describe change
  | done output done =>
    by_cases hcurrent : c.outputs.current = some output
    · exact fun info => Outputs.done_agrees hscale done hcurrent
    · obtain ⟨hinfo, hscaled⟩ := Outputs.done_keeps done hcurrent
      exact hkept hinfo hscaled (hc.resolve_right (by simpa using hcurrent))
  | settled output first live outputs window =>
    have hfirst : c.window.hasOutput = false := by
      by_contra hattached
      exact hreplaces ⟨output, .inr ⟨rfl, by simpa using hattached⟩⟩
    intro info hd
    rw [outputs] at hd
    rw [window]
    exact Outputs.attachOutput_agrees hscale hfirst hd

end Step

/-- Once the window has had an output, it keeps its scale until something rescales it. -/
theorem lives_scaling (hattached : c.window.hasOutput = true) (h : c.Lives turns d)
    (hkeeps : Throughout (fun b t => ¬ Rescales b t) c turns) :
    d.window.scaling = c.window.scaling := by
  have hboth : d.window.hasOutput = true ∧ d.window.scaling = c.window.scaling := by
    refine Lives.induction (motive := fun turns d => Throughout (fun b t => ¬ Rescales b t) c turns
      → d.window.hasOutput = true ∧ d.window.scaling = c.window.scaling) ?_ ?_ h hkeeps
    · exact fun _ => ⟨hattached, rfl⟩
    · intro turns t d e hlives ht ih hkeeps
      obtain ⟨hbefore, hlast⟩ := (throughout_concat hlives).1 hkeeps
      obtain ⟨hd, hscaling⟩ := ih hbefore
      exact ⟨ht.hasOutput hd, (ht.scaling hd hlast).trans hscaling⟩
  exact hboth.2

/-- What holds of the scale all through a life in which the surface enters only outputs that the
client made. -/
structure Scaled (c : Client) (turns : List Turn) (d : Client) : Prop where
  made : d.OutputsMade
  attached : d.outputs.current ≠ none → d.window.hasOutput = true
  agrees : d.window.options.scaleWithOutput = true → ¬ Since Replaces Rescales c turns → d.Agrees

theorem Scaled.concat {e : Client} (h : Scaled c turns d) (hlives : c.Lives turns d)
    (ht : d.Takes t e) (hmade : EntersMade d t) : Scaled c (turns ++ [t]) e where
  made := h.made.takes ht hmade
  attached := ht.attached h.attached
  agrees := by
    intro hscale hkept
    rw [ht.scale_settings.1] at hscale
    rw [since_concat hlives ht, not_or, not_and_or, not_not] at hkept
    exact ht.agrees h.made hscale hkept.1 (hkept.2.imp_left (h.agrees hscale))

theorem Lives.scaled {globals : List Global} {s : Settings} (hnew : Client.new globals s = .ok c)
    (h : c.Lives turns d) (hmade : Throughout EntersMade c turns) : Scaled c turns d := by
  refine Lives.induction
    (motive := fun turns d => Throughout EntersMade c turns → Scaled c turns d) ?_ ?_ h hmade
  · obtain ⟨-, hmade, -, -, hcurrent⟩ := new_outputs hnew
    refine fun _ => ⟨hmade, fun hsome => absurd hcurrent hsome, fun _ _ info hinfo => ?_⟩
    rw [Outputs.currentInfo?, hcurrent] at hinfo
    cases hinfo
  · intro turns t d e hlives ht ih hmade
    obtain ⟨hbefore, hlast⟩ := (throughout_concat hlives).1 hmade
    exact (ih hbefore).concat hlives ht hlast

theorem not_rescales_of_replaces (h : Replaces c t) : ¬ Rescales c t := by
  obtain ⟨output, ⟨hnews, -⟩ | ⟨hnews, -⟩⟩ := h
  all_goals
    rintro ⟨x, ⟨hx, -⟩ | ⟨hx, -⟩⟩
    all_goals cases hnews.symm.trans hx

/-- Where outputs scale the window, it has the scale of the current output as soon as that is known,
unless that became the current one in place of another without the surface entering it, and since
then the surface entered none and the current one was not described anew. In that case the window
has the scale it had when that output became the current one. -/
theorem scaling_of_current {globals : List Global} {s : Settings} {info : OutputInfo}
    (hnew : Client.new globals s = .ok c) (hlives : c.Lives turns d)
    (hmade : Throughout EntersMade c turns) (hscale : d.window.options.scaleWithOutput = true)
    (hinfo : d.outputs.currentInfo? = some info) :
    (¬ Since Replaces Rescales c turns → d.window.scaling = max 1 info.scale)
      ∧ (Since Replaces Rescales c turns → ∃ before t after b, turns = before ++ t :: after
        ∧ c.Lives before b ∧ Replaces b t ∧ d.window.scaling = b.window.scaling) := by
  constructor
  · intro hkept
    rw [(hlives.scaled hnew hmade).agrees hscale hkept info hinfo, max_comm]
  · rintro ⟨before, t, after, b, a, rfl, hb, ha, hreplaces, hnone⟩
    have hattached : b.window.hasOutput = true := by
      obtain ⟨output, ⟨-, hcurrent, -⟩ | ⟨-, hattached⟩⟩ := hreplaces
      · have hsome : b.outputs.current ≠ none := hcurrent ▸ Option.some_ne_none output
        exact (hb.scaled hnew hmade.left).attached hsome
      · exact hattached
    obtain ⟨b', hb', hrest⟩ := lives_append.1 hlives
    obtain rfl := hb.unique hb'
    obtain ⟨a', ha', hd⟩ := lives_cons.1 hrest
    obtain rfl := ha.unique ha'
    have hscaling := ha.scaling hattached (not_rescales_of_replaces hreplaces)
    exact ⟨before, t, after, b, rfl, hb, hreplaces,
      (lives_scaling (ha.hasOutput hattached) hd hnone).trans hscaling⟩

end Client

namespace Exchange

open Client

/-- The compositor offers two outputs, of which the second can tell its scale. -/
def scaledOutputs : List Global := silentGlobals ++ [⟨7, .output, 4⟩]

/-- The second output has a scale of two, and the client settles on the first. -/
def settlingTurns : List Turn :=
  [.react ⟨⟨.output, 2⟩, .outputScale 2⟩, .react ⟨⟨.output, 2⟩, .outputDone⟩, .settle]

theorem entersMade_entering {c : Client} {output : Object} (h : c.log.HasMade output) :
    EntersMade c (.react ⟨c.surface, .entered output⟩) := by
  rintro x ⟨⟩
  exact h

theorem rescales_entering {c : Client} (output : Object) (h : c.outputs.current ≠ none) :
    Rescales c (.react ⟨c.surface, .entered output⟩) :=
  ⟨output, .inl ⟨enters_iff.1 rfl, h⟩⟩

/-- The surface enters an output of twice the scale. -/
theorem scaling_of_current_doubled : ∃ c, Client.new scaledOutputs {} = .ok c
    ∧ ((live settlingTurns).run.run c).1 = .ok ()
    ∧ (entering ((live settlingTurns).run.run c).2 ⟨.output, 2⟩).1 = .ok ()
    ∧ (entering ((live settlingTurns).run.run c).2 ⟨.output, 2⟩).2.window.scaling = 2 := by
  obtain ⟨c, hnew, hsettled, hsome, hmade, hentered, hscale, hinfo⟩ :
      ∃ c, Client.new scaledOutputs {} = .ok c ∧ ((live settlingTurns).run.run c).1 = .ok ()
      ∧ ((live settlingTurns).run.run c).2.outputs.current ≠ none
      ∧ ((live settlingTurns).run.run c).2.log.HasMade ⟨.output, 2⟩
      ∧ (entering ((live settlingTurns).run.run c).2 ⟨.output, 2⟩).1 = .ok ()
      ∧ (entering ((live settlingTurns).run.run c).2
        ⟨.output, 2⟩).2.window.options.scaleWithOutput = true
      ∧ (entering ((live settlingTurns).run.run c).2 ⟨.output, 2⟩).2.outputs.currentInfo?
        = some { scale := 2 } := by
    decide +kernel
  have hbefore : c.Lives settlingTurns _ := Prod.ext hsettled rfl
  have hlives := lives_concat.2 ⟨_, hbefore, takes_entering hentered⟩
  have hthroughout := (throughout_concat hbefore).2
    ⟨throughout_of_mem (P := EntersMade) (by simp [settlingTurns, EntersMade, Enters]),
      entersMade_entering hmade⟩
  have hrescales := rescales_entering ⟨.output, 2⟩ hsome
  have hkept := (since_concat hbefore (takes_entering hentered)).not.2 (not_or.2
    ⟨fun hreplaces => not_rescales_of_replaces hreplaces hrescales, fun h => h.2 hrescales⟩)
  exact ⟨c, hnew, hsettled, hentered,
    (scaling_of_current hnew hlives hthroughout hscale hinfo).1 hkept⟩

/-- The second output has a scale of two, the client settles on the first, and the surface comes to
lie on both. -/
def spreadSteps : List (Step Unit) :=
  [.link (·.deliver [⟨⟨.output, 2⟩, .outputScale 2⟩, ⟨⟨.output, 2⟩, .outputDone⟩]),
    .call 0 .check, .call 0 (.reconfig 640 360),
    .link (·.deliver [⟨⟨.surface, 1⟩, .entered ⟨.output, 1⟩⟩,
      ⟨⟨.surface, 1⟩, .entered ⟨.output, 2⟩⟩]),
    .call 0 .check]

/-- The second output is withdrawn. -/
def unplugSteps : List (Step Unit) :=
  [.link (·.deliver [⟨.registry, .withdrawn 7⟩]), .call 0 .check]

/-- The output of twice the scale is the current one; it is withdrawn and the other, which the
surface is still on, takes its place, but the window keeps the scale of two. -/
theorem exists_scale_kept : ∃ c, Client.new scaledOutputs {} = .ok c ∧ (opened c).1 = .ok ()
    ∧ ∃ y, run silent (opened c).2 spreadSteps = .ok y
    ∧ y.client.outputs.current = some ⟨.output, 2⟩ ∧ y.client.window.scaling = 2
    ∧ ∃ z, run silent y unplugSteps = .ok z ∧ z.client.window.options.scaleWithOutput = true
      ∧ z.client.outputs.current = some ⟨.output, 1⟩
      ∧ z.client.outputs.currentInfo?.map OutputInfo.scale = some 1
      ∧ z.client.window.scaling = 2 := by
  decide +kernel

end Exchange

end VideoOutput
