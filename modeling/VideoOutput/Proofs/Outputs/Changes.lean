import VideoOutput.Proofs.Client.Turns
import VideoOutput.Proofs.Outputs.Operations

/-!
# What becomes of the outputs

Each turn of a client has some news of its outputs, or none (`Turn.news?`). From the news one can
tell what becomes of the outputs, and of the scale of the window (`Takes.change`): what an event
means to them depends on the surface it is about, on the globals that there are, and on whether
there is a current output. The outputs that are live are those that were offered and have not been
withdrawn since (`Lives.mem_live`).
-/

namespace VideoOutput

open Wire

/-- What a turn tells of the outputs. -/
inductive OutputNews where
  | offered (output : Object)
  | withdrawn (output : Object)
  | entered (output : Object)
  | left (output : Object)
  | described (output : Object)
  | done (output : Object)
  | settled (output : Object)

namespace Outputs

/-- The outputs that are offered after the news. -/
def liveAfter (o : Outputs) : Option OutputNews → List Object
  | some (.offered output) => o.live ++ [output]
  | some (.withdrawn output) => o.live.filter (· ≠ output)
  | _ => o.live

/-- The outputs that the surface is on after the news. -/
def enteredAfter (o : Outputs) : Option OutputNews → List Object
  | some (.entered output) => if output ∈ o.entered then o.entered else o.entered ++ [output]
  | some (.left output) | some (.withdrawn output) => o.entered.filter (· ≠ output)
  | _ => o.entered

/-- The current output after the news. -/
def currentAfter (o : Outputs) : Option OutputNews → Option Object
  | some (.withdrawn output) =>
    if o.current = some output then (o.entered.filter (· ≠ output)).head? else o.current
  | some (.entered output) => if o.current = none then none else some output
  | some (.settled output) => some output
  | _ => o.current

variable {o : Outputs} {news : Option OutputNews} {x : Object}

theorem mem_liveAfter : x ∈ o.liveAfter news
    ↔ news = some (.offered x) ∨ x ∈ o.live ∧ news ≠ some (.withdrawn x) := by
  rcases news with _ | ⟨y⟩ | ⟨y⟩ | _
  case some.offered => simp [liveAfter, or_comm, @eq_comm _ y x]
  case some.withdrawn => simp [liveAfter, @eq_comm _ y x]
  all_goals simp [liveAfter]

theorem mem_enteredAfter (h : x ∈ o.enteredAfter news) :
    x ∈ o.entered ∨ news = some (.entered x) := by
  unfold enteredAfter at h
  split at h
  · split_ifs at h
    · exact .inl h
    · exact (List.mem_append.1 h).imp_right fun hx => by rw [List.mem_singleton.1 hx]
  · exact .inl (List.mem_of_mem_filter h)
  · exact .inl (List.mem_of_mem_filter h)
  · exact .inl h

theorem currentAfter_eq_some (h : o.currentAfter news = some x) :
    o.current = some x ∨ x ∈ o.entered ∨ news = some (.entered x) ∨ news = some (.settled x) := by
  unfold currentAfter at h
  split at h
  · split_ifs at h
    · exact .inr (.inl (List.mem_of_mem_filter (List.mem_of_head? h)))
    · exact .inl h
  · split_ifs at h
    cases h
    exact .inr (.inr (.inl rfl))
  · cases h
    exact .inr (.inr (.inr rfl))
  · exact .inl h

end Outputs

namespace Client

variable {c d : Client} {t : Turn}

/-- The news of outputs that a turn has for the client. -/
def Turn.news? (c : Client) : Turn → Option OutputNews
  | .react ⟨target, event⟩ =>
    match event with
    | .announced global =>
      if global.interface = .output then some (.offered (c.log.fresh .output)) else none
    | .withdrawn global =>
      (c.outputs.tracked.find? (·.global = global)).map fun t => .withdrawn t.object
    | .entered output => if target = c.surface then some (.entered output) else none
    | .left output => if target = c.surface then some (.left output) else none
    | .outputGeometry _ _ _ _ | .outputMode _ | .outputScale _ | .outputName _ =>
      some (.described target)
    | .outputDone => some (.done target)
    | _ => none
  | .settle => if c.outputs.current = none then c.screen?.map .settled else none
  | _ => none

/-- What becomes of the outputs and of the scale of the window when there is news. -/
inductive OutputsChange (c d : Client) : Option OutputNews → Prop where
  | none (outputs : d.outputs = c.outputs) (scale : d.window.scaleState = c.window.scaleState) :
    OutputsChange c d none
  | offered (output : TrackedOutput) (fresh : ¬ c.log.HasMade output.object)
    (made : d.log.HasMade output.object) (outputs : d.outputs = c.outputs.track output)
    (scale : d.window.scaleState = c.window.scaleState) :
    OutputsChange c d (some (.offered output.object))
  | withdrawn (output : Object) (outputs : d.outputs = (c.outputs.remove c.window output).1)
    (scale : d.window.scaleState = c.window.scaleState) :
    OutputsChange c d (some (.withdrawn output))
  | entered (output : Object)
    (enter : c.outputs.enter c.window output = .ok (d.outputs, d.window)) :
    OutputsChange c d (some (.entered output))
  | left (output : Object) (outputs : d.outputs = (c.outputs.leave c.window output).1)
    (scale : d.window.scaleState = c.window.scaleState) : OutputsChange c d (some (.left output))
  | described (output : Object) (change : OutputDescription → OutputDescription)
    (outputs : d.outputs = c.outputs.describe output change)
    (scale : d.window.scaleState = c.window.scaleState) :
    OutputsChange c d (some (.described output))
  | done (output : Object)
    (done : c.outputs.done c.window output = .ok (d.outputs, d.window)) :
    OutputsChange c d (some (.done output))
  | settled (output : Object) (first : c.outputs.current = .none)
    (live : output ∈ c.outputs.live)
    (outputs : d.outputs = { c.outputs with current := some output })
    (window : d.window = c.window.attachOutput (c.outputs.scaleOf output)) :
    OutputsChange c d (some (.settled output))

theorem onOutputs_ok {change : Outputs → Window → Except ArithmeticFault (Outputs × Window)}
    (h : (onOutputs change).run.run c = (.ok (), d)) :
    change c.outputs c.window = .ok (d.outputs, d.window) := by
  unfold onOutputs at h
  rw [StateT.run, run_get_bind] at h
  rcases hchange : change c.outputs c.window with fault | ⟨outputs, window⟩
  · rw [hchange] at h
    cases h
  · rw [hchange] at h
    cases h
    rfl

theorem describeOutput_ok {output : Object} {change : OutputDescription → OutputDescription}
    (h : (describeOutput output change).run.run c = (.ok (), d)) :
    OutputsChange c d (some (.described output)) := by
  have hdescribed := onOutputs_ok h
  obtain ⟨houtputs, hwindow⟩ := Prod.mk.inj (Except.ok.inj hdescribed)
  exact .described output change houtputs.symm (by rw [← hwindow])

theorem announced_change {global : Global} (h : global.interface = .output) :
    OutputsChange c (c.announced global) (some (.offered (c.log.fresh .output))) := by
  have hannounced : c.announced global = c.trackOutput global := by
    unfold announced
    rw [h]
  rw [hannounced]
  refine .offered (.new (c.log.fresh .output) global.number (min global.version outputVersion))
    (c.log.not_hasMade_fresh .output) ?_ ?_ rfl
  · have hbind : (c.trackOutput global).log = c.log.issue ⟨.registry, .bind,
        [.bound global.number (c.log.fresh global.interface),
          .int (min global.version outputVersion)]⟩ := rfl
    rw [hbind, h]
    exact RequestLog.hasMade_issue rfl
  · rw [← h]
    rfl

theorem withdrawn_change (c : Client) (global : Nat) : OutputsChange c (c.withdrawn global)
    ((c.outputs.tracked.find? (·.global = global)).map fun t => .withdrawn t.object) := by
  unfold withdrawn
  rcases hfound : c.outputs.tracked.find? (·.global = global) with _ | output
  · rw [hfound]
    dsimp only
    split <;> exact .none rfl rfl
  · rw [hfound]
    have hdropped : OutputsChange c (c.dropOutput output) (some (.withdrawn output.object)) := by
      unfold dropOutput
      dsimp only
      split_ifs <;> exact .withdrawn output.object rfl rfl
    exact hdropped

theorem settle_change (c : Client) : OutputsChange c c.settle
    (if c.outputs.current = none then c.screen?.map .settled else none) := by
  unfold settle
  rcases hcurrent : c.outputs.current with _ | current
  · rcases hscreen : c.screen? with _ | output
    · exact .none rfl rfl
    · exact .settled output hcurrent (Outputs.choose_live hscreen) rfl rfl
  · exact .none rfl rfl

theorem Takes.change (h : c.Takes t d) : OutputsChange c d (t.news? c) := by
  -- the turns of outputs one by one; all others are without news and keep what they keep
  by_cases houtputs : t.IsOfOutputs
  · cases t with
    | settle =>
      obtain rfl := (Prod.mk.inj h).2
      exact c.settle_change
    | react delivery =>
      obtain ⟨target, event⟩ := delivery
      cases event with
      | announced global =>
        obtain rfl := (Prod.mk.inj h).2
        have hinterface : global.interface = .output := of_decide_eq_true houtputs
        rw [Turn.news?, if_pos hinterface]
        exact announced_change hinterface
      | withdrawn global =>
        obtain rfl := (Prod.mk.inj h).2
        exact c.withdrawn_change global
      | entered output =>
        have hreact : (if target = c.surface then onOutputs (·.enter · output) else pure () :
            Act Unit).run.run c = (.ok (), d) := h
        rw [Turn.news?]
        split_ifs at hreact ⊢
        · exact .entered output (onOutputs_ok hreact)
        · obtain rfl := (Prod.mk.inj hreact).2
          exact .none rfl rfl
      | left output =>
        have hreact : (if target = c.surface then
            onOutputs fun outputs window => .ok (outputs.leave window output) else pure () :
            Act Unit).run.run c = (.ok (), d) := h
        rw [Turn.news?]
        split_ifs at hreact ⊢
        · obtain ⟨hleft, hwindow⟩ := Prod.mk.inj (Except.ok.inj (onOutputs_ok hreact))
          exact .left output hleft.symm (by rw [← hwindow]; rfl)
        · obtain rfl := (Prod.mk.inj hreact).2
          exact .none rfl rfl
      | outputGeometry x y make model => exact describeOutput_ok h
      | outputMode mode => exact describeOutput_ok h
      | outputScale scale => exact describeOutput_ok h
      | outputName name => exact describeOutput_ok h
      | outputDone =>
        have hdone : (onOutputs (·.done · target)).run.run c = (.ok (), d) := h
        exact .done target (onOutputs_ok hdone)
      | _ => cases houtputs
    | _ => exact houtputs.elim
  · have hkeeps := h.keeps houtputs
    have hnone : t.news? c = none := by
      cases t with
      | react delivery =>
        obtain ⟨target, event⟩ := delivery
        cases event with
        | announced global => exact if_neg fun hinterface => houtputs (decide_eq_true hinterface)
        | _ => first | rfl | exact absurd rfl houtputs
      | settle => exact absurd trivial houtputs
      | _ => rfl
    rw [hnone]
    exact .none hkeeps.outputs hkeeps.scale

section After

variable (h : c.Takes t d)
include h

theorem Takes.live : d.outputs.live = c.outputs.liveAfter (t.news? c) := by
  have hchange := h.change
  generalize t.news? c = news at hchange
  cases hchange with
  | offered output fresh made outputs =>
    rw [outputs]
    exact Outputs.live_track output
  | withdrawn output outputs =>
    rw [outputs]
    exact Outputs.live_remove
  | entered output enter => exact congrArg (List.map _) (Outputs.enter_ok enter).1
  | described output change outputs =>
    rw [outputs]
    exact Outputs.live_describe change
  | done output done =>
    rcases Outputs.done_ok done with ⟨-, houtputs, -⟩ | ⟨info, -, -, hlive, -⟩
    · rw [houtputs]
      rfl
    · exact hlive
  | none outputs | left output outputs | settled output first live outputs =>
    rw [outputs]
    rfl

theorem Takes.entered : d.outputs.entered = c.outputs.enteredAfter (t.news? c) := by
  have hchange := h.change
  generalize t.news? c = news at hchange
  cases hchange with
  | entered output enter => exact (Outputs.enter_ok enter).2.1
  | done output done =>
    rcases Outputs.done_ok done with ⟨-, houtputs, -⟩ | ⟨info, -, -, -, hentered, -⟩
    · rw [houtputs]
      rfl
    · exact hentered
  | none outputs | offered output fresh made outputs | withdrawn output outputs
  | left output outputs | described output change outputs
  | settled output first live outputs =>
    rw [outputs]
    rfl

theorem Takes.current : d.outputs.current = c.outputs.currentAfter (t.news? c) := by
  have hchange := h.change
  generalize t.news? c = news at hchange
  cases hchange with
  | entered output enter =>
    obtain ⟨-, -, ⟨hnone, hcurrent, -⟩ | ⟨hsome, hcurrent, -⟩⟩ := Outputs.enter_ok enter
    · rw [hcurrent]
      exact (if_pos hnone).symm
    · rw [hcurrent]
      exact (if_neg hsome).symm
  | done output done =>
    rcases Outputs.done_ok done with ⟨-, houtputs, -⟩ | ⟨info, -, -, -, -, hcurrent, -⟩
    · rw [houtputs]
      rfl
    · exact hcurrent
  | none outputs | offered output fresh made outputs | withdrawn output outputs
  | left output outputs | described output change outputs
  | settled output first live outputs =>
    rw [outputs]
    rfl

theorem Takes.made_of_offered {x : Object} (hnews : t.news? c = some (.offered x)) :
    ¬ c.log.HasMade x ∧ d.log.HasMade x := by
  have hchange := h.change
  rw [hnews] at hchange
  cases hchange with
  | offered output fresh made => exact ⟨fresh, made⟩

theorem Takes.live_of_settled {x : Object} (hnews : t.news? c = some (.settled x)) :
    x ∈ c.outputs.live := by
  have hchange := h.change
  rw [hnews] at hchange
  cases hchange with
  | settled output first live => exact live

end After

/-! ## The turns that bring news -/

/-- The surface enters the output. -/
def Enters (output : Object) (c : Client) (t : Turn) : Prop :=
  t = .react ⟨c.surface, .entered output⟩

/-- The surface leaves the output. -/
def Leaves (output : Object) (c : Client) (t : Turn) : Prop :=
  t = .react ⟨c.surface, .left output⟩

/-- An output is announced, and the client follows it as this one from then on. -/
def Offers (output : Object) (c : Client) (t : Turn) : Prop :=
  ∃ target global, t = .react ⟨target, .announced global⟩ ∧ global.interface = .output
    ∧ c.log.fresh .output = output

/-- The global that the client follows as the output is withdrawn. -/
def Withdraws (output : Object) (c : Client) (t : Turn) : Prop :=
  ∃ target number followed, t = .react ⟨target, .withdrawn number⟩
    ∧ c.outputs.tracked.find? (·.global = number) = some followed ∧ followed.object = output

/-- The turn is of the kind that brings the news, where the registry or the main surface does. -/
def Tells (c : Client) (t : Turn) : OutputNews → Prop
  | .offered output => Offers output c t
  | .withdrawn output => Withdraws output c t
  | .entered output => Enters output c t
  | .left output => Leaves output c t
  | .described _ | .done _ | .settled _ => True

theorem tells_of_news {news : OutputNews} (h : t.news? c = some news) : Tells c t news := by
  cases t with
  | react delivery =>
    obtain ⟨target, happened⟩ := delivery
    cases happened with
    | announced global =>
      obtain ⟨hinterface, hnews⟩ := Option.ite_none_right_eq_some.1 h
      cases hnews
      exact ⟨target, global, rfl, hinterface, rfl⟩
    | withdrawn number =>
      obtain ⟨followed, hfollowed, rfl⟩ := Option.map_eq_some_iff.1 h
      exact ⟨target, number, followed, rfl, hfollowed, rfl⟩
    | entered x | left x =>
      obtain ⟨rfl, hnews⟩ := Option.ite_none_right_eq_some.1 h
      cases hnews
      rfl
    | outputGeometry | outputMode | outputScale | outputName | outputDone =>
      cases h
      trivial
    | _ => cases h
  | settle =>
    obtain ⟨-, hnews⟩ := Option.ite_none_right_eq_some.1 h
    obtain ⟨_, _, rfl⟩ := Option.map_eq_some_iff.1 hnews
    trivial
  | _ => cases h

section News

variable {output : Object}

theorem offers_iff : Offers output c t ↔ t.news? c = some (.offered output) := by
  refine ⟨?_, tells_of_news⟩
  rintro ⟨target, global, rfl, hinterface, rfl⟩
  exact if_pos hinterface

theorem withdraws_iff : Withdraws output c t ↔ t.news? c = some (.withdrawn output) := by
  refine ⟨?_, tells_of_news⟩
  rintro ⟨target, number, followed, rfl, hfollowed, rfl⟩
  rw [Turn.news?, hfollowed]
  rfl

theorem enters_iff : Enters output c t ↔ t.news? c = some (.entered output) := by
  refine ⟨?_, tells_of_news⟩
  rintro rfl
  exact if_pos rfl

theorem leaves_iff : Leaves output c t ↔ t.news? c = some (.left output) := by
  refine ⟨?_, tells_of_news⟩
  rintro rfl
  exact if_pos rfl

/-- A turn makes an output live by offering it, and ends that by withdrawing it. -/
theorem Takes.mem_live (h : c.Takes t d) : output ∈ d.outputs.live
    ↔ Offers output c t ∨ output ∈ c.outputs.live ∧ ¬ Withdraws output c t := by
  rw [h.live, Outputs.mem_liveAfter, offers_iff, withdraws_iff]

end News

/-- What is live is what was offered, also before the life began, and not withdrawn since. -/
theorem Lives.mem_live {output : Object} {turns : List Turn} (h : c.Lives turns d) :
    output ∈ d.outputs.live ↔ Since (Offers output) (Withdraws output) c turns
      ∨ output ∈ c.outputs.live ∧ Throughout (fun b t => ¬ Withdraws output b t) c turns := by
  refine Lives.induction (motive := fun turns d => output ∈ d.outputs.live
    ↔ Since (Offers output) (Withdraws output) c turns
      ∨ output ∈ c.outputs.live ∧ Throughout (fun b t => ¬ Withdraws output b t) c turns) ?_ ?_ h
  · simp [not_since_nil, throughout_nil]
  · intro turns t d e hlives ht ih
    rw [ht.mem_live, since_concat hlives ht, throughout_concat hlives, ih]
    tauto

/-! ## Outputs that were made -/

/-- Every output that the client knows of is one it made. -/
structure OutputsMade (c : Client) : Prop where
  live : ∀ x ∈ c.outputs.live, c.log.HasMade x
  entered : ∀ x ∈ c.outputs.entered, c.log.HasMade x
  current : ∀ x, c.outputs.current = some x → c.log.HasMade x

/-- If the surface enters an output, the client made it. -/
def EntersMade (c : Client) (t : Turn) : Prop :=
  ∀ output, Enters output c t → c.log.HasMade output

theorem OutputsMade.takes (h : c.OutputsMade) (ht : c.Takes t d) (hmade : EntersMade c t) :
    d.OutputsMade := by
  have hgrows {x : Object} (hx : c.log.HasMade x) : d.log.HasMade x := hx.mono ht.grows.issued
  constructor
  · intro x hx
    rw [ht.live] at hx
    rcases Outputs.mem_liveAfter.1 hx with hnews | ⟨hx, -⟩
    · exact (ht.made_of_offered hnews).2
    · exact hgrows (h.live x hx)
  · intro x hx
    rw [ht.entered] at hx
    rcases Outputs.mem_enteredAfter hx with hx | hnews
    · exact hgrows (h.entered x hx)
    · exact hgrows (hmade x (enters_iff.2 hnews))
  · intro x hx
    rw [ht.current] at hx
    rcases Outputs.currentAfter_eq_some hx with hx | hx | hnews | hnews
    · exact hgrows (h.current x hx)
    · exact hgrows (h.entered x hx)
    · exact hgrows (hmade x (enters_iff.2 hnews))
    · exact hgrows (h.live x (ht.live_of_settled hnews))

/-! ## Opening -/

theorem bindOutput_run {global : Global} (h : global.interface = .output) (l : RequestLog) :
    ((bindOutput global).run l).1.object = l.fresh .output
      ∧ l.issued <+: ((bindOutput global).run l).2.issued
      ∧ ((bindOutput global).run l).2.HasMade (l.fresh .output) := by
  have hrun : (bindOutput global).run l
    = (.new (l.fresh global.interface) global.number (min global.version outputVersion),
      l.issue ⟨.registry, .bind, [.bound global.number (l.fresh global.interface),
        .int (min global.version outputVersion)]⟩) := rfl
  rw [hrun, h]
  exact ⟨rfl, List.prefix_append _ _, RequestLog.hasMade_issue rfl⟩

/-- Outputs that are bound one after another are all different, and new; there is one for each
global. -/
theorem bindOutputs_run {globals : List Global} (h : ∀ g ∈ globals, g.interface = .output)
    (l : RequestLog) : l.issued <+: ((globals.mapM bindOutput).run l).2.issued
      ∧ ((globals.mapM bindOutput).run l).1.map TrackedOutput.global = globals.map Global.number
      ∧ (((globals.mapM bindOutput).run l).1.map TrackedOutput.object).Nodup
      ∧ ∀ x ∈ ((globals.mapM bindOutput).run l).1.map TrackedOutput.object,
        ¬ l.HasMade x ∧ ((globals.mapM bindOutput).run l).2.HasMade x := by
  induction globals generalizing l with
  | nil => exact ⟨List.prefix_refl _, rfl, List.nodup_nil, fun x hx => absurd hx List.not_mem_nil⟩
  | cons g globals ih =>
    obtain ⟨hg, hglobals⟩ := List.forall_mem_cons.1 h
    obtain ⟨hobject, hissued, hmade⟩ := bindOutput_run hg l
    obtain ⟨hissued', hnumbers, hnodup, hothers⟩ := ih hglobals ((bindOutput g).run l).2
    rw [run_mapM_cons]
    simp only [List.map_cons, List.nodup_cons, List.forall_mem_cons, hobject, hnumbers]
    refine ⟨hissued.trans hissued', rfl, ⟨fun hmem => (hothers _ hmem).1 hmade, hnodup⟩,
      ⟨l.not_hasMade_fresh .output, hmade.mono hissued'⟩, fun x hx => ?_⟩
    exact ⟨fun hold => (hothers x hx).1 (hold.mono hissued), (hothers x hx).2⟩

/-- A client opens on no output and with none current. It follows all that are offered then, and
they are all different. -/
theorem setUp_outputs (globals : List Global) (s : Settings) :
    Answers (fun c _ => c.outputs.tracked.map TrackedOutput.global
        = (globals.filter (·.interface = .output)).map Global.number
      ∧ c.OutputsMade ∧ c.outputs.live.Nodup ∧ c.outputs.entered = []
      ∧ c.outputs.current = none) (setUp globals s) := by
  have hglobals : ∀ g ∈ globals.filter (·.interface = .output), g.interface = .output :=
    fun g hg => of_decide_eq_true (List.mem_filter.1 hg).2
  unfold setUp
  iterate 8 refine .bind fun _ => ?_
  dsimp only
  split_ifs
  all_goals
    refine .bind fun _ => ?_
    intro l c l' h
    rw [run_bind_of_ok (run_mapM_lift bindOutput _ l)] at h
    obtain ⟨-, hnumbers, hnodup, hmade⟩ := bindOutputs_run hglobals l
    cases h
    exact ⟨hnumbers, ⟨fun x hx => (hmade x hx).2, fun x hx => absurd hx List.not_mem_nil,
      fun x hx => absurd hx (Option.some_ne_none x).symm⟩, hnodup, rfl, rfl⟩

theorem new_outputs {globals : List Global} {s : Settings} (h : Client.new globals s = .ok c) :
    c.outputs.tracked.map TrackedOutput.global
        = (globals.filter (·.interface = .output)).map Global.number
      ∧ c.OutputsMade ∧ c.outputs.live.Nodup ∧ c.outputs.entered = []
      ∧ c.outputs.current = none :=
  new_answers (setUp_outputs globals s) h

end Client

end VideoOutput
