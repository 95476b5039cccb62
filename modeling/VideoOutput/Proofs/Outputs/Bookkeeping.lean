import VideoOutput.Proofs.Outputs.Current

/-!
# The outputs that the surface is on

As long as the surface enters no output but one that is offered, the client knows of just those
outputs that are offered and that the surface entered and has not left since, each of them once, and
its current output is offered (`Bookkept`). The names it gives are theirs, one for each. That an
output is offered is again a matter of the history: the client follows all there are when it opens
(`new_outputs`), and later those that were announced and not withdrawn since (`Lives.mem_live`).
-/

namespace VideoOutput

open Wire

namespace Outputs

variable {o : Outputs} {x y : Object} {info : OutputInfo} {news : Option OutputNews}

/-! ## After the news -/

theorem liveAfter_nodup (h : o.live.Nodup) (hnew : ∀ y, news = some (.offered y) → y ∉ o.live) :
    (o.liveAfter news).Nodup := by
  unfold liveAfter
  split
  · rw [← List.concat_eq_append]
    exact h.concat (hnew _ rfl)
  · exact h.filter _
  · exact h

theorem mem_enteredAfter_entered :
    x ∈ o.enteredAfter (some (.entered y)) ↔ x ∈ o.entered ∨ x = y := by
  rw [enteredAfter]
  split_ifs with hold
  · exact (or_iff_left_of_imp fun hxy => hxy ▸ hold).symm
  · simp

theorem enteredAfter_nodup (h : o.entered.Nodup) : (o.enteredAfter news).Nodup := by
  unfold enteredAfter
  split
  · split_ifs with hold
    · exact h
    · rw [← List.concat_eq_append]
      exact h.concat hold
  · exact h.filter _
  · exact h.filter _
  · exact h

/-- The current output is offered after the news if those were that the surface was on, and any that
it enters or that is settled on is. -/
theorem currentAfter_live (hentered : ∀ y ∈ o.entered, y ∈ o.live)
    (hcurrent : ∀ y, o.current = some y → y ∈ o.live)
    (hnew : ∀ y, news = some (.entered y) ∨ news = some (.settled y) → y ∈ o.live)
    (h : o.currentAfter news = some x) : x ∈ o.liveAfter news := by
  rcases news with _ | ⟨y⟩ | ⟨y⟩ | ⟨y⟩ | ⟨y⟩ | _ | _ | ⟨y⟩
  case some.offered => exact List.mem_append_left _ (hcurrent x h)
  case some.withdrawn =>
    rw [currentAfter] at h
    rw [liveAfter, List.mem_filter, decide_eq_true_iff]
    split_ifs at h with hwithdrawn
    · obtain ⟨hold, hxy⟩ := List.mem_filter.1 (List.mem_of_head? h)
      exact ⟨hentered x hold, of_decide_eq_true hxy⟩
    · exact ⟨hcurrent x h, fun hxy => hwithdrawn (hxy ▸ h)⟩
  case some.entered =>
    rw [currentAfter] at h
    split_ifs at h
    cases h
    exact hnew x (.inl rfl)
  case some.settled =>
    cases h
    exact hnew x (.inr rfl)
  all_goals exact hcurrent x h

/-! ## Names -/

/-- The name of an output, as far as it is known. -/
def nameOf (o : Outputs) (output : Object) : String :=
  ((o.info? output).map OutputInfo.displayName).getD ""

theorem info?_of_mem_known (hlive : o.live.Nodup) (h : (x, info) ∈ o.known) :
    o.info? x = some info := by
  obtain ⟨t, ht, hsome⟩ := List.mem_filterMap.1 h
  obtain ⟨_, hinfo, heq⟩ := Option.map_eq_some_iff.1 hsome
  obtain ⟨rfl, rfl⟩ := Prod.mk.inj heq
  have hfound : o.tracked.find? (·.object = t.object) = some t := by
    rcases hfirst : o.tracked.find? (·.object = t.object) with _ | u
    · simpa using List.find?_eq_none.1 hfirst t ht
    · have hobject : u.object = t.object := by simpa using List.find?_some hfirst
      rw [hfirst, List.inj_on_of_nodup_map hlive (List.mem_of_find?_eq_some hfirst) ht hobject]
  rw [info?, hfound, Option.bind_some, hinfo]

theorem map_fst_known (h : ∀ t ∈ o.tracked, t.info.isSome) : o.known.map Prod.fst = o.live := by
  unfold known live
  rw [List.map_filterMap, List.filterMap_eq_map_iff_forall_eq_some]
  intro t ht
  obtain ⟨info, hinfo⟩ := Option.isSome_iff_exists.1 (h t ht)
  rw [hinfo]
  rfl

/-- The names of the outputs that the surface is on are theirs, one for each, when all that are
offered are known. -/
theorem surfaceNames_perm (hlive : o.live.Nodup) (hentered : o.entered.Nodup)
    (hoffered : ∀ x ∈ o.entered, x ∈ o.live) (hknown : ∀ t ∈ o.tracked, t.info.isSome) :
    o.surfaceNames.Perm (o.entered.map o.nameOf) := by
  have hnames : o.surfaceNames
      = ((o.known.filter fun k => o.hasSurface k.1).map Prod.fst).map o.nameOf := by
    unfold surfaceNames
    rw [List.map_map]
    refine List.map_congr_left fun k hk => ?_
    rw [Function.comp_apply, nameOf, info?_of_mem_known hlive (List.mem_of_mem_filter hk)]
    rfl
  rw [hnames]
  refine List.Perm.map _ ((List.perm_ext_iff_of_nodup ?_ hentered).2 fun x => ?_)
  · refine List.Nodup.sublist ((List.filter_sublist).map Prod.fst) ?_
    rwa [map_fst_known hknown]
  · have hmem : x ∈ (o.known.filter fun k => o.hasSurface k.1).map Prod.fst
        ↔ x ∈ o.entered ∧ x ∈ o.known.map Prod.fst := by
      simp [hasSurface, and_comm]
    rw [hmem, map_fst_known hknown]
    exact and_iff_left_of_imp (hoffered x)

end Outputs

namespace Client

variable {c d e : Client} {t : Turn} {turns : List Turn}

/-- If the surface enters an output, it is one that is offered. -/
def EntersLive (c : Client) (t : Turn) : Prop :=
  ∀ output, Enters output c t → output ∈ c.outputs.live

/-- What a client knows of its outputs after a part of its life. -/
structure Bookkept (c : Client) (turns : List Turn) (d : Client) : Prop where
  made : d.OutputsMade
  live_nodup : d.outputs.live.Nodup
  entered_nodup : d.outputs.entered.Nodup
  mem_entered : ∀ x, x ∈ d.outputs.entered
    ↔ x ∈ d.outputs.live ∧ Since (Enters x) (Leaves x) c turns
  current : ∀ x, d.outputs.current = some x → x ∈ d.outputs.live
  /-- An output that was entered stays one that was made, also when it is not offered any more. -/
  past : ∀ x, Since (Enters x) (Leaves x) c turns → d.log.HasMade x

namespace Bookkept

variable (h : Bookkept c turns d)
include h

theorem entered_live : ∀ x ∈ d.outputs.entered, x ∈ d.outputs.live :=
  fun x hx => ((h.mem_entered x).1 hx).1

variable (hlives : c.Lives turns d) (ht : d.Takes t e) (hlive : EntersLive d t)
include hlives ht hlive

theorem mem_entered_concat (x : Object) : x ∈ e.outputs.entered
    ↔ x ∈ e.outputs.live ∧ Since (Enters x) (Leaves x) c (turns ++ [t]) := by
  rw [ht.entered, ht.live, since_concat hlives ht, enters_iff, leaves_iff]
  have hx := h.mem_entered x
  rcases hnews : t.news? d with _ | ⟨y⟩ | ⟨y⟩ | ⟨y⟩ | ⟨y⟩ | _ | _ | _
  case some.offered =>
    -- an output of the past that is not offered any more is not this one
    have hnew : Since (Enters x) (Leaves x) c turns → x ≠ y := by
      rintro hsince rfl
      exact (ht.made_of_offered hnews).1 (h.past x hsince)
    simp only [Outputs.enteredAfter, Outputs.liveAfter, List.mem_append, List.mem_singleton,
      Option.some.injEq, reduceCtorEq, not_false_eq_true, and_true, false_or]
    tauto
  case some.withdrawn =>
    simp only [Outputs.enteredAfter, Outputs.liveAfter, List.mem_filter, decide_eq_true_eq,
      Option.some.injEq, reduceCtorEq, not_false_eq_true, and_true, false_or]
    tauto
  case some.entered =>
    have hy := hlive y (enters_iff.2 hnews)
    rw [Outputs.mem_enteredAfter_entered]
    by_cases hxy : x = y
    · subst hxy
      simp [Outputs.liveAfter, hy]
    · simp [Outputs.liveAfter, hx, hxy, Ne.symm hxy]
  case some.left =>
    simp only [Outputs.enteredAfter, Outputs.liveAfter, List.mem_filter, decide_eq_true_eq,
      Option.some.injEq, reduceCtorEq, OutputNews.left.injEq, false_or]
    tauto
  all_goals simp [Outputs.enteredAfter, Outputs.liveAfter, hx]

theorem concat : Bookkept c (turns ++ [t]) e where
  made := h.made.takes ht fun x hx => h.made.live x (hlive x hx)
  live_nodup := by
    rw [ht.live]
    exact Outputs.liveAfter_nodup h.live_nodup fun y hnews hy =>
      (ht.made_of_offered hnews).1 (h.made.live y hy)
  entered_nodup := by
    rw [ht.entered]
    exact Outputs.enteredAfter_nodup h.entered_nodup
  mem_entered := h.mem_entered_concat hlives ht hlive
  current x hx := by
    rw [ht.current] at hx
    rw [ht.live]
    refine Outputs.currentAfter_live h.entered_live h.current ?_ hx
    rintro y (hnews | hnews)
    · exact hlive y (enters_iff.2 hnews)
    · exact ht.live_of_settled hnews
  past x hx := by
    rcases (since_concat hlives ht).1 hx with hentered | ⟨hsince, -⟩
    · exact (h.made.live x (hlive x hentered)).mono ht.grows.issued
    · exact (h.past x hsince).mono ht.grows.issued

end Bookkept

/-- While nothing is withdrawn, what was offered at first may be entered. -/
theorem throughout_entersLive
    (hentered : ∀ t ∈ turns, ∀ b x, Enters x b t → x ∈ c.outputs.live)
    (hkept : ∀ t ∈ turns, ∀ b x, ¬ Withdraws x b t) : Throughout EntersLive c turns := by
  rintro before t after b rfl hb x hx
  have hstays : Throughout (fun b t => ¬ Withdraws x b t) c before :=
    throughout_of_mem fun u hu e => hkept u (by simp [hu]) e x
  exact hb.mem_live.2 (.inr ⟨hentered t (by simp) b x hx, hstays⟩)

theorem new_bookkept {globals : List Global} {s : Settings} (h : Client.new globals s = .ok c) :
    Bookkept c [] c := by
  obtain ⟨-, hmade, hlive, hentered, hcurrent⟩ := new_outputs h
  constructor
  · exact hmade
  · exact hlive
  · rw [hentered]
    exact List.nodup_nil
  · intro x
    rw [hentered]
    exact iff_of_false List.not_mem_nil fun hx => not_since_nil hx.2
  · intro x hx
    cases hcurrent.symm.trans hx
  · exact fun x hx => absurd hx not_since_nil

theorem Lives.bookkept {globals : List Global} {s : Settings}
    (hnew : Client.new globals s = .ok c) (h : c.Lives turns d)
    (hlive : Throughout EntersLive c turns) : Bookkept c turns d := by
  refine Lives.induction
    (motive := fun turns d => Throughout EntersLive c turns → Bookkept c turns d) ?_ ?_ h hlive
  · exact fun _ => new_bookkept hnew
  · intro turns t d e hlives ht ih hlive
    obtain ⟨hbefore, hlast⟩ := (throughout_concat hlives).1 hlive
    exact (ih hbefore).concat hlives ht hlast

/-- After any life in which the surface entered no output but one that was offered, the client knows
once of each output that is offered and that the surface entered and has not left since, and of no
other; the current output is offered; and where all outputs are known there is a name for each of
those that the surface is on. Which outputs are offered `Lives.mem_live` says. -/
theorem entered_outputs {globals : List Global} {s : Settings} (hnew : Client.new globals s = .ok c)
    (hlives : c.Lives turns d) (hlive : Throughout EntersLive c turns) :
    d.outputs.entered.Nodup
      ∧ (∀ x, x ∈ d.outputs.entered
        ↔ x ∈ d.outputs.live ∧ Since (Enters x) (Leaves x) c turns)
      ∧ (∀ x, d.outputs.current = some x → x ∈ d.outputs.live)
      ∧ ((∀ t ∈ d.outputs.tracked, t.info.isSome) →
        d.outputs.surfaceNames.Perm (d.outputs.entered.map d.outputs.nameOf)) := by
  have hkept := hlives.bookkept hnew hlive
  exact ⟨hkept.entered_nodup, hkept.mem_entered, hkept.current,
    Outputs.surfaceNames_perm hkept.live_nodup hkept.entered_nodup hkept.entered_live⟩

end Client

namespace Exchange

open Client

/-- The compositor offers four outputs. -/
def fourOutputs : List Global := twoOutputs ++ [⟨8, .output, 1⟩, ⟨9, .output, 1⟩]

/-- The surface enters four outputs, and leaves the third. -/
def comings : List Turn :=
  [.react ⟨⟨.surface, 1⟩, .entered ⟨.output, 4⟩⟩, .react ⟨⟨.surface, 1⟩, .entered ⟨.output, 3⟩⟩,
    .react ⟨⟨.surface, 1⟩, .entered ⟨.output, 2⟩⟩, .react ⟨⟨.surface, 1⟩, .left ⟨.output, 3⟩⟩,
    .react ⟨⟨.surface, 1⟩, .entered ⟨.output, 1⟩⟩]

/-- Then the fourth is withdrawn. -/
def unplugging : List Turn := comings ++ [.react ⟨.registry, .withdrawn 9⟩]

/-- Of four outputs the surface comes to lie on the first and the second: it left the third, which
is offered still, and the fourth was withdrawn while the surface was on it. -/
theorem entered_outputs_both : ∃ c d, Client.new fourOutputs {} = .ok c ∧ c.Lives unplugging d
    ∧ (∀ x, x ∈ d.outputs.entered ↔ x = ⟨.output, 2⟩ ∨ x = ⟨.output, 1⟩)
    ∧ ⟨.output, 3⟩ ∈ d.outputs.live
    ∧ ¬ Since (Enters ⟨.output, 3⟩) (Leaves ⟨.output, 3⟩) c unplugging
    ∧ ¬ Throughout (fun b t => ¬ Withdraws ⟨.output, 4⟩ b t) c unplugging
    ∧ d.outputs.surfaceNames.Perm ([⟨.output, 2⟩, ⟨.output, 1⟩].map d.outputs.nameOf) := by
  obtain ⟨c, hnew, hopened, hcomings, hunplugging, hentered, hlive, hknown⟩ :
      ∃ c, Client.new fourOutputs {} = .ok c
      ∧ c.outputs.live = [⟨.output, 1⟩, ⟨.output, 2⟩, ⟨.output, 3⟩, ⟨.output, 4⟩]
      ∧ ((live comings).run.run c).1 = .ok () ∧ ((live unplugging).run.run c).1 = .ok ()
      ∧ ((live unplugging).run.run c).2.outputs.entered = [⟨.output, 2⟩, ⟨.output, 1⟩]
      ∧ ((live unplugging).run.run c).2.outputs.live
        = [⟨.output, 1⟩, ⟨.output, 2⟩, ⟨.output, 3⟩]
      ∧ ∀ t ∈ ((live unplugging).run.run c).2.outputs.tracked, t.info.isSome := by
    decide +kernel
  have hbefore : c.Lives comings _ := Prod.ext hcomings rfl
  have hlives : c.Lives unplugging ((live unplugging).run.run c).2 := Prod.ext hunplugging rfl
  generalize ((live unplugging).run.run c).2 = d at hlives hentered hlive hknown
  have hthroughout : Throughout EntersLive c comings :=
    throughout_entersLive (by simp [comings, Enters, hopened]) (by simp [comings, Withdraws])
  have hlast : EntersLive ((live comings).run.run c).2 (.react ⟨.registry, .withdrawn 9⟩) := by
    intro x hx
    simp [Enters] at hx
  obtain ⟨-, hmem, -, hnames⟩ :=
    entered_outputs hnew hlives ((throughout_concat hbefore).2 ⟨hthroughout, hlast⟩)
  have hthird : ⟨.output, 3⟩ ∈ d.outputs.live := by simp [hlive]
  refine ⟨c, d, hnew, hlives, by simp [hentered], hthird, fun hsince => ?_, fun hnever => ?_,
    hentered ▸ hnames hknown⟩
  · have hon := (hmem ⟨.output, 3⟩).2 ⟨hthird, hsince⟩
    simp [hentered] at hon
  · have hkept := hlives.mem_live.2 (.inr ⟨by simp [hopened], hnever⟩)
    simp [hlive] at hkept

end Exchange

end VideoOutput
