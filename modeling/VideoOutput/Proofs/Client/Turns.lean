import VideoOutput.Proofs.Client.Continuity
import VideoOutput.Proofs.Client.Layout

/-!
# The turns of a client

A client acts in turns: it handles an event, sends its requests, or does a part of what its driver
asks for, and nothing comes in between. A life is a list of turns that arithmetic did not end
(`Lives`), and what holds all through a life is proved turn by turn. `Since` says of a life that one
kind of turn occurred in it and another kind has not occurred since.
-/

namespace VideoOutput

open Wire

/-- The operations on a window that a driver can ask for. -/
def Window.Op.isCall : Window.Op → Bool
  | .reconfig _ _ | .setFullscreen _ | .setMaximized _ | .setMinimized _ | .setBorder _
  | .setWindowSize _ _ | .setUnfullscreenSize _ _ | .unfullscreenSize | .setTitle _
  | .setAppId _ => true
  | _ => false

namespace Client

/-- Settles on an output where there is none yet and one is known. -/
def settle (c : Client) : Client :=
  match c.outputs.current, c.screen? with
  | none, some output =>
    let (outputs, window) := c.outputs.adopt c.window output
    { c with outputs, window }
  | _, _ => c

inductive Turn where
  | react (d : Delivery)
  | send
  | poll (poller : DisplayPoller)
  | loseDisplay
  | introduce (title appId : String)
  | fillSolid
  | settle
  | onWindow (op : Window.Op) (asked : op.isCall = true)
  | flushShellRequests
  | submit
  | commit
  | pace (op : FramePacer.Op)
  | takeEvents
  | relayout
  | draw (frame : VideoFrame)
  | reset
  | clearPool
  | setDisplay (display : SurfaceDisplay)
  | inhibitIdle (on : Bool)

namespace Turn

def work : Turn → Act Unit
  | react d => Client.react d
  | send => modify fun c => { c with log := c.log.emptyOutbox }
  | poll poller => modify fun c => { c with poller }
  | loseDisplay => modify fun c => { c with closeRequested := true }
  | introduce title appId => modify (·.introduce title appId)
  | fillSolid => modify Client.fillSolid
  | settle => modify Client.settle
  | onWindow op _ => Act.window fun w => Prod.fst <$> w.step op
  | flushShellRequests => modify Client.flushShellRequests
  | submit => modify fun c => c.flushShellRequests.ask c.surface .commit []
  | commit => modify fun c =>
    let c := match c.video with
      | some video => c.ask video.surface .commit []
      | none => c
    c.ask c.surface .commit []
  | pace op => do
    match (← get).pacer.step op with
    | .ok (pacer, _) => modify fun c => { c with pacer }
    | .error fault => throw fault
  | takeEvents => modify fun c => { c with window := c.window.takeEvents.2 }
  | relayout => Client.relayout
  | draw frame => modify fun c => (c.draw frame).2
  | reset => modify Client.reset
  | clearPool => modify Client.clearPool
  | setDisplay display => modify fun c => (c.setDisplay display).toOption.getD c
  | inhibitIdle on => modify fun c => (c.inhibitIdle on).2

/-- The turn neither takes the window's events nor lays surfaces out. -/
def IsOrdinary : Turn → Prop
  | takeEvents | relayout => False
  | _ => True

/-- The client takes the turn by itself: it is not one that the link has a part in. -/
def IsOwn : Turn → Prop
  | react _ | send | poll _ | loseDisplay => False
  | _ => True

/-- The turn tells of an output, or settles on one. -/
def IsOfOutputs : Turn → Prop
  | react d => d.event.tellsOfOutputs = true
  | settle => True
  | _ => False

end Turn

section Run

variable {c : Client}

theorem Turn.onWindow_run_error {op : Window.Op} {asked : op.isCall = true}
    {fault : ArithmeticFault} (h : c.window.step op = .error fault) :
    (Turn.onWindow op asked).work.run.run c = (.error fault, c) := by
  unfold Turn.work Act.window
  rw [StateT.run, run_get_bind]
  dsimp only
  rw [h]
  rfl

theorem Turn.pace_run_ok {op : FramePacer.Op} {pacer : FramePacer} {visible : Option Bool}
    (h : c.pacer.step op = .ok (pacer, visible)) :
    (Turn.pace op).work.run.run c = (.ok (), { c with pacer }) := by
  unfold Turn.work
  rw [StateT.run, run_get_bind, h]
  rfl

theorem Turn.pace_run_error {op : FramePacer.Op} {fault : ArithmeticFault}
    (h : c.pacer.step op = .error fault) :
    (Turn.pace op).work.run.run c = (.error fault, c) := by
  unfold Turn.work
  rw [StateT.run, run_get_bind, h]
  rfl

end Run

/-- The turns, one after another, up to one that arithmetic ends. -/
def live (turns : List Turn) : Act Unit := turns.forM Turn.work

/-- The turn leads from one client to the other. -/
def Takes (c : Client) (t : Turn) (d : Client) : Prop := t.work.run.run c = (.ok (), d)

/-- The turns lead from one client to the other. -/
def Lives (c : Client) (turns : List Turn) (d : Client) : Prop :=
  (live turns).run.run c = (.ok (), d)

variable {c d e : Client} {t : Turn} {turns : List Turn}

theorem live_append (turns rest : List Turn) :
    live (turns ++ rest) = live turns >>= fun _ => live rest := by
  induction turns with
  | nil => rfl
  | cons t turns ih =>
    have hcons (l : List Turn) : live (t :: l) = t.work >>= fun _ => live l := rfl
    rw [List.cons_append, hcons, hcons, ih, bind_assoc]

theorem live_singleton (t : Turn) : live [t] = t.work := bind_pure _

theorem live_react (events : List Delivery) : live (events.map .react) = events.forM react := by
  induction events with
  | nil => rfl
  | cons d events ih =>
    rw [List.map_cons, ← List.singleton_append, live_append, ih, live_singleton]
    rfl

theorem lives_nil : c.Lives [] d ↔ d = c :=
  ⟨fun h => (Prod.mk.inj h).2.symm, fun h => Prod.ext rfl h.symm⟩

theorem lives_append {rest : List Turn} :
    c.Lives (turns ++ rest) e ↔ ∃ d, c.Lives turns d ∧ d.Lives rest e := by
  unfold Lives
  rw [live_append]
  rcases run_bind_cases (live turns) (fun _ => live rest) c with
    ⟨⟨⟩, d, hd, hall⟩ | ⟨fault, d, hd, hall⟩
  · rw [hall, hd]
    refine ⟨fun h => ⟨d, rfl, h⟩, ?_⟩
    rintro ⟨d', hd', h⟩
    cases hd'
    exact h
  · rw [hall, hd]
    refine ⟨fun h => ?_, ?_⟩
    · cases h
    · rintro ⟨d', hd', -⟩
      cases hd'

theorem lives_singleton : c.Lives [t] d ↔ c.Takes t d := by
  unfold Lives Takes
  rw [live_singleton]

theorem lives_concat : c.Lives (turns ++ [t]) e ↔ ∃ d, c.Lives turns d ∧ d.Takes t e := by
  simp only [lives_append, lives_singleton]

theorem lives_cons : c.Lives (t :: turns) e ↔ ∃ d, c.Takes t d ∧ d.Lives turns e := by
  rw [← List.singleton_append, lives_append]
  simp only [lives_singleton]

theorem Lives.unique (h : c.Lives turns d) (h' : c.Lives turns e) : d = e :=
  (Prod.mk.inj (h.symm.trans h')).2

theorem Takes.unique (h : c.Takes t d) (h' : c.Takes t e) : d = e :=
  (Prod.mk.inj (h.symm.trans h')).2

theorem Lives.induction {motive : List Turn → Client → Prop} (nil : motive [] c)
    (concat : ∀ {turns t d e}, c.Lives turns d → d.Takes t e → motive turns d →
      motive (turns ++ [t]) e) : c.Lives turns d → motive turns d := by
  induction turns using List.reverseRecOn generalizing d with
  | nil =>
    intro h
    rw [lives_nil.1 h]
    exact nil
  | append_singleton turns t ih =>
    intro h
    obtain ⟨b, hb, ht⟩ := lives_concat.1 h
    exact concat hb ht (ih hb)

theorem append_singleton_eq {α : Type} {l before after : List α} {a b : α}
    (h : l ++ [a] = before ++ b :: after) : (before = l ∧ b = a ∧ after = [])
      ∨ ∃ rest, after = rest ++ [a] ∧ l = before ++ b :: rest := by
  rcases after.eq_nil_or_concat with rfl | ⟨rest, last, rfl⟩
  · obtain ⟨hl, ha⟩ := List.append_inj' h rfl
    exact .inl ⟨hl.symm, (List.singleton_inj.1 ha).symm, rfl⟩
  · rw [List.concat_eq_append, ← List.cons_append, ← List.append_assoc] at h
    obtain ⟨hl, ha⟩ := List.append_inj' h rfl
    obtain rfl := List.singleton_inj.1 ha
    exact .inr ⟨rest, List.concat_eq_append, hl⟩

/-! ## What is so throughout a life -/

/-- Every turn has the property, with the client that takes it. -/
def Throughout (P : Client → Turn → Prop) (c : Client) (turns : List Turn) : Prop :=
  ∀ before t after b, turns = before ++ t :: after → c.Lives before b → P b t

/-- A turn of one kind occurred, and none of the other kind has since. -/
def Since (sets unsets : Client → Turn → Prop) (c : Client) (turns : List Turn) : Prop :=
  ∃ before t after b d, turns = before ++ t :: after ∧ c.Lives before b ∧ b.Takes t d ∧ sets b t
    ∧ Throughout (fun e u => ¬ unsets e u) d after

section Throughout

variable {P sets unsets : Client → Turn → Prop}

theorem throughout_nil : Throughout P c [] := by
  intro before t after b hsplit
  simp at hsplit

theorem throughout_concat (h : c.Lives turns d) :
    Throughout P c (turns ++ [t]) ↔ Throughout P c turns ∧ P d t := by
  constructor
  · refine fun hall => ⟨?_, hall turns t [] d rfl h⟩
    rintro before u after b rfl hb
    exact hall before u (after ++ [t]) b (by simp) hb
  · rintro ⟨hall, hlast⟩ before u after b hsplit hb
    rcases append_singleton_eq hsplit with ⟨rfl, rfl, -⟩ | ⟨rest, -, hrest⟩
    · rw [← h.unique hb]
      exact hlast
    · exact hall before u rest b hrest hb

theorem throughout_of_mem (h : ∀ t ∈ turns, ∀ b, P b t) : Throughout P c turns := by
  rintro before t after b rfl -
  exact h t (by simp) b

theorem Throughout.left {rest : List Turn} (h : Throughout P c (turns ++ rest)) :
    Throughout P c turns := by
  rintro before t after b rfl hb
  exact h before t (after ++ rest) b (by simp) hb

theorem not_since_nil : ¬ Since sets unsets c [] := by
  rintro ⟨before, t, after, b, d, hsplit, -⟩
  simp at hsplit

theorem since_concat (h : c.Lives turns d) (ht : d.Takes t e) :
    Since sets unsets c (turns ++ [t])
      ↔ sets d t ∨ (Since sets unsets c turns ∧ ¬ unsets d t) := by
  -- what follows the turn that sets leads to the client that takes the last one
  have hlater {before after s b a} (hturns : turns = before ++ s :: after)
      (hb : c.Lives before b) (ha : b.Takes s a) : a.Lives after d := by
    rw [hturns] at h
    obtain ⟨b', hb', hrest⟩ := lives_append.1 h
    obtain ⟨a', ha', hd⟩ := lives_cons.1 hrest
    obtain rfl := hb.unique hb'
    obtain rfl := ha.unique ha'
    exact hd
  constructor
  · rintro ⟨before, s, after, b, a, hsplit, hb, ha, hsets, hnone⟩
    rcases append_singleton_eq hsplit with ⟨rfl, rfl, -⟩ | ⟨rest, rfl, hrest⟩
    · rw [h.unique hb]
      exact .inl hsets
    · obtain ⟨hnone, hlast⟩ := (throughout_concat (hlater hrest hb ha)).1 hnone
      exact .inr ⟨⟨before, s, rest, b, a, hrest, hb, ha, hsets, hnone⟩, hlast⟩
  · rintro (hsets | ⟨⟨before, s, after, b, a, hturns, hb, ha, hsets, hnone⟩, hlast⟩)
    · exact ⟨turns, t, [], d, e, rfl, h, ht, hsets, throughout_nil⟩
    · exact ⟨before, s, after ++ [t], b, a, by rw [hturns]; simp, hb, ha, hsets,
        (throughout_concat (hlater hturns hb ha)).2 ⟨hnone, hlast⟩⟩

end Throughout

/-! ## What a turn keeps -/

/-- Only a turn that takes events or lays surfaces out does not keep what is kept at work. -/
theorem Turn.leads_stays (hordinary : t.IsOrdinary) (houtputs : ¬ t.IsOfOutputs) :
    Leads Stays t.work.run := by
  cases t with
  | react d => exact leads_react_stays (by simpa [IsOfOutputs] using houtputs)
  | send => exact .except_modify fun c => c.stays_of_log c.log.continues_emptyOutbox
  | introduce title appId => exact .except_modify fun c => c.stays_introduce title appId
  | fillSolid => exact .except_modify stays_fillSolid
  | settle => exact absurd trivial houtputs
  | onWindow op asked =>
    refine leads_window fun h => ?_
    obtain ⟨⟨window, reply⟩, hstep, rfl⟩ := map_eq_ok.1 h
    refine ⟨Window.step_reports hstep ?_, Window.step_scaleState hstep ?_⟩
    · rintro rfl
      cases asked
    · cases op <;> first | exact id | cases asked
  | flushShellRequests => exact .except_modify stays_flushShellRequests
  | submit =>
    exact .except_modify fun c => c.stays_flushShellRequests.trans (stays_ask _ _ _ rfl)
  | commit =>
    refine .except_modify fun c => ?_
    dsimp only
    split
    · exact (c.stays_ask _ _ rfl).trans (stays_ask _ _ _ rfl)
    · exact c.stays_ask _ _ rfl
  | pace op =>
    refine .except_get_bind fun c => ?_
    rcases c.pacer.step op with fault | ⟨pacer, visible⟩
    · exact .refl c
    · exact Leads.except_modify (fun c => .of_stage rfl rfl) c
  | takeEvents => exact hordinary.elim
  | relayout => exact hordinary.elim
  | draw frame => exact .except_modify fun c => c.stays_draw frame
  | clearPool => exact .except_modify stays_clearPool
  | setDisplay display =>
    refine .except_modify fun c => ?_
    rcases hdisplay : c.setDisplay display with e | d
    · exact .refl c
    · exact stays_setDisplay hdisplay
  | inhibitIdle on => exact .except_modify fun c => c.stays_inhibitIdle on
  | _ => exact .except_modify fun c => .of_stage rfl rfl

theorem Turn.leads_continues (hordinary : t.IsOrdinary) : Leads Continues t.work.run := by
  by_cases houtputs : t.IsOfOutputs
  · cases t with
    | react d => exact leads_react d
    | settle =>
      refine .except_modify fun c => ?_
      unfold Client.settle
      split
      · exact (c.continues_of_window (Window.reports_attachOutput _ _)).aside rfl
      · exact .refl c
    | _ => exact houtputs.elim
  · exact (Turn.leads_stays hordinary houtputs).mono fun h => h.toContinues

/-- What holds of every client that is set up holds of one that opens. -/
theorem new_answers {P : Client → Prop} {globals : List Global} {s : Settings}
    (h : Answers (fun c _ => P c) (setUp globals s)) (hnew : Client.new globals s = .ok c) : P c :=
  h {} c ((setUp globals s).run.run {}).2 (Prod.ext hnew rfl)

/-- The client has the main surface it had, and took back no request. Its devices are of their
kinds. -/
structure Grows (c d : Client) : Prop where
  surface : d.surface = c.surface
  issued : c.log.issued <+: d.log.issued
  typed : c.seats.Typed → d.seats.Typed

/-- Beyond that the client has the outputs it had, and the window its scale. -/
structure Keeps (c d : Client) : Prop extends Grows c d where
  outputs : d.outputs = c.outputs
  scale : d.window.scaleState = c.window.scaleState

theorem Continues.grows (h : c.Continues d) : c.Grows d where
  surface := h.surface
  issued := by
    obtain ⟨rest, hrest, -⟩ := h.log
    exact ⟨rest, hrest.symm⟩
  typed := h.typed

theorem Stays.keeps (h : c.Stays d) : c.Keeps d := ⟨h.grows, h.outputs, h.scale⟩

theorem Takes.keeps (h : c.Takes t d) (houtputs : ¬ t.IsOfOutputs) : c.Keeps d := by
  by_cases hordinary : t.IsOrdinary
  · have hstays := Turn.leads_stays hordinary houtputs c
    rw [show t.work.run.run c = (.ok (), d) from h] at hstays
    exact hstays.keeps
  · cases t with
    | takeEvents =>
      obtain rfl := (Prod.mk.inj h).2
      exact ⟨⟨rfl, List.prefix_refl _, id⟩, rfl, rfl⟩
    | relayout =>
      rcases c.relayout_cases with ⟨fault, -, hrun⟩ | ⟨-, hrun⟩ | ⟨l, -, hrun⟩
      · cases hrun.symm.trans h
      · cases hrun.symm.trans h
        exact ⟨⟨rfl, List.prefix_refl _, id⟩, rfl, rfl⟩
      · cases hrun.symm.trans h
        exact ⟨⟨rfl, ⟨_, (c.applyLayout_issued l).symm⟩, id⟩, rfl, rfl⟩
    | _ => exact absurd trivial hordinary

theorem Takes.grows (h : c.Takes t d) : c.Grows d := by
  by_cases houtputs : t.IsOfOutputs
  · have hordinary : t.IsOrdinary := by
      cases t <;> first | exact trivial | exact houtputs.elim
    have hcontinues := Turn.leads_continues hordinary c
    rw [show t.work.run.run c = (.ok (), d) from h] at hcontinues
    exact hcontinues.grows
  · exact (h.keeps houtputs).toGrows

theorem Lives.grows (h : c.Lives turns d) : c.Grows d := by
  refine Lives.induction (motive := fun _ d => c.Grows d) ?_ ?_ h
  · exact ⟨rfl, List.prefix_refl _, id⟩
  · intro turns t d e _ ht ih
    have hlast := ht.grows
    exact ⟨hlast.surface.trans ih.surface, ih.issued.trans hlast.issued, hlast.typed ∘ ih.typed⟩

end Client

end VideoOutput
