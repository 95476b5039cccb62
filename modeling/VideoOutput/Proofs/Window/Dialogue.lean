import VideoOutput.Proofs.Window.Extent

/-!
# A window in dialogue with its compositor

Requests and configures travel between a window and its compositor, each in order. The compositor
grants every request for a fullscreen state and answers it with a configure of that state; it may
send further configures at any time. Any configure that is acknowledged ends the request in flight,
also one sent before the compositor saw the request. A call for the state that seems to be in force
by then is dropped, and the state asked for before comes after all (`exists_call_lost`).
`fullscreen_of_quiet` says which calls are heeded.
-/

namespace VideoOutput

/-- The fullscreen state that the request asks for. -/
def ShellRequest.fullscreen? : ShellRequest → Option Bool
  | .setFullscreen => some true
  | .unsetFullscreen => some false
  | _ => none

theorem ShellRequest.fullscreen?_ite (fullscreen : Bool) :
    (if fullscreen then ShellRequest.setFullscreen else .unsetFullscreen).fullscreen?
      = some fullscreen := by
  cases fullscreen <;> rfl

/-- What a configure says besides whether the window is fullscreen. -/
structure ConfigureOffer where
  size : Size
  positive : size.Positive
  states : ToplevelStates

def ConfigureOffer.configure (o : ConfigureOffer) (fullscreen : Bool) : PendingConfigure where
  width := o.size.1
  height := o.size.2
  states := if fullscreen then .fullscreen :: o.states else o.states.filter (· ≠ .fullscreen)

theorem ConfigureOffer.isFullscreen_configure (o : ConfigureOffer) (fullscreen : Bool) :
    (o.configure fullscreen).states.isFullscreen = fullscreen := by
  cases fullscreen <;> simp [configure, ToplevelStates.isFullscreen]

/-- A window, its compositor's fullscreen state, and what is on the way between them. A configure
is written as the state it carries and the rest. -/
structure Dialogue where
  window : Window
  requests : List ShellRequest
  configures : List (Bool × ConfigureOffer)
  fullscreen : Bool

namespace Dialogue

inductive Act where
  | call (fullscreen : Bool)
  | send
  | honour (answer : ConfigureOffer)
  | announce (offer : ConfigureOffer)
  | acknowledge

def Act.IsCall : Act → Prop
  | .call _ => True
  | _ => False

/-- Nothing is on the way, and the two agree. -/
def start (w : Window) : Dialogue := ⟨w, [], [], w.fullscreen.confirmed⟩

/-- The compositor takes the first request. -/
def honour (d : Dialogue) (answer : ConfigureOffer) : Dialogue :=
  match d.requests with
  | [] => d
  | request :: requests =>
    match request.fullscreen? with
    | none => { d with requests }
    | some fullscreen =>
      { d with requests, fullscreen, configures := d.configures ++ [(fullscreen, answer)] }

/-- The first configure arrives and is acknowledged. -/
def acknowledge (d : Dialogue) : Except ArithmeticFault Dialogue :=
  match d.configures with
  | [] => return d
  | (fullscreen, offer) :: configures => do
    let c := offer.configure fullscreen
    let (_, window) ← (d.window.configureToplevel c.width c.height c.states).configureSurface
    return { d with window, configures }

def step (d : Dialogue) : Act → Except ArithmeticFault Dialogue
  | .call fullscreen => return { d with window := d.window.setFullscreen fullscreen }
  | .send =>
    return { d with
      window := d.window.takeRequests.2
      requests := d.requests ++ d.window.takeRequests.1 }
  | .honour answer => return d.honour answer
  | .announce offer =>
    return { d with configures := d.configures ++ [(d.fullscreen, offer)] }
  | .acknowledge => d.acknowledge

def run (d : Dialogue) (acts : List Act) : Except ArithmeticFault Dialogue := acts.foldlM step d

/-- The fullscreen states asked for that the compositor has not seen, in order. -/
def asked (d : Dialogue) : List Bool :=
  (d.requests ++ d.window.requests).filterMap ShellRequest.fullscreen?

/-- The state in force once all that was asked for is granted. -/
def outcome (d : Dialogue) : Bool := d.asked.getLast?.getD d.fullscreen

/-- Both ways are empty. -/
structure Quiet (d : Dialogue) : Prop where
  waiting : d.window.requests = []
  requests : d.requests = []
  configures : d.configures = []

/-- Nothing on the way brings another fullscreen state. -/
structure Settled (d : Dialogue) : Prop where
  asked : d.asked = []
  configures : ∀ c ∈ d.configures, c.1 = d.window.fullscreen.confirmed

instance (d : Dialogue) : Decidable d.Quiet :=
  decidable_of_iff (d.window.requests = [] ∧ d.requests = [] ∧ d.configures = [])
    ⟨fun ⟨hw, hr, hc⟩ => ⟨hw, hr, hc⟩, fun h => ⟨h.waiting, h.requests, h.configures⟩⟩

theorem Quiet.settled {d : Dialogue} (h : d.Quiet) : d.Settled := by
  constructor
  · rw [asked, h.requests, h.waiting]
    rfl
  · rw [h.configures]
    rintro _ ⟨⟩

/-- The request in flight is the last one made, and the last configure on the way carries the
compositor's state. -/
structure Inv (d : Dialogue) : Prop where
  sized : d.window.Sized
  requested : ∀ fullscreen ∈ d.window.fullscreen.requested, d.outcome = fullscreen
  announced :
    (d.configures.map Prod.fst).getLast?.getD d.window.fullscreen.confirmed = d.fullscreen

/-! ## One act -/

variable {d : Dialogue}

theorem asked_cons {request : ShellRequest} {requests : List ShellRequest}
    (h : d.requests = request :: requests) :
    d.asked = request.fullscreen?.toList ++ { d with requests }.asked := by
  unfold asked
  rw [h]
  cases hf : request.fullscreen? <;> simp [hf]

/-- A call that is dropped leaves what was asked for; any other is asked for last. -/
theorem call_inv (hd : d.Inv) (fullscreen : Bool) :
    ∃ d', d.step (.call fullscreen) = .ok d' ∧ d'.Inv ∧ d'.outcome
      = if d.window.fullscreen.desired = fullscreen then d.outcome else fullscreen := by
  refine ⟨_, rfl, ?_⟩
  rcases d.window.setFullscreen_cases fullscreen with ⟨hsame, hcall⟩ | ⟨hother, hcall⟩
  · rw [hcall, if_pos hsame]
    exact ⟨hd, rfl⟩
  · rw [hcall, if_neg hother]
    have houtcome : ((d.requests ++ (d.window.requests ++
        [if fullscreen then ShellRequest.setFullscreen else .unsetFullscreen])).filterMap
          ShellRequest.fullscreen?).getLast?.getD d.fullscreen = fullscreen := by
      simp [List.filterMap_append, ShellRequest.fullscreen?_ite]
    refine ⟨⟨⟨hd.sized.shown, hd.sized.floating, hd.sized.aspect⟩, ?_, hd.announced⟩, houtcome⟩
    rintro _ ⟨⟩
    exact houtcome

theorem Inv.unchanged {d' : Dialogue} (hd : d.Inv) (hsized : d'.window.Sized)
    (hrequested : d'.window.fullscreen.requested = d.window.fullscreen.requested)
    (hannounced : (d'.configures.map Prod.fst).getLast?.getD d'.window.fullscreen.confirmed
      = d'.fullscreen) (houtcome : d'.outcome = d.outcome) :
    d'.Inv ∧ d'.outcome = d.outcome := by
  refine ⟨⟨hsized, fun fullscreen hf => ?_, hannounced⟩, houtcome⟩
  rw [hrequested] at hf
  exact houtcome.trans (hd.requested fullscreen hf)

theorem send_inv (hd : d.Inv) :
    ∃ d', d.step .send = .ok d' ∧ d'.Inv ∧ d'.outcome = d.outcome := by
  refine ⟨_, rfl, hd.unchanged ⟨hd.sized.shown, hd.sized.floating, hd.sized.aspect⟩ rfl
    hd.announced ?_⟩
  simp [outcome, asked, Window.takeRequests]

theorem honour_inv (hd : d.Inv) (answer : ConfigureOffer) :
    ∃ d', d.step (.honour answer) = .ok d' ∧ d'.Inv ∧ d'.outcome = d.outcome := by
  refine ⟨_, rfl, ?_⟩
  unfold honour
  cases hr : d.requests with
  | nil => exact ⟨hd, rfl⟩
  | cons request requests =>
    have hasked := asked_cons hr
    dsimp only
    cases hf : request.fullscreen? with
    | none =>
      rw [hf] at hasked
      refine hd.unchanged hd.sized rfl hd.announced ?_
      unfold outcome
      rw [hasked]
      rfl
    | some fullscreen =>
      -- what was the first of the states asked for is now the compositor's
      rw [hf] at hasked
      refine hd.unchanged hd.sized rfl (by simp) ?_
      unfold outcome
      rw [hasked, Option.toList_some, List.singleton_append, List.getLast?_cons]
      rfl

theorem announce_inv (hd : d.Inv) (offer : ConfigureOffer) :
    ∃ d', d.step (.announce offer) = .ok d' ∧ d'.Inv ∧ d'.outcome = d.outcome :=
  ⟨_, rfl, hd.unchanged hd.sized rfl (by simp) rfl⟩

/-- An acknowledgement leaves no request in flight, and asks for no fullscreen state. -/
theorem acknowledge_inv (hd : d.Inv) :
    ∃ d', d.step .acknowledge = .ok d' ∧ d'.Inv ∧ d'.outcome = d.outcome := by
  change ∃ d', d.acknowledge = .ok d' ∧ _
  unfold acknowledge
  have hannounced := hd.announced
  cases hc : d.configures with
  | nil => exact ⟨d, rfl, hd, rfl⟩
  | cons head configures =>
    obtain ⟨fullscreen, offer⟩ := head
    obtain ⟨activated, u, hstep, hsized, hfullscreen, hrequests⟩ :=
      hd.sized.acknowledge (c := offer.configure fullscreen) offer.positive
    refine ⟨_, bind_eq_ok.2 ⟨_, hstep, rfl⟩, ?_⟩
    rw [offer.isFullscreen_configure] at hfullscreen
    have houtcome : Dialogue.outcome { d with window := u, configures } = d.outcome := by
      have hnone : ∀ mode : Option DecorationMode, List.filterMap ShellRequest.fullscreen?
          (mode.map ShellRequest.setDecorationMode).toList = [] := by
        rintro (_ | _) <;> rfl
      simp [outcome, asked, hrequests, hnone]
    refine ⟨⟨hsized, ?_, ?_⟩, houtcome⟩
    · rw [hfullscreen]
      rintro _ ⟨⟩
    · rw [hc, List.map_cons, List.getLast?_cons, Option.getD_some] at hannounced
      rw [hfullscreen]
      exact hannounced

/-- The state asked for after the act. -/
def Act.outcome (d : Dialogue) : Act → Bool
  | .call fullscreen => if d.window.fullscreen.desired = fullscreen then d.outcome else fullscreen
  | _ => d.outcome

theorem step_inv (hd : d.Inv) (a : Act) :
    ∃ d', d.step a = .ok d' ∧ d'.Inv ∧ d'.outcome = a.outcome d := by
  cases a with
  | call fullscreen => exact call_inv hd fullscreen
  | send => exact send_inv hd
  | honour answer => exact honour_inv hd answer
  | announce offer => exact announce_inv hd offer
  | acknowledge => exact acknowledge_inv hd

/-! ## A whole dialogue -/

theorem run_cons {a : Act} {acts : List Act} {d' u : Dialogue} (h : d.step a = .ok u)
    (h' : run u acts = .ok d') : run d (a :: acts) = .ok d' := by
  unfold run
  rw [List.foldlM_cons, bind_eq_ok]
  exact ⟨u, h, h'⟩

theorem run_append {acts acts' : List Act} {d' u : Dialogue} (h : run d acts = .ok u)
    (h' : run u acts' = .ok d') : run d (acts ++ acts') = .ok d' := by
  unfold run
  rw [List.foldlM_append, bind_eq_ok]
  exact ⟨u, h, h'⟩

/-- Every dialogue goes on, and without calls its outcome is settled. -/
theorem run_inv : ∀ {acts : List Act} {d : Dialogue}, d.Inv →
    ∃ d', run d acts = .ok d' ∧ d'.Inv ∧ ((∀ a ∈ acts, ¬ a.IsCall) → d'.outcome = d.outcome)
  | [], d, hd => ⟨d, rfl, hd, fun _ => rfl⟩
  | a :: acts, d, hd => by
    obtain ⟨u, hstep, hu, houtcome⟩ := step_inv hd a
    obtain ⟨d', hrun, hd', hrest⟩ := @run_inv acts u hu
    refine ⟨d', run_cons hstep hrun, hd', fun hcalls => ?_⟩
    rw [hrest fun a ha => hcalls a (List.mem_cons_of_mem _ ha), houtcome]
    cases a with
    | call fullscreen => exact absurd trivial (hcalls _ (List.mem_cons_self ..))
    | _ => rfl

theorem start_inv {w : Window} (hw : w.Sized) (hnone : w.fullscreen.requested = none) :
    (start w).Inv := by
  refine ⟨hw, fun fullscreen hf => ?_, rfl⟩
  change fullscreen ∈ w.fullscreen.requested at hf
  rw [hnone] at hf
  cases hf

theorem Inv.confirmed_of_settled (hd : d.Inv) (h : d.Settled) :
    d.window.fullscreen.confirmed = d.outcome := by
  have hannounced := hd.announced
  unfold outcome
  rw [h.asked, List.getLast?_nil, Option.getD_none, ← hannounced]
  cases hlast : (d.configures.map Prod.fst).getLast? with
  | none => rfl
  | some fullscreen =>
    obtain ⟨c, hc, rfl⟩ := List.mem_map.1 (List.mem_of_getLast? hlast)
    exact (h.configures c hc).symm

/-- With a request in flight, or with nothing on the way that brings another state, the state that
seems wanted is the one that comes. -/
theorem Inv.desired_eq_outcome (hd : d.Inv)
    (h : d.window.fullscreen.requested ≠ none ∨ d.Settled) :
    d.window.fullscreen.desired = d.outcome := by
  unfold Negotiated.desired
  cases hf : d.window.fullscreen.requested with
  | some fullscreen =>
    rw [hd.requested fullscreen hf]
    rfl
  | none =>
    have hsettled := h.resolve_left (not_not_intro hf)
    rw [← hd.confirmed_of_settled hsettled]
    rfl

variable {options : WindowOptions} {ops : List Window.Op} {w : Window}

/-- The last call for a fullscreen state is heeded, once nothing is on the way, just where it was
not dropped or the state asked for before was the same. So it is where it was made with a request
in flight, or with nothing on the way that brought another state. -/
theorem fullscreen_of_quiet (hrun : Window.run (.new options) ops = .ok w)
    (hshown : w.geometry.isEmpty = .ok false) (hfloating : w.windowSize.isEmpty = .ok false)
    (hnone : w.fullscreen.requested = none)
    {before after : List Act} {fullscreen : Bool} (hafter : ∀ a ∈ after, ¬ a.IsCall) :
    ∃ d d', run (start w) before = .ok d
      ∧ run (start w) (before ++ .call fullscreen :: after) = .ok d'
      ∧ (d'.Quiet →
        (d'.window.fullscreen.confirmed = fullscreen
          ↔ d.window.fullscreen.desired ≠ fullscreen ∨ d.outcome = fullscreen)
        ∧ (d.window.fullscreen.requested ≠ none ∨ d.Settled →
          d'.window.fullscreen.confirmed = fullscreen)) := by
  have haspect := Window.run_aspect hrun (by decide : Size.Positive (1, 1))
  have hsized : w.Sized := ⟨hshown, hfloating, haspect⟩
  obtain ⟨d, hbefore, hd, -⟩ := @run_inv before _ (start_inv hsized hnone)
  obtain ⟨u, hcall, hu, houtcome⟩ := call_inv hd fullscreen
  obtain ⟨d', hlater, hd', hkept⟩ := @run_inv after u hu
  refine ⟨d, d', hbefore, run_append hbefore (run_cons hcall hlater), fun hquiet => ?_⟩
  have hend : d'.window.fullscreen.confirmed
      = if d.window.fullscreen.desired = fullscreen then d.outcome else fullscreen := by
    rw [hd'.confirmed_of_settled hquiet.settled, hkept hafter, houtcome]
  have hheeded : d'.window.fullscreen.confirmed = fullscreen
      ↔ d.window.fullscreen.desired ≠ fullscreen ∨ d.outcome = fullscreen := by
    rw [hend]
    split_ifs with hdesired <;> simp [hdesired]
  refine ⟨hheeded, fun hclear => hheeded.2 ?_⟩
  rw [← hd.desired_eq_outcome hclear]
  exact (em _).symm

def plainOffer : ConfigureOffer := ⟨(1280, 720), by decide, []⟩

/-- What was asked for first is granted. -/
def granted : List Act := [.send, .honour plainOffer, .acknowledge]

/-- A call's request is overtaken by a configure from before the compositor saw it. -/
def overtaken : List Act := [.call true, .send, .announce plainOffer, .acknowledge]

/-- The same call made again is not dropped, and both requests are granted. -/
theorem fullscreen_of_quiet_repeated : ∃ w d, Window.run (.new {}) [.reconfig 1920 1080] = .ok w
    ∧ run (start w) (overtaken ++ .call true :: (granted ++ granted)) = .ok d
    ∧ d.window.fullscreen.confirmed = true := by
  obtain ⟨w, hw, hshown, hfloating, hnone, ⟨u, hu, hdesired⟩, z, hz, hquiet⟩ :
      ∃ w, Window.run (.new {}) [.reconfig 1920 1080] = .ok w
        ∧ w.geometry.isEmpty = .ok false ∧ w.windowSize.isEmpty = .ok false
        ∧ w.fullscreen.requested = none
        ∧ (∃ u, run (start w) overtaken = .ok u ∧ u.window.fullscreen.desired ≠ true)
        ∧ ∃ z, run (start w) (overtaken ++ .call true :: (granted ++ granted)) = .ok z
          ∧ z.Quiet := by
    decide +kernel
  obtain ⟨d, d', hd, hd', hend⟩ := @fullscreen_of_quiet {} [.reconfig 1920 1080] w hw hshown
    hfloating hnone overtaken (granted ++ granted) true (by simp [granted, Act.IsCall])
  obtain rfl : u = d := Except.ok.inj (hu.symm.trans hd)
  obtain rfl : z = d' := Except.ok.inj (hz.symm.trans hd')
  exact ⟨w, z, hw, hz, (hend hquiet).1.2 (.inl hdesired)⟩

/-- Once both ways are empty, the window has the state it was called for last. -/
def LastCallDecides (w : Window) (before : List Act) (fullscreen : Bool) (after : List Act) :
    Prop :=
  ∃ d, run (start w) (before ++ .call fullscreen :: after) = .ok d
    ∧ (d.Quiet → d.window.fullscreen.confirmed = fullscreen)

/-- A request that was overtaken is no longer in flight, so that the call to go back is dropped. And
a window that left its fullscreen state for a floating rectangle that is empty heeds no configure
any more, even where every call is answered before the next. -/
theorem exists_call_lost :
    (¬ ∀ (options : WindowOptions) (ops : List Window.Op) (w : Window),
      Window.run (.new options) ops = .ok w → w.geometry.isEmpty = .ok false →
      w.fullscreen.requested = none → w.requests = [] →
      ∀ before fullscreen after, (∀ a ∈ after, ¬ a.IsCall) →
        LastCallDecides w before fullscreen after)
    ∧ ¬ ∀ (options : WindowOptions) (ops : List Window.Op) (w : Window),
      Window.run (.new options) ops = .ok w → w.geometry.isEmpty = .ok false →
      w.fullscreen.requested = none → w.requests = [] →
      ∀ before fullscreen after, (∀ a ∈ after, ¬ a.IsCall) →
        (∃ d, run (start w) before = .ok d ∧ d.Quiet) →
        LastCallDecides w before fullscreen after := by
  have hgranted : ∀ a ∈ granted, ¬ a.IsCall := by simp [granted, Act.IsCall]
  constructor <;> intro hall
  · obtain ⟨w, hw, hshown, hnone, hempty, z, hz, hquiet, hlost⟩ :
        ∃ w, Window.run (.new {}) [.reconfig 1920 1080] = .ok w
          ∧ w.geometry.isEmpty = .ok false ∧ w.fullscreen.requested = none ∧ w.requests = []
          ∧ ∃ z, run (start w) (overtaken ++ .call false :: granted) = .ok z
            ∧ z.Quiet ∧ z.window.fullscreen.confirmed ≠ false := by
      decide +kernel
    obtain ⟨d, hd, hdecides⟩ := hall {} _ w hw hshown hnone hempty overtaken false granted hgranted
    obtain rfl : z = d := Except.ok.inj (hz.symm.trans hd)
    exact hlost (hdecides hquiet)
  · obtain ⟨w, hw, hshown, hnone, hempty, hanswered, z, hz, hquiet, hlost⟩ :
        ∃ w, Window.run (.new {}) [.reconfig 1920 1080, .configureToplevel 1280 720 [.fullscreen],
            .configureSurface, .setUnfullscreenSize 0 0] = .ok w
          ∧ w.geometry.isEmpty = .ok false ∧ w.fullscreen.requested = none ∧ w.requests = []
          ∧ (∃ d, run (start w) (.call false :: granted) = .ok d ∧ d.Quiet)
          ∧ ∃ z, run (start w) ((.call false :: granted) ++ .call true :: granted) = .ok z
            ∧ z.Quiet ∧ z.window.fullscreen.confirmed ≠ true := by
      decide +kernel
    obtain ⟨d, hd, hdecides⟩ := hall {} _ w hw hshown hnone hempty (.call false :: granted) true
      granted hgranted hanswered
    obtain rfl : z = d := Except.ok.inj (hz.symm.trans hd)
    exact hlost (hdecides hquiet)

end Dialogue

end VideoOutput
