import VideoOutput.Proofs.Client.Layout
import VideoOutput.Proofs.Exchange.History

/-!
# Layouts are up to date

A window that changes its geometry or its video asks for a resize, and it is asked for until events
are checked for, which lays the surfaces out. So after a check the layout that the surfaces were
given last is the one that the window calls for (`check_fresh`), whatever was called and whatever
came in before. The requests that gave it are in force, but for one: a viewport takes no empty size,
and where the picture has an empty side the surface of the video keeps the size it had.
-/

namespace VideoOutput

open Wire

namespace Client

variable {c d : Client} {l : Layout}

/-- What the compositor was told last is the layout: what of the main surface is covered, and where
the video lies and, if it has a size, how large it is. -/
structure Shows (c : Client) (l : Layout) : Prop where
  covered : ∃ region, c.log.InForce
    [⟨c.bindings.compositor, .createRegion, [.new region]⟩,
      ⟨region, .add, [.int 0, .int 0, .int l.window.1, .int l.window.2]⟩]
    ⟨c.surface, .setOpaqueRegion, [.object region]⟩
  placed : ∀ video, c.video = some video →
    c.log.InForce [] ⟨video.subsurface, .setPosition, [.int l.video.x0, .int l.video.y0]⟩
  scaled : ∀ video viewport, c.video = some video → video.viewport = some viewport →
    0 < l.videoSize.1 ∧ 0 < l.videoSize.2 →
    c.log.InForce [] ⟨viewport, .setDestination, [.int l.videoSize.1, .int l.videoSize.2]⟩

theorem Shows.continues (h : c.Shows l) (hcd : c.Continues d) : d.Shows l where
  covered := by
    rw [hcd.bindings, hcd.surface]
    exact h.covered.imp fun region hregion => hregion.continues rfl hcd.log
  placed video hvideo := (h.placed video (hcd.video ▸ hvideo)).continues rfl hcd.log
  scaled video viewport hvideo hviewport hsize :=
    (h.scaled video viewport (hcd.video ▸ hvideo) hviewport hsize).continues rfl hcd.log

theorem verb_of_mem_videoRequests {video : VideoSurface} {r : Request}
    (h : r ∈ videoRequests l video) : r.verb = .setDestination ∨ r.verb = .setPosition := by
  rcases List.mem_append.1 h with h | h
  · split_ifs at h
    · obtain ⟨viewport, -, rfl⟩ := List.mem_map.1 h
      exact .inl rfl
    · cases h
  · rw [List.mem_singleton.1 h]
    exact .inr rfl

theorem applyLayout_shows (c : Client) (l : Layout) : (c.applyLayout l).Shows l := by
  have hissued := c.applyLayout_issued l
  have hbindings : (c.applyLayout l).bindings = c.bindings := rfl
  have hsurface : (c.applyLayout l).surface = c.surface := rfl
  constructor
  -- each time, what follows the request in the layout is of other verbs
  · refine ⟨c.log.fresh .region, c.log.issued,
      ⟨c.log.fresh .region, .destroy, []⟩ :: (c.viewport.toList.map (scaleRequest · l.mainSize)
        ++ c.video.toList.flatMap (videoRequests l) ++ [⟨c.surface, .commit, []⟩]), ?_, ?_⟩
    · rw [hissued, layoutRequests, mainRequests]
      simp [hbindings, hsurface]
    · rintro q hq ⟨-, hverb⟩
      simp only [List.mem_cons, List.mem_append, List.mem_map, List.mem_flatMap,
        List.not_mem_nil, or_false] at hq
      rcases hq with rfl | (⟨viewport, -, rfl⟩ | ⟨video, -, hq⟩) | rfl
      · cases hverb
      · cases hverb
      · rcases verb_of_mem_videoRequests hq with h | h <;> cases h.symm.trans hverb
      · cases hverb
  · intro video hvideo
    refine ⟨c.log.issued ++ c.mainRequests l ++ (if 0 < l.videoSize.1 ∧ 0 < l.videoSize.2 then
      video.viewport.toList.map (scaleRequest · l.videoSize) else []), [⟨c.surface, .commit, []⟩],
      ?_, ?_⟩
    · rw [hissued, layoutRequests, show c.video = some video from hvideo]
      simp [videoRequests]
    · simp
  · intro video viewport hvideo hviewport hsize
    refine ⟨c.log.issued ++ c.mainRequests l,
      [⟨video.subsurface, .setPosition, [.int l.video.x0, .int l.video.y0]⟩,
        ⟨c.surface, .commit, []⟩], ?_, ?_⟩
    · rw [hissued, layoutRequests, show c.video = some video from hvideo]
      simp [videoRequests, hviewport, hsize, scaleRequest]
    · simp

/-- The surfaces have the layout that the window calls for, if it calls for one. -/
def Fresh (c : Client) : Prop :=
  c.window.dueLayout = .ok none
    ∨ ∃ l, c.window.dueLayout = .ok (some l) ∧ c.layout = some l ∧ c.Shows l

/-- The layout is the one that is called for, or a resize is still to be taken. -/
def Tracked (c : Client) : Prop := c.window.events.resize = true ∨ c.Fresh

theorem Tracked.continues (h : c.Tracked) (hcd : c.Continues d) : d.Tracked := by
  -- either the window changed what its layout is computed from, and then it says so, or not
  rcases hcd.window.geometry with hgeometry | hresize
  · rcases hcd.window.videoSize with hvideo | hresize
    · have hdue : d.window.dueLayout = c.window.dueLayout := by
        unfold Window.dueLayout
        rw [hgeometry, hvideo, hcd.window.keepAspect]
      refine h.imp hcd.window.events.resize ?_
      rintro (hnone | ⟨l, hl, hlayout, hshows⟩)
      · exact .inl (hdue.trans hnone)
      · exact .inr ⟨l, hdue.trans hl, hcd.layout.trans hlayout, hshows.continues hcd⟩
    · exact .inl hresize
  · exact .inl hresize

theorem setUp_window (globals : List Global) (s : Settings) :
    Answers (fun c _ => c.window = .new s.windowOptions) (setUp globals s) := by
  unfold setUp
  iterate 8 refine .bind fun _ => ?_
  dsimp only
  split_ifs
  all_goals
    iterate 3 refine .bind fun _ => ?_
    exact .pure fun _ => rfl

/-- The window of a client that opens is empty. -/
theorem new_tracked {globals : List Global} {s : Settings} (h : Client.new globals s = .ok c) :
    c.Tracked := by
  have hwindow : c.window = .new s.windowOptions := new_answers (setUp_window globals s) h
  refine .inr (.inl ?_)
  rw [hwindow]
  unfold Window.new
  split_ifs <;> rfl

/-- A client that lays its surfaces out anew is up to date, unless arithmetic ends it. -/
theorem relayout_fresh (c : Client) :
    (∃ fault, relayout.run c = (.error fault, c))
      ∨ ∃ d, relayout.run c = (.ok (), d) ∧ d.Fresh := by
  rcases c.relayout_cases with ⟨fault, -, hrun⟩ | ⟨hnone, hrun⟩ | ⟨l, hl, hrun⟩
  · exact .inl ⟨fault, hrun⟩
  · exact .inr ⟨c, hrun, .inl hnone⟩
  · exact .inr ⟨_, hrun, .inr ⟨l, hl, rfl, c.applyLayout_shows l⟩⟩

/-- Taking the events changes nothing about the layout. -/
theorem Fresh.takeEvents (h : c.Fresh) : { c with window := c.window.takeEvents.2 }.Fresh :=
  h.imp id fun ⟨l, hl, hlayout, hshows⟩ => ⟨l, hl, hlayout, ⟨hshows.1, hshows.2, hshows.3⟩⟩

end Client

namespace Talk

variable {σ : Type} {x : Exchange σ}

/-- The end of a check: the events are taken, and a resize is laid out. -/
def takeAndLayOut : Talk σ WindowEvents := do
  let events ← ask fun c =>
    let (events, window) := c.window.takeEvents
    (events, { c with window })
  if events.resize then
    modifyClient fun c => { c with pacer := c.pacer.resetVisibility }
    act Client.relayout
  return events

theorem takeAndLayOut_cases (h : x.client.Tracked) :
    (∃ fault y, takeAndLayOut.run.run x = (.error (.fault fault), y))
      ∨ ∃ events y, takeAndLayOut.run.run x = (.ok events, y) ∧ y.client.Fresh := by
  have hrun : takeAndLayOut.run.run x = (do
      if x.client.window.takeEvents.1.resize then
        modifyClient fun c => { c with pacer := c.pacer.resetVisibility }
        act Client.relayout
      return x.client.window.takeEvents.1 : Talk σ WindowEvents).run.run
        { x with client := { x.client with window := x.client.window.takeEvents.2 } } := rfl
  by_cases hresize : x.client.window.takeEvents.1.resize = true
  · rw [if_pos hresize] at hrun
    let c : Client := { x.client with
      window := x.client.window.takeEvents.2, pacer := x.client.pacer.resetVisibility }
    have hend : takeAndLayOut.run.run x
      = (act Client.relayout >>= fun _ => pure x.client.window.takeEvents.1 :
        Talk σ WindowEvents).run.run { x with client := c } := hrun
    have hact := act_run Client.relayout { x with client := c }
    rcases c.relayout_fresh with ⟨fault, hlaid⟩ | ⟨d, hlaid, hfresh⟩
    · rw [hlaid] at hact
      exact .inl ⟨fault, _, hend.trans (run_bind_of_error hact)⟩
    · rw [hlaid] at hact
      exact .inr ⟨_, _, hend.trans (run_bind_of_ok hact), hfresh⟩
  · rw [if_neg hresize] at hrun
    have hnone : ¬ x.client.window.events.resize = true := fun hpending =>
      hresize (x.client.window.among_takeEvents.resize hpending)
    exact .inr ⟨_, _, hrun, (h.resolve_left hnone).takeEvents⟩

theorem check_cases (p : Peer σ) (h : x.client.Tracked) :
    (∃ fault y, (check p).run.run x = (.error (.fault fault), y))
      ∨ (∃ error y, (check p).run.run x = (.error (.error error), y) ∧ y.client.Tracked)
      ∨ ∃ events y, (check p).run.run x = (.ok events, y) ∧ y.client.Fresh := by
  have hcheck : check p = (do
      let _ ← dispatch p false false
      modifyClient Client.flushShellRequests
      takeAndLayOut) := rfl
  -- until the events are taken a check is work like any other
  have hdispatch := leads_dispatch p false false x
  rw [hcheck]
  rcases run_bind_cases (dispatch p false false)
    (fun _ => modifyClient Client.flushShellRequests >>= fun _ => takeAndLayOut) x
    with ⟨count, y, hy, hall⟩ | ⟨stop, y, hy, hall⟩
  · rw [hy] at hdispatch
    have hflushed := (h.continues hdispatch).continues
      y.client.stays_flushShellRequests.toContinues
    have hend : (modifyClient Client.flushShellRequests >>= fun _ => takeAndLayOut).run.run y
      = takeAndLayOut.run.run { y with client := y.client.flushShellRequests } := rfl
    rw [hall, hend]
    exact (takeAndLayOut_cases hflushed).imp id .inr
  · rw [hy] at hdispatch
    rw [hall]
    cases stop with
    | fault fault => exact .inl ⟨fault, y, rfl⟩
    | error error => exact .inr (.inl ⟨error, y, rfl, h.continues hdispatch⟩)

end Talk

namespace Exchange

variable {σ : Type} {p : Peer σ} {x y z : Exchange σ}

theorem step_tracked {s : Step σ} (hx : x.client.Tracked) (h : step p x s = .ok y) :
    y.client.Tracked := by
  cases s with
  | link change =>
    cases h
    exact hx
  | call rounds call =>
    obtain ⟨rfl, hsound⟩ := step_call_ok h
    by_cases hcall : call = .check
    · subst hcall
      have hanswer : Talk.answer p rounds .check
        = (Talk.check p >>= fun events => pure (.events events)) := rfl
      rw [hanswer] at hsound ⊢
      rcases Talk.check_cases p hx with ⟨fault, u, hcheck⟩ | ⟨error, u, hcheck, hu⟩ |
        ⟨events, u, hcheck, hu⟩
      · rw [run_bind_of_error hcheck] at hsound
        exact absurd rfl (hsound fault)
      · rw [run_bind_of_error hcheck]
        exact hu
      · rw [run_bind_of_ok hcheck]
        exact .inr hu
    · exact hx.continues (Talk.leads_answer p rounds hcall x)

theorem run_tracked : ∀ {steps : List (Step σ)} {x y : Exchange σ}, x.client.Tracked →
    run p x steps = .ok y → y.client.Tracked
  | [], x, y, hx, h => by
    cases h
    exact hx
  | s :: steps, x, y, hx, h => by
    obtain ⟨u, hstep, hrun⟩ := run_cons.1 h
    exact run_tracked (step_tracked hx hstep) hrun

/-- After any history a check that succeeds leaves a window that shows something with the layout
that it calls for, computed from the geometry, the video and the setting it then has. -/
theorem check_fresh {globals : List Global} {s : Settings} {c : Client} {link : Link σ}
    {steps : List (Step σ)} {events : WindowEvents} (hnew : Client.new globals s = .ok c)
    (hopened : (Talk.introduce p s).run.run ⟨c, link⟩ = (.ok (), x))
    (hrun : run p x steps = .ok y) (hcheck : (Talk.check p).run.run y = (.ok events, z))
    (hshown : z.client.window.geometry.isEmpty = .ok false) :
    ∃ l, z.client.window.dueLayout = .ok (some l) ∧ z.client.layout = some l
      ∧ z.client.Shows l := by
  have hintroduced : c.Continues x.client := by
    have h := Talk.leads_introduce p s ⟨c, link⟩
    rw [hopened] at h
    exact h
  have htracked := run_tracked ((Client.new_tracked hnew).continues hintroduced) hrun
  rcases Talk.check_cases p htracked with ⟨fault, u, h⟩ | ⟨error, u, h, -⟩ | ⟨taken, u, h, hfresh⟩
  · cases h.symm.trans hcheck
  · cases h.symm.trans hcheck
  · cases h.symm.trans hcheck
    exact hfresh.resolve_left (Layout.of?_ne_none hshown)

/-- A compositor that takes every request and says nothing. -/
def silent : Peer Unit := ⟨fun _ _ => ([], ())⟩

/-- It offers one output, of the first version. -/
def silentGlobals : List Global := Client.scalingGlobals ++ [⟨6, .output, 1⟩]

/-- A client of that compositor has opened. -/
def opened (c : Client) : Except Stop Unit × Exchange Unit :=
  (Talk.introduce silent {}).run.run ⟨c, { peer := () }⟩

/-- A video is configured, and the window is made fullscreen at a size of its own. -/
def fullscreenSteps (video window : Size) : List (Step Unit) :=
  [.call 0 (.reconfig video.1 video.2),
    .link (·.deliver [⟨⟨.toplevel, 1⟩, .toplevelConfigure window.1 window.2 [2, 0, 0, 0]⟩,
      ⟨⟨.shellSurface, 1⟩, .surfaceConfigure 1⟩])]

/-- A wide video in a square window, 218 units below its upper side. -/
theorem check_fresh_letterboxed : ∃ c, Client.new silentGlobals {} = .ok c ∧ (opened c).1 = .ok ()
    ∧ ∃ y, run silent (opened c).2 (fullscreenSteps (1920, 1080) (1000, 1000)) = .ok y
    ∧ ∃ events, ((Talk.check silent).run.run y).1 = .ok events
      ∧ ((Talk.check silent).run.run y).2.client.Shows
        ⟨(1000, 1000), ⟨0, 218, 1000, 781⟩, (1000, 563), (1000, 999)⟩ := by
  obtain ⟨c, hnew, hopened, y, hrun, events, hcheck, hshown, hlayout⟩ :
      ∃ c, Client.new silentGlobals {} = .ok c ∧ (opened c).1 = .ok ()
      ∧ ∃ y, run silent (opened c).2 (fullscreenSteps (1920, 1080) (1000, 1000)) = .ok y
      ∧ ∃ events, ((Talk.check silent).run.run y).1 = .ok events
        ∧ ((Talk.check silent).run.run y).2.client.window.geometry.isEmpty = .ok false
        ∧ ((Talk.check silent).run.run y).2.client.layout
          = some ⟨(1000, 1000), ⟨0, 218, 1000, 781⟩, (1000, 563), (1000, 999)⟩ := by
    decide +kernel
  obtain ⟨l, -, hl, hshows⟩ :=
    check_fresh hnew (Prod.ext hopened rfl) hrun (Prod.ext hcheck rfl) hshown
  cases hlayout.symm.trans hl
  exact ⟨c, hnew, hopened, y, hrun, events, hcheck, hshows⟩

/-- A square video that fills a square window is replaced by one so tall that it has no width there:
it is laid out anew, but its surface keeps the size that the first video had. -/
theorem exists_kept_destination : ∃ c, Client.new silentGlobals {} = .ok c ∧ (opened c).1 = .ok ()
    ∧ ∃ y, run silent (opened c).2 (fullscreenSteps (100, 100) (100, 100)
        ++ [.call 0 .check, .call 0 (.reconfig 1 1000)]) = .ok y
    ∧ ∃ events, ((Talk.check silent).run.run y).1 = .ok events
      ∧ ((Talk.check silent).run.run y).2.client.window.geometry = .ofSize 100 100
      ∧ ((Talk.check silent).run.run y).2.client.window.videoSize = (1, 1000)
      ∧ ((Talk.check silent).run.run y).2.client.layout
        = some ⟨(100, 100), ⟨50, 0, 50, 100⟩, (0, 100), (100, 100)⟩
      ∧ ((Talk.check silent).run.run y).2.client.destinations ⟨.viewport, 2⟩
        = [[.int 100, .int 100]] := by
  decide +kernel

end Exchange

end VideoOutput
