import VideoOutput.Proofs.Client.Holdings
import VideoOutput.Proofs.Client.Turns

/-!
# From opening to closing

A client that opens is in order (`new_orderly`), and one that closes ends what it has in the order
of `endings` (`close_issued`): its buffers, what else it made meanwhile, and what it had from the
start, everything before what it belongs to. So a client that is in order when it closes has ended
all lives well (`Orderly.concluded`).
-/

namespace VideoOutput

open Wire

theorem pair_sublist {α : Type} {a b : α} {l₁ l₂ : List α} (ha : a ∈ l₁) (hb : b ∈ l₂) :
    [a, b].Sublist (l₁ ++ l₂) :=
  (List.singleton_sublist.2 ha).append (List.singleton_sublist.2 hb)

theorem VideoSurface.ties_sublist {v : VideoSurface} :
    ∀ t ∈ v.ties, [t.1, t.2].Sublist v.objects := by
  intro t ht
  obtain ⟨o, ho, rfl⟩ := List.mem_map.1 ht
  have hobjects : v.objects = (v.viewport.toList ++ [v.subsurface]) ++ [v.surface] := by
    rw [objects, List.append_assoc]
    rfl
  rw [hobjects]
  exact pair_sublist ho (List.mem_singleton_self v.surface)

namespace Client

variable {seen : List Request} {c : Client}

/-! ## Closing -/

/-- What ends after the buffers. -/
def closing (c : Client) : List Object :=
  c.solid.toList.flatMap SolidBuffer.objects ++ c.inhibitor.toList ++ c.fixtures

/-- What ends when the client closes, in that order. -/
def endings (c : Client) : List Object := c.buffers ++ c.closing

theorem filterMap_id_cons {α : Type} (a : Option α) (l : List (Option α)) :
    (a :: l).filterMap id = a.toList ++ l.filterMap id := by
  cases a <;> rfl

theorem forM_unmake_toList (o : Option Object) :
    o.forM Issuing.unmake = o.toList.forM Issuing.unmake := by
  cases o <;> simp [Option.forM]

theorem run_forM_unmake (os : List Object) (l : RequestLog) :
    ((os.forM Issuing.unmake).run l).2 = (os.map Request.ending).foldl RequestLog.issue l := by
  induction os generalizing l with
  | nil => rfl
  | cons o os ih => exact ih (l.issue (.ending o))

theorem clear_log (p : BufferPool Object) (dmabuf : Option Object) (l : RequestLog) :
    (p.clear (allocator dmabuf) l).2 = (p.buffers.map Request.ending).foldl RequestLog.issue l := by
  unfold BufferPool.clear BufferPool.buffers
  rw [List.map_map, List.foldl_map]
  rfl

/-- A client closes by ending one thing after another. -/
theorem close_eq (c : Client) : c.close = { (c.clearPool.issuing
    (c.clearPool.closing.forM Issuing.unmake)).2 with pool := none } := by
  unfold close
  generalize c.clearPool = d
  simp only [closing, fixtures, Bindings.managers, List.append_assoc, forM_unmake_toList,
    filterMap_id_cons, List.filterMap_nil, List.append_nil]
  rcases d.solid with _ | solid <;> rcases d.video with _ | video <;>
    simp [SolidBuffer.objects, VideoSurface.objects, List.forM_append]

theorem close_log (c : Client) :
    c.close.log = (c.endings.map Request.ending).foldl RequestLog.issue c.log := by
  have hcleared : c.clearPool.closing = c.closing
      ∧ c.clearPool.log = (c.buffers.map Request.ending).foldl RequestLog.issue c.log := by
    unfold clearPool buffers
    rcases c.pool with _ | pool
    · exact ⟨rfl, rfl⟩
    · exact ⟨rfl, clear_log pool _ c.log⟩
  rw [close_eq, endings, List.map_append, List.foldl_append, ← hcleared.1, ← hcleared.2]
  exact run_forM_unmake _ _

/-- Everything ends before what it belongs to. -/
theorem ties_sublist : ∀ t ∈ c.ties, [t.1, t.2].Sublist c.endings := by
  have hfixtures : c.fixtures.Sublist c.endings :=
    (List.sublist_append_right _ _).trans (List.sublist_append_right _ _)
  have hwindow : [c.toplevel, c.shellSurface, c.surface].Sublist c.fixtures :=
    (List.sublist_append_right _ _).trans
      ((List.sublist_append_left _ _).trans (List.sublist_append_left _ _))
  have hviews {o p : Object} (ho : o ∈ c.decoration.toList ++ c.viewport.toList)
      (hp : p ∈ [c.toplevel, c.shellSurface, c.surface]) : [o, p].Sublist c.fixtures :=
    (pair_sublist (List.mem_append_left _ (List.mem_append_left _ ho)) hp).trans
      ((List.sublist_append_left _ _).trans (List.sublist_append_left _ _))
  have hvideo {video : VideoSurface} (h : video ∈ c.video) : video.objects.Sublist c.fixtures := by
    have hall : c.video.toList.flatMap VideoSurface.objects = video.objects := by
      rw [Option.mem_def.1 h]
      exact List.append_nil _
    rw [fixtures, hall]
    exact (List.sublist_append_right _ _).trans ((List.sublist_append_left _ _).trans
      ((List.sublist_append_left _ _).trans ((List.sublist_append_left _ _).trans
        (List.sublist_append_left _ _))))
  intro t ht
  refine List.Sublist.trans ?_ hfixtures
  simp only [ties, List.mem_append, List.mem_map, List.mem_cons, List.mem_flatMap,
    List.not_mem_nil, or_false, Option.mem_toList] at ht
  rcases ht with ((⟨decoration, hdecoration, rfl⟩ | rfl | rfl) | ⟨viewport, hviewport, rfl⟩) |
    ⟨video, hmem, ht⟩
  · exact hviews (List.mem_append_left _ (Option.mem_toList.2 hdecoration)) (by simp)
  · exact .trans (by simp) hwindow
  · exact .trans (by simp) hwindow
  · exact hviews (List.mem_append_right _ (Option.mem_toList.2 hviewport)) (by simp)
  · exact (VideoSurface.ties_sublist t ht).trans (hvideo hmem)

theorem held_eq : c.held = c.endings + (c.guests + c.grounds) := by
  unfold held holding endings closing extras
  simp only [← Multiset.coe_add]
  abel

/-- All that the client has ended when it has closed. -/
theorem Orderly.concluded (h : c.Orderly seen) : Request.Concluded c.close.log.issued := by
  have hledger := h.ledger
  rw [held_eq] at hledger
  have hnodup : c.endings.Nodup := (Multiset.nodup_add.1 hledger.nodup).1
  rw [close_log, RequestLog.foldl_issue]
  refine hledger.concluded hnodup (fun o ho => Multiset.mem_add.2 (.inl ho)) (fun o ho howned => ?_)
    ties_sublist
  refine (Multiset.mem_add.1 ho).resolve_right fun hfree => ?_
  cases (h.free o hfree).symm.trans howned

/-- What is in the outbox of a client that has closed is all that its peer has not received yet. -/
theorem Orderly.append_outbox (h : c.Orderly seen) :
    seen ++ c.close.log.outbox = c.close.log.issued := by
  rw [close_log, RequestLog.foldl_issue]
  exact RequestLog.append_outbox (h.ledger.received.trans (List.prefix_append _ _)) h.ledger.sent

/-! ## Opening -/

section Opening

variable {ties : List (Object × Object)} {held : Multiset Object}

theorem secures_bindFirst (globals : List Global) (interface : Interface) (least greatest : Nat) :
    Secures (Ledger seen ties · held) (bindFirst globals interface least greatest)
      fun o l => (∀ x ∈ o, x.interface = interface) ∧ Ledger seen ties l (o.toList + held) := by
  have hnone : Secures (Ledger seen ties · held) (pure none : Issuing (Option Object))
      fun o l => (∀ x ∈ o, x.interface = interface) ∧ Ledger seen ties l (o.toList + held) :=
    .pure fun l h => ⟨nofun, by simpa using h⟩
  unfold bindFirst
  split
  · rename_i global hglobal
    have hinterface : global.interface = interface := by simpa using List.find?_some hglobal
    split_ifs
    · exact .bind (Ledger.secures_bind global greatest) fun o => .pure fun l h =>
        ⟨fun x hx => (Option.mem_some.1 hx) ▸ h.1.trans hinterface, h.2⟩
    · exact hnone
  · exact hnone

theorem secures_bindNeeded (globals : List Global) (interface : Interface) (greatest : Nat) :
    Secures (Ledger seen ties · held) (bindNeeded globals interface greatest).run
      (IfOk fun o l => o.interface = interface ∧ Ledger seen ties l (o ::ₘ held)) := by
  refine .except_bind (.except_lift (secures_bindFirst globals interface 1 greatest)) fun o => ?_
  cases o with
  | none => exact fun l _ o h => by cases h
  | some o => exact .except_pure fun l h => ⟨h.1 o rfl, h.2⟩

/-- The objects of the globals that are bound. -/
def Bindings.objects (b : Bindings) : Multiset Object :=
  ↑(b.managers ++ [b.shell]) + ↑[b.compositor, b.shm]

theorem secures_bindAll (globals : List Global) :
    Secures (Ledger seen ties · 0) (bindAll globals).run
      (IfOk fun b l => (b.compositor.interface = .compositor ∧ b.shm.interface = .shm)
        ∧ Ledger seen ties l (Bindings.objects b)) := by
  unfold bindAll
  refine .except_bind (secures_bindNeeded _ _ _) fun compositor => .of_and fun hcompositor => ?_
  refine .except_bind (secures_bindNeeded _ _ _) fun shm => .of_and fun hshm => ?_
  refine .except_bind (secures_bindNeeded _ _ _) fun shell => .of_and fun _ => ?_
  iterate 6
    refine .except_bind (.except_lift (secures_bindFirst _ _ _ _)) fun _ => .of_and fun _ => ?_
  refine .except_pure fun l h => ⟨⟨hcompositor, hshm⟩, ?_⟩
  convert h using 1
  simp only [Bindings.objects, Bindings.managers, filterMap_id_cons, List.filterMap_nil,
    ← Multiset.coe_add, ← Multiset.cons_coe, Multiset.coe_nil, ← Multiset.singleton_add]
  abel

theorem secures_getViewport {viewporter : Option Object} (hmem : ∀ o ∈ viewporter, o ∈ held)
    (surface : Object) : Secures (Ledger seen ties · held) (getViewport viewporter surface)
      fun o l => Ledger seen (o.toList.map (·, surface) ++ ties) l (o.toList + held) := by
  cases viewporter with
  | none => exact .pure fun l h => by simpa using h
  | some viewporter =>
    have hmake : Secures (Ledger seen ties · held)
        (Issuing.make viewporter .getViewport .viewport [] [.object surface])
        fun o l => o.interface = .viewport ∧ Ledger seen ((o, surface) :: ties) l (o ::ₘ held) :=
      Ledger.secures_makeTied surface (hmem viewporter rfl) rfl rfl fun _ => rfl
    exact fun l h => (hmake l h).2

/-- What there may be, with all that belongs to it. -/
theorem secures_mapM_option {α γ : Type} {o : Option γ} {f : γ → Issuing α}
    (objects : α → List Object) (tiesOf : α → List (Object × Object))
    (h : ∀ a ∈ o, Secures (Ledger seen ties · held) (f a)
      fun x l => Ledger seen (tiesOf x ++ ties) l (objects x + held)) :
    Secures (Ledger seen ties · held) (o.mapM f) fun x l =>
      Ledger seen (x.toList.flatMap tiesOf ++ ties) l (x.toList.flatMap objects + held) := by
  cases o with
  | none => exact .pure fun l hledger => by simpa using hledger
  | some a =>
    have hone {δ : Type} (g : α → List δ) (x : α) : (some x).toList.flatMap g = g x :=
      List.append_nil _
    refine fun l hledger => ?_
    change Ledger seen ((some ((f a).run l).1).toList.flatMap tiesOf ++ ties) ((f a).run l).2
      ((some ((f a).run l).1).toList.flatMap objects + held)
    rw [hone, hone]
    exact h a rfl l hledger

/-- The region that keeps input from the video's surface ends at once. -/
theorem secures_makeVideoSurface {b : Bindings} {subcompositor : Object} (main : Object)
    (hcompositor : b.compositor ∈ held) (hsubcompositor : subcompositor ∈ held)
    (hviewporter : ∀ o ∈ b.viewporter, o ∈ held) :
    Secures (Ledger seen ties · held) (makeVideoSurface b subcompositor main)
      fun v l => Ledger seen (v.ties ++ ties) l (v.objects + held) := by
  refine .bind (Ledger.secures_make hcompositor rfl rfl fun _ => rfl) fun surface =>
    .of_and fun _ => ?_
  refine .bind (Ledger.secures_makeTied surface (by simp [hsubcompositor]) rfl rfl
    fun _ => rfl) fun subsurface => .of_and fun _ => ?_
  refine .bind (Ledger.secures_ask (by simp) rfl rfl) fun _ => ?_
  refine .bind (Ledger.secures_make (by simp [hcompositor]) rfl rfl fun _ => rfl) fun region =>
    .of_and fun hregion => ?_
  refine .bind (Ledger.secures_ask (by simp) rfl rfl) fun _ => ?_
  refine .bind (Ledger.secures_unmake (hregion ▸ rfl)) fun _ => ?_
  refine .bind (secures_getViewport (fun o ho => by simp [hviewporter o ho]) surface)
    fun viewport => .pure fun l h => ?_
  rw [VideoSurface.ties, VideoSurface.objects, List.map_append, List.append_assoc,
    ← Multiset.coe_add, add_assoc, ← Multiset.cons_coe, ← Multiset.cons_coe, Multiset.cons_add,
    Multiset.cons_add, Multiset.coe_nil, zero_add]
  exact h

theorem secures_bindSeats {globals : List Global} (h : ∀ g ∈ globals, g.interface = .seat) :
    Secures (Ledger seen ties · held) (globals.mapM bindSeat)
      fun _ l => Ledger seen ties l held := by
  induction globals with
  | nil => exact .pure fun _ hledger => hledger
  | cons g globals ih =>
    obtain ⟨hg, hglobals⟩ := List.forall_mem_cons.1 h
    rw [List.mapM_cons]
    have hseat : Secures (Ledger seen ties · held) (bindSeat g)
        fun _ l => Ledger seen ties l held :=
      .bind (Ledger.secures_bind g seatVersion) fun o => .of_and fun ho =>
        .pure fun _ hledger => hledger.drop (by rw [ho, hg]; rfl)
    exact .bind hseat fun _ => .bind (ih hglobals) fun _ => .pure fun _ hledger => hledger

theorem secures_bindOutputs {globals : List Global} (h : ∀ g ∈ globals, g.interface = .output) :
    Secures (Ledger seen ties · held) (globals.mapM bindOutput)
      fun os l => (∀ o ∈ os.map TrackedOutput.object, o.interface = .output)
        ∧ Ledger seen ties l (os.map TrackedOutput.object + held) := by
  induction globals generalizing held with
  | nil => exact .pure fun _ hledger => ⟨List.forall_mem_nil _, by simpa using hledger⟩
  | cons g globals ih =>
    obtain ⟨hg, hglobals⟩ := List.forall_mem_cons.1 h
    rw [List.mapM_cons]
    have hbound : Secures (Ledger seen ties · held) (bindOutput g) fun t l =>
        t.object.interface = .output ∧ Ledger seen ties l (t.object ::ₘ held) :=
      .bind (Ledger.secures_bind g outputVersion) fun o => .of_and fun ho =>
        .pure fun _ hledger => ⟨ho.trans hg, hledger⟩
    refine .bind hbound fun t => .of_and fun ht => .bind (ih hglobals) fun os =>
      .of_and fun hos => .pure fun l hledger => ⟨List.forall_mem_cons.2 ⟨ht, hos⟩, ?_⟩
    rw [List.map_cons, ← Multiset.cons_coe, Multiset.cons_add, ← Multiset.add_cons]
    exact hledger

end Opening

/-- A client that holds only what it has from the start and its outputs. -/
theorem orderly_of_start {ties : List (Object × Object)} {held : Multiset Object}
    (h : Ledger seen ties c.log held) (hties : ties ⊆ c.ties)
    (hheld : held = c.outputs.live + (c.fixtures + c.grounds))
    (hempty : c.pool = none ∧ c.solid = none ∧ c.inhibitor = none ∧ c.seats.devices = [])
    (houtputs : ∀ o ∈ c.outputs.live, o.interface = .output)
    (hgrounds : c.bindings.compositor.interface = .compositor ∧ c.bindings.shm.interface = .shm) :
    c.Orderly seen := by
  obtain ⟨hpool, hsolid, hinhibitor, hdevices⟩ := hempty
  have hbuffers : c.buffers = [] := by rw [buffers, hpool]; rfl
  have hextras : c.extras = 0 := by rw [extras, hsolid, hinhibitor]; rfl
  have hguests : c.guests = c.outputs.live := by rw [guests, hdevices]; exact zero_add _
  refine ⟨?_, fun o ho => ?_, fun o ho => ?_⟩
  · rw [Client.held, holding, hbuffers, hextras, hguests, Multiset.coe_nil, zero_add, zero_add,
      ← hheld]
    exact h.mono hties
  · rw [hbuffers, hextras, hguests, Multiset.coe_nil, zero_add, zero_add] at ho
    rw [houtputs o ho]
    rfl
  · rw [hguests] at ho
    rcases Multiset.mem_add.1 ho with ho | ho
    · rw [houtputs o ho]
      rfl
    · simp only [grounds, Multiset.mem_coe, List.mem_cons, List.not_mem_nil, or_false] at ho
      rcases ho with rfl | rfl
      · rw [hgrounds.1]
        rfl
      · rw [hgrounds.2]
        rfl

/-- A client that is set up is in order, whatever globals there are beside those it needs. -/
theorem secures_setUp (globals : List Global) (s : Settings) :
    Secures (Ledger seen [] · 0) (setUp globals s).run (IfOk fun c _ => c.Orderly seen) := by
  have hof (interface : Interface) :
      ∀ g ∈ globals.filter (·.interface = interface), g.interface = interface :=
    fun g hg => of_decide_eq_true (List.mem_filter.1 hg).2
  have hnone {P : RequestLog → Prop} :
      Secures P (pure none : ExceptT MissingGlobal Issuing (Option Object)).run
        (IfOk fun o l => o = none ∧ P l) :=
    .except_pure fun _ h => ⟨rfl, h⟩
  unfold setUp
  refine .except_bind (secures_bindAll globals) fun b => .of_and fun hb => ?_
  refine .except_bind (.except_mapM (secures_bindSeats (hof .seat))) fun seats => ?_
  have hcompositor : b.compositor ∈ Bindings.objects b := by simp [Bindings.objects]
  have hshell : b.shell ∈ Bindings.objects b := by simp [Bindings.objects]
  have hmanagers {o : Object} (ho : o ∈ b.managers) : o ∈ Bindings.objects b := by
    simp [Bindings.objects, ho]
  have hmanager {o : Object} {manager : Option Object} (ho : manager = some o)
      (hmem : manager ∈ [b.decorationManager, b.inhibitManager, b.presentation, b.viewporter,
        b.subcompositor, b.dmabuf]) : o ∈ Bindings.objects b :=
    hmanagers (List.mem_filterMap.2 ⟨manager, hmem, ho⟩)
  have hviewporter : ∀ o ∈ b.viewporter, o ∈ Bindings.objects b := fun o ho =>
    hmanager ho (by simp)
  refine .except_bind (.except_lift (Ledger.secures_make hcompositor rfl rfl fun _ => rfl))
    fun surface => .of_and fun _ => ?_
  refine .except_bind (.except_lift (Ledger.secures_makeTied surface (by simp [hshell]) rfl rfl
    fun _ => rfl)) fun shellSurface => .of_and fun _ => ?_
  refine .except_bind (.except_lift (Ledger.secures_makeTied shellSurface (by simp) rfl rfl
    fun _ => rfl)) fun toplevel => .of_and fun _ => ?_
  refine .except_bind (.except_lift (secures_getViewport
    (fun o ho => by simp [hviewporter o ho]) surface)) fun viewport => ?_
  refine .except_bind (.except_mapM_option (secures_mapM_option VideoSurface.objects
    VideoSurface.ties fun subcompositor ho => ?_)) fun video => ?_
  · have hmem := hmanager (Option.mem_def.1 ho) (by simp)
    exact secures_makeVideoSurface surface (by simp [hcompositor]) (by simp [hmem])
      fun o ho => by simp [hviewporter o ho]
  refine .except_bind (.except_mapM_option (secures_mapM_option ([·])
    (fun o => [(o, toplevel)]) fun manager ho => ?_)) fun decoration => ?_
  · have hmem := hmanager (Option.mem_def.1 ho) (by simp)
    exact (Ledger.secures_makeTied toplevel (by simp [hmem]) rfl rfl fun _ => rfl).mono
      fun _ _ h => h.2
  dsimp only
  split_ifs
  on_goal 1 => refine .except_bind (.except_mapM_option (secures_mapM_option ([·])
    (fun _ => []) fun dmabuf ho => ?_)) fun feedback => ?_
  on_goal 3 => refine .except_bind hnone fun feedback => .of_and fun hfeedback => ?_
  · have hmem := hmanager (Option.mem_def.1 ho) (by simp)
    exact (Ledger.secures_make (by simp [hmem]) rfl rfl fun _ => rfl).mono fun _ _ h => h.2
  all_goals
    refine .except_bind (.except_mapM (secures_bindOutputs (hof .output))) fun outputs =>
      .of_and fun houtputs => ?_
    intro l h c hc
    cases hc
    refine orderly_of_start h (fun t ht => ?_) ?_ ⟨rfl, rfl, rfl, rfl⟩ houtputs hb
    · simp only [Client.ties, List.map_eq_flatMap, List.mem_append, List.mem_flatMap, List.mem_cons,
        List.not_mem_nil, and_false, exists_false, or_false, false_or] at ht ⊢
      rcases ht with h | h | h | h | h <;> simp only [h, true_or, or_true]
    · subst_vars
      simp only [Outputs.live, fixtures, grounds, Bindings.objects, List.flatMap_singleton',
        Option.toList_none, ← Multiset.coe_add, ← Multiset.cons_coe, Multiset.coe_nil,
        ← Multiset.singleton_add]
      abel

theorem new_orderly {globals : List Global} {s : Settings} (h : Client.new globals s = .ok c) :
    c.Orderly [] :=
  secures_setUp globals s {} Ledger.start c h

end Client

end VideoOutput
