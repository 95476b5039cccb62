import VideoOutput.Proofs.Wire.Requests

/-!
# The lives of objects

An object lives from the request that makes it to the one that ends it, and some objects belong to
others, which they must not outlast. A ledger says of a log which objects are held (`Ledger`): each
of them was made and has not ended, and whatever has to be ended is among them or has ended. It is
kept by requests to objects that live (`Ledger.ask`, `Ledger.make`) and to one that is given up
(`Ledger.unmake`). When at last everything that is held is ended, what belongs to something before
that, all lives have ended well (`Ledger.concluded`).
-/

namespace VideoOutput

namespace Wire

/-- Objects of the interface have to be ended by whoever made them. -/
def Interface.isOwned : Interface → Bool
  | .surface | .region | .shmPool | .buffer | .subsurface | .shellSurface | .toplevel | .viewport
  | .decoration | .inhibitor | .bufferParams | .formatFeedback => true
  | _ => false

/-- Objects of the interface are not ended before everything is. -/
def Interface.isLasting : Interface → Bool
  | .registry | .seat | .shell | .shellSurface => true
  | _ => false

/-- The object that the argument mentions. -/
def Argument.mentioned? : Argument → Option Object
  | object o => o
  | _ => none

namespace Request

variable {q r : Request} {o : Object}

/-- What the object that the request makes belongs to. -/
def parent? (r : Request) : Option Object :=
  match r.verb with
  | .getToplevel => some r.target
  | .getShellSurface | .getSubsurface | .getViewport | .getDecoration =>
    (r.arguments.filterMap Argument.mentioned?).head?
  | _ => none

/-- The objects that the request makes, with what they belong to. -/
def ties (r : Request) : List (Object × Object) :=
  r.makes.flatMap fun o => r.parent?.toList.map (o, ·)

theorem ties_of_makes (h : r.makes = []) : r.ties = [] := by
  rw [ties, h, List.flatMap_nil]

theorem ties_of_parent (h : r.parent? = none) : r.ties = [] := by
  unfold ties
  rw [h]
  exact List.flatMap_eq_nil_iff.2 fun _ _ => rfl

theorem unmakes_iff : r.unmakes o = true ↔ r.verb.isDestructor = true ∧ r.target = o := by
  simp [unmakes]

theorem unmakes_of_not_isDestructor (h : r.verb.isDestructor = false) : r.unmakes o = false := by
  simp [unmakes, h]

/-- The last request to the object. -/
def ending (o : Object) : Request := ⟨o, .destroy, []⟩

theorem ending_unmakes (o : Object) : (ending o).unmakes o = true := unmakes_iff.2 ⟨rfl, rfl⟩

/-- No request goes to an object that has ended. -/
def Lawful (rs : List Request) : Prop := rs.Pairwise fun q r => q.unmakes r.target = false

/-- What has ended once does not end again. -/
theorem Lawful.count_le_one : ∀ {rs : List Request}, Lawful rs → rs.countP (·.unmakes o) ≤ 1
  | [], _ => Nat.zero_le 1
  | r :: rs, h => by
    obtain ⟨hfirst, hrest⟩ := List.pairwise_cons.1 h
    rw [List.countP_cons]
    split_ifs with hr
    · have hnone : rs.countP (·.unmakes o) = 0 := by
        refine List.countP_eq_zero.2 fun q hq hends => ?_
        rw [← (unmakes_iff.1 hends).2, hfirst q hq] at hr
        cases hr
      omega
    · exact count_le_one hrest

/-- All lives have ended well: no object was made twice, no request went to one that had ended, each
that had to be ended was, by one request, and what belonged to another ended before that. -/
structure Concluded (rs : List Request) : Prop where
  distinct : (rs.flatMap Request.makes).Nodup
  lawful : Lawful rs
  once : ∀ r ∈ rs, ∀ o ∈ r.makes, o.interface.isOwned = true → rs.countP (·.unmakes o) = 1
  ordered : ∀ r ∈ rs, ∀ t ∈ r.ties,
    ∃ first last, first.unmakes t.1 = true ∧ last.unmakes t.2 = true ∧ [first, last].Sublist rs

end Request

namespace RequestLog

variable {l : RequestLog} {r : Request} {o : Object}

theorem isUnmade_issue : (l.issue r).isUnmade o = (l.isUnmade o || r.unmakes o) := by
  unfold isUnmade issue
  rw [List.any_append, List.any_cons, List.any_nil, Bool.or_false]

theorem made_issue : (l.issue r).made = l.made ++ r.makes := by
  unfold made issue
  rw [List.flatMap_append, List.flatMap_singleton]

/-- What was received and what is in the outbox are all requests. -/
theorem append_outbox {seen : List Request} (hreceived : seen <+: l.issued)
    (hsent : l.sent = seen.length) : seen ++ l.outbox = l.issued := by
  rw [outbox, hsent]
  exact List.prefix_iff_eq_append.1 hreceived

theorem made_issue_of_makes (h : r.makes = []) : (l.issue r).made = l.made := by
  rw [made_issue, h, List.append_nil]

theorem HasMade.issue (h : l.HasMade o) (r : Request) : (l.issue r).HasMade o :=
  h.mono (List.prefix_append _ _)

end RequestLog

open Request

/-- The account of a log: of its requests, those seen were received; what its objects belong to is
among the ties; and the objects are held. -/
structure Ledger (seen : List Request) (ties : List (Object × Object)) (l : RequestLog)
    (held : Multiset Object) : Prop where
  received : seen <+: l.issued
  sent : l.sent = seen.length
  lawful : Lawful l.issued
  distinct : l.made.Nodup
  numbered : ∀ o ∈ l.made, l.HasMade o
  tied : ∀ r ∈ l.issued, ∀ t ∈ r.ties, t ∈ ties
  nodup : held.Nodup
  made : ∀ o ∈ held, l.HasMade o
  alive : ∀ o ∈ held, l.isUnmade o = false
  /-- What has to be ended is held, or has ended. -/
  accounted : ∀ o ∈ l.made, o.interface.isOwned = true → o ∈ held ∨ l.isUnmade o = true
  /-- Nothing has ended that was not made before, and nothing that is to last. -/
  ended : ∀ o, l.isUnmade o = true → l.HasMade o ∧ o.interface.isLasting = false

namespace Ledger

variable {seen : List Request} {ties ties' : List (Object × Object)} {l : RequestLog}
  {held : Multiset Object} {r : Request} {o : Object} {interface : Interface}

theorem start : Ledger [] [] {} 0 :=
  ⟨List.nil_prefix, rfl, .nil, List.nodup_nil, nofun, nofun, Multiset.nodup_zero, nofun, nofun,
    nofun, nofun⟩

theorem mono (h : Ledger seen ties l held) (hsub : ties ⊆ ties') : Ledger seen ties' l held :=
  { h with tied := fun r hr t ht => hsub (h.tied r hr t ht) }

theorem alive_of_lasting (h : Ledger seen ties l held) (ho : o.interface.isLasting = true) :
    l.isUnmade o = false := by
  by_contra hunmade
  rw [Bool.not_eq_false] at hunmade
  exact Bool.false_ne_true ((h.ended o hunmade).2.symm.trans ho)

/-- The next object has not ended yet. -/
theorem alive_fresh (h : Ledger seen ties l held) (interface : Interface) :
    l.isUnmade (l.fresh interface) = false := by
  by_contra hunmade
  rw [Bool.not_eq_false] at hunmade
  exact l.not_hasMade_fresh interface (h.ended _ hunmade).1

theorem fresh_notMem (h : Ledger seen ties l held) (interface : Interface) :
    l.fresh interface ∉ held :=
  fun hmem => l.not_hasMade_fresh interface (h.made _ hmem)

/-! ## What a request does to the account -/

theorem received_issue (h : Ledger seen ties l held) (r : Request) :
    seen <+: (l.issue r).issued :=
  h.received.trans (List.prefix_append _ _)

theorem lawful_issue (h : Ledger seen ties l held) (halive : l.isUnmade r.target = false) :
    Lawful (l.issue r).issued := by
  refine List.pairwise_append.2 ⟨h.lawful, List.pairwise_singleton .., fun q hq r' hr' => ?_⟩
  rw [List.mem_singleton.1 hr']
  exact Bool.eq_false_iff.2 (List.any_eq_false.1 halive q hq)

theorem tied_issue (h : Ledger seen ties l held) (hsub : ties ⊆ ties')
    (hties : ∀ t ∈ r.ties, t ∈ ties') : ∀ q ∈ (l.issue r).issued, ∀ t ∈ q.ties, t ∈ ties' := by
  intro q hq t ht
  rcases List.mem_append.1 hq with hq | hq
  · exact hsub (h.tied q hq t ht)
  · rw [List.mem_singleton.1 hq] at ht
    exact hties t ht

theorem numbered_issue (h : Ledger seen ties l held) (hmakes : r.makes = []) :
    (l.issue r).made.Nodup ∧ ∀ o ∈ (l.issue r).made, (l.issue r).HasMade o := by
  rw [RequestLog.made_issue_of_makes hmakes]
  exact ⟨h.distinct, fun o ho => (h.numbered o ho).issue r⟩

/-- A request to an object that lives. -/
theorem ask (h : Ledger seen ties l held) (halive : l.isUnmade r.target = false)
    (hverb : r.verb.isDestructor = false) (hmakes : r.makes = []) :
    Ledger seen ties (l.issue r) held := by
  have hunmade (o : Object) : (l.issue r).isUnmade o = l.isUnmade o := by
    rw [RequestLog.isUnmade_issue, unmakes_of_not_isDestructor hverb, Bool.or_false]
  exact {
    received := h.received_issue r
    sent := h.sent
    lawful := h.lawful_issue halive
    distinct := (h.numbered_issue hmakes).1
    numbered := (h.numbered_issue hmakes).2
    tied := h.tied_issue (List.Subset.refl _) (ties_of_makes hmakes ▸ List.forall_mem_nil _)
    nodup := h.nodup
    made := fun o ho => (h.made o ho).issue r
    alive := fun o ho => (hunmade o).trans (h.alive o ho)
    accounted := fun o ho howned => by
      rw [RequestLog.made_issue_of_makes hmakes] at ho
      rw [hunmade]
      exact h.accounted o ho howned
    ended := fun o ho => by
      rw [hunmade] at ho
      exact ⟨(h.ended o ho).1.issue r, (h.ended o ho).2⟩ }

theorem askAll (h : Ledger seen ties l held) : ∀ {rs : List Request}, (∀ r ∈ rs,
    r.target ∈ held ∧ r.verb.isDestructor = false ∧ r.makes = []) →
    Ledger seen ties (rs.foldl RequestLog.issue l) held := by
  intro rs
  induction rs generalizing l with
  | nil => exact fun _ => h
  | cons r rs ih =>
    intro hall
    obtain ⟨⟨htarget, hverb, hmakes⟩, hrest⟩ := List.forall_mem_cons.1 hall
    exact ih (h.ask (h.alive _ htarget) hverb hmakes) hrest

/-- What a request makes is held from then on. -/
theorem makeTied (h : Ledger seen ties l held) (halive : l.isUnmade r.target = false)
    (hverb : r.verb.isDestructor = false) (hmakes : r.makes = [l.fresh interface])
    (hsub : ties ⊆ ties') (hties : ∀ t ∈ r.ties, t ∈ ties') :
    Ledger seen ties' (l.issue r) (l.fresh interface ::ₘ held) := by
  have hmade : (l.issue r).made = l.made ++ [l.fresh interface] := hmakes ▸ RequestLog.made_issue
  have hunmade (o : Object) : (l.issue r).isUnmade o = l.isUnmade o := by
    rw [RequestLog.isUnmade_issue, unmakes_of_not_isDestructor hverb, Bool.or_false]
  exact {
    received := h.received_issue r
    sent := h.sent
    lawful := h.lawful_issue halive
    distinct := by
      rw [hmade]
      refine (List.perm_append_singleton _ _).nodup_iff.2 (List.nodup_cons.2 ⟨?_, h.distinct⟩)
      exact fun hmem => l.not_hasMade_fresh interface (h.numbered _ hmem)
    numbered := by
      rw [hmade]
      refine List.forall_mem_append.2 ⟨fun o ho => (h.numbered o ho).issue r, ?_⟩
      exact List.forall_mem_singleton.2 (RequestLog.hasMade_issue hmakes)
    tied := h.tied_issue hsub hties
    nodup := Multiset.nodup_cons.2 ⟨h.fresh_notMem interface, h.nodup⟩
    made := Multiset.forall_mem_cons.2
      ⟨RequestLog.hasMade_issue hmakes, fun o ho => (h.made o ho).issue r⟩
    alive := Multiset.forall_mem_cons.2
      ⟨(hunmade _).trans (h.alive_fresh interface), fun o ho => (hunmade o).trans (h.alive o ho)⟩
    accounted := fun o ho howned => by
      rw [hmade, List.mem_append, List.mem_singleton] at ho
      rw [hunmade, Multiset.mem_cons]
      rcases ho with ho | ho
      · exact (h.accounted o ho howned).imp_left .inr
      · exact .inl (.inl ho)
    ended := fun o ho => by
      rw [hunmade] at ho
      exact ⟨(h.ended o ho).1.issue r, (h.ended o ho).2⟩ }

theorem make (h : Ledger seen ties l held) (halive : l.isUnmade r.target = false)
    (hverb : r.verb.isDestructor = false) (hmakes : r.makes = [l.fresh interface])
    (hparent : r.parent? = none) : Ledger seen ties (l.issue r) (l.fresh interface ::ₘ held) :=
  h.makeTied halive hverb hmakes (List.Subset.refl _)
    (ties_of_parent hparent ▸ List.forall_mem_nil _)

/-- Objects that need not be ended may be held no more. -/
theorem drop (h : Ledger seen ties l (o ::ₘ held)) (ho : o.interface.isOwned = false) :
    Ledger seen ties l held where
  received := h.received
  sent := h.sent
  lawful := h.lawful
  distinct := h.distinct
  numbered := h.numbered
  tied := h.tied
  nodup := (Multiset.nodup_cons.1 h.nodup).2
  made := (Multiset.forall_mem_cons.1 h.made).2
  alive := (Multiset.forall_mem_cons.1 h.alive).2
  accounted x hx howned := by
    refine (h.accounted x hx howned).imp_left fun hmem => ?_
    rcases Multiset.mem_cons.1 hmem with rfl | hmem
    · cases ho.symm.trans howned
    · exact hmem
  ended := h.ended

/-- An object that is held may be ended, and is held no more. -/
theorem unmake (h : Ledger seen ties l (r.target ::ₘ held)) (hverb : r.verb.isDestructor = true)
    (hlasting : r.target.interface.isLasting = false) (hmakes : r.makes = []) :
    Ledger seen ties (l.issue r) held := by
  obtain ⟨htarget, hothers⟩ := Multiset.forall_mem_cons.1 h.alive
  obtain ⟨hheld, hmade⟩ := Multiset.forall_mem_cons.1 h.made
  obtain ⟨hnew, hnodup⟩ := Multiset.nodup_cons.1 h.nodup
  have hunmade (o : Object) :
      (l.issue r).isUnmade o = true ↔ l.isUnmade o = true ∨ r.target = o := by
    rw [RequestLog.isUnmade_issue, Bool.or_eq_true, unmakes_iff, and_iff_right hverb]
  exact {
    received := h.received_issue r
    sent := h.sent
    lawful := h.lawful_issue htarget
    distinct := (h.numbered_issue hmakes).1
    numbered := (h.numbered_issue hmakes).2
    tied := h.tied_issue (List.Subset.refl _) (ties_of_makes hmakes ▸ List.forall_mem_nil _)
    nodup := hnodup
    made := fun o ho => (hmade o ho).issue r
    alive := fun o ho => by
      rw [← Bool.not_eq_true, hunmade, hothers o ho]
      rintro (hends | rfl)
      · cases hends
      · exact hnew ho
    accounted := fun o ho howned => by
      rw [RequestLog.made_issue_of_makes hmakes] at ho
      rw [hunmade]
      rcases h.accounted o ho howned with hmem | hends
      · rcases Multiset.mem_cons.1 hmem with rfl | hmem
        · exact .inr (.inr rfl)
        · exact .inl hmem
      · exact .inr (.inl hends)
    ended := fun o ho => by
      rcases (hunmade o).1 ho with hends | rfl
      · exact ⟨(h.ended o hends).1.issue r, (h.ended o hends).2⟩
      · exact ⟨hheld.issue r, hlasting⟩ }

/-- All requests are handed over. -/
theorem emptyOutbox (h : Ledger seen ties l held) :
    Ledger (seen ++ l.outbox) ties l.emptyOutbox held := by
  have hissued := RequestLog.append_outbox h.received h.sent
  exact { h with
    received := hissued ▸ List.prefix_refl _
    sent := congrArg List.length hissued.symm }

/-! ## Work that issues requests -/

section Issuing

variable {target : Object} {verb : Verb}

theorem secures_ask {arguments : List Argument} (htarget : target ∈ held)
    (hverb : verb.isDestructor = false) (hmakes : Request.makes ⟨target, verb, arguments⟩ = []) :
    Secures (Ledger seen ties · held) (Issuing.ask target verb arguments)
      fun _ l => Ledger seen ties l held :=
  fun _ h => h.ask (h.alive target htarget) hverb hmakes

theorem makes_of_new {before after : List Argument}
    (hothers : (before ++ after).filterMap Argument.made? = []) :
    Request.makes ⟨target, verb, before ++ .new o :: after⟩ = [o] := by
  rw [List.filterMap_append, List.append_eq_nil_iff] at hothers
  unfold Request.makes
  rw [List.filterMap_append, hothers.1, List.nil_append]
  exact congrArg (o :: ·) hothers.2

theorem secures_make {interface : Interface} {before after : List Argument}
    (htarget : target ∈ held) (hverb : verb.isDestructor = false)
    (hothers : (before ++ after).filterMap Argument.made? = [])
    (hparent : ∀ o, parent? ⟨target, verb, before ++ .new o :: after⟩ = none) :
    Secures (Ledger seen ties · held) (Issuing.make target verb interface before after)
      fun o l => o.interface = interface ∧ Ledger seen ties l (o ::ₘ held) :=
  fun l h => ⟨rfl, h.make (h.alive target htarget) hverb (makes_of_new hothers)
    (hparent (l.fresh interface))⟩

/-- What need not be ended need not be held either. -/
theorem secures_makeFree {interface : Interface} {before after : List Argument}
    (hfree : interface.isOwned = false) (htarget : target ∈ held)
    (hverb : verb.isDestructor = false)
    (hothers : (before ++ after).filterMap Argument.made? = [])
    (hparent : ∀ o, parent? ⟨target, verb, before ++ .new o :: after⟩ = none) :
    Secures (Ledger seen ties · held) (Issuing.make target verb interface before after)
      fun _ l => Ledger seen ties l held :=
  (secures_make htarget hverb hothers hparent).mono fun _ _ h => h.2.drop (h.1 ▸ hfree)

theorem secures_bind (global : Global) (greatest : Nat) :
    Secures (Ledger seen ties · held) (Issuing.bind global greatest)
      fun o l => o.interface = global.interface ∧ Ledger seen ties l (o ::ₘ held) :=
  fun _ h => ⟨rfl, h.make (h.alive_of_lasting rfl) rfl rfl rfl⟩

/-- What is made is tied to what it belongs to. -/
theorem secures_makeTied (parent : Object) {interface : Interface} {before after : List Argument}
    (htarget : target ∈ held) (hverb : verb.isDestructor = false)
    (hothers : (before ++ after).filterMap Argument.made? = [])
    (hparent : ∀ o, parent? ⟨target, verb, before ++ .new o :: after⟩ = some parent) :
    Secures (Ledger seen ties · held) (Issuing.make target verb interface before after)
      fun o l => o.interface = interface ∧ Ledger seen ((o, parent) :: ties) l (o ::ₘ held) := by
  refine fun l h => ⟨rfl, h.makeTied (h.alive target htarget) hverb (makes_of_new hothers)
    (List.subset_cons_self _ _) fun t ht => ?_⟩
  rw [Request.ties, makes_of_new hothers, hparent] at ht
  exact List.mem_cons.2 (.inl (List.mem_singleton.1 ht))

theorem secures_unmake (hlasting : o.interface.isLasting = false) :
    Secures (Ledger seen ties · (o ::ₘ held)) (Issuing.unmake o)
      fun _ l => Ledger seen ties l held :=
  fun _ h => h.unmake (r := ending o) rfl hlasting rfl

end Issuing

/-! ## The end -/

/-- Objects that are held are ended, among them all that have to be, and each before what it belongs
to. -/
theorem concluded (h : Ledger seen ties l held) {endings : List Object} (hnodup : endings.Nodup)
    (hheld : ∀ o ∈ endings, o ∈ held)
    (howned : ∀ o ∈ held, o.interface.isOwned = true → o ∈ endings)
    (hordered : ∀ t ∈ ties, [t.1, t.2].Sublist endings) :
    Concluded (l.issued ++ endings.map ending) := by
  have hlawful : Lawful (l.issued ++ endings.map ending) := by
    refine List.pairwise_append.2 ⟨h.lawful, ?_, fun q hq r hr => ?_⟩
    · refine List.pairwise_map.2 (hnodup.imp fun hne => ?_)
      rw [← Bool.not_eq_true, unmakes_iff]
      exact fun hends => hne hends.2
    · obtain ⟨o, ho, rfl⟩ := List.mem_map.1 hr
      exact Bool.eq_false_iff.2 (List.any_eq_false.1 (h.alive o (hheld o ho)) q hq)
  -- the requests that end objects make none, and so tie none
  have hissued {r : Request} (hr : r ∈ l.issued ++ endings.map ending) :
      r ∈ l.issued ∨ r.makes = [] := by
    refine (List.mem_append.1 hr).imp_right fun hr => ?_
    obtain ⟨o, -, rfl⟩ := List.mem_map.1 hr
    rfl
  have hdistinct : ((l.issued ++ endings.map ending).flatMap Request.makes).Nodup := by
    have hnone : (endings.map ending).flatMap Request.makes = [] := by
      refine List.flatMap_eq_nil_iff.2 fun r hr => ?_
      obtain ⟨o, -, rfl⟩ := List.mem_map.1 hr
      rfl
    rw [List.flatMap_append, hnone, List.append_nil]
    exact h.distinct
  refine ⟨hdistinct, hlawful, fun r hr o ho howned' => ?_, fun r hr t ht => ?_⟩
  · refine le_antisymm hlawful.count_le_one (List.countP_pos_iff.2 ?_)
    have hmade : o ∈ l.made := by
      refine List.mem_flatMap.2 ⟨r, (hissued hr).resolve_right fun hnone => ?_, ho⟩
      rw [hnone] at ho
      cases ho
    rcases h.accounted o hmade howned' with hmem | hends
    · exact ⟨ending o, List.mem_append_right _ (List.mem_map_of_mem (howned o hmem howned')),
        ending_unmakes o⟩
    · obtain ⟨q, hq, hends⟩ := List.any_eq_true.1 hends
      exact ⟨q, List.mem_append_left _ hq, hends⟩
  · have hr' : r ∈ l.issued := (hissued hr).resolve_right fun hnone => by
      rw [ties_of_makes hnone] at ht
      cases ht
    have hsublist := (hordered t (h.tied r hr' t ht)).map ending
    exact ⟨ending t.1, ending t.2, ending_unmakes _, ending_unmakes _,
      hsublist.trans (List.sublist_append_right ..)⟩

end Ledger

end Wire

end VideoOutput
