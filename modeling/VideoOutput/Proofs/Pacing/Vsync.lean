import VideoOutput.Pacing.Vsync
import VideoOutput.Proofs.Outcome

/-!
# The syncs that swaps account for

A swap folds in the feedback that came since the one before, or finds none that is new. Between two
swaps with new feedback the skipped syncs and the one of the swap itself are the way the sync number
has gone, so over a run they add up to the whole way; a swap with nothing new reports none skipped
and keeps the rest (`flips_account`). Where the feedback lies on a line, its slope is found from the
second swap with new feedback on.
-/

namespace VideoOutput

/-- A time and the number of the sync it belongs to. -/
structure Feedback where
  time : Int
  count : Int
  deriving DecidableEq, Repr

namespace Feedback

variable {f g : Feedback}

/-- The one is earlier than the other in time and number. -/
def Before (f g : Feedback) : Prop := f.time < g.time ∧ f.count < g.count

/-- The length of a sync between the two, rounded toward zero. -/
def period (f g : Feedback) : Int := (g.time - f.time).tdiv (g.count - f.count)

/-- The differences of the two are in the word, and so is the time of the sync after them. -/
structure Fits (f g : Feedback) : Prop where
  count : Word.int64.Holds (g.count - f.count)
  time : Word.int64.Holds (g.time - f.time)
  next : Word.int64.Holds (g.time + f.period g)

/-- The one can be folded in after the other. -/
structure Follows (f g : Feedback) : Prop where
  positive : 0 < f.time
  before : f.Before g
  fits : f.Fits g

theorem period_bounds (h : f.Before g) : 0 ≤ f.period g ∧ f.period g ≤ g.time - f.time := by
  obtain ⟨htime, hcount⟩ := h
  have helapsed : 0 ≤ g.time - f.time := by omega
  exact ⟨Int.tdiv_nonneg helapsed (by omega), Int.tdiv_le_self _ helapsed⟩

theorem period_of_line {start slope : Int} (h : f.Before g) (hf : f.time = start + slope * f.count)
    (hg : g.time = start + slope * g.count) : f.period g = slope := by
  have hcount : g.count - f.count ≠ 0 := by
    have := h.2
    omega
  have htime : g.time - f.time = slope * (g.count - f.count) := by
    rw [hf, hg]
    ring
  rw [period, htime, Int.mul_tdiv_cancel _ hcount]

end Feedback

namespace VsyncEstimate

variable {e s : VsyncEstimate} {f l : Feedback}

theorem swap_of_not_hasAdvanced (h : ¬ e.hasAdvanced)
    (hdisplay : 0 < e.currentTime ∧ 0 < e.duration →
      Word.int64.Holds (e.currentTime + e.duration)) :
    e.swap = .ok { e with
      skipped := 0
      lastDisplayTime :=
        if 0 < e.currentTime ∧ 0 < e.duration then e.currentTime + e.duration
        else e.lastDisplayTime
      lastTime := e.currentTime
      lastCount := e.currentCount } := by
  unfold swap
  rw [if_neg h]
  refine bind_eq_ok.2 ⟨_, rfl, ?_⟩
  dsimp only
  by_cases hpositive : 0 < e.currentTime ∧ 0 < e.duration
  · rw [if_pos hpositive, if_pos hpositive]
    exact bind_eq_ok.2 ⟨_, Word.add_ok (hdisplay hpositive), rfl⟩
  · rw [if_neg hpositive, if_neg hpositive]
    rfl

/-- The feedback of the last swap. -/
def folded (e : VsyncEstimate) : Feedback := ⟨e.lastTime, e.lastCount⟩

/-- The feedback received last. -/
def received (e : VsyncEstimate) : Feedback := ⟨e.currentTime, e.currentCount⟩

theorem swap_of_follows (h : e.folded.Follows e.received) :
    e.swap = .ok { e with
      duration := e.folded.period e.received
      skipped := e.currentCount - e.lastCount - 1
      lastDisplayTime :=
        if 0 < e.folded.period e.received then e.currentTime + e.folded.period e.received
        else e.lastDisplayTime
      lastTime := e.currentTime
      lastCount := e.currentCount } := by
  obtain ⟨hpositive, hbefore, hpassed, helapsed, hnext⟩ := h
  obtain ⟨hlong, hshort⟩ := Feedback.period_bounds hbefore
  obtain ⟨htime, hcount⟩ := hbefore
  set duration := e.folded.period e.received
  simp only [folded, received] at hpositive htime hcount hpassed helapsed hnext hshort
  have hword : Word.int64.Holds duration := Word.int64_holds hlong (hshort.trans helapsed.2)
  have hskipped : Word.int64.Holds (e.currentCount - e.lastCount - 1) := by
    have hmost := hpassed.2
    exact Word.int64_holds (by omega) (le_trans (by omega) hmost)
  unfold swap
  rw [if_pos ⟨hpositive, hcount, htime⟩]
  refine bind_eq_ok.2 ⟨_, Word.sub_ok hpassed, ?_⟩
  refine bind_eq_ok.2 ⟨_, Word.sub_ok helapsed, ?_⟩
  refine bind_eq_ok.2 ⟨duration, Word.div_ok (by omega) hword, ?_⟩
  refine bind_eq_ok.2 ⟨_, Word.sub_ok hskipped, ?_⟩
  refine bind_eq_ok.2 ⟨_, rfl, ?_⟩
  dsimp only
  by_cases hd : 0 < duration
  · rw [if_pos ⟨by omega, hd⟩, if_pos hd]
    exact bind_eq_ok.2 ⟨_, Word.add_ok hnext, rfl⟩
  · rw [if_neg fun h => hd h.2, if_neg hd]
    rfl

/-- The last swap folded in all that was received, and gave the time of the sync after it. -/
structure Settled (e : VsyncEstimate) : Prop where
  folded : e.folded = e.received
  next : 0 < e.currentTime ∧ 0 < e.duration →
    Word.int64.Holds (e.currentTime + e.duration)
      ∧ e.lastDisplayTime = e.currentTime + e.duration

/-- Nothing new is folded in. -/
theorem swap_of_settled (h : e.Settled) : e.swap = .ok { e with skipped := 0 } := by
  obtain ⟨hfolded, hnext⟩ := h
  obtain ⟨htime, hcount⟩ : e.lastTime = e.currentTime ∧ e.lastCount = e.currentCount :=
    Feedback.mk.inj hfolded
  have hstill : ¬ e.hasAdvanced := by
    rintro ⟨-, hlater, -⟩
    omega
  rw [swap_of_not_hasAdvanced hstill fun hpositive => (hnext hpositive).1, ← htime, ← hcount]
  split_ifs with hpositive
  · rw [htime, ← (hnext (htime ▸ hpositive)).2]
  · rfl

/-- The estimate after swaps that folded in the past feedback, the latest first. -/
structure After (past : List Feedback) (e : VsyncEstimate) : Prop where
  settled : e.Settled
  latest : ∀ f ∈ past.head?, e.folded = f
  none : past = [] → e.lastTime = 0
  single : past.length ≤ 1 → e.duration = 0
  measured : ∀ f l rest, past = f :: l :: rest → e.duration = l.period f

theorem after_start : After [] {} := by
  refine ⟨⟨rfl, ?_⟩, nofun, fun _ => rfl, fun _ => rfl, nofun⟩
  rintro ⟨h, -⟩
  exact absurd h (lt_irrefl 0)

namespace After

variable {past : List Feedback}

theorem again (h : After past e) : After past { e with skipped := 0 } :=
  ⟨⟨h.settled.folded, h.settled.next⟩, h.latest, h.none, h.single, h.measured⟩

/-- The first feedback measures nothing yet. -/
theorem first (h : After [] e) (f : Feedback) :
    ∃ e', (e.update f.time f.count).swap = .ok e' ∧ After [f] e' := by
  have hduration : e.duration = 0 := h.single (by simp)
  have hstill : ¬ (e.update f.time f.count).hasAdvanced := by
    rintro ⟨hpositive, -⟩
    have hnone := h.none rfl
    simp only [update] at hpositive
    omega
  have hnext : ¬ (0 < f.time ∧ 0 < e.duration) := by omega
  refine ⟨_, swap_of_not_hasAdvanced hstill fun hpositive => absurd hpositive hnext, ?_⟩
  refine ⟨⟨rfl, fun hpositive => absurd hpositive hnext⟩, ?_, nofun, fun _ => hduration, ?_⟩
  · rintro _ ⟨⟩
    rfl
  · rintro _ _ _ ⟨⟩

/-- Later feedback measures the way from the one before. -/
theorem next {l : Feedback} (h : After (l :: past) e) (hf : l.Follows f) :
    ∃ e', (e.update f.time f.count).swap = .ok e' ∧ After (f :: l :: past) e'
      ∧ e'.skipped + 1 = f.count - l.count := by
  have hl : (e.update f.time f.count).folded = l := h.latest l rfl
  have hreceived : (e.update f.time f.count).received = f := rfl
  have hswap := swap_of_follows (e := e.update f.time f.count) (by rw [hl, hreceived]; exact hf)
  rw [hl, hreceived] at hswap
  refine ⟨_, hswap, ⟨⟨rfl, ?_⟩, ?_, nofun, ?_, ?_⟩, ?_⟩
  · rintro ⟨-, hpositive⟩
    exact ⟨hf.fits.next, if_pos hpositive⟩
  · rintro _ ⟨⟩
    rfl
  · intro hlength
    simp at hlength
  · rintro _ _ _ ⟨⟩
    rfl
  · have hcount : e.lastCount = l.count := congrArg Feedback.count hl
    simp only [update]
    omega

/-- After two, the next sync is as much later than the latest as the two are apart. -/
theorem display {l : Feedback} (h : After (f :: l :: past) e) (hf : 0 < f.time)
    (hperiod : 0 < l.period f) :
    e.duration = l.period f ∧ e.lastDisplayTime = f.time + l.period f := by
  have hduration : e.duration = l.period f := h.measured f l past rfl
  have hreceived : e.received = f := h.settled.folded.symm.trans (h.latest f rfl)
  have htime : e.currentTime = f.time := congrArg Feedback.time hreceived
  have hnext := (h.settled.next ⟨by omega, by omega⟩).2
  rw [htime, hduration] at hnext
  exact ⟨hduration, hnext⟩

end After

/-! ## Runs -/

def Op.feedback? : Op → Option Feedback
  | .update time count => some ⟨time, count⟩
  | .swap => none

/-- The feedback received in a run. -/
def updates (ops : List Op) : List Feedback := ops.filterMap Op.feedback?

/-- The feedback that the swaps of a run fold in: at each the last since the one before, where some
waits. -/
def folds : Option Feedback → List Op → List Feedback
  | _, [] => []
  | _, .update time count :: ops => folds (some ⟨time, count⟩) ops
  | waiting, .swap :: ops => waiting.toList ++ folds none ops

/-- A swap: the feedback it folds in where that is new, and what was known before and after. -/
structure Flip where
  fresh : Option Feedback
  before : VsyncInfo
  after : VsyncInfo
  deriving DecidableEq, Repr

def Flip.isFresh (flip : Flip) : Bool := flip.fresh.isSome

/-- The swaps of a run, and the estimate after it. -/
def flips (e : VsyncEstimate) (waiting : Option Feedback) :
    List Op → Except ArithmeticFault (List Flip × VsyncEstimate)
  | [] => return ([], e)
  | .update time count :: ops => flips (e.update time count) (some ⟨time, count⟩) ops
  | .swap :: ops => do
    let next ← e.swap
    let (rest, last) ← flips next none ops
    return (⟨waiting, e.info, next.info⟩ :: rest, last)

theorem snd_flips : ∀ (ops : List Op) (e : VsyncEstimate) (waiting : Option Feedback),
    Prod.snd <$> flips e waiting ops = run e ops
  | [], _, _ => rfl
  | .update time count :: ops, e, _ => snd_flips ops (e.update time count) (some ⟨time, count⟩)
  | .swap :: ops, e, waiting => by
    change Prod.snd <$> (e.swap >>= _) = (e.swap >>= fun next => run next ops)
    cases e.swap with
    | error fault => rfl
    | ok next =>
      change Prod.snd <$> (flips next none ops >>= _) = run next ops
      rw [← snd_flips ops next none]
      cases flips next none ops <;> rfl

theorem folds_sublist : ∀ (ops : List Op) (waiting : Option Feedback),
    (folds waiting ops).Sublist (waiting.toList ++ updates ops)
  | [], _ => List.nil_sublist _
  | .update time count :: ops, _ =>
    (folds_sublist ops (some ⟨time, count⟩)).trans (List.sublist_append_right ..)
  | .swap :: ops, waiting => (folds_sublist ops none).append_left waiting.toList

/-- Every swap with nothing new keeps what was known but for the skipped syncs, and every one with
new feedback reports the way from the feedback before, if there was one. -/
def Accounts : Option Feedback → List Flip → Prop
  | _, [] => True
  | last, flip :: flips =>
    match flip.fresh with
    | none => flip.after = { flip.before with skipped := 0 } ∧ Accounts last flips
    | some f => (∀ l ∈ last, flip.after.skipped + 1 = f.count - l.count) ∧ Accounts (some f) flips

/-- The estimate with feedback that waits for a swap. -/
def awaiting (e : VsyncEstimate) (waiting : Option Feedback) : VsyncEstimate :=
  waiting.elim e fun f => e.update f.time f.count

theorem info_awaiting (e : VsyncEstimate) (waiting : Option Feedback) :
    (e.awaiting waiting).info = e.info := by
  cases waiting <;> rfl

theorem update_awaiting (e : VsyncEstimate) (waiting : Option Feedback) (time count : Int) :
    (e.awaiting waiting).update time count = e.awaiting (some ⟨time, count⟩) := by
  cases waiting <;> rfl

theorem flips_swap {next last : VsyncEstimate} {waiting : Option Feedback} {ops : List Op}
    {rest : List Flip} (hswap : e.swap = .ok next)
    (hrest : flips next none ops = .ok (rest, last)) :
    flips e waiting (.swap :: ops) = .ok (⟨waiting, e.info, next.info⟩ :: rest, last) :=
  bind_eq_ok.2 ⟨next, hswap, bind_eq_ok.2 ⟨(rest, last), hrest, rfl⟩⟩

/-- From an estimate after some past feedback, a run whose feedback can be folded in one after the
other has a result, and its swaps account for it. -/
theorem flips_ok : ∀ (ops : List Op) (waiting : Option Feedback) {e : VsyncEstimate}
    {past : List Feedback}, After past e →
    (past.head?.toList ++ folds waiting ops).IsChain Feedback.Follows →
    ∃ fs e' waiting', flips (e.awaiting waiting) waiting ops = .ok (fs, e'.awaiting waiting')
      ∧ Accounts past.head? fs ∧ fs.filterMap Flip.fresh = folds waiting ops
      ∧ After ((folds waiting ops).reverse ++ past) e'
  | [], waiting, e, past, he, _ => ⟨[], e, waiting, rfl, trivial, rfl, he⟩
  | .update time count :: ops, waiting, e, past, he, hchain => by
    obtain ⟨fs, e', waiting', hflips, hrest⟩ := flips_ok ops (some ⟨time, count⟩) he hchain
    rw [← update_awaiting e waiting] at hflips
    exact ⟨fs, e', waiting', hflips, hrest⟩
  | .swap :: ops, none, e, past, he, hchain => by
    obtain ⟨fs, e', waiting', hflips, haccounts, hfresh, hafter⟩ :=
      flips_ok ops none he.again hchain
    exact ⟨_, e', waiting', flips_swap (swap_of_settled he.settled) hflips, ⟨rfl, haccounts⟩,
      hfresh, hafter⟩
  | .swap :: ops, some f, e, past, he, hchain => by
    obtain ⟨next, hswap, hnext, hskipped⟩ : ∃ next, (e.awaiting (some f)).swap = .ok next
        ∧ After (f :: past) next
        ∧ ∀ l ∈ past.head?, next.skipped + 1 = f.count - l.count := by
      -- the way is measured from the feedback folded in before, if there is any
      cases past with
      | nil =>
        obtain ⟨next, hswap, hnext⟩ := he.first f
        exact ⟨next, hswap, hnext, nofun⟩
      | cons l past =>
        obtain ⟨next, hswap, hnext, hskipped⟩ := he.next (List.isChain_cons_cons.1 hchain).1
        refine ⟨next, hswap, hnext, ?_⟩
        rintro _ ⟨⟩
        exact hskipped
    have hrest : (f :: folds none ops).IsChain Feedback.Follows := hchain.right_of_append
    obtain ⟨fs, e', waiting', hflips, haccounts, hfresh, hafter⟩ := flips_ok ops none hnext hrest
    refine ⟨_, e', waiting', flips_swap hswap hflips, ⟨hskipped, haccounts⟩, ?_, ?_⟩
    · rw [List.filterMap_cons, hfresh]
      rfl
    · have hfolds : folds (some f) (.swap :: ops) = f :: folds none ops := rfl
      rw [hfolds, List.reverse_cons, List.append_assoc]
      exact hafter

namespace Accounts

theorem stale {fs : List Flip} : ∀ {last : Option Feedback}, Accounts last fs →
    ∀ flip ∈ fs, flip.fresh = none → flip.after = { flip.before with skipped := 0 } := by
  induction fs with
  | nil => exact fun _ _ hflip => absurd hflip List.not_mem_nil
  | cons first fs ih =>
    intro last h flip hflip hstale
    obtain ⟨fresh, before, after⟩ := first
    cases fresh with
    | none =>
      rcases List.mem_cons.1 hflip with rfl | hlater
      · exact h.1
      · exact ih h.2 flip hlater hstale
    | some f =>
      rcases List.mem_cons.1 hflip with rfl | hlater
      · cases hstale
      · exact ih h.2 flip hlater hstale

/-- After feedback, the swaps with new feedback add up to the way to the last of it. -/
theorem sum : ∀ (fs : List Flip) {l : Feedback}, Accounts (some l) fs →
    ((fs.filter Flip.isFresh).map fun flip => flip.after.skipped + 1).sum
      = ((fs.filterMap Flip.fresh).getLastD l).count - l.count
  | [], l, _ => by simp
  | ⟨none, before, after⟩ :: fs, l, h => sum fs h.2
  | ⟨some f, before, after⟩ :: fs, l, h => by
    have hfirst := h.1 l rfl
    have hrest := sum fs h.2
    have hfresh : (⟨some f, before, after⟩ :: fs).filter Flip.isFresh
        = ⟨some f, before, after⟩ :: fs.filter Flip.isFresh := rfl
    have hfolded : (⟨some f, before, after⟩ :: fs).filterMap Flip.fresh
        = f :: fs.filterMap Flip.fresh := rfl
    rw [hfresh, hfolded, List.map_cons, List.sum_cons, List.getLastD_cons, hrest]
    omega

/-- The first swap with new feedback has no way to tell of. -/
theorem sum_tail : ∀ (fs : List Flip), Accounts none fs →
    ∀ first ∈ (fs.filterMap Flip.fresh).head?, ∀ last ∈ (fs.filterMap Flip.fresh).getLast?,
      ((fs.filter Flip.isFresh).tail.map fun flip => flip.after.skipped + 1).sum
        = last.count - first.count
  | ⟨none, before, after⟩ :: fs, h, first, hfirst, last, hlast =>
    sum_tail fs h.2 first hfirst last hlast
  | ⟨some f, before, after⟩ :: fs, h, first, hfirst, last, hlast => by
    have hfolded : (⟨some f, before, after⟩ :: fs).filterMap Flip.fresh
        = f :: fs.filterMap Flip.fresh := rfl
    rw [hfolded] at hfirst hlast
    obtain rfl : f = first := Option.some.inj hfirst
    rw [List.getLast?_cons, Option.mem_some] at hlast
    rw [← hlast, ← List.getLastD_eq_getLast?]
    exact sum fs h.2

end Accounts

/-- The feedback of a run can be folded in one after the other if it rises, and its sums and
differences are in the word. -/
theorem folds_follow {ops : List Op} (hpositive : ∀ f ∈ updates ops, 0 < f.time)
    (hrising : (updates ops).Pairwise Feedback.Before)
    (hfits : (folds none ops).IsChain Feedback.Fits) :
    (folds none ops).IsChain Feedback.Follows := by
  have hsublist : (folds none ops).Sublist (updates ops) := folds_sublist ops none
  have hbefore := (hrising.sublist hsublist).isChain
  rw [List.isChain_iff_forall_rel_of_append_cons_cons] at hfits hbefore ⊢
  intro f g pre post hfolds
  refine ⟨hpositive f (hsublist.subset ?_), hbefore hfolds, hfits hfolds⟩
  rw [hfolds]
  simp

/-- The times and numbers of the feedback rise, and every sum and difference of what is folded in is
in the word. Then the run has a result. The swaps that fold in new feedback, but for the first,
skip and take as many syncs as lie between the first and the last of it; a swap with nothing new
reports none skipped and keeps the rest. If the feedback lies on a line, then after two swaps with
new feedback the length of a sync is the slope, and the next sync is that much later than the
latest. -/
theorem flips_account {ops : List Op} (hpositive : ∀ f ∈ updates ops, 0 < f.time)
    (hrising : (updates ops).Pairwise Feedback.Before)
    (hfits : (folds none ops).IsChain Feedback.Fits) :
    ∃ fs e, flips {} none ops = .ok (fs, e) ∧ run {} ops = .ok e
      ∧ fs.filterMap Flip.fresh = folds none ops
      ∧ (∀ first ∈ (folds none ops).head?, ∀ last ∈ (folds none ops).getLast?,
        ((fs.filter Flip.isFresh).tail.map fun flip => flip.after.skipped + 1).sum
          = last.count - first.count)
      ∧ (∀ flip ∈ fs, flip.fresh = none → flip.after = { flip.before with skipped := 0 })
      ∧ ∀ start slope, 0 < slope → (∀ f ∈ updates ops, f.time = start + slope * f.count) →
        ∀ earlier latest, folds none ops = earlier ++ [latest] → earlier ≠ [] →
          e.duration = slope ∧ e.lastDisplayTime = latest.time + slope := by
  have hchain := folds_follow hpositive hrising hfits
  obtain ⟨fs, e, waiting, hflips, haccounts, hfresh, hafter⟩ := flips_ok ops none after_start hchain
  refine ⟨fs, e.awaiting waiting, hflips, ?_, hfresh, ?_, haccounts.stale, ?_⟩
  · rw [← snd_flips ops {} none]
    exact congrArg (Prod.snd <$> ·) hflips
  · rw [← hfresh]
    exact haccounts.sum_tail
  · intro start slope hslope hline earlier latest hfolds hearlier
    obtain ⟨earlier, before, rfl⟩ := (List.eq_nil_or_concat earlier).resolve_left hearlier
    rw [List.concat_eq_append, List.append_assoc] at hfolds
    have hmem : ∀ f ∈ [before, latest], f ∈ updates ops := by
      intro f hf
      refine (folds_sublist ops none).subset ?_
      rw [hfolds]
      exact List.mem_append_right _ hf
    have hlatest : latest ∈ updates ops := hmem latest (.tail _ (.head _))
    have hslope' : before.period latest = slope := by
      rw [hfolds] at hchain
      have hbefore := (List.isChain_cons_cons.1 hchain.right_of_append).1.before
      exact Feedback.period_of_line hbefore (hline before (hmem before (.head _)))
        (hline latest hlatest)
    have hpast : (folds none ops).reverse ++ [] = latest :: before :: earlier.reverse := by
      rw [hfolds]
      simp
    rw [hpast] at hafter
    have hdisplay := hafter.display (hpositive latest hlatest) (hslope'.symm ▸ hslope)
    rw [hslope'] at hdisplay
    have hinfo := info_awaiting e waiting
    exact ⟨(congrArg VsyncInfo.duration hinfo).trans hdisplay.1,
      (congrArg VsyncInfo.lastDisplayTime hinfo).trans hdisplay.2⟩

/-- Feedback is superseded before a swap, and a swap finds none. -/
def irregularFlips : List Op :=
  [.update 1000 1, .update 1016 2, .swap, .update 1064 5, .swap, .swap, .update 1096 7,
    .update 1112 8, .swap, .update 1128 9]

theorem flips_account_irregular : ∃ fs e, flips {} none irregularFlips = .ok (fs, e)
    ∧ fs.map Flip.isFresh = [true, true, false, true]
    ∧ ((fs.filter Flip.isFresh).tail.map fun flip => flip.after.skipped + 1).sum = 6
    ∧ (∀ flip ∈ fs, flip.fresh = none → flip.after = { flip.before with skipped := 0 })
    ∧ e.duration = 16 ∧ e.lastDisplayTime = 1128 := by
  have hpositive : ∀ f ∈ updates irregularFlips, 0 < f.time := by decide
  have hrising : (updates irregularFlips).Pairwise Feedback.Before := by
    unfold Feedback.Before
    decide
  have hfits : (folds none irregularFlips).IsChain Feedback.Fits := by
    refine .cons_cons ⟨?_, ?_, ?_⟩ (.cons_cons ⟨?_, ?_, ?_⟩ (.singleton _)) <;> decide
  obtain ⟨fs, e, hflips, -, -, hsum, hstale, hline⟩ := flips_account hpositive hrising hfits
  have hfresh : fs.map Flip.isFresh = [true, true, false, true] := by
    cases hflips
    rfl
  have hslope := hline 984 16 (by decide) (by decide) [⟨1016, 2⟩, ⟨1064, 5⟩] ⟨1112, 8⟩ rfl (by simp)
  exact ⟨fs, e, hflips, hfresh, hsum ⟨1016, 2⟩ rfl ⟨1112, 8⟩ rfl, hstale, hslope⟩

end VsyncEstimate

end VideoOutput
