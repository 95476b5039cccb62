import VideoOutput.Proofs.Pool.Provenance

/-!
# How long a reset clears

A reset window counts the display cycles since the last request. While it is open each cycle clears,
and it closes with the cycle that fills its length, or with the first one where the length is none
(`ResetWindow.advance_counts`). So whether a cycle clears the pool is told by the history alone, and
no lookup answers with a buffer from before a request once a cycle has begun after it
(`beginCycle_clears_iff`).
-/

namespace VideoOutput

namespace ResetWindow

variable {r : ResetWindow} {n : Nat}

/-- The window is as it is that many cycles after a request. -/
structure Counts (r : ResetWindow) (n : Nat) : Prop where
  cycles : r.cycles = min n Word.nat32.greatest.toNat
  active : r.active = true ↔ n < max r.length 1

theorem request_counts (r : ResetWindow) : r.request.Counts 0 := by
  refine ⟨by simp [request], ?_⟩
  have hopen : 0 < max r.length 1 := by omega
  exact iff_of_true rfl hopen

theorem length_advance (r : ResetWindow) : r.advance.2.length = r.length := by
  unfold advance
  dsimp only
  split_ifs <;> rfl

theorem advance_of_not_active (h : r.active = false) :
    r.advance.1 = false ∧ r.advance.2.active = false := by
  simp [advance, h]

/-- The cycle clears if it is one of the first `r.length`. The length is in the word, so the count
has reached it before it stops. -/
theorem advance_counts (hlength : r.length ≤ Word.nat32.greatest.toNat) (h : r.Counts n) :
    r.advance.2.Counts (n + 1) ∧ (r.advance.1 = true ↔ n + 1 ≤ r.length) := by
  obtain ⟨hcycles, hactive⟩ := h
  have hword : 1 ≤ Word.nat32.greatest.toNat := by decide
  have hnext : min (r.cycles + 1) Word.nat32.greatest.toNat
      = min (n + 1) Word.nat32.greatest.toNat := by omega
  by_cases hopen : r.active = true
  · have hn : n < max r.length 1 := hactive.1 hopen
    have hadvance : r.advance = (decide (n + 1 ≤ r.length),
        { r with cycles := n + 1, active := decide (n + 1 < r.length) }) := by
      have hsmall : min (n + 1) Word.nat32.greatest.toNat = n + 1 := by omega
      unfold advance
      rw [if_pos hopen, hnext, hsmall]
    rw [hadvance]
    refine ⟨⟨by dsimp only; omega, ?_⟩, decide_eq_true_iff⟩
    dsimp only
    rw [decide_eq_true_iff]
    omega
  · have hn : ¬ n < max r.length 1 := fun hn => hopen (hactive.2 hn)
    rw [Bool.not_eq_true] at hopen
    obtain ⟨hclears, hstays⟩ := advance_of_not_active hopen
    have hcount : r.advance.2.cycles = min (n + 1) Word.nat32.greatest.toNat := by
      rw [← hnext]
      simp [advance, hopen]
    refine ⟨⟨hcount, ?_⟩, ?_⟩
    · rw [length_advance, hstays]
      simp only [Bool.false_eq_true, false_iff]
      omega
    · rw [hclears]
      simp only [Bool.false_eq_true, false_iff]
      omega

end ResetWindow

namespace PoolHistory

variable {h : PoolHistory} {p p' : BufferPool Nat} {op : Op} {ops : List Op} {resetLength : Nat}
  {catalog : FormatCatalog}

def Op.isRequest : Op → Bool
  | .requestReset => true
  | _ => false

def Op.isCycle : Op → Bool
  | .beginCycle => true
  | _ => false

/-- The display cycles begun since the last request, or since the start where there was none. -/
def cyclesSinceRequest (ops : List Op) : Nat :=
  (ops.rtakeWhile fun op => !op.isRequest).countP Op.isCycle

theorem Op.isRequest_iff : op.isRequest = true ↔ op = .requestReset := by
  cases op <;> simp [Op.isRequest]

theorem Op.isCycle_iff : op.isCycle = true ↔ op = .beginCycle := by
  cases op <;> simp [Op.isCycle]

theorem cyclesSinceRequest_request (ops : List Op) :
    cyclesSinceRequest (ops ++ [.requestReset]) = 0 := by
  unfold cyclesSinceRequest
  rw [List.rtakeWhile_concat_neg _ _ _ (by simp [Op.isRequest])]
  rfl

theorem cyclesSinceRequest_concat (hop : op ≠ .requestReset) (ops : List Op) :
    cyclesSinceRequest (ops ++ [op])
      = cyclesSinceRequest ops + if op.isCycle = true then 1 else 0 := by
  have hkept : (!op.isRequest) = true := by
    rw [Bool.not_eq_true', ← Bool.not_eq_true, Op.isRequest_iff]
    exact hop
  unfold cyclesSinceRequest
  rw [List.rtakeWhile_concat_pos (fun op : Op => !op.isRequest) ops op hkept, List.countP_append,
    List.countP_singleton]

/-- Requests within a stretch with no cycle leave none to count. -/
theorem cyclesSinceRequest_of_no_cycle {before : List Op} : ∀ {between : List Op},
    .beginCycle ∉ between → cyclesSinceRequest (before ++ .requestReset :: between) = 0 := by
  intro between
  induction between using List.reverseRecOn with
  | nil => exact fun _ => cyclesSinceRequest_request before
  | append_singleton between op ih =>
    intro hnone
    rw [List.mem_append, List.mem_singleton, not_or] at hnone
    rw [← List.cons_append, ← List.append_assoc]
    by_cases hop : op = .requestReset
    · rw [hop, cyclesSinceRequest_request]
    · rw [cyclesSinceRequest_concat hop, ih hnone.1, if_neg]
      rw [Op.isCycle_iff]
      exact Ne.symm hnone.2

/-! ## The window of a pool -/

/-- What an operation does to the reset window. -/
def Op.onReset (r : ResetWindow) : Op → ResetWindow
  | .requestReset => r.request
  | .beginCycle => r.advance.2
  | _ => r

theorem getEntry_reset (p : BufferPool Nat) (frame : VideoFrame) (catalog : FormatCatalog)
    (l : BufferLedger) :
    (p.getEntry BufferLedger.allocator frame catalog l).2.1.reset = p.reset := by
  rcases p.getEntry_cases frame catalog l with ⟨e, hget⟩ |
    ⟨backend, identity, -, -, ⟨entry, -, hget⟩ | ⟨description, entry, -, -, -, hget⟩⟩ <;>
    rw [hget]

theorem step_reset (hpool : (h.step op).1.pool = some p') :
    ∃ p, h.pool = some p ∧ p'.reset = op.onReset p.reset := by
  obtain ⟨pool, catalog, ledger⟩ := h
  cases pool with
  | none => cases hpool
  | some p =>
    refine ⟨p, rfl, ?_⟩
    cases op with
    | bind backend =>
      rcases p.bind_cases backend with ⟨-, hbind⟩ | ⟨current, -, hbind⟩ <;>
        simp only [step, hbind, Option.some.injEq] at hpool <;> rw [← hpool] <;> rfl
    | get frame =>
      have hget := getEntry_reset p frame catalog ledger
      simp only [step, Option.some.injEq] at hpool
      rw [hpool] at hget
      exact hget
    | clear =>
      simp only [step, BufferPool.clear_eq, Option.some.injEq] at hpool
      rw [← hpool]
      rfl
    | beginCycle =>
      simp only [step, BufferPool.beginCycle, Option.some.injEq] at hpool
      rw [← hpool]
      split_ifs <;> rfl
    | free => cases hpool
    | _ =>
      cases hpool
      rfl

/-- The window has its length; it was never opened, or is as the cycles since the last request leave
it. -/
theorem run_reset (hlength : resetLength ≤ Word.nat32.greatest.toNat) :
    ∀ {p : BufferPool Nat}, (run (start resetLength catalog) ops).pool = some p →
      p.reset.length = resetLength
        ∧ (.requestReset ∉ ops → p.reset.active = false)
        ∧ (.requestReset ∈ ops → p.reset.Counts (cyclesSinceRequest ops)) := by
  induction ops using List.reverseRecOn with
  | nil =>
    intro p hpool
    cases hpool
    exact ⟨rfl, fun _ => rfl, fun h => absurd h List.not_mem_nil⟩
  | append_singleton ops op ih =>
    intro p' hpool
    rw [run_concat] at hpool
    obtain ⟨p, hp, hreset⟩ := step_reset hpool
    obtain ⟨hlast, hidle, hcounts⟩ := ih hp
    rw [hreset]
    simp only [List.mem_append, List.mem_singleton]
    by_cases hrequest : op = .requestReset
    · rw [hrequest, cyclesSinceRequest_request]
      exact ⟨hlast, fun hnone => absurd (.inr rfl) hnone, fun _ => p.reset.request_counts⟩
    · rw [cyclesSinceRequest_concat hrequest]
      have hmem : .requestReset ∈ ops ∨ .requestReset = op ↔ .requestReset ∈ ops :=
        or_iff_left (Ne.symm hrequest)
      rw [hmem]
      by_cases hcycle : op = .beginCycle
      · rw [hcycle]
        refine ⟨p.reset.length_advance.trans hlast, fun hnone => ?_, fun hsome => ?_⟩
        · exact (ResetWindow.advance_of_not_active (hidle hnone)).2
        · exact (ResetWindow.advance_counts (hlast ▸ hlength) (hcounts hsome)).1
      · have hsame : op.onReset p.reset = p.reset := by
          cases op <;> first | rfl | exact absurd rfl hrequest | exact absurd rfl hcycle
        rw [hsame, if_neg (Op.isCycle_iff.not.2 hcycle)]
        exact ⟨hlast, hidle, hcounts⟩

theorem advance_clears (hlength : resetLength ≤ Word.nat32.greatest.toNat)
    (hpool : (run (start resetLength catalog) ops).pool = some p) :
    p.reset.advance.1 = true
      ↔ .requestReset ∈ ops ∧ cyclesSinceRequest ops + 1 ≤ resetLength := by
  obtain ⟨hlast, hidle, hcounts⟩ := run_reset hlength hpool
  by_cases hrequest : .requestReset ∈ ops
  · have hclears := (ResetWindow.advance_counts (hlast ▸ hlength) (hcounts hrequest)).2
    rw [hclears, hlast]
    exact (and_iff_right hrequest).symm
  · rw [(ResetWindow.advance_of_not_active (hidle hrequest)).1]
    simp [hrequest]

/-! ## What a cycle does -/

theorem step_beginCycle (hpool : h.pool = some p) :
    (p.reset.advance.1 = true → Empties h (h.step .beginCycle).1)
      ∧ (p.reset.advance.1 = false → Keeps h (h.step .beginCycle).1) := by
  obtain ⟨pool, catalog, ledger⟩ := h
  obtain rfl : pool = some p := hpool
  constructor
  · intro hclears
    simp only [step, BufferPool.beginCycle, hclears, if_true, BufferPool.clear_eq]
    exact ⟨rfl, rfl, rfl⟩
  · intro hkeeps
    simp only [step, BufferPool.beginCycle, hkeeps, Bool.false_eq_true, if_false]
    exact ⟨rfl, rfl, rfl, .inl rfl⟩

/-- The allocator's account only grows. -/
theorem step_ledger (h : PoolHistory) (op : Op) :
    h.ledger.created <+: (h.step op).1.ledger.created
      ∧ h.ledger.destroyed <+: (h.step op).1.ledger.destroyed := by
  rcases step_cases h op with ⟨hk, -⟩ | ⟨frame, e, description, -, hi, -⟩ | he
  · rw [hk.created, hk.destroyed]
    exact ⟨List.prefix_rfl, List.prefix_rfl⟩
  · rw [hi.created, hi.destroyed]
    exact ⟨List.prefix_append .., List.prefix_rfl⟩
  · rw [he.created, he.destroyed]
    exact ⟨List.prefix_rfl, List.prefix_append ..⟩

theorem run_ledger : ∀ (ops : List Op) (h : PoolHistory),
    h.ledger.created <+: (run h ops).ledger.created
      ∧ h.ledger.destroyed <+: (run h ops).ledger.destroyed
  | [], _ => ⟨List.prefix_rfl, List.prefix_rfl⟩
  | op :: ops, h => by
    obtain ⟨hcreated, hdestroyed⟩ := step_ledger h op
    obtain ⟨hcreated', hdestroyed'⟩ := run_ledger ops (h.step op).1
    rw [run_cons]
    exact ⟨hcreated.trans hcreated', hdestroyed.trans hdestroyed'⟩

theorem run_append (h : PoolHistory) (ops ops' : List Op) :
    run h (ops ++ ops') = run (run h ops) ops' := List.foldl_append

/-- Once a pool was empty, no buffer made before is found in it again. -/
theorem buffer_notMem_of_emptied {before : List Op} {frame : VideoFrame} {e : PoolEntry Nat}
    (hempty : (run (start resetLength catalog) before).held = [])
    (hget : ((run (start resetLength catalog) (before ++ ops)).step (.get frame)).2
      = .entry (.ok e)) :
    e.buffer ∉ (run (start resetLength catalog) before).ledger.created.map Prod.fst := by
  intro hmade
  have hthen := run_balanced resetLength catalog before
  have hnow := run_balanced resetLength catalog (before ++ ops ++ [.get frame])
  rw [hthen.mem_created, hempty] at hmade
  have hdestroyed := (run_ledger (ops ++ [.get frame]) _).2.subset
    (hmade.resolve_left List.not_mem_nil)
  rw [← run_append, ← List.append_assoc] at hdestroyed
  have hheld := (step_get_answered hget).1
  rw [← run_concat] at hheld
  exact (hnow.mem_held.1 (List.mem_map_of_mem hheld)).2 hdestroyed

/-- The first cycle after a request empties the pool, whatever else is requested in between. -/
theorem held_of_first_cycle {before between : List Op}
    (hlength : resetLength ≤ Word.nat32.greatest.toNat) (hone : 1 ≤ resetLength)
    (hnone : .beginCycle ∉ between) :
    (run (start resetLength catalog)
      (before ++ .requestReset :: between ++ [.beginCycle])).held = [] := by
  rw [run_concat]
  cases hpool : (run (start resetLength catalog) (before ++ .requestReset :: between)).pool with
  | none =>
    rw [step_of_freed hpool]
    unfold held
    rw [hpool]
    rfl
  | some p =>
    have hclears : p.reset.advance.1 = true := by
      rw [advance_clears hlength hpool, cyclesSinceRequest_of_no_cycle hnone]
      exact ⟨by simp, hone⟩
    exact ((step_beginCycle hpool).1 hclears).held

theorem buffer_notMem_of_request {before rest : List Op} {frame : VideoFrame} {e : PoolEntry Nat}
    (hlength : resetLength ≤ Word.nat32.greatest.toNat) (hone : 1 ≤ resetLength)
    (hrest : .beginCycle ∈ rest)
    (hget : ((run (start resetLength catalog) (before ++ .requestReset :: rest)).step
      (.get frame)).2 = .entry (.ok e)) :
    e.buffer ∉ (run (start resetLength catalog) before).ledger.created.map Prod.fst := by
  obtain ⟨between, after, rfl, hnone⟩ := List.eq_append_cons_of_mem hrest
  have hsplit : before ++ .requestReset :: (between ++ .beginCycle :: after)
      = before ++ .requestReset :: between ++ [.beginCycle] ++ after := by simp
  rw [hsplit] at hget
  have hmade := buffer_notMem_of_emptied (held_of_first_cycle hlength hone hnone) hget
  rw [List.append_assoc, run_append] at hmade
  exact fun h => hmade (((run_ledger _ _).1.map Prod.fst).subset h)

/-- At the end of any history of a pool that is not freed. A cycle that begins clears the pool if a
reset was requested and it is among the first `resetLength` since the last request; otherwise it
keeps all. A reset is pending while fewer cycles than that, or than one, have followed the last
request. So with a window of at least one cycle, no lookup that comes after a request and a cycle
answers with a buffer made before that request. -/
theorem beginCycle_clears_iff (hlength : Word.nat32.Holds resetLength)
    (hpool : (run (start resetLength catalog) ops).pool = some p) :
    let h := run (start resetLength catalog) ops
    (.requestReset ∈ ops ∧ cyclesSinceRequest ops + 1 ≤ resetLength
        → Empties h (h.step .beginCycle).1)
      ∧ (¬ (.requestReset ∈ ops ∧ cyclesSinceRequest ops + 1 ≤ resetLength)
        → Keeps h (h.step .beginCycle).1)
      ∧ (p.reset.active = true
        ↔ .requestReset ∈ ops ∧ cyclesSinceRequest ops < max resetLength 1)
      ∧ (1 ≤ resetLength → ∀ before rest frame e, ops = before ++ .requestReset :: rest →
        .beginCycle ∈ rest → (h.step (.get frame)).2 = .entry (.ok e) →
        e.buffer ∉ (run (start resetLength catalog) before).ledger.created.map Prod.fst) := by
  intro h
  have hword : resetLength ≤ Word.nat32.greatest.toNat := by
    have := hlength.2
    omega
  have hcycle := step_beginCycle hpool
  rw [← Bool.not_eq_true, advance_clears hword hpool] at hcycle
  refine ⟨hcycle.1, hcycle.2, ?_, ?_⟩
  · obtain ⟨hlast, hidle, hcounts⟩ := run_reset hword hpool
    by_cases hrequest : .requestReset ∈ ops
    · rw [(hcounts hrequest).active, hlast]
      exact (and_iff_right hrequest).symm
    · simp [hidle hrequest, hrequest]
  · rintro hone before rest frame e rfl hrest hget
    exact buffer_notMem_of_request hword hone hrest hget

/-- A reset is requested again while the window is open, and the surface shown on the way. -/
theorem beginCycle_clears_iff_again :
    let (catalog, ops, frame) := shownTwice
    let ops := ops.take 2
      ++ [.requestReset, .beginCycle] ++ [.requestReset, .get frame, .beginCycle]
    let h := run (start 2 catalog) ops
    (∃ p, h.pool = some p ∧ p.reset.active = true)
      ∧ Empties h (h.step .beginCycle).1
      ∧ ∃ e, (h.step (.get frame)).2 = .entry (.ok e) ∧ e.buffer = 3
        ∧ e.buffer ∉ (run (start 2 catalog) (ops.take 4)).ledger.created.map Prod.fst := by
  obtain ⟨p, hpool⟩ : ∃ p, (run (start 2 shownTwice.1) (shownTwice.2.1.take 2
      ++ [.requestReset, .beginCycle]
      ++ [.requestReset, .get shownTwice.2.2, .beginCycle])).pool = some p := ⟨_, rfl⟩
  obtain ⟨hclears, -, hpending, hnew⟩ := beginCycle_clears_iff (by decide) hpool
  have hrequest : Op.requestReset ∈ shownTwice.2.1.take 2 ++ [.requestReset, .beginCycle]
      ++ [.requestReset, .get shownTwice.2.2, .beginCycle] := List.mem_append_right _ (.head _)
  refine ⟨⟨p, hpool, hpending.2 ⟨hrequest, by decide⟩⟩, hclears ⟨hrequest, by decide⟩, ?_⟩
  exact ⟨⟨.surface 7, ⟨0x34325258⟩, 3⟩, rfl, rfl,
    hnew (by decide) _ [.get shownTwice.2.2, .beginCycle] shownTwice.2.2 _ rfl
      (.tail _ (.head _)) rfl⟩

end PoolHistory

end VideoOutput
