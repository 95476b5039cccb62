import VideoOutput.Proofs.Pool.Operations

/-!
# No buffer is lost and none is destroyed twice

In every history of a pool each buffer that was made is in one place: held by one entry, or
destroyed (`run_balanced`). The entries have numbers of their own, and once the pool is freed all is
destroyed (`buffers_conserved`).
-/

namespace VideoOutput

namespace PoolHistory

variable {h : PoolHistory} {op : Op} {ops : List Op}

theorem run_cons (h : PoolHistory) (op : Op) (ops : List Op) :
    run h (op :: ops) = run (h.step op).1 ops := rfl

/-- The buffers held and destroyed are together the ones made, each once. -/
structure Balanced (h : PoolHistory) : Prop where
  conserved : (h.held.map PoolEntry.buffer ++ h.ledger.destroyed).Perm
    (h.ledger.created.map Prod.fst)
  numbered : h.ledger.created.map Prod.fst = List.range' 1 h.ledger.created.length
  distinct : (h.held.map fun e => e.identity.key).Nodup

namespace Balanced

theorem start (resetLength : Nat) (catalog : FormatCatalog) :
    Balanced (start resetLength catalog) :=
  ⟨.nil, rfl, .nil⟩

theorem created_nodup (hb : Balanced h) : (h.ledger.created.map Prod.fst).Nodup :=
  hb.numbered ▸ List.nodup_range'

/-- No buffer is held twice, destroyed twice, or both. -/
theorem nodup (hb : Balanced h) : (h.held.map PoolEntry.buffer ++ h.ledger.destroyed).Nodup :=
  hb.conserved.nodup_iff.2 hb.created_nodup

theorem mem_created (hb : Balanced h) {b : Nat} : b ∈ h.ledger.created.map Prod.fst
    ↔ b ∈ h.held.map PoolEntry.buffer ∨ b ∈ h.ledger.destroyed := by
  rw [← hb.conserved.mem_iff, List.mem_append]

theorem mem_held (hb : Balanced h) {b : Nat} : b ∈ h.held.map PoolEntry.buffer
    ↔ b ∈ h.ledger.created.map Prod.fst ∧ b ∉ h.ledger.destroyed := by
  have hdisjoint := (List.nodup_append.1 hb.nodup).2.2
  rw [hb.mem_created]
  constructor
  · intro hin
    exact ⟨.inl hin, fun hout => hdisjoint b hin b hout rfl⟩
  · rintro ⟨hin | hout, hkept⟩
    · exact hin
    · exact absurd hout hkept

/-- Where nothing is held, each buffer that was made has been destroyed, once. -/
theorem count_destroyed (hb : Balanced h) (hheld : h.held = []) {b : Nat}
    (hmade : b ∈ h.ledger.created.map Prod.fst) : h.ledger.destroyed.count b = 1 := by
  have hdestroyed : h.ledger.destroyed.Nodup := (List.nodup_append.1 hb.nodup).2.1
  rw [hb.mem_created, hheld, List.map_nil] at hmade
  exact List.count_eq_one_of_mem hdestroyed (hmade.resolve_left List.not_mem_nil)

theorem keeps {h' : PoolHistory} (hb : Balanced h) (hk : Keeps h h') : Balanced h' := by
  refine ⟨?_, ?_, ?_⟩
  · rw [hk.held, hk.destroyed, hk.created]
    exact hb.conserved
  · rw [hk.created]
    exact hb.numbered
  · rw [hk.held]
    exact hb.distinct

theorem imports {h' : PoolHistory} {frame : VideoFrame} {e : PoolEntry Nat}
    {description : BufferDescription} (hb : Balanced h) (hi : Imports h h' frame e description) :
    Balanced h' := by
  refine ⟨?_, ?_, ?_⟩
  · rw [hi.held, hi.destroyed, hi.created, List.map_append, List.map_append, List.append_assoc]
    have hmove : ([e].map PoolEntry.buffer ++ h.ledger.destroyed).Perm
        (h.ledger.destroyed ++ [e].map PoolEntry.buffer) := List.perm_append_comm
    refine (hmove.append_left _).trans ?_
    rw [← List.append_assoc]
    exact hb.conserved.append_right _
  · rw [hi.created, List.map_append, hb.numbered, List.length_append, List.map_singleton,
      List.length_singleton, List.range'_1_concat, hi.number, Nat.add_comm 1]
  · rw [hi.held, List.map_append]
    refine List.nodup_append.2 ⟨hb.distinct, List.nodup_singleton _, ?_⟩
    intro number hnumber other hother
    obtain ⟨e', he', rfl⟩ := List.mem_map.1 hnumber
    rw [List.map_singleton, List.mem_singleton] at hother
    rw [hother]
    exact hi.unseen e' he'

theorem empties {h' : PoolHistory} (hb : Balanced h) (he : Empties h h') : Balanced h' := by
  refine ⟨?_, ?_, ?_⟩
  · rw [he.held, he.destroyed, he.created, List.map_nil, List.nil_append]
    exact List.perm_append_comm.trans hb.conserved
  · rw [he.created]
    exact hb.numbered
  · rw [he.held]
    exact .nil

theorem step (hb : Balanced h) (op : Op) : Balanced (h.step op).1 := by
  rcases step_cases h op with ⟨hk, -⟩ | ⟨frame, e, description, -, hi, -⟩ | he
  · exact hb.keeps hk
  · exact hb.imports hi
  · exact hb.empties he

theorem run : ∀ (ops : List Op) {h : PoolHistory}, Balanced h → Balanced (h.run ops)
  | [], _, hb => hb
  | op :: ops, _, hb => by
    rw [run_cons]
    exact run ops (hb.step op)

end Balanced

theorem run_balanced (resetLength : Nat) (catalog : FormatCatalog) (ops : List Op) :
    Balanced (run (start resetLength catalog) ops) :=
  (Balanced.start resetLength catalog).run ops

/-! ## Freed pools -/

theorem run_of_freed (hpool : h.pool = none) : ∀ ops : List Op, run h ops = h
  | [] => rfl
  | op :: ops => by rw [run_cons, step_of_freed hpool, run_of_freed hpool ops]

theorem run_free : ∀ {ops : List Op} {h : PoolHistory}, Op.free ∈ ops → (run h ops).pool = none
  | op :: ops, h, hfree => by
    rw [run_cons]
    rcases List.mem_cons.1 hfree with rfl | hfree
    · have hpool : (h.step .free).1.pool = none := by
        cases hp : h.pool <;> simp [step, hp]
      rw [run_of_freed hpool, hpool]
    · exact run_free hfree

/-- In every history the buffers that were made and not destroyed are the ones held, each by one
entry. The entries have different numbers, and no buffer is destroyed twice. A history in which the
pool is freed has destroyed each buffer once. -/
theorem buffers_conserved (resetLength : Nat) (catalog : FormatCatalog) (ops : List Op) :
    let h := run (start resetLength catalog) ops
    (h.ledger.created.map Prod.fst).Nodup
      ∧ (∀ b, b ∈ h.held.map PoolEntry.buffer
        ↔ b ∈ h.ledger.created.map Prod.fst ∧ b ∉ h.ledger.destroyed)
      ∧ (h.held.map PoolEntry.buffer).Nodup
      ∧ (h.held.map fun e => e.identity.key).Nodup
      ∧ h.ledger.destroyed.Nodup
      ∧ (Op.free ∈ ops → ∀ b ∈ h.ledger.created.map Prod.fst, h.ledger.destroyed.count b = 1) := by
  intro h
  have hb : Balanced h := run_balanced resetLength catalog ops
  obtain ⟨hheld, hdestroyed, -⟩ := List.nodup_append.1 hb.nodup
  refine ⟨hb.created_nodup, fun b => hb.mem_held, hheld, hb.distinct, hdestroyed,
    fun hfree b hmade => ?_⟩
  have hnone : h.held = [] := by
    unfold held
    rw [run_free hfree]
    rfl
  exact hb.count_destroyed hnone hmade

end PoolHistory

end VideoOutput
