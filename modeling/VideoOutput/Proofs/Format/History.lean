import Mathlib
import VideoOutput.Format.Catalog

/-!
# What a history tells of a catalog

The catalog forgets at reset points: when it is cleared, and when a batch is committed that has a
table with records. What it supports is told by the history alone (`supports_run_iff`): the pairs
and the implicit formats recorded since the last reset point, and the selection of that point
itself where it is a commit.
-/

namespace VideoOutput

namespace FormatCatalog

variable {ops : List Op} {op : Op}

/-- The table that the operation loads. -/
def Op.loads? : Op → Option (List FormatEntry)
  | .loadTable source size => (FormatTable.load source size).toOption
  | _ => none

/-- The table of the last load since the last clear that succeeded, or no record at all. -/
def heldTable (past : List Op) : List FormatEntry :=
  ((past.rtakeWhile (· ≠ .clear)).filterMap Op.loads?).getLast?.getD []

/-- The operations since the last commit or clear. -/
def batch (past : List Op) : List Op := past.rtakeWhile fun op => op ≠ .clear ∧ op ≠ .commit

/-- The 16-bit number at a position, lowest byte first. A byte left over is part of none. -/
def indexAt? (bytes : List UInt8) (k : Nat) : Option Nat :=
  match bytes[2 * k]?, bytes[2 * k + 1]? with
  | some low, some high => some (low.toNat + 256 * high.toNat)
  | _, _ => none

def Receives (past : List Op) (i : Nat) : Prop :=
  ∃ bytes k, .addTranche bytes ∈ batch past ∧ indexAt? bytes k = some i

/-- A batch selects the records at its indices, or the whole table where it has none. -/
def Selects (past : List Op) (e : FormatEntry) : Prop :=
  (∃ i, Receives past i ∧ (heldTable past)[i]? = some e)
    ∨ (∀ i, ¬ Receives past i) ∧ e ∈ heldTable past

/-- The operation is a reset point. -/
def Op.Resets (past : List Op) (op : Op) : Prop :=
  op = .clear ∨ op = .commit ∧ heldTable past ≠ []

/-- An operation with the property came in the history, and no reset point after it. -/
def Stands (ops : List Op) (P : List Op → Op → Prop) : Prop :=
  ∃ past op recent, ops = past ++ op :: recent ∧ P past op
    ∧ ∀ mid next rest, recent = mid ++ next :: rest → ¬ next.Resets (past ++ op :: mid)

theorem step_loadTable (c : FormatCatalog) (source : FormatTable.Source) (size : Nat) :
    (c.step (.loadTable source size)).1
      = { c with table := (FormatTable.load source size).toOption.getD c.table } := by
  unfold step loadTable
  rcases hl : FormatTable.load source size with e | table <;> simp only [hl] <;> rfl

theorem commit_eq (c : FormatCatalog) : c.commit
    = if c.table = [] then { c with indices := [] }
      else { c with
        pairs := (selection c.table c.indices).foldl (fun pairs e => pairs.insert e) []
        implicit := []
        negotiation := .feedbackTable
        indices := [] } := by
  simp only [commit, List.isEmpty_iff]

theorem run_concat (c : FormatCatalog) (ops : List Op) (op : Op) :
    run c (ops ++ [op]) = ((run c ops).step op).1 := by
  simp [run, List.foldl_append]

theorem not_stands_nil {P : List Op → Op → Prop} : ¬ Stands [] P := by
  rintro ⟨past, op, recent, h, -⟩
  simp at h

/-- The last operation has the property itself, or leaves standing what stood. -/
theorem stands_concat {P : List Op → Op → Prop} :
    Stands (ops ++ [op]) P ↔ P ops op ∨ ¬ op.Resets ops ∧ Stands ops P := by
  constructor
  · rintro ⟨past, first, recent, hops, hP, hquiet⟩
    -- what came after the one that stands is empty, or ends in the last operation
    rcases recent.eq_nil_or_concat with rfl | ⟨recent, last, rfl⟩
    · obtain ⟨rfl, hop⟩ := List.append_inj' hops rfl
      obtain rfl : op = first := by simpa using hop
      exact .inl hP
    · rw [List.concat_eq_append, ← List.cons_append, ← List.append_assoc] at hops
      obtain ⟨rfl, hop⟩ := List.append_inj' hops rfl
      obtain rfl : op = last := by simpa using hop
      rw [List.concat_eq_append] at hquiet
      refine .inr ⟨hquiet recent op [] rfl, past, first, recent, rfl, hP, ?_⟩
      rintro mid next rest rfl
      exact hquiet mid next (rest ++ [op]) (by simp)
  · rintro (hP | ⟨hresets, past, first, recent, rfl, hP, hquiet⟩)
    · exact ⟨ops, op, [], rfl, hP, by simp⟩
    · refine ⟨past, first, recent ++ [op], by simp, hP, ?_⟩
      intro mid next rest hrecent
      rcases rest.eq_nil_or_concat with rfl | ⟨rest, last, rfl⟩
      · obtain ⟨rfl, hnext⟩ := List.append_inj' hrecent rfl
        obtain rfl : op = next := by simpa using hnext
        exact hresets
      · rw [List.concat_eq_append, ← List.cons_append, ← List.append_assoc] at hrecent
        obtain ⟨hrecent, -⟩ := List.append_inj' hrecent rfl
        exact hquiet mid next rest hrecent

/-! ## The table and the indices -/

theorem heldTable_concat (ops : List Op) (op : Op) : heldTable (ops ++ [op])
    = if op = .clear then [] else op.loads?.getD (heldTable ops) := by
  unfold heldTable
  by_cases h : op = .clear
  · rw [if_pos h, List.rtakeWhile_concat_neg _ _ _ (by simp [h])]
    rfl
  · rw [if_neg h, List.rtakeWhile_concat_pos _ _ _ (by simp [h]), List.filterMap_append]
    rcases hl : op.loads? with _ | table <;> simp [hl]

theorem table_run (ops : List Op) : (run empty ops).table = heldTable ops := by
  induction ops using List.reverseRecOn with
  | nil => rfl
  | append_singleton ops op ih =>
    rw [run_concat, heldTable_concat, ← ih]
    cases op with
    | loadTable source size => simp [step_loadTable, Op.loads?]
    | commit =>
      simp only [step, commit_eq, reduceCtorEq, if_false, Op.loads?, Option.getD_none]
      split_ifs <;> rfl
    | clear => rfl
    | _ => simp [Op.loads?, step, addTranche, record, recordImplicit, recordModifier]

theorem indexAt?_succ (low high : UInt8) (rest : List UInt8) (k : Nat) :
    indexAt? (low :: high :: rest) (k + 1) = indexAt? rest k := by
  unfold indexAt?
  rw [show 2 * (k + 1) = 2 * k + 1 + 1 by omega]
  simp only [List.getElem?_cons_succ]

theorem mem_indicesOfBytes {i : Nat} : ∀ {bytes : List UInt8},
    i ∈ indicesOfBytes bytes ↔ ∃ k, indexAt? bytes k = some i
  | [] => by simp [indicesOfBytes, indexAt?]
  | [_] => by simp [indicesOfBytes, indexAt?]
  | low :: high :: rest => by
    rw [indicesOfBytes, List.mem_cons, mem_indicesOfBytes]
    constructor
    · rintro (rfl | ⟨k, hk⟩)
      · exact ⟨0, by simp [indexAt?, littleEndian]⟩
      · exact ⟨k + 1, (indexAt?_succ low high rest k).trans hk⟩
    · rintro ⟨k, hk⟩
      rcases k with _ | k
      · left
        simpa [indexAt?, littleEndian, eq_comm] using hk
      · exact .inr ⟨k, (indexAt?_succ low high rest k).symm.trans hk⟩

theorem batch_concat (ops : List Op) (op : Op) : batch (ops ++ [op])
    = if op ≠ .clear ∧ op ≠ .commit then batch ops ++ [op] else [] := by
  simp [batch, List.rtakeWhile_concat]

theorem mem_indices_run {i : Nat} : i ∈ (run empty ops).indices ↔ Receives ops i := by
  unfold Receives
  induction ops using List.reverseRecOn with
  | nil => simp [run, empty, batch]
  | append_singleton ops op ih =>
    rw [run_concat, batch_concat]
    cases op with
    | addTranche bytes =>
      simp only [step, addTranche, List.mem_append, ih, mem_indicesOfBytes]
      simp [or_and_right, exists_or]
    | loadTable source size => simp [step_loadTable, ih]
    | commit =>
      simp only [step, commit_eq, ne_eq, not_true_eq_false, and_false, if_false]
      split_ifs <;> simp
    | clear => simp [step, clear, empty]
    | _ => simp [step, record, recordImplicit, recordModifier, ih]

theorem mem_selection_run {e : FormatEntry} :
    e ∈ selection (run empty ops).table (run empty ops).indices ↔ Selects ops e := by
  unfold selection Selects
  rw [table_run]
  simp only [← mem_indices_run]
  rcases (run empty ops).indices with _ | ⟨i, indices⟩
  · simp
  · -- with an index received, only the records at indices are selected
    have hsome : ¬ ∀ j, j ∉ i :: indices := fun h => h i (List.mem_cons_self ..)
    simp only [List.isEmpty_cons, Bool.false_eq_true, if_false, List.mem_filterMap, hsome,
      false_and, or_false]

/-! ## What is supported -/

theorem mem_foldl_insert {e : FormatEntry} : ∀ {entries acc : List FormatEntry},
    e ∈ entries.foldl (fun acc e => acc.insert e) acc ↔ e ∈ entries ∨ e ∈ acc
  | [], acc => by simp
  | head :: entries, acc => by
    rw [List.foldl_cons, mem_foldl_insert, List.mem_insert_iff, List.mem_cons]
    tauto

theorem mem_pairs_step {c : FormatCatalog} {e : FormatEntry} : e ∈ (c.step op).1.pairs ↔
    (op = .record e.format e.modifier ∨ op = .recordModifier e.format e.modifier)
    ∨ (op = .commit ∧ c.table ≠ [] ∧ e ∈ selection c.table c.indices)
    ∨ ¬ (op = .clear ∨ op = .commit ∧ c.table ≠ []) ∧ e ∈ c.pairs := by
  obtain ⟨format, modifier⟩ := e
  cases op with
  | record f m => simp [step, record, eq_comm]
  | recordModifier f m => simp [step, recordModifier, record, eq_comm]
  | clear => simp [step, clear, empty]
  | loadTable source size => simp [step_loadTable]
  | commit =>
    simp only [step, commit_eq]
    split_ifs with h <;> simp [h, mem_foldl_insert]
  | _ => simp [step, addTranche, recordImplicit]

theorem mem_implicit_step {c : FormatCatalog} {f : FourCc} : f ∈ (c.step op).1.implicit ↔
    op = .recordImplicit f
    ∨ ¬ (op = .clear ∨ op = .commit ∧ c.table ≠ []) ∧ f ∈ c.implicit := by
  cases op with
  | recordImplicit f' => simp [step, recordImplicit, eq_comm]
  | clear => simp [step, clear, empty]
  | loadTable source size => simp [step_loadTable]
  | commit =>
    simp only [step, commit_eq]
    split_ifs with h <;> simp [h]
  | _ => simp [step, addTranche, recordModifier, record]

theorem mem_pairs_run {e : FormatEntry} : e ∈ (run empty ops).pairs ↔
    Stands ops (fun _ op =>
      op = .record e.format e.modifier ∨ op = .recordModifier e.format e.modifier)
    ∨ Stands ops fun past op => op = .commit ∧ heldTable past ≠ [] ∧ Selects past e := by
  induction ops using List.reverseRecOn with
  | nil => simp [run, empty, not_stands_nil]
  | append_singleton ops op ih =>
    rw [run_concat, mem_pairs_step, stands_concat, stands_concat, ih, mem_selection_run, table_run]
    unfold Op.Resets
    tauto

theorem mem_implicit_run {f : FourCc} : f ∈ (run empty ops).implicit ↔
    Stands ops fun _ op => op = .recordImplicit f := by
  induction ops using List.reverseRecOn with
  | nil => simp [run, empty, not_stands_nil]
  | append_singleton ops op ih =>
    rw [run_concat, mem_implicit_step, stands_concat, ih, table_run]
    rfl

theorem supports_iff {c : FormatCatalog} {f : FourCc} {m : UInt64} : c.supports f m = true ↔
    ⟨f, m⟩ ∈ c.pairs ∨ (m = implicitModifier ∨ m = linearModifier) ∧ f ∈ c.implicit := by
  simp [supports]

/-- A batch leaves no implicit format, and the next one that is recorded ends its reign. -/
theorem implicit_of_feedbackTable :
    (run empty ops).negotiation = .feedbackTable → (run empty ops).implicit = [] := by
  induction ops using List.reverseRecOn with
  | nil => exact nofun
  | append_singleton ops op ih =>
    rw [run_concat]
    cases op with
    | loadTable source size => simpa [step_loadTable] using ih
    | commit =>
      simp only [step, commit_eq]
      split_ifs
      · exact ih
      · exact fun _ => rfl
    | record format modifier => exact ih
    | addTranche bytes => exact ih
    | clear => exact fun _ => rfl
    | _ => exact nofun

/-- A pair is supported where it was recorded since the last reset point, where it is one of the
implicit or the linear modifier and its format was recorded implicitly since then, or where that
point is a commit that selects it. Feedback counts as the negotiation only while no implicit format
is held. -/
theorem supports_run_iff (ops : List Op) :
    (∀ f m, (run empty ops).supports f m = true ↔
      Stands ops (fun _ op => op = .record f m ∨ op = .recordModifier f m)
      ∨ (m = implicitModifier ∨ m = linearModifier)
        ∧ Stands ops (fun _ op => op = .recordImplicit f)
      ∨ Stands ops fun past op => op = .commit ∧ heldTable past ≠ [] ∧ Selects past ⟨f, m⟩)
    ∧ ((run empty ops).negotiation = .feedbackTable → (run empty ops).implicit = []) := by
  refine ⟨fun f m => ?_, implicit_of_feedbackTable⟩
  rw [supports_iff, mem_pairs_run, mem_implicit_run]
  tauto

end FormatCatalog

end VideoOutput
