import VideoOutput.Proofs.Config.Sections

/-!
# Merged tables

What merging does to one key: a key that only one of two tables has keeps its value, and one that
both have gets the two values merged (`entry_merge`). This asks of the table on top that no key is
in it twice, since its entries are laid one after the other.
-/

namespace VideoOutput

namespace Toml

namespace Value

/-- The entries of a table; any other value has none. -/
def entries : Value → Entries
  | .table entries => entries
  | _ => []

def IsTable (v : Value) : Prop := ∃ entries, v = .table entries

/-- What a table has under the key. -/
def entry (v : Value) (key : String) : Option Value := v.entries.lookup key

/-- The entries of the table under the key. -/
def part (v : Value) (key : String) : Entries := ((v.entry key).map entries).getD []

theorem merge_of_not_table {base override : Value} (h : ¬ (base.IsTable ∧ override.IsTable)) :
    merge base override = override := by
  cases base with
  | table entries =>
    cases override with
    | table overrides => exact absurd ⟨⟨_, rfl⟩, ⟨_, rfl⟩⟩ h
    | _ => simp only [merge]
  | _ => simp only [merge]

theorem lookup_cons (k key : String) (v : Value) (rest : Entries) :
    List.lookup k ((key, v) :: rest) = if k = key then some v else rest.lookup k := by
  split_ifs with hk
  · rw [hk, List.lookup_cons_self]
  · rw [List.lookup_cons, beq_false_of_ne hk]

theorem lookup_put (k key : String) (v : Value) : ∀ base : Entries,
    (put key v base).lookup k = if k = key then some v else base.lookup k
  | [] => lookup_cons k key v []
  | (key', v') :: base => by
    rw [put]
    split_ifs with hkey hk hk
    · rw [lookup_cons, if_pos (hk.trans hkey.symm)]
    · have hk' : k ≠ key' := fun h => hk (h.trans hkey)
      rw [lookup_cons, lookup_cons, if_neg hk', if_neg hk']
    · rw [lookup_cons, if_neg fun h => hkey (h.symm.trans hk), lookup_put, if_pos hk]
    · rw [lookup_cons, lookup_cons, lookup_put, if_neg hk]

/-- One key of two tables that are merged. -/
theorem lookup_mergeEntries (k : String) : ∀ {overrides base : Entries},
    (overrides.map Prod.fst).Nodup → (mergeEntries base overrides).lookup k
      = match overrides.lookup k with
        | none => base.lookup k
        | some o => some (((base.lookup k).map (merge · o)).getD o)
  | [], base, _ => by rw [mergeEntries, List.lookup_nil]
  | (key, o) :: rest, base, h => by
    obtain ⟨hkey, hrest⟩ := List.nodup_cons.1 h
    rw [mergeEntries, lookup_mergeEntries k hrest, lookup_put, lookup_cons]
    by_cases hk : k = key
    · subst hk
      have hnone : rest.lookup k = none := List.lookup_eq_none_iff.2 fun e he =>
        bne_iff_ne.2 fun h => hkey (List.mem_map.2 ⟨e, he, h.symm⟩)
      rw [hnone, if_pos rfl, if_pos rfl]
      cases base.lookup k <;> rfl
    · rw [if_neg hk, if_neg hk]

/-- One key of a value with a table laid over it. -/
theorem entry_merge {base override : Value} (hbase : base.IsTable) (hoverride : override.IsTable)
    (htidy : override.Tidy) (k : String) : (merge base override).entry k
      = match override.entry k with
        | none => base.entry k
        | some o => some (((base.entry k).map (merge · o)).getD o) := by
  obtain ⟨base, rfl⟩ := hbase
  obtain ⟨overrides, rfl⟩ := hoverride
  rcases htidy with _ | _ | _ | _ | _ | _ | ⟨hkeys, -⟩
  rw [merge]
  exact lookup_mergeEntries k hkeys

theorem isTable_merge {base override : Value} (hbase : base.IsTable)
    (hoverride : override.IsTable) : (merge base override).IsTable := by
  obtain ⟨base, rfl⟩ := hbase
  obtain ⟨overrides, rfl⟩ := hoverride
  rw [merge]
  exact ⟨_, rfl⟩

theorem Tidy.of_entry {v w : Value} {k : String} (h : v.Tidy) (hw : v.entry k = some w) :
    w.Tidy := by
  rcases h with _ | _ | _ | _ | _ | _ | ⟨-, h⟩
  case table entries =>
    obtain ⟨p, q, rfl, -⟩ := List.lookup_eq_some_iff.1 (show entries.lookup k = some w from hw)
    exact h (k, w) (List.mem_append_right p (List.mem_cons_self ..))
  all_goals cases hw

end Value

end Toml

end VideoOutput
