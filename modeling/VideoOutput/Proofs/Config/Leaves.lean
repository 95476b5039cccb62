import VideoOutput.Proofs.Config.Merging

/-!
# The leaves of merged tables

A leaf is a value that is not a table, at the path of keys that leads to it. Merging keeps every
leaf of the value on top, and of the value below those that nothing on top is in the way of
(`merge_leaves`): a value at the same place is, and so is a leaf on the way. An empty table is in
the way of a leaf in its own place and of nothing below it.
-/

namespace VideoOutput

namespace Toml

namespace Value

variable {base override v w : Value} {k : String} {path : List String}

/-- The value that the keys lead to, from table to table. -/
def descend (v : Value) : List String → Option Value
  | [] => some v
  | k :: path => (v.entry k).bind fun w => w.descend path

/-- At the path there is the value, and it is not a table. -/
def Leaf (v : Value) (path : List String) (w : Value) : Prop :=
  v.descend path = some w ∧ ¬ w.IsTable

/-- There is no value at the path, and none but tables on the way to it. -/
structure Clear (v : Value) (path : List String) : Prop where
  free : v.descend path = none
  way : ∀ before, before <+: path → before ≠ path → ∀ w, v.descend before = some w → w.IsTable

theorem entry_of_not_table (h : ¬ v.IsTable) : v.entry k = none := by
  cases v with
  | table entries => exact absurd ⟨entries, rfl⟩ h
  | _ => rfl

theorem Leaf.nil_iff : v.Leaf [] w ↔ v = w ∧ ¬ w.IsTable := by
  unfold Leaf
  rw [descend, Option.some_inj]

theorem Leaf.cons_iff : v.Leaf (k :: path) w ↔ ∃ u, v.entry k = some u ∧ u.Leaf path w := by
  unfold Leaf
  rw [descend, Option.bind_eq_some_iff]
  constructor
  · rintro ⟨⟨u, hu, hw⟩, hleaf⟩
    exact ⟨u, hu, hw, hleaf⟩
  · rintro ⟨u, hu, hw, hleaf⟩
    exact ⟨⟨u, hu, hw⟩, hleaf⟩

theorem not_clear_nil : ¬ v.Clear [] := fun h => Option.some_ne_none v h.free

theorem Clear.isTable (h : v.Clear (k :: path)) : v.IsTable :=
  h.way [] List.nil_prefix (List.cons_ne_nil k path).symm v rfl

theorem Clear.of_cons (h : v.Clear (k :: path)) (hw : v.entry k = some w) : w.Clear path := by
  have hdescend : ∀ path, v.descend (k :: path) = w.descend path := fun path => by
    rw [descend, hw, Option.bind_some]
  refine ⟨hdescend path ▸ h.free, fun before hbefore hproper u hu => ?_⟩
  exact h.way (k :: before) (List.cons_prefix_cons.2 ⟨rfl, hbefore⟩)
    (fun heq => hproper ((List.cons_inj_right k).1 heq)) u ((hdescend before).trans hu)

/-- Below a table the way is clear where the entry has it clear, or where there is no entry. -/
theorem Clear.cons (hv : v.IsTable) (h : ∀ w, v.entry k = some w → w.Clear path) :
    v.Clear (k :: path) := by
  refine ⟨?_, fun before hbefore hproper u hu => ?_⟩
  · rw [descend, Option.bind_eq_none_iff]
    exact fun w hw => (h w hw).free
  · cases before with
    | nil => exact Option.some.inj hu ▸ hv
    | cons key before =>
      obtain ⟨rfl, hprefix⟩ := List.cons_prefix_cons.1 hbefore
      rw [descend, Option.bind_eq_some_iff] at hu
      obtain ⟨w, hw, hu⟩ := hu
      exact (h w hw).way before hprefix (fun heq => hproper (congrArg _ heq)) u hu

/-- Where the two are not both tables nothing is left of the one below. -/
theorem not_leaf_of_clear (h : ¬ (base.IsTable ∧ override.IsTable)) (hclear : override.Clear path) :
    ¬ base.Leaf path w := by
  intro hleaf
  cases path with
  | nil => exact not_clear_nil hclear
  | cons k path =>
    obtain ⟨u, hu, -⟩ := Leaf.cons_iff.1 hleaf
    have hbase : ¬ base.IsTable := fun hbase => h ⟨hbase, hclear.isTable⟩
    rw [entry_of_not_table hbase] at hu
    cases hu

theorem leaf_merge (path : List String) : ∀ (base : Value) {override : Value}, override.Tidy →
    ((merge base override).Leaf path w
      ↔ override.Leaf path w ∨ base.Leaf path w ∧ override.Clear path) := by
  induction path with
  | nil =>
    intro base override _
    by_cases htables : base.IsTable ∧ override.IsTable
    · have hmerged := isTable_merge htables.1 htables.2
      rw [Leaf.nil_iff, Leaf.nil_iff]
      constructor
      · rintro ⟨rfl, hleaf⟩
        exact absurd hmerged hleaf
      · rintro (⟨rfl, hleaf⟩ | ⟨-, hclear⟩)
        · exact absurd htables.2 hleaf
        · exact absurd hclear not_clear_nil
    · rw [merge_of_not_table htables, or_iff_left fun h => not_clear_nil h.2]
  | cons k path ih =>
    intro base override htidy
    by_cases htables : base.IsTable ∧ override.IsTable
    · rw [Leaf.cons_iff, Leaf.cons_iff, Leaf.cons_iff,
        entry_merge htables.1 htables.2 htidy k]
      cases hover : override.entry k with
      | none =>
        have hclear : override.Clear (k :: path) :=
          .cons htables.2 fun w hw => by rw [hover] at hw; cases hw
        simp [hclear]
      | some o =>
        have hclear : override.Clear (k :: path) ↔ o.Clear path := by
          refine ⟨fun h => h.of_cons hover, fun h => .cons htables.2 fun w hw => ?_⟩
          rw [hover] at hw
          exact Option.some.inj hw ▸ h
        cases base.entry k with
        | none => simp
        | some b => simp [hclear, ih b (htidy.of_entry hover)]
    · rw [merge_of_not_table htables,
        or_iff_left fun h => not_leaf_of_clear htables h.2 h.1]

/-! ## Merging again -/

theorem put_of_lookup {key : String} : ∀ {entries : Entries}, entries.lookup key = some v →
    put key v entries = entries
  | [], h => by cases h
  | (key', v') :: rest, h => by
    rw [lookup_cons] at h
    rw [put]
    split_ifs at h ⊢ with hkey hkey' hkey'
    · cases h
      rfl
    · exact absurd hkey.symm hkey'
    · exact absurd hkey'.symm hkey
    · rw [put_of_lookup h]

/-- Entries that change nothing of what is there are laid over it without effect. -/
theorem mergeEntries_absorb {entries : Entries} : ∀ {overrides : Entries},
    (∀ e ∈ overrides, ∃ v, entries.lookup e.1 = some v ∧ merge v e.2 = v) →
    mergeEntries entries overrides = entries
  | [], _ => by rw [mergeEntries]
  | (key, o) :: rest, h => by
    obtain ⟨⟨v, hv, hmerge⟩, hrest⟩ := List.forall_mem_cons.1 h
    rw [mergeEntries, hv]
    dsimp only
    rw [hmerge, put_of_lookup hv, mergeEntries_absorb hrest]

theorem lookup_of_mem {entries : Entries} (hkeys : (entries.map Prod.fst).Nodup)
    {e : String × Value} (he : e ∈ entries) : entries.lookup e.1 = some e.2 := by
  obtain ⟨before, after, rfl⟩ := List.append_of_mem he
  refine List.lookup_eq_some_iff.2 ⟨before, after, rfl, fun d hd => ?_⟩
  rw [List.map_append, List.map_cons] at hkeys
  have hne := (List.nodup_append.1 hkeys).2.2 d.1 (List.mem_map_of_mem hd) e.1
    (List.mem_cons_self ..)
  exact bne_iff_ne.2 hne.symm

theorem merge_self (h : v.Tidy) : merge v v = v := by
  induction h with
  | table hkeys _ ih =>
    rw [merge, mergeEntries_absorb fun e he => ⟨e.2, lookup_of_mem hkeys he, ih e he⟩]
  | _ => simp only [merge]

theorem merge_again (h : override.Tidy) : ∀ base : Value,
    merge (merge base override) override = merge base override := by
  induction h with
  | @table overrides hkeys hentries ih =>
    intro base
    have htidy : (table overrides).Tidy := .table hkeys hentries
    by_cases hbase : base.IsTable
    · obtain ⟨entries, rfl⟩ := hbase
      rw [merge, merge, mergeEntries_absorb fun e he => ?_]
      have hlookup : (mergeEntries entries overrides).lookup e.1 = _ :=
        lookup_mergeEntries e.1 hkeys
      rw [lookup_of_mem hkeys he] at hlookup
      refine ⟨_, hlookup, ?_⟩
      cases entries.lookup e.1 with
      | none => exact merge_self (hentries e he)
      | some b => exact ih e he b
    · rw [merge_of_not_table fun h => hbase h.1, merge_self htidy]
  | _ =>
    intro base
    cases base <;> simp only [merge]

/-- The leaves of two merged values are those of the one on top, and of the one below those at a
path where the one on top has no value, with no leaf on the way. Merging the same again changes
nothing, and neither does merging an empty table. -/
theorem merge_leaves (base : Value) (h : override.Tidy) :
    (∀ path w, (merge base override).Leaf path w
      ↔ override.Leaf path w ∨ base.Leaf path w ∧ override.Clear path)
    ∧ merge (merge base override) override = merge base override
    ∧ (base.IsTable → merge base (.table []) = base) := by
  refine ⟨fun path w => leaf_merge path base h, merge_again h base, ?_⟩
  rintro ⟨entries, rfl⟩
  rw [merge, mergeEntries]

/-- A leaf under an empty table is kept, one beside a leaf too; one in the place of a table or under
a leaf is lost. -/
theorem merge_leaves_conflicts :
    let base := table [("kept", .table [("deep", .integer 1), ("other", .integer 2)]),
      ("replaced", .integer 3), ("hidden", .table [("deep", .integer 4)])]
    let override := table [("kept", .table [("other", .boolean true)]), ("replaced", .table []),
      ("hidden", .string "leaf"), ("added", .table [])]
    let merged := table [("kept", .table [("deep", .integer 1), ("other", .boolean true)]),
      ("replaced", .table []), ("hidden", .string "leaf"), ("added", .table [])]
    override.Tidy ∧ merge base override = merged ∧ merge merged override = merged
      ∧ merged.Leaf ["kept", "deep"] (.integer 1)
      ∧ (∀ w, ¬ merged.Leaf ["replaced"] w) ∧ ∀ w, ¬ merged.Leaf ["hidden", "deep"] w := by
  intro base override merged
  have htidy : override.Tidy := by
    have hnone : (table []).Tidy := .table List.nodup_nil (List.forall_mem_nil _)
    have hone : (table [("other", .boolean true)]).Tidy :=
      .table (List.nodup_singleton _) (List.forall_mem_singleton.2 (.boolean true))
    refine .table (by decide) ?_
    simp only [List.forall_mem_cons]
    exact ⟨hone, hnone, .string _, hnone, List.forall_mem_nil _⟩
  obtain ⟨hleaves, hagain, -⟩ := merge_leaves base htidy
  have hmerged : merge base override = merged := by
    simp [base, override, merged, merge, mergeEntries, put, List.lookup]
  rw [hmerged] at hleaves hagain
  refine ⟨htidy, hmerged, hagain, (hleaves _ _).2 (.inr ⟨⟨rfl, by rintro ⟨_, ⟨⟩⟩⟩, ?_⟩), ?_, ?_⟩
  · have hdeep : (table [("other", .boolean true)]).Clear ["deep"] :=
      .cons ⟨_, rfl⟩ fun w hw => by cases hw
    exact .cons ⟨_, rfl⟩ fun w hw => Option.some.inj hw ▸ hdeep
  · intro w hw
    rcases (hleaves _ _).1 hw with ⟨hw, hleaf⟩ | ⟨-, hclear⟩
    · exact hleaf (Option.some.inj hw ▸ ⟨_, rfl⟩)
    · cases hclear.free
  · intro w hw
    rcases (hleaves _ _).1 hw with ⟨hw, -⟩ | ⟨-, hclear⟩
    · cases hw
    · obtain ⟨_, ⟨⟩⟩ := (hclear.of_cons (w := .string "leaf") rfl).isTable

end Value

end Toml

end VideoOutput
