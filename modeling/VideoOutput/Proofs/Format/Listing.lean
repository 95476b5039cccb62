import VideoOutput.Proofs.Format.History

/-!
# The listing of a catalog

A catalog is asked in three ways: whether it supports a pair, which pairs it has, and how many. The
listing is ascending and so told by its members alone, in whatever order they were recorded
(`entries_ascending`, `entries_congr`). A format that is held both ways is listed once and counted
twice (`entries_agree`).
-/

namespace VideoOutput

namespace FormatEntry

/-- The number of the format and then the modifier, compared in this order. -/
def key (e : FormatEntry) : ℕ ×ₗ ℕ := toLex (e.format.code.toNat, e.modifier.toNat)

theorem key_injective : Function.Injective key := by
  rintro ⟨⟨f⟩, m⟩ ⟨⟨f'⟩, m'⟩ h
  obtain ⟨hf, hm⟩ := Prod.mk.inj (toLex.injective h)
  obtain rfl : f = f' := UInt32.toNat_inj.1 hf
  obtain rfl : m = m' := UInt64.toNat_inj.1 hm
  rfl

theorem precedes_iff {a b : FormatEntry} : a.precedes b = true ↔ a.key < b.key := by
  simp [precedes, key, Prod.Lex.toLex_lt_toLex, UInt32.lt_iff_toNat_lt, UInt64.lt_iff_toNat_lt,
    UInt32.toNat_inj]

/-- No entry comes twice, and each after those of a smaller key. -/
def Ascending (entries : List FormatEntry) : Prop := entries.Pairwise fun a b => a.key < b.key

variable {e x : FormatEntry}

theorem mem_place : ∀ {entries : List FormatEntry}, x ∈ e.place entries ↔ x = e ∨ x ∈ entries
  | [] => by simp [place]
  | head :: rest => by
    rw [place]
    split_ifs with hsame hbefore
    · simp [hsame]
    · simp
    · simp only [List.mem_cons, mem_place]
      tauto

theorem Ascending.place : ∀ {entries : List FormatEntry}, Ascending entries →
    Ascending (e.place entries)
  | [], _ => List.pairwise_singleton _ _
  | head :: rest, h => by
    obtain ⟨hhead, hrest⟩ := List.pairwise_cons.1 h
    rw [FormatEntry.place]
    split_ifs with hsame hbefore
    · exact h
    · have hlt := precedes_iff.1 hbefore
      refine List.pairwise_cons.2 ⟨fun x hx => ?_, h⟩
      rcases List.mem_cons.1 hx with rfl | hx
      · exact hlt
      · exact hlt.trans (hhead x hx)
    · have hlt : head.key < e.key := lt_of_le_of_ne (not_lt.1 (mt precedes_iff.2 hbefore))
        fun hkey => hsame (key_injective hkey).symm
      refine List.pairwise_cons.2 ⟨fun x hx => ?_, Ascending.place hrest⟩
      rcases mem_place.1 hx with rfl | hx
      · exact hlt
      · exact hhead x hx

theorem Ascending.nodup {entries : List FormatEntry} (h : Ascending entries) : entries.Nodup :=
  h.imp fun hlt hsame => hlt.ne (congrArg key hsame)

theorem Ascending.eq_of_mem_iff {entries entries' : List FormatEntry} (h : Ascending entries)
    (h' : Ascending entries') (hmem : ∀ e, e ∈ entries ↔ e ∈ entries') : entries = entries' := by
  have hperm : entries.Perm entries' := (List.perm_ext_iff_of_nodup h.nodup h'.nodup).2 hmem
  exact hperm.eq_of_pairwise (fun a b _ _ hab hba => absurd hab hba.not_gt) h h'

end FormatEntry

namespace FormatCatalog

variable {ops : List Op} {c c' : FormatCatalog}

theorem entries_ascending (c : FormatCatalog) : FormatEntry.Ascending c.entries := by
  unfold entries
  induction c.pairs ++ c.implicit.map (FormatEntry.mk · implicitModifier) with
  | nil => exact List.Pairwise.nil
  | cons e rest ih => exact ih.place

theorem mem_entries {e : FormatEntry} : e ∈ c.entries ↔
    e ∈ c.pairs ∨ e.modifier = implicitModifier ∧ e.format ∈ c.implicit := by
  have hplaced : ∀ l : List FormatEntry, e ∈ l.foldr FormatEntry.place [] ↔ e ∈ l := by
    intro l
    induction l with
    | nil => rfl
    | cons head rest ih => simp [FormatEntry.mem_place, ih]
  rw [entries, hplaced, List.mem_append, List.mem_map]
  refine or_congr_right ⟨?_, ?_⟩
  · rintro ⟨f, hf, rfl⟩
    exact ⟨rfl, hf⟩
  · rintro ⟨hm, hf⟩
    exact ⟨e.format, hf, by rw [← hm]⟩

theorem entries_congr (hpairs : ∀ e, e ∈ c.pairs ↔ e ∈ c'.pairs)
    (himplicit : ∀ f, f ∈ c.implicit ↔ f ∈ c'.implicit) : c.entries = c'.entries :=
  (entries_ascending c).eq_of_mem_iff (entries_ascending c') fun e => by
    rw [mem_entries, mem_entries, hpairs, himplicit]

theorem supports_iff_mem_entries {f : FourCc} {m : UInt64} : c.supports f m = true ↔
    ⟨f, m⟩ ∈ c.entries ∨ m = linearModifier ∧ f ∈ c.implicit := by
  rw [supports_iff, mem_entries]
  tauto

theorem isEmpty_iff : c.isEmpty = true ↔ c.entries = [] := by
  simp only [isEmpty, Bool.and_eq_true, List.isEmpty_iff, List.eq_nil_iff_forall_not_mem,
    mem_entries, not_or, not_and]
  constructor
  · rintro ⟨hpairs, himplicit⟩ e
    exact ⟨hpairs e, fun _ => himplicit e.format⟩
  · intro h
    exact ⟨fun e => (h e).1, fun f => (h ⟨f, implicitModifier⟩).2 rfl⟩

/-! ## Sets that do not repeat -/

theorem nodup_foldl_insert : ∀ (entries : List FormatEntry) {acc : List FormatEntry}, acc.Nodup →
    (entries.foldl (fun acc e => acc.insert e) acc).Nodup
  | [], _, h => h
  | _ :: entries, _, h => nodup_foldl_insert entries h.insert

theorem step_nodup (op : Op) (h : c.pairs.Nodup ∧ c.implicit.Nodup) :
    (c.step op).1.pairs.Nodup ∧ (c.step op).1.implicit.Nodup := by
  obtain ⟨hpairs, himplicit⟩ := h
  cases op with
  | record f m => exact ⟨hpairs.insert, himplicit⟩
  | recordImplicit f => exact ⟨hpairs, himplicit.insert⟩
  | recordModifier f m => exact ⟨hpairs.insert, himplicit⟩
  | clear => exact ⟨List.nodup_nil, List.nodup_nil⟩
  | loadTable source size => simpa [step_loadTable] using ⟨hpairs, himplicit⟩
  | addTranche bytes => exact ⟨hpairs, himplicit⟩
  | commit =>
    simp only [step, commit_eq]
    split_ifs
    · exact ⟨hpairs, himplicit⟩
    · exact ⟨nodup_foldl_insert _ List.nodup_nil, List.nodup_nil⟩

theorem run_nodup (ops : List Op) :
    (run empty ops).pairs.Nodup ∧ (run empty ops).implicit.Nodup := by
  induction ops using List.reverseRecOn with
  | nil => exact ⟨List.nodup_nil, List.nodup_nil⟩
  | append_singleton ops op ih =>
    rw [run_concat]
    exact step_nodup op ih

/-- The implicit formats that are held with the implicit modifier too. -/
def heldTwice (c : FormatCatalog) : List FourCc :=
  c.implicit.filter fun f => ⟨f, implicitModifier⟩ ∈ c.pairs

theorem size_eq (hpairs : c.pairs.Nodup) (himplicit : c.implicit.Nodup) :
    c.size = c.entries.length + c.heldTwice.length := by
  -- the listing is the pairs and, after them, the implicit formats that are not held twice
  have hperm : c.entries.Perm (c.pairs ++ (c.implicit.filter fun f =>
      !decide (⟨f, implicitModifier⟩ ∈ c.pairs)).map (FormatEntry.mk · implicitModifier)) := by
    refine (List.perm_ext_iff_of_nodup (entries_ascending c).nodup ?_).2 fun e => ?_
    · refine hpairs.append ((himplicit.filter _).map fun f f' h => (FormatEntry.mk.inj h).1) ?_
      rintro e he hmem
      obtain ⟨f, hf, rfl⟩ := List.mem_map.1 hmem
      simp [he] at hf
    · rw [mem_entries, List.mem_append, List.mem_map]
      constructor
      · rintro (he | ⟨hm, hf⟩)
        · exact .inl he
        · by_cases he : e ∈ c.pairs
          · exact .inl he
          · refine .inr ⟨e.format, List.mem_filter.2 ⟨hf, ?_⟩, by rw [← hm]⟩
            rw [← hm]
            simpa using he
      · rintro (he | ⟨f, hf, rfl⟩)
        · exact .inl he
        · exact .inr ⟨rfl, (List.mem_filter.1 hf).1⟩
  rw [size, hperm.length_eq, List.length_append, List.length_map, heldTwice,
    List.length_eq_length_filter_add (l := c.implicit) fun f => ⟨f, implicitModifier⟩ ∈ c.pairs]
  omega

/-! ## Recording in another order -/

/-- The operation records a pair or an implicit format. -/
def Op.Records : Op → Prop
  | .record _ _ | .recordModifier _ _ | .recordImplicit _ => True
  | _ => False

theorem Op.Records.mem_pairs {op : Op} (h : op.Records) {e : FormatEntry} :
    e ∈ (c.step op).1.pairs ↔ e ∈ c.pairs
      ∨ op = .record e.format e.modifier ∨ op = .recordModifier e.format e.modifier := by
  rw [mem_pairs_step]
  cases op with
  | record f m => simp [or_comm]
  | recordModifier f m => simp [or_comm]
  | recordImplicit f => simp
  | _ => exact absurd h id

theorem Op.Records.mem_implicit {op : Op} (h : op.Records) {f : FourCc} :
    f ∈ (c.step op).1.implicit ↔ f ∈ c.implicit ∨ op = .recordImplicit f := by
  rw [mem_implicit_step]
  cases op with
  | record f m => simp
  | recordModifier f m => simp
  | recordImplicit f => simp [or_comm]
  | _ => exact absurd h id

theorem mem_pairs_records {e : FormatEntry} : ∀ {records : List Op} {c : FormatCatalog},
    (∀ op ∈ records, op.Records) → (e ∈ (run c records).pairs ↔ e ∈ c.pairs
      ∨ .record e.format e.modifier ∈ records ∨ .recordModifier e.format e.modifier ∈ records)
  | [], c, _ => by simp [run]
  | op :: records, c, h => by
    obtain ⟨hop, hrest⟩ := List.forall_mem_cons.1 h
    have hstep : run c (op :: records) = run (c.step op).1 records := rfl
    rw [hstep, mem_pairs_records hrest, hop.mem_pairs]
    simp only [List.mem_cons, eq_comm (a := op)]
    tauto

theorem mem_implicit_records {f : FourCc} : ∀ {records : List Op} {c : FormatCatalog},
    (∀ op ∈ records, op.Records) →
      (f ∈ (run c records).implicit ↔ f ∈ c.implicit ∨ .recordImplicit f ∈ records)
  | [], c, _ => by simp [run]
  | op :: records, c, h => by
    obtain ⟨hop, hrest⟩ := List.forall_mem_cons.1 h
    have hstep : run c (op :: records) = run (c.step op).1 records := rfl
    rw [hstep, mem_implicit_records hrest, hop.mem_implicit]
    simp only [List.mem_cons, eq_comm (a := op)]
    tauto

theorem entries_run_perm {records records' : List Op} (c : FormatCatalog)
    (hperm : records.Perm records') (h : ∀ op ∈ records, op.Records) :
    (run c records).entries = (run c records').entries := by
  have h' : ∀ op ∈ records', op.Records := fun op hop => h op (hperm.mem_iff.2 hop)
  refine entries_congr (fun e => ?_) fun f => ?_
  · rw [mem_pairs_records h, mem_pairs_records h', hperm.mem_iff, hperm.mem_iff]
  · rw [mem_implicit_records h, mem_implicit_records h', hperm.mem_iff]

/-- The listing of a catalog is ascending. It has the pairs that are held and, with the implicit
modifier, the implicit formats; two catalogs that hold the same are listed the same, whatever order
it was recorded in. What is supported, besides the linear modifier of an implicit format, is what is
listed; nothing is listed where nothing is held; and the size counts the formats that are held twice
once more. -/
theorem entries_agree (h : run empty ops = c) :
    FormatEntry.Ascending c.entries
    ∧ (∀ e, e ∈ c.entries ↔
      e ∈ c.pairs ∨ e.modifier = implicitModifier ∧ e.format ∈ c.implicit)
    ∧ (∀ c' : FormatCatalog, (∀ e, e ∈ c.pairs ↔ e ∈ c'.pairs) →
      (∀ f, f ∈ c.implicit ↔ f ∈ c'.implicit) → c.entries = c'.entries)
    ∧ (∀ records records' : List Op, records.Perm records' → (∀ op ∈ records, op.Records) →
      (run c records).entries = (run c records').entries)
    ∧ (∀ f m, c.supports f m = true ↔ ⟨f, m⟩ ∈ c.entries ∨ m = linearModifier ∧ f ∈ c.implicit)
    ∧ c.size = c.entries.length + c.heldTwice.length
    ∧ (c.isEmpty = true ↔ c.entries = []) := by
  subst h
  obtain ⟨hpairs, himplicit⟩ := run_nodup ops
  exact ⟨entries_ascending _, fun _ => mem_entries, fun _ => entries_congr,
    fun _ _ => entries_run_perm _, fun _ _ => supports_iff_mem_entries, size_eq hpairs himplicit,
    isEmpty_iff⟩

/-- One format is recorded both ways, and another only as a pair. -/
def bothWays : List Op :=
  [.recordImplicit ⟨0x3231564e⟩, .record ⟨0x3231564e⟩ implicitModifier,
    .recordModifier ⟨0x30313050⟩ linearModifier]

theorem entries_agree_bothWays :
    (run empty bothWays).size = (run empty bothWays).entries.length + 1
    ∧ (run empty bothWays).entries = (run empty bothWays.reverse).entries := by
  have hboth : run empty bothWays = run empty bothWays := rfl
  obtain ⟨-, -, -, -, -, hsize, -⟩ := entries_agree hboth
  have hnone : run empty [] = empty := rfl
  obtain ⟨-, -, -, hperm, -⟩ := entries_agree hnone
  have htwice : (run empty bothWays).heldTwice = [⟨0x3231564e⟩] := by decide
  rw [htwice] at hsize
  exact ⟨hsize, hperm bothWays bothWays.reverse (List.reverse_perm _).symm
    (by simp [bothWays, Op.Records])⟩

end FormatCatalog

end VideoOutput
