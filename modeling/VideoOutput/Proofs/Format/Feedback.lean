import VideoOutput.Proofs.Format.History

/-!
# What feedback leaves supported

Once a table was announced and its batch committed, all that is supported should be a record of it.
So it is where the table could be loaded and has a record. One that could not be loaded leaves the
table before it to be selected from, and an empty one leaves supported what was
(`supports_after_announcement`, `exists_stale_announcement`).
-/

namespace VideoOutput

namespace FormatCatalog

/-- The operation is an event of feedback. -/
def Op.IsFeedback : Op → Prop
  | .loadTable _ _ | .addTranche _ | .commit => True
  | _ => False

/-- The operation is an event of feedback and announces no table. -/
def Op.IsBatch : Op → Prop
  | .addTranche _ | .commit => True
  | _ => False

/-- The events of feedback from before the announcement of a table until now. -/
def announced (events : List Op) (source : FormatTable.Source) (size : Nat) (later : List Op) :
    List Op :=
  events ++ .loadTable source size :: later

/-- The catalog when the batch received so far is committed. -/
def committed (past : List Op) : FormatCatalog := run empty (past ++ [.commit])

variable {events later : List Op} {source : FormatTable.Source} {size : Nat}

theorem heldTable_append (events : List Op) (h : ∀ op ∈ later, op.IsBatch) :
    heldTable (events ++ later) = heldTable events := by
  induction later using List.reverseRecOn with
  | nil => rw [List.append_nil]
  | append_singleton later op ih =>
    have hop : op.IsBatch := h op (by simp)
    rw [← List.append_assoc, heldTable_concat, ih fun o ho => h o (by simp [ho])]
    cases op <;> simp_all [Op.IsBatch, Op.loads?]

/-- Without a table a batch changes nothing that is supported. -/
theorem supports_run_of_no_table : ∀ {later : List Op} {c : FormatCatalog}, c.table = [] →
    (∀ op ∈ later, op.IsBatch) → (run c later).supports = c.supports
  | [], _, _, _ => rfl
  | op :: later, c, htable, h => by
    have hop : op.IsBatch := h op (List.mem_cons_self ..)
    have hrest : ∀ o ∈ later, o.IsBatch := fun o ho => h o (List.mem_cons_of_mem _ ho)
    have hstep : (c.step op).1.table = [] ∧ (c.step op).1.supports = c.supports := by
      cases op with
      | addTranche bytes => exact ⟨htable, rfl⟩
      | commit =>
        simp only [step, commit_eq, if_pos htable]
        exact ⟨htable, rfl⟩
      | _ => exact absurd hop id
    exact (supports_run_of_no_table hstep.1 hrest).trans hstep.2

/-- A batch of a table that has records replaces what is supported by its selection. -/
theorem supports_commit (h : heldTable events ≠ []) (f : FourCc) (m : UInt64) :
    (committed events).supports f m = true ↔ Selects events ⟨f, m⟩ := by
  rw [committed, supports_iff, run_concat, ← mem_selection_run]
  rw [← table_run] at h
  simp [step, commit_eq, h, mem_foldl_insert]

section Announcement

variable (hlater : ∀ op ∈ later, op.IsBatch)

include hlater

theorem supports_of_loaded {table : List FormatEntry}
    (hload : FormatTable.load source size = .ok table) (hne : table ≠ []) (f : FourCc)
    (m : UInt64) :
    (committed (announced events source size later)).supports f m = true
      ↔ (∃ i, Receives (announced events source size later) i ∧ table[i]? = some ⟨f, m⟩)
        ∨ (∀ i, ¬ Receives (announced events source size later) i) ∧ ⟨f, m⟩ ∈ table := by
  have htable : heldTable (announced events source size later) = table := by
    rw [announced, List.append_cons, heldTable_append _ hlater, heldTable_concat]
    simp [Op.loads?, hload, Except.toOption]
  have hcommit := supports_commit (by rw [htable]; exact hne) f m
  unfold Selects at hcommit
  rwa [htable] at hcommit

theorem supports_of_empty (hload : FormatTable.load source size = .ok []) :
    (committed (announced events source size later)).supports = (run empty events).supports := by
  have htable : ((run empty events).step (.loadTable source size)).1.table = [] := by
    simp [step_loadTable, hload, Except.toOption]
  have hbatch : ∀ op ∈ later ++ [Op.commit], op.IsBatch := by
    intro op hop
    rcases List.mem_append.1 hop with hop | hop
    · exact hlater op hop
    · rw [List.mem_singleton.1 hop]
      trivial
  have hrun : committed (announced events source size later)
      = run ((run empty events).step (.loadTable source size)).1 (later ++ [Op.commit]) := by
    simp [committed, run, announced, List.foldl_append]
  rw [hrun, supports_run_of_no_table htable hbatch, step_loadTable]
  rfl

/-- A table was announced and a batch committed, perhaps not the first. Of a table that could be
loaded and has records, the selected ones are supported and nothing else. An empty table leaves
supported what was, and one that could not be loaded counts as not announced. So what is supported
are records of the table announced last just where it was loaded and has one, or where nothing is
supported at all. -/
theorem supports_after_announcement :
    (∀ table, FormatTable.load source size = .ok table → table ≠ [] → ∀ f m,
      ((committed (announced events source size later)).supports f m = true
        ↔ (∃ i, Receives (announced events source size later) i ∧ table[i]? = some ⟨f, m⟩)
          ∨ (∀ i, ¬ Receives (announced events source size later) i) ∧ ⟨f, m⟩ ∈ table))
    ∧ (FormatTable.load source size = .ok [] →
      (committed (announced events source size later)).supports = (run empty events).supports)
    ∧ (∀ refusal, FormatTable.load source size = .error refusal →
      committed (announced events source size later) = committed (events ++ later))
    ∧ ((∀ f m, (committed (announced events source size later)).supports f m = true →
        ∃ table, FormatTable.load source size = .ok table ∧ ⟨f, m⟩ ∈ table)
      ↔ (∃ table, FormatTable.load source size = .ok table ∧ table ≠ [])
        ∨ ∀ f m, (committed (announced events source size later)).supports f m = false) := by
  refine ⟨fun table hload hne => supports_of_loaded hlater hload hne, supports_of_empty hlater,
    fun refusal hload => ?_, fun hsound => ?_, ?_⟩
  · simp [committed, announced, run, List.foldl_append, step, loadTable, hload, Except.map]
  · by_cases hrecords : ∃ table, FormatTable.load source size = .ok table ∧ table ≠ []
    · exact .inl hrecords
    · right
      intro f m
      by_contra hs
      obtain ⟨table, hload, hmem⟩ := hsound f m (by simpa using hs)
      exact hrecords ⟨table, hload, List.ne_nil_of_mem hmem⟩
  · rintro (⟨table, hload, hne⟩ | hnone) f m hs
    · refine ⟨table, hload, ?_⟩
      rcases (supports_of_loaded hlater hload hne f m).1 hs with ⟨i, -, hi⟩ | ⟨-, hmem⟩
      · exact List.mem_of_getElem? hi
      · exact hmem
    · rw [hnone f m] at hs
      cases hs

end Announcement

/-- The table of one record, a format without an alpha channel in the linear layout. -/
def linearRecord : FormatTable.Source :=
  .file (FormatTable.recordOfEntry ⟨⟨0x34325258⟩, linearModifier⟩ [0, 0, 0, 0])

theorem supports_after_announcement_linear :
    (committed (announced [] linearRecord 16 [.commit, .addTranche [0, 0]])).supports
      ⟨0x34325258⟩ linearModifier = true := by
  obtain ⟨hselected, -⟩ := @supports_after_announcement [] [.commit, .addTranche [0, 0]]
    linearRecord 16 (by simp [Op.IsBatch])
  have hload : FormatTable.load linearRecord 16 = .ok [⟨⟨0x34325258⟩, linearModifier⟩] := by
    decide +kernel
  refine (hselected _ hload (by simp) _ _).2 (.inl ⟨0, ⟨[0, 0], 0, ?_, rfl⟩, rfl⟩)
  simp [announced, batch, List.rtakeWhile]

/-- Indices sent for a table that could not be loaded select from the table before it. -/
theorem exists_stale_announcement : ¬ ∀ (events later : List Op) (source : FormatTable.Source)
    (size : Nat), (∀ op ∈ events, op.IsFeedback) → (∀ op ∈ later, op.IsBatch) → ∀ f m,
    (committed (announced events source size later)).supports f m = true →
      ∃ table, FormatTable.load source size = .ok table ∧ ⟨f, m⟩ ∈ table := by
  intro hall
  obtain ⟨table, hload, -⟩ := hall [.loadTable linearRecord 16] [.addTranche [0, 0]] .pipe 16
    (by simp [Op.IsFeedback]) (by simp [Op.IsBatch]) ⟨0x34325258⟩ linearModifier
    (by decide +kernel)
  have hpipe : FormatTable.load .pipe 16 = .error .unmappable := rfl
  rw [hpipe] at hload
  cases hload

end FormatCatalog

end VideoOutput
