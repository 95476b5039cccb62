import VideoOutput.Config.Layers
import VideoOutput.Proofs.Config.Documents
import VideoOutput.Proofs.Config.Fields

/-!
# Layers of configuration

Each setting is decided by the last document that sets it, whatever the earlier ones say of it
(`find_merged`). The settings are those decisions if each of them can be read, and the defaults if
one cannot (`load_layered`).
-/

namespace VideoOutput

open Toml

namespace Setting

/-- What the last document that sets it gives. -/
def winner (f : Setting) (documents : List Value) : Option Value :=
  documents.reverse.findSome? f.given

theorem winner_append (f : Setting) (documents : List Value) (document : Value) :
    f.winner (documents ++ [document]) = (f.given document).or (f.winner documents) := by
  unfold winner
  rw [List.reverse_append, List.reverse_singleton, List.singleton_append, List.findSome?_cons]
  cases f.given document <;> rfl

end Setting

namespace Settings

open Setting

theorem laid_toValue (s : Settings) : Laid (toValue s) := by
  refine ⟨⟨_, rfl⟩, fun t ht => ?_⟩
  simp only [tables, List.mem_cons, List.not_mem_nil, or_false] at ht
  rcases ht with rfl | rfl | rfl | rfl <;> exact ⟨_, rfl⟩

/-- The tables of the settings that the document has are tables. -/
def Sectioned (document : Value) : Prop :=
  ∀ t ∈ tables, ∀ w, document.entry t = some w → w.IsTable

/-- What is laid over the defaults: a table, with tables for those of the settings. -/
structure IsLayer (document : Value) : Prop where
  isTable : document.IsTable
  tidy : document.Tidy
  sectioned : Sectioned document

section Merge

variable {base document : Value}

theorem lookup_part_merge (hbase : Laid base) (hlayer : IsLayer document) {t : String}
    (ht : t ∈ tables) (k : String) :
    ((base.merge document).part t).lookup k
      = match (document.part t).lookup k with
        | none => (base.part t).lookup k
        | some o => some ((((base.part t).lookup k).map (Value.merge · o)).getD o) := by
  obtain ⟨b, hb⟩ := hbase.entry t ht
  have hentry := Value.entry_merge hbase.isTable hlayer.isTable hlayer.tidy t
  cases hd : document.entry t with
  | none =>
    rw [hd] at hentry
    simp only [Value.part, hentry, hd]
    rfl
  | some o =>
    obtain ⟨overrides, rfl⟩ := hlayer.sectioned t ht o hd
    rcases hlayer.tidy.of_entry hd with _ | _ | _ | _ | _ | _ | ⟨hkeys, -⟩
    rw [hd, hb] at hentry
    simp only [Value.part, hentry, hd, hb, Option.map_some, Option.getD_some, Value.merge,
      Value.entries]
    exact Value.lookup_mergeEntries k hkeys

theorem laid_merge (hbase : Laid base) (hlayer : IsLayer document) :
    Laid (base.merge document) := by
  refine ⟨Value.isTable_merge hbase.isTable hlayer.isTable, fun t ht => ?_⟩
  obtain ⟨b, hb⟩ := hbase.entry t ht
  rw [Value.entry_merge hbase.isTable hlayer.isTable hlayer.tidy, hb]
  cases hd : document.entry t with
  | none => exact ⟨b, rfl⟩
  | some o =>
    obtain ⟨w, hw⟩ := Value.isTable_merge ⟨b, rfl⟩ (hlayer.sectioned t ht o hd)
    exact ⟨w, congrArg some hw⟩

theorem read_merge {f : Setting} (h : f ∈ all) (old new : Value) :
    f.read (old.merge new) = f.read new := by
  by_cases htables : old.IsTable ∧ new.IsTable
  · obtain ⟨⟨old, rfl⟩, ⟨new, rfl⟩⟩ := htables
    rw [Value.merge, read_table _ f h, read_table _ f h]
  · rw [Value.merge_of_not_table htables]

/-- A setting that the document does not have is what it was; else what was below does not count. -/
theorem find_merge (hbase : Laid base) (hlayer : IsLayer document) {f : Setting} (h : f ∈ all) :
    f.find (base.merge document) = (f.given document).elim (f.find base) f.read := by
  have hlookup := lookup_part_merge hbase hlayer (table_mem f h) f.name
  unfold find given field
  rw [hlookup]
  cases (document.part f.table).lookup f.name with
  | none => rfl
  | some o =>
    cases (base.part f.table).lookup f.name with
    | none => rfl
    | some b => exact read_merge h b o

end Merge

section Documents

variable {documents : List Value}

theorem laid_merged (h : ∀ d ∈ documents, IsLayer d) : Laid (merged documents) := by
  induction documents using List.reverseRecOn with
  | nil => exact laid_toValue {}
  | append_singleton documents d ih =>
    rw [List.forall_mem_append, List.forall_mem_singleton] at h
    unfold merged
    rw [List.foldl_append]
    exact laid_merge (ih h.1) h.2

/-- The last document that sets it decides a setting. -/
theorem find_merged (h : ∀ d ∈ documents, IsLayer d) {f : Setting} (hf : f ∈ all) :
    f.find (merged documents) = (f.winner documents).elim (some (f.get {})) f.read := by
  induction documents using List.reverseRecOn with
  | nil => exact find_defaults f hf
  | append_singleton documents d ih =>
    rw [List.forall_mem_append, List.forall_mem_singleton] at h
    have hmerged : merged (documents ++ [d]) = (merged documents).merge d := List.foldl_append
    rw [hmerged, find_merge (laid_merged h.1) h.2 hf, ih h.1, winner_append]
    cases f.given d <;> rfl

end Documents

end Settings

namespace ConfigFiles

/-- The documents among the files, in the order they are laid. -/
def documents (files : ConfigFiles) : List Value := files.layers.filterMap Settings.document?

/-- The file, if it is a document. -/
def sound (file : Option (List UInt8)) : Option (List UInt8) :=
  file.filter fun bytes => (Settings.document? bytes).isSome

/-- The files as they are where no file is there that is not a document. -/
def valid (files : ConfigFiles) : ConfigFiles where
  system := sound files.system
  userConfig := sound files.userConfig
  userConfigIsNamed := files.userConfigIsNamed
  home := sound files.home
  homeIsNamed := files.homeIsNamed
  working := sound files.working
  named := sound files.named

theorem documents_eq (files : ConfigFiles) : files.documents
    = [files.system, files.user, files.working, files.named].filterMap
      fun file => file.bind Settings.document? := by
  unfold documents layers
  rw [List.filterMap_filterMap]
  rfl

theorem sound_bind (file : Option (List UInt8)) :
    (sound file).bind Settings.document? = file.bind Settings.document? := by
  rcases file with _ | bytes
  · rfl
  · unfold sound
    rw [Option.filter_some]
    split_ifs with hsome
    · rfl
    · exact (Option.not_isSome_iff_eq_none.1 hsome).symm

theorem documents_valid (files : ConfigFiles) : files.valid.documents = files.documents := by
  have huser : files.valid.user = sound files.user := by
    show (if files.userConfigIsNamed then sound files.userConfig
      else if files.homeIsNamed then sound files.home else none) = _
    unfold user
    split_ifs <;> rfl
  rw [documents_eq, documents_eq, huser]
  simp only [valid, List.filterMap_cons, sound_bind]

end ConfigFiles

namespace Settings

theorem isLayer_of_mem {files : ConfigFiles} {d : Value} (h : d ∈ files.documents)
    (hsectioned : Sectioned d) : IsLayer d := by
  obtain ⟨bytes, -, hbytes⟩ := List.mem_filterMap.1 h
  obtain ⟨text, -, htext⟩ := Option.bind_eq_some_iff.1 hbytes
  obtain ⟨htidy, htable⟩ := tidy_of_document htext
  exact ⟨htable, htidy, hsectioned⟩

/-- The settings of merged documents are what the documents decide, if they decide every setting. -/
theorem ofValue?_documents {files : ConfigFiles} (h : ∀ d ∈ files.documents, Sectioned d) :
    (∀ s, ofValue? (merged files.documents) = some s ↔ ∀ f ∈ Setting.all,
      (f.winner files.documents).elim (some (f.get {})) f.read = some (f.get s))
    ∧ ((ofValue? (merged files.documents)).isSome ↔ ∀ f ∈ Setting.all,
      ((f.winner files.documents).elim (some (f.get {})) f.read).isSome) := by
  have hlayers : ∀ d ∈ files.documents, IsLayer d := fun d hd => isLayer_of_mem hd (h d hd)
  have hreads := ofValue?_reads (laid_merged hlayers)
  refine ⟨fun s => (hreads.eq_some s).trans ?_, hreads.isSome.trans ?_⟩
  · rw [true_and]
    exact forall₂_congr fun f hf => by rw [find_merged hlayers hf]
  · exact forall₂_congr fun f hf => by rw [find_merged hlayers hf]

/-- Only the documents among the files count, and a file that is not one is as good as missing. Say
the documents have tables for the tables of the settings. If what the last document that sets it
says of a setting can be read, for every setting that is set, these are the settings, with the
defaults for the rest. If it cannot be read for one, all settings are the defaults. What the other
documents say of a setting has no effect. -/
theorem load_layered (files : ConfigFiles) :
    (∀ other : ConfigFiles, other.documents = files.documents → load other = load files)
    ∧ load files.valid = load files
    ∧ ((∀ d ∈ files.documents, Sectioned d) →
      ((∀ f ∈ Setting.all, ∀ v, f.winner files.documents = some v → (f.read v).isSome) →
        ∀ s, load files = s ↔ ∀ f ∈ Setting.all,
          (f.winner files.documents).elim (some (f.get {})) f.read = some (f.get s))
      ∧ ((∃ f ∈ Setting.all, ∃ v, f.winner files.documents = some v ∧ f.read v = none) →
        load files = {})
      ∧ ∀ other : ConfigFiles, (∀ d ∈ other.documents, Sectioned d) →
        (∀ f ∈ Setting.all, f.winner other.documents = f.winner files.documents) →
        load other = load files) := by
  have hload : ∀ other, load other = (ofValue? (merged other.documents)).getD {} := fun _ => rfl
  refine ⟨fun other hother => ?_, ?_, fun h => ?_⟩
  · rw [hload, hload, hother]
  · rw [hload, hload, files.documents_valid]
  obtain ⟨hsome, hisSome⟩ := ofValue?_documents h
  refine ⟨fun hread s => ?_, ?_, fun other hother hwinner => ?_⟩
  · have hdecided : ∀ f ∈ Setting.all,
        ((f.winner files.documents).elim (some (f.get {})) f.read).isSome := by
      intro f hf
      cases hv : f.winner files.documents with
      | none => rfl
      | some v => exact hread f hf v hv
    obtain ⟨t, ht⟩ := Option.isSome_iff_exists.1 (hisSome.2 hdecided)
    rw [← hsome, hload, ht, Option.getD_some, Option.some_inj]
  · rintro ⟨f, hf, v, hv, hread⟩
    have hnone : ofValue? (merged files.documents) = none := by
      rw [← Option.not_isSome_iff_eq_none, hisSome]
      intro hall
      have hdecided := hall f hf
      rw [hv, Option.elim_some, hread] at hdecided
      cases hdecided
    rw [hload, hnone]
    rfl
  · have hsame : ofValue? (merged other.documents) = ofValue? (merged files.documents) := by
      refine Option.ext fun s => ?_
      rw [(ofValue?_documents hother).1, hsome]
      exact forall₂_congr fun f hf => by rw [hwinner f hf]
    rw [hload, hload, hsame]

/-- Of the user's file two values stand and one, which is ill-typed, is shadowed; the file in the
working directory is no document. -/
theorem load_layered_shadowed :
    let files : ConfigFiles :=
      { home := some
          "[pool]\nreset_window = 5\n[window]\ntitle = \"user\"\nwidth = \"wide\"\n".toUTF8.toList
        working := some "[pool\n".toUTF8.toList
        named := some "pool.reset_window = 3\n[window]\nwidth = 640\n".toUTF8.toList }
    let settings : Settings :=
      { pool := { resetWindow := 3 }, window := { title := "user", width := 640 } }
    (∀ d ∈ files.documents, Sectioned d) ∧ load files = settings := by
  intro files settings
  have hdocuments : files.documents = [
      .table [("pool", .table [("reset_window", .integer 5)]),
        ("window", .table [("title", .string "user"), ("width", .string "wide")])],
      .table [("pool", .table [("reset_window", .integer 3)]),
        ("window", .table [("width", .integer 640)])]] := by
    cbv
  have hsectioned : ∀ d ∈ files.documents, Sectioned d := by
    rw [hdocuments]
    simp [Sectioned, Setting.tables, Value.entry, Value.entries, Value.IsTable, List.lookup]
  have hdecided : ∀ f ∈ Setting.all,
      (f.winner files.documents).elim (some (f.get {})) f.read = some (f.get settings) := by
    rw [hdocuments]
    exact List.forall_iff_forall_mem.1 (by repeat' constructor)
  obtain ⟨-, -, hlayered⟩ := load_layered files
  refine ⟨hsectioned, ((hlayered hsectioned).1 (fun f hf v hv => ?_) settings).2 hdecided⟩
  have hread := hdecided f hf
  rw [hv] at hread
  exact Option.isSome_of_eq_some hread

end Settings

end VideoOutput
