import VideoOutput.Config.Settings
import VideoOutput.Proofs.Config.Merging

/-!
# The fields of the settings

The settings are read field by field, and a field says where a value has it and how it is read.
`ofValue?_reads` says of the reading as a whole what the fields say one by one: it succeeds if each
of them can be read, and then gives what they are. It is put together like the reading itself, from
one rule for a field and one for a table of fields.
-/

namespace VideoOutput

open Toml

/-- One field of the settings: where a document names it, how its value is read, and where the
settings have it. -/
structure Setting where
  Carrier : Type
  table : String
  name : String
  read : Settings.As Carrier
  get : Settings → Carrier

namespace Setting

def inDisplay : List Setting := [
  ⟨Bool, "wayland", "configure_bounds", Settings.asBool, (·.display.configureBounds)⟩,
  ⟨Bool, "wayland", "disable_vsync", Settings.asBool, (·.display.disableVsync)⟩,
  ⟨Int, "wayland", "edge_pixels_pointer", Settings.asInt .int32, (·.display.edgePixelsPointer)⟩,
  ⟨Int, "wayland", "edge_pixels_touch", Settings.asInt .int32, (·.display.edgePixelsTouch)⟩]

def inWindow : List Setting := [
  ⟨Bool, "window", "fullscreen", Settings.asBool, (·.window.fullscreen)⟩,
  ⟨Bool, "window", "maximized", Settings.asBool, (·.window.maximized)⟩,
  ⟨Bool, "window", "minimized", Settings.asBool, (·.window.minimized)⟩,
  ⟨Bool, "window", "border", Settings.asBool, (·.window.border)⟩,
  ⟨Bool, "window", "keepaspect", Settings.asBool, (·.window.keepAspect)⟩,
  ⟨Bool, "window", "keepaspect_window", Settings.asBool, (·.window.keepAspectWindow)⟩,
  ⟨Bool, "window", "hidpi_window_scale", Settings.asBool, (·.window.hidpiWindowScale)⟩,
  ⟨String, "window", "title", Settings.asString, (·.window.title)⟩,
  ⟨String, "window", "app_id", Settings.asString, (·.window.appId)⟩,
  ⟨Int, "window", "width", Settings.asInt .int32, (·.window.width)⟩,
  ⟨Int, "window", "height", Settings.asInt .int32, (·.window.height)⟩,
  ⟨Option Nat, "window", "fs_screen_id", fun v => (Settings.asNat .nat64 v).map some,
    (·.window.screenId)⟩,
  ⟨Option String, "window", "fs_screen_name", fun v => (Settings.asString v).map some,
    (·.window.screenName)⟩]

def inPresentation : List Setting := [
  ⟨Float, "presentation", "safety_margin", Settings.asFloat, (·.presentation.safetyMargin)⟩,
  ⟨Nat, "presentation", "hidden_after_misses", Settings.asNat .nat32,
    (·.presentation.hiddenAfterMisses)⟩,
  ⟨Float, "presentation", "fallback_refresh_hz", Settings.asFloat,
    (·.presentation.fallbackRefreshHz)⟩]

def inPool : List Setting :=
  [⟨Nat, "pool", "reset_window", Settings.asNat .nat32, (·.pool.resetWindow)⟩]

/-- Every setting there is. -/
def all : List Setting := [inDisplay, inWindow, inPresentation, inPool].flatten

/-- The tables that hold the settings. -/
def tables : List String := ["wayland", "window", "presentation", "pool"]

/-- What the document gives for the setting. -/
def given (f : Setting) (document : Value) : Option Value := (document.part f.table).lookup f.name

/-- The setting as the value has it, or its default. -/
def find (f : Setting) (v : Value) : Option f.Carrier :=
  Settings.field (v.part f.table) f.name f.read (f.get {})

theorem table_mem : ∀ f ∈ all, f.table ∈ tables := by
  simp [all, inDisplay, inWindow, inPresentation, inPool, tables]

theorem read_table (entries : Entries) : ∀ f ∈ all, f.read (.table entries) = none :=
  List.forall_iff_forall_mem.1 (by repeat' constructor)

/-- Every default can be read. -/
theorem find_defaults : ∀ f ∈ all, f.find (Settings.toValue {}) = some (f.get {}) :=
  List.forall_iff_forall_mem.1 (by repeat' constructor)

/-- The reading has a result exactly if each of the settings can be read, and the result is then
that part of the settings. `Q` is what an earlier reading said of them. -/
structure Reads (Q : Settings → Prop) (fields : List Setting) (v : Value) {α : Type} (r : Option α)
    (part : Settings → α) : Prop where
  eq_some : ∀ s, r = some (part s) ↔ Q s ∧ ∀ f ∈ fields, f.find v = some (f.get s)
  isSome : r.isSome ↔ ∀ f ∈ fields, (f.find v).isSome

namespace Reads

variable {Q : Settings → Prop} {fields rest : List Setting} {v : Value} {α β : Type}
  {part : Settings → α}

protected theorem pure {a : α} (h : ∀ s, a = part s ↔ Q s) : Reads Q [] v (pure a) part where
  eq_some s := by simp [h]
  isSome := by simp

theorem append {r : Option β} {k : β → Option α} {first : Settings → β}
    (hr : Reads (fun _ => True) fields v r first)
    (hk : ∀ b, Reads (fun s => Q s ∧ b = first s) rest v (k b) part) :
    Reads Q (fields ++ rest) v (r >>= k) part where
  eq_some s := by
    rw [List.forall_mem_append, ← true_and (∀ f ∈ fields, _), ← hr.eq_some s]
    cases r with
    | none => simp
    | some b => simpa [and_assoc] using (hk b).eq_some s
  isSome := by
    rw [List.forall_mem_append, ← hr.isSome]
    cases r with
    | none => simp
    | some b => simpa using (hk b).isSome

theorem one (f : Setting) : Reads (fun _ => True) [f] v (f.find v) f.get where
  eq_some s := by simp
  isSome := by simp

theorem cons {f : Setting} {k : f.Carrier → Option α}
    (hk : ∀ a, Reads (fun s => Q s ∧ a = f.get s) rest v (k a) part) :
    Reads Q (f :: rest) v (f.find v >>= k) part :=
  append (one f) hk

end Reads

end Setting

namespace Settings

open Setting

variable {v : Value}

theorem display?_reads :
    Reads (fun _ => True) inDisplay v (display? (.table (v.part "wayland"))) Settings.display := by
  refine .cons fun _ => .cons fun _ => .cons fun _ => .cons fun _ => .pure fun s => ?_
  obtain ⟨⟨⟩, -, -, -⟩ := s
  simp [and_assoc]

theorem window?_reads :
    Reads (fun _ => True) inWindow v (window? (.table (v.part "window"))) Settings.window := by
  refine .cons fun _ => .cons fun _ => .cons fun _ => .cons fun _ => .cons fun _ => .cons fun _ =>
    .cons fun _ => .cons fun _ => .cons fun _ => .cons fun _ => .cons fun _ => .cons fun _ =>
    .cons fun _ => .pure fun s => ?_
  obtain ⟨-, ⟨⟩, -, -⟩ := s
  simp [and_assoc]

theorem presentation?_reads :
    Reads (fun _ => True) inPresentation v (presentation? (.table (v.part "presentation")))
      Settings.presentation := by
  refine .cons fun _ => .cons fun _ => .cons fun _ => .pure fun s => ?_
  obtain ⟨-, -, ⟨⟩, -⟩ := s
  simp [and_assoc]

theorem pool?_reads :
    Reads (fun _ => True) inPool v (pool? (.table (v.part "pool"))) Settings.pool := by
  refine .cons fun _ => .pure fun s => ?_
  obtain ⟨-, -, -, ⟨⟩⟩ := s
  simp

/-- The value is a table that has all the tables of the settings. -/
structure Laid (v : Value) : Prop where
  isTable : v.IsTable
  entry : ∀ t ∈ tables, ∃ w, v.entry t = some (.table w)

theorem ofValue?_reads (h : Laid v) : Reads (fun _ => True) all v (ofValue? v) id := by
  obtain ⟨⟨entries, rfl⟩, hentry⟩ := h
  have hfield : ∀ t ∈ tables, ∀ {α : Type} (read : As α) (default : α),
      field entries t read default = read (.table ((Value.table entries).part t)) := by
    intro t ht α read default
    obtain ⟨w, hw⟩ := hentry t ht
    have hlookup : entries.lookup t = some (.table w) := hw
    unfold field Value.part
    rw [hlookup, hw]
    rfl
  unfold ofValue?
  dsimp only
  rw [hfield "wayland" (by decide), hfield "window" (by decide),
    hfield "presentation" (by decide), hfield "pool" (by decide)]
  show Reads _ (inDisplay ++ (inWindow ++ (inPresentation ++ (inPool ++ [])))) _ _ _
  refine .append display?_reads fun _ => .append window?_reads fun _ =>
    .append presentation?_reads fun _ => .append pool?_reads fun _ => .pure fun s => ?_
  cases s
  simp [and_assoc]

end Settings

end VideoOutput
