import VideoOutput.Arithmetic.Checked
import VideoOutput.Config.Toml.Value
import VideoOutput.Pacing.Pacer
import VideoOutput.Window.Vocabulary

/-!
# Settings

The settings of the program in four sections, their defaults, and their reading from a table of
values. A section is a table, read by the names of its fields, or an array, read by their order;
what is missing has its default and unknown fields are ignored. One value of the wrong type or out
of range, or an array that is too long, refuses the whole table.
-/

namespace VideoOutput

structure DisplaySettings where
  configureBounds : Bool := true
  disableVsync : Bool := false
  edgePixelsPointer : Int := 10
  edgePixelsTouch : Int := 32

structure WindowSettings where
  fullscreen : Bool := false
  maximized : Bool := false
  minimized : Bool := false
  border : Bool := true
  keepAspect : Bool := true
  keepAspectWindow : Bool := true
  hidpiWindowScale : Bool := true
  title : String := "dmabuf-wayland"
  appId : String := "dmabuf-wayland"
  width : Int := 0
  height : Int := 0
  /-- The output to be fullscreen on, by its index or by its name. -/
  screenId : Option Nat := none
  screenName : Option String := none

structure PresentationSettings where
  safetyMargin : Float := 0.05
  hiddenAfterMisses : Nat := 2
  fallbackRefreshHz : Float := 60

structure PoolSettings where
  /-- Display cycles the buffer pool is cleared for after a reset. -/
  resetWindow : Nat := 2

structure Settings where
  display : DisplaySettings := {}
  window : WindowSettings := {}
  presentation : PresentationSettings := {}
  pool : PoolSettings := {}

namespace Settings

open Toml

/-- The reading of a value as one type. -/
abbrev As (α : Type) := Value → Option α

def asBool : As Bool
  | .boolean b => some b
  | _ => none

def asInt (w : Word) : As Int
  | .integer n => if w.Holds n then some n else none
  | _ => none

def asNat (w : Word) (value : Value) : Option Nat := (asInt w value).map Int.toNat

/-- A whole number will do for a float. -/
def asFloat : As Float
  | .float x => some x
  | .integer n => some (Float.ofInt n)
  | _ => none

/-- A date or time will do for a text. -/
def asString : As String
  | .string s => some s
  | .moment m => some m.text
  | _ => none

/-- The named values of a section whose fields have the given order. -/
def sectionEntries (fields : List String) : Value → Option Entries
  | .table entries => some entries
  | .array elements =>
    if fields.length < elements.length then none else some (fields.zip elements)
  | _ => none

/-- The field of the name, or its default where it is missing. -/
def field (entries : Entries) (name : String) (read : As α) (default : α) : Option α :=
  match entries.lookup name with
  | none => some default
  | some value => read value

def displayFields : List String :=
  ["configure_bounds", "disable_vsync", "edge_pixels_pointer", "edge_pixels_touch"]

def windowFields : List String :=
  ["fullscreen", "maximized", "minimized", "border", "keepaspect", "keepaspect_window",
    "hidpi_window_scale", "title", "app_id", "width", "height", "fs_screen_id", "fs_screen_name"]

def presentationFields : List String :=
  ["safety_margin", "hidden_after_misses", "fallback_refresh_hz"]

def poolFields : List String := ["reset_window"]

def display? (value : Value) : Option DisplaySettings := do
  let entries ← sectionEntries displayFields value
  let d : DisplaySettings := {}
  return {
    configureBounds := ← field entries "configure_bounds" asBool d.configureBounds
    disableVsync := ← field entries "disable_vsync" asBool d.disableVsync
    edgePixelsPointer := ← field entries "edge_pixels_pointer" (asInt .int32) d.edgePixelsPointer
    edgePixelsTouch := ← field entries "edge_pixels_touch" (asInt .int32) d.edgePixelsTouch }

def window? (value : Value) : Option WindowSettings := do
  let entries ← sectionEntries windowFields value
  let d : WindowSettings := {}
  return {
    fullscreen := ← field entries "fullscreen" asBool d.fullscreen
    maximized := ← field entries "maximized" asBool d.maximized
    minimized := ← field entries "minimized" asBool d.minimized
    border := ← field entries "border" asBool d.border
    keepAspect := ← field entries "keepaspect" asBool d.keepAspect
    keepAspectWindow := ← field entries "keepaspect_window" asBool d.keepAspectWindow
    hidpiWindowScale := ← field entries "hidpi_window_scale" asBool d.hidpiWindowScale
    title := ← field entries "title" asString d.title
    appId := ← field entries "app_id" asString d.appId
    width := ← field entries "width" (asInt .int32) d.width
    height := ← field entries "height" (asInt .int32) d.height
    screenId := ← field entries "fs_screen_id" (fun v => (asNat .nat64 v).map some) d.screenId
    screenName := ← field entries "fs_screen_name" (fun v => (asString v).map some) d.screenName }

def presentation? (value : Value) : Option PresentationSettings := do
  let entries ← sectionEntries presentationFields value
  let d : PresentationSettings := {}
  return {
    safetyMargin := ← field entries "safety_margin" asFloat d.safetyMargin
    hiddenAfterMisses := ← field entries "hidden_after_misses" (asNat .nat32) d.hiddenAfterMisses
    fallbackRefreshHz := ← field entries "fallback_refresh_hz" asFloat d.fallbackRefreshHz }

def pool? (value : Value) : Option PoolSettings := do
  let entries ← sectionEntries poolFields value
  let d : PoolSettings := {}
  return { resetWindow := ← field entries "reset_window" (asNat .nat32) d.resetWindow }

/-- The settings of a table of sections. -/
def ofValue? : Value → Option Settings
  | .table sections => do
    return {
      display := ← field sections "wayland" display? {}
      window := ← field sections "window" window? {}
      presentation := ← field sections "presentation" presentation? {}
      pool := ← field sections "pool" pool? {} }
  | _ => none

/-- The settings as a table of sections; a screen that is not named has no entry. -/
def toValue (s : Settings) : Value :=
  .table [
    ("wayland", .table [
      ("configure_bounds", .boolean s.display.configureBounds),
      ("disable_vsync", .boolean s.display.disableVsync),
      ("edge_pixels_pointer", .integer s.display.edgePixelsPointer),
      ("edge_pixels_touch", .integer s.display.edgePixelsTouch)]),
    ("window", .table ([
      ("fullscreen", .boolean s.window.fullscreen),
      ("maximized", .boolean s.window.maximized),
      ("minimized", .boolean s.window.minimized),
      ("border", .boolean s.window.border),
      ("keepaspect", .boolean s.window.keepAspect),
      ("keepaspect_window", .boolean s.window.keepAspectWindow),
      ("hidpi_window_scale", .boolean s.window.hidpiWindowScale),
      ("title", .string s.window.title),
      ("app_id", .string s.window.appId),
      ("width", .integer s.window.width),
      ("height", .integer s.window.height)] ++
      (s.window.screenId.map fun n => ("fs_screen_id", Value.integer n)).toList ++
      (s.window.screenName.map fun n => ("fs_screen_name", Value.string n)).toList)),
    ("presentation", .table [
      ("safety_margin", .float s.presentation.safetyMargin),
      ("hidden_after_misses", .integer s.presentation.hiddenAfterMisses),
      ("fallback_refresh_hz", .float s.presentation.fallbackRefreshHz)]),
    ("pool", .table [("reset_window", .integer s.pool.resetWindow)])]

def windowOptions (s : Settings) : WindowOptions where
  fullscreen := s.window.fullscreen
  maximized := s.window.maximized
  minimized := s.window.minimized
  border := s.window.border
  keepAspect := s.window.keepAspect
  keepAspectWindow := s.window.keepAspectWindow
  scaleWithOutput := s.window.hidpiWindowScale
  heedBounds := s.display.configureBounds
  pointerReach := s.display.edgePixelsPointer
  touchReach := s.display.edgePixelsTouch
  width := s.window.width
  height := s.window.height

def pacerOptions (s : Settings) : PacerOptions where
  safetyMargin := s.presentation.safetyMargin
  hiddenAfterMisses := s.presentation.hiddenAfterMisses
  fallbackRate := s.presentation.fallbackRefreshHz
  disableVsync := s.display.disableVsync

end Settings

end VideoOutput
