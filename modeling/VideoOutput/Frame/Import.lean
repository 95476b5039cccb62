import VideoOutput.Format.Catalog
import VideoOutput.Frame.Layout
import VideoOutput.Text.Hex

/-!
# Importing frames

A backend turns the frames of its decoder into descriptions of compositor buffers. A layout names
its format up front and is checked against the catalog before a descriptor is duplicated; a surface
shows its layout only once it is exported, and the export is its own. What exports and duplications
give is a property of the backend, a function of the surface or of the descriptor: only the creation
of buffers may be refused at one time and granted at another while a backend stays bound.
-/

namespace VideoOutput

inductive ImportError where
  | noBackend
  | foreignFrame (backend : String)
  | unsupported (format : FourCc) (modifier : UInt64)
  | composedLayersUnsupported
  | exportFailed (status : Int)
  | noPlanes
  | missingObject (object : Nat)
  | duplicationFailed (reason : String)
  | bufferCreation (reason : String)
  deriving DecidableEq, Repr

def ImportError.message : ImportError → String
  | .noBackend => "no hardware decode backend is bound to the buffer pool"
  | .foreignFrame backend => s!"frame payload does not belong to the {backend} backend"
  | .unsupported format modifier =>
    s!"{format.text}({Hex.modifier modifier}) is not supported by the compositor"
  | .composedLayersUnsupported => "VA export to composed layers not supported"
  | .exportFailed status => s!"vaExportSurfaceHandle() failed with status {status}"
  | .noPlanes => "frame descriptor has no planes"
  | .missingObject object => s!"plane references missing object {object}"
  | .duplicationFailed reason => s!"failed to duplicate plane descriptor: {reason}"
  | .bufferCreation reason => s!"failed to create compositor buffer: {reason}"

/-- The planes with the modifiers of their objects, or the first object that is missing. -/
def resolvePlanes (objects : List FrameObject) (planes : List FramePlane) :
    Except ImportError (List BufferPlane) :=
  planes.mapM fun plane =>
    match objects[plane.object]? with
    | some object => .ok ⟨plane.object, plane.offset, plane.pitch, object.modifier⟩
    | none => .error (.missingObject plane.object)

/-- A surface as it is exported: its own size and layout. -/
structure ExportedSurface where
  width : Nat
  height : Nat
  layout : FrameLayout
  deriving DecidableEq, Repr

/-- The status of an export of a surface that does not exist. -/
def invalidSurface : Int := 6

/-- A video acceleration display: its surfaces, and for each what exporting it gives. That is the
same at every export as long as the display is bound; one whose exports turn out differently later
is another display, bound anew. -/
structure SurfaceDisplay where
  surfaces : List (Nat × Except Int ExportedSurface)

def SurfaceDisplay.exportSurface (d : SurfaceDisplay) (id : Nat) : Except Int ExportedSurface :=
  (d.surfaces.lookup id).getD (.error invalidSurface)

/-- A refused export. The status of an invalid surface means that the layers cannot be composed. -/
def ImportError.ofStatus (status : Int) : ImportError :=
  if status = invalidSurface then .composedLayersUnsupported else .exportFailed status

/-- Imports a surface. Its layers are composed, so only the first counts; a side the export leaves
at zero is the frame's. -/
def importSurface (display : SurfaceDisplay) (id width height : Nat) :
    Except ImportError BufferDescription := do
  let exported ← (display.exportSurface id).mapError ImportError.ofStatus
  match exported.layout.layers with
  | [] => .error .noPlanes
  | layer :: _ => do
    let planes ← resolvePlanes exported.layout.objects layer.planes
    if planes.isEmpty then .error .noPlanes
    return {
      format := layer.format
      width := if 0 < exported.width then exported.width else width
      height := if 0 < exported.height then exported.height else height
      objects := exported.layout.objects.map FrameObject.descriptor
      planes }

/-- A second descriptor for the same memory, or why there is none. The descriptor alone decides it,
as long as the backend is bound. -/
abbrev Duplicate := Descriptor → Except String Descriptor

/-- Imports a layout. Planes are numbered across layers, and the last layer names the format. -/
def importLayout (duplicate : Duplicate) (catalog : FormatCatalog) (layout : FrameLayout)
    (width height : Nat) : Except ImportError BufferDescription := do
  let planes ← resolvePlanes layout.objects layout.planes
  match layout.layers.getLast?, planes.head? with
  | some layer, some plane => do
    if !catalog.supports layer.format plane.modifier then
      .error (.unsupported layer.format plane.modifier)
    let objects ← layout.objects.mapM fun object =>
      (duplicate object.descriptor).mapError ImportError.duplicationFailed
    return { format := layer.format, width, height, objects, planes }
  | _, _ => .error .noPlanes

/-- The decoder interface in use. -/
inductive Backend where
  | surfaces (display : SurfaceDisplay)
  | layouts (duplicate : Duplicate)

namespace Backend

/-- Surfaces where there is a display for them, layouts otherwise. -/
def probe (display : Option SurfaceDisplay) : Backend :=
  match display with
  | some display => .surfaces display
  | none => .layouts .ok

def name : Backend → String
  | .surfaces _ => "vaapi"
  | .layouts _ => "drmprime"

/-- The backend as it is shown in diagnostics. -/
def debugText (b : Backend) : String := "HwdecBackend(\"" ++ b.name ++ "\")"

def identity (b : Backend) (frame : VideoFrame) : Except ImportError FrameIdentity :=
  match b, frame.payload with
  | .surfaces _, .surface id => .ok (.surface id)
  | .layouts _, .layout layout =>
    match layout.objects with
    | [] => .error (.missingObject 0)
    | object :: _ => .ok (.descriptor object.descriptor)
  | b, _ => .error (.foreignFrame b.name)

def importFrame (b : Backend) (frame : VideoFrame) (catalog : FormatCatalog) :
    Except ImportError BufferDescription :=
  match b, frame.payload with
  | .surfaces display, .surface id => importSurface display id frame.width frame.height
  | .layouts duplicate, .layout layout =>
    importLayout duplicate catalog layout frame.width frame.height
  | b, _ => .error (.foreignFrame b.name)

end Backend

end VideoOutput
