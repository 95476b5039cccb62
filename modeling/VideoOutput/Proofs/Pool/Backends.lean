import VideoOutput.Proofs.Pool.Gating

/-!
# The two backends

A surface that exports one layer and a layout of that layer come to the same: what the catalog is
asked about, and where, differs between the backends, but not what the pool makes of it
(`backends_agree`). Both stand on one assessment of the layer: its planes, if each lies in an object
there is, and there is one, and the catalog supports the format with the modifier of the first.
-/

namespace VideoOutput

/-- The planes of a buffer of the layer, or why there is no such buffer. -/
def FrameLayer.assess (layer : FrameLayer) (objects : List FrameObject) (catalog : FormatCatalog) :
    Except ImportError (List BufferPlane) :=
  match resolvePlanes objects layer.planes with
  | .error e => .error e
  | .ok [] => .error .noPlanes
  | .ok (plane :: rest) =>
    if catalog.supports layer.format plane.modifier then .ok (plane :: rest)
    else .error (.unsupported layer.format plane.modifier)

theorem FrameLayer.assess_eq_ok {layer : FrameLayer} {objects : List FrameObject}
    {catalog : FormatCatalog} {planes : List BufferPlane}
    (h : layer.assess objects catalog = .ok planes) :
    resolvePlanes objects layer.planes = .ok planes ∧ planes ≠ [] := by
  unfold assess at h
  split at h
  · cases h
  · cases h
  · rename_i plane rest hresolved
    split_ifs at h
    cases h
    exact ⟨hresolved, List.cons_ne_nil plane rest⟩

theorem resolvePlanes_nil {planes : List FramePlane} {resolved : List BufferPlane}
    (h : resolvePlanes [] planes = .ok resolved) : resolved = [] := by
  cases planes with
  | nil => exact (Except.ok.inj h).symm
  | cons plane planes => cases h

section Import

variable {layer : FrameLayer} {objects : List FrameObject} {width height : Nat}

/-- A surface of one layer is of the export's size. -/
theorem importSurface_eq {display : SurfaceDisplay} {id : Nat} (hwidth : 1 ≤ width)
    (hheight : 1 ≤ height)
    (hexport : display.exportSurface id = .ok ⟨width, height, ⟨objects, [layer]⟩⟩) (w h : Nat) :
    importSurface display id w h = resolvePlanes objects layer.planes >>= fun planes =>
      if planes.isEmpty then .error .noPlanes
      else .ok ⟨layer.format, width, height, objects.map FrameObject.descriptor, planes⟩ := by
  have hexported : (display.exportSurface id).mapError ImportError.ofStatus
      = .ok ⟨width, height, ⟨objects, [layer]⟩⟩ := by rw [hexport]; rfl
  simp only [importSurface, hexported, ok_bind]
  rcases resolvePlanes objects layer.planes with e | _ | ⟨plane, rest⟩
  · rfl
  · rfl
  · simp only [ok_bind, List.isEmpty_cons, Bool.false_eq_true, if_false]
    rw [if_pos (show 0 < width from hwidth), if_pos (show 0 < height from hheight)]
    rfl

/-- A layout of one layer asks the catalog about its first plane. -/
theorem importLayout_eq {duplicate : Duplicate} {duplicates : List Descriptor}
    (hduplicates : (objects.mapM fun object =>
      (duplicate object.descriptor).mapError ImportError.duplicationFailed) = .ok duplicates)
    (catalog : FormatCatalog) :
    importLayout duplicate catalog ⟨objects, [layer]⟩ width height
      = (layer.assess objects catalog).map fun planes =>
        ⟨layer.format, width, height, duplicates, planes⟩ := by
  have hplanes : FrameLayout.planes ⟨objects, [layer]⟩ = layer.planes := by
    simp [FrameLayout.planes]
  unfold importLayout FrameLayer.assess
  rw [hplanes]
  rcases resolvePlanes objects layer.planes with e | _ | ⟨plane, rest⟩
  · rfl
  · rfl
  · cases hs : catalog.supports layer.format plane.modifier with
    | false => simp [hs, ok_bind, error_bind, Except.map]
    | true => simp [hs, ok_bind, hduplicates, Except.map, pure, Except.pure]

end Import

namespace BufferPool

variable {σ β : Type} {layer : FrameLayer} {objects : List FrameObject} {width height : Nat}

/-- The pool asks the catalog about a surface. -/
theorem describe_surface {display : SurfaceDisplay} {id : Nat} (hwidth : 1 ≤ width)
    (hheight : 1 ≤ height)
    (hexport : display.exportSurface id = .ok ⟨width, height, ⟨objects, [layer]⟩⟩) (w h : Nat)
    (catalog : FormatCatalog) : describe (.surfaces display) ⟨w, h, .surface id⟩ catalog
      = (layer.assess objects catalog).map fun planes =>
        ⟨layer.format, width, height, objects.map FrameObject.descriptor, planes⟩ := by
  have himport : Backend.importFrame (.surfaces display) ⟨w, h, .surface id⟩ catalog
      = importSurface display id w h := rfl
  unfold describe FrameLayer.assess
  rw [himport, importSurface_eq hwidth hheight hexport]
  rcases resolvePlanes objects layer.planes with e | _ | ⟨plane, rest⟩
  · rfl
  · rfl
  · cases hs : catalog.supports layer.format plane.modifier with
    | false => simp [hs, ok_bind, Except.map, BufferDescription.modifier?]
    | true => simp [hs, ok_bind, Except.map, BufferDescription.modifier?]

/-- What the pool asks the catalog about a layout was asked before. -/
theorem describe_layout (layer : FrameLayer) {duplicate : Duplicate} {duplicates : List Descriptor}
    (hduplicates : (objects.mapM fun object =>
      (duplicate object.descriptor).mapError ImportError.duplicationFailed) = .ok duplicates)
    (width height : Nat) (catalog : FormatCatalog) :
    describe (.layouts duplicate) ⟨width, height, .layout ⟨objects, [layer]⟩⟩ catalog
      = (layer.assess objects catalog).map fun planes =>
        ⟨layer.format, width, height, duplicates, planes⟩ := by
  have himport : Backend.importFrame (.layouts duplicate)
      ⟨width, height, .layout ⟨objects, [layer]⟩⟩ catalog
      = importLayout duplicate catalog ⟨objects, [layer]⟩ width height := rfl
  unfold describe
  rw [himport, importLayout_eq hduplicates]
  unfold FrameLayer.assess
  rcases resolvePlanes objects layer.planes with e | _ | ⟨plane, rest⟩
  · rfl
  · rfl
  · cases hs : catalog.supports layer.format plane.modifier with
    | false => simp [hs, error_bind, Except.map]
    | true => simp [hs, ok_bind, Except.map, BufferDescription.modifier?]

/-- The lookup finds nothing, and nothing is asked of the allocator. -/
def Declines (a : Allocator σ β) (p : BufferPool β) (frame : VideoFrame) (catalog : FormatCatalog)
    (s : σ) : Prop :=
  (∃ e, p.getEntry a frame catalog s = (.error e, p, s)) ∧ calls a (p, s) (.get frame catalog) = []

/-- The lookup makes one buffer, of the description, and finds its entry. -/
def Makes (a : Allocator σ β) (p : BufferPool β) (frame : VideoFrame) (catalog : FormatCatalog)
    (s : σ) (d : BufferDescription) : Prop :=
  ∃ entry, (p.getEntry a frame catalog s).1 = .ok entry ∧ entry.format = d.format
    ∧ calls a (p, s) (.get frame catalog) = [.create d (.ok entry.buffer)]

/-- An empty pool of the backend. -/
def bound (resetLength : Nat) (backend : Backend) : BufferPool β :=
  { new resetLength with backend := some backend }

section Bound

variable {backend : Backend} {frame : VideoFrame} {catalog : FormatCatalog} {resetLength : Nat}

theorem declines_of_describe {e : ImportError} (h : describe backend frame catalog = .error e)
    (a : Allocator σ β) (s : σ) : Declines a (bound resetLength backend) frame catalog s := by
  have hget : ∃ e', ∀ {σ : Type} (a : Allocator σ β) (s : σ),
      (bound resetLength backend).getEntry a frame catalog s
        = (.error e', bound resetLength backend, s) := by
    cases hidentity : backend.identity frame with
    | error e' => exact ⟨e', fun a s => by simp only [getEntry, bound, hidentity]⟩
    | ok identity =>
      exact ⟨e, fun a s => by simp only [getEntry, bound, new, hidentity, List.find?_nil, h]⟩
  obtain ⟨e', hget⟩ := hget
  refine ⟨⟨e', hget a s⟩, ?_⟩
  simp only [calls, use, Use.watched, hget]

theorem makes_of_describe {a : Allocator σ β} {s : σ}
    (hcreate : ∀ d, ∃ buffer s', a.create d s = (.ok buffer, s')) {identity : FrameIdentity}
    (hidentity : backend.identity frame = .ok identity) {d : BufferDescription}
    (h : describe backend frame catalog = .ok d) :
    Makes a (bound resetLength backend) frame catalog s d := by
  have hget : ∀ {σ : Type} (a : Allocator σ β) (s : σ),
      (bound resetLength backend).getEntry a frame catalog s
        = (bound resetLength backend).store (⟨identity, d.format, ·⟩) (a.create d s) := by
    intro σ a s
    rcases hmade : a.create d s with ⟨e | buffer, s'⟩
    · simp only [getEntry, bound, new, hidentity, List.find?_nil, h, hmade, store]
    · simp only [getEntry, bound, new, hidentity, List.find?_nil, h, hmade, store]
  obtain ⟨buffer, s', hmade⟩ := hcreate d
  refine ⟨⟨identity, d.format, buffer⟩, ?_, rfl, ?_⟩
  · rw [hget, hmade]
    rfl
  · simp only [calls, use, Use.watched, hget, Allocator.watched, hmade, store, List.nil_append]

end Bound

/-- A surface that exports one layer is looked up in one new pool, a layout of that layer in
another; the sizes are at least one, the layout's descriptors can be duplicated and the allocator
does not refuse. Then both lookups find nothing and leave the allocator alone, or both make one
buffer, and of the same format, size and planes and of as many objects. -/
theorem backends_agree {a : Allocator σ β} {s t : σ}
    (hs : ∀ d, ∃ buffer s', a.create d s = (.ok buffer, s'))
    (ht : ∀ d, ∃ buffer t', a.create d t = (.ok buffer, t')) {display : SurfaceDisplay}
    {id : Nat} {duplicate : Duplicate} (hwidth : 1 ≤ width) (hheight : 1 ≤ height)
    (hexport : display.exportSurface id = .ok ⟨width, height, ⟨objects, [layer]⟩⟩)
    (hduplicate : ∀ object ∈ objects, ∃ d, duplicate object.descriptor = .ok d)
    (catalog : FormatCatalog) (w h resetLength : Nat) :
    ∃ surfaces layouts : BufferPool β,
      (new resetLength).bind (.surfaces display) = .ok surfaces
      ∧ (new resetLength).bind (.layouts duplicate) = .ok layouts
      ∧ ((Declines a surfaces ⟨w, h, .surface id⟩ catalog s
          ∧ Declines a layouts ⟨width, height, .layout ⟨objects, [layer]⟩⟩ catalog t)
        ∨ ∃ planes descriptors duplicates,
          resolvePlanes objects layer.planes = .ok planes
          ∧ descriptors.length = objects.length ∧ duplicates.length = objects.length
          ∧ Makes a surfaces ⟨w, h, .surface id⟩ catalog s
            ⟨layer.format, width, height, descriptors, planes⟩
          ∧ Makes a layouts ⟨width, height, .layout ⟨objects, [layer]⟩⟩ catalog t
            ⟨layer.format, width, height, duplicates, planes⟩) := by
  obtain ⟨duplicates, hduplicates, hlength⟩ := mapM_ok (l := objects) (f := fun object =>
      (duplicate object.descriptor).mapError ImportError.duplicationFailed) fun object hobject => by
    obtain ⟨d, hd⟩ := hduplicate object hobject
    exact ⟨d, by rw [hd]; rfl⟩
  have hsurface := describe_surface hwidth hheight hexport w h catalog
  have hlayout := describe_layout layer hduplicates width height catalog
  refine ⟨bound resetLength (.surfaces display), bound resetLength (.layouts duplicate), rfl, rfl,
    ?_⟩
  cases hassess : layer.assess objects catalog with
  | error e =>
    rw [hassess] at hsurface hlayout
    exact .inl ⟨declines_of_describe hsurface a s, declines_of_describe hlayout a t⟩
  | ok planes =>
    rw [hassess] at hsurface hlayout
    obtain ⟨hresolved, hplanes⟩ := FrameLayer.assess_eq_ok hassess
    obtain ⟨object, rest, rfl⟩ := List.exists_cons_of_ne_nil fun hempty : objects = [] =>
      hplanes (resolvePlanes_nil (hempty ▸ hresolved))
    exact .inr ⟨planes, _, duplicates, hresolved, List.length_map _, hlength,
      makes_of_describe hs rfl hsurface, makes_of_describe ht rfl hlayout⟩

/-- Two planes in objects of their own, one of them numbered past the other's. -/
theorem backends_agree_planar :
    let format : FourCc := ⟨0x3231564e⟩
    let objects : List FrameObject := [⟨5, linearModifier⟩, ⟨6, linearModifier⟩]
    let layer : FrameLayer := ⟨format, [⟨1, 0, 64⟩, ⟨0, 128, 32⟩]⟩
    let display : SurfaceDisplay := ⟨[(9, .ok ⟨64, 32, ⟨objects, [layer]⟩⟩)]⟩
    let duplicate : Duplicate := fun d => .ok (d + 10)
    let catalog := FormatCatalog.empty.record format linearModifier
    ∃ surfaces layouts : BufferPool Nat,
      (new 2).bind (.surfaces display) = .ok surfaces
      ∧ (new 2).bind (.layouts duplicate) = .ok layouts
      ∧ ∃ planes descriptors duplicates,
        planes.length = 2 ∧ descriptors.length = 2 ∧ duplicates.length = 2
        ∧ Makes BufferLedger.allocator surfaces ⟨0, 0, .surface 9⟩ catalog {}
          ⟨format, 64, 32, descriptors, planes⟩
        ∧ Makes BufferLedger.allocator layouts ⟨64, 32, .layout ⟨objects, [layer]⟩⟩ catalog {}
          ⟨format, 64, 32, duplicates, planes⟩ := by
  intro format objects layer display duplicate catalog
  have hcreate : ∀ d, ∃ number l, BufferLedger.allocator.create d {} = (.ok number, l) :=
    fun d => ⟨1, { created := [(1, d)] }, rfl⟩
  obtain ⟨surfaces, layouts, hsurfaces, hlayouts, hagree⟩ := backends_agree hcreate hcreate
    (show 1 ≤ 64 by decide) (show 1 ≤ 32 by decide) (show display.exportSurface 9 = .ok _ from rfl)
    (fun object _ => (⟨_, rfl⟩ : ∃ d, duplicate object.descriptor = .ok d)) catalog 0 0 2
  refine ⟨surfaces, layouts, hsurfaces, hlayouts, ?_⟩
  rcases hagree with ⟨⟨⟨e, he⟩, -⟩, -⟩ | ⟨planes, descriptors, duplicates, hplanes, hrest⟩
  · cases hsurfaces
    cases he
  · cases hplanes
    exact ⟨_, descriptors, duplicates, rfl, hrest⟩

end BufferPool

end VideoOutput
