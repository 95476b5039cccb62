import VideoOutput.Client.Buffers
import VideoOutput.Proofs.Pool.Gating
import VideoOutput.Proofs.Wire.Requests

/-!
# What an import can rely on

Whatever a frame holds, a description made of it has a plane, and each of its planes lies in one of
its objects (`sound_of_import`). So what is checked again later holds: the pool finds a modifier to
ask the catalog about, a layout is not refused by the catalog a second time, and a request object,
once made, gives a buffer and is ended (`imports_complete`).
-/

namespace VideoOutput

open Wire

/-- There are planes, and each lies in one of the objects. -/
structure BufferDescription.IsSound (d : BufferDescription) : Prop where
  planes : d.planes ≠ []
  objects : ∀ plane ∈ d.planes, plane.object < d.objects.length

section Importers

variable {objects : List FrameObject} {planes : List FramePlane} {resolved : List BufferPlane}
  {d : BufferDescription}

theorem resolvePlanes_lt (h : resolvePlanes objects planes = .ok resolved) :
    ∀ plane ∈ resolved, plane.object < objects.length := by
  refine fun plane hplane => ?_
  obtain ⟨p, -, hp⟩ := (mapM_eq_ok h).2 plane hplane
  split at hp
  · rename_i object hobject
    cases hp
    exact (List.getElem?_eq_some_iff.1 hobject).1
  · cases hp

theorem importSurface_sound {display : SurfaceDisplay} {id width height : Nat}
    (h : importSurface display id width height = .ok d) : d.IsSound := by
  obtain ⟨exported, -, h⟩ := bind_eq_ok.1 h
  split at h
  · cases h
  · obtain ⟨resolved, hresolved, h⟩ := bind_eq_ok.1 h
    cases hempty : resolved.isEmpty with
    | true => rw [hempty] at h; cases h
    | false =>
      rw [hempty] at h
      cases h
      refine ⟨fun hnil => ?_, fun plane hplane => ?_⟩
      · rw [show resolved = [] from hnil] at hempty
        cases hempty
      · rw [List.length_map]
        exact resolvePlanes_lt hresolved plane hplane

theorem importLayout_sound {duplicate : Duplicate} {catalog : FormatCatalog} {layout : FrameLayout}
    {width height : Nat} (h : importLayout duplicate catalog layout width height = .ok d) :
    d.IsSound ∧ catalog.Admits d := by
  obtain ⟨resolved, hresolved, h⟩ := bind_eq_ok.1 h
  split at h
  · rename_i layer plane _ hplane
    cases hs : catalog.supports layer.format plane.modifier with
    | false => rw [hs] at h; cases h
    | true =>
      rw [hs] at h
      obtain ⟨descriptors, hdescriptors, h⟩ := bind_eq_ok.1 h
      cases h
      refine ⟨⟨fun hnil => ?_, fun p hp => ?_⟩, plane.modifier, ?_, hs⟩
      · rw [show resolved = [] from hnil] at hplane
        cases hplane
      · rw [(mapM_eq_ok hdescriptors).1]
        exact resolvePlanes_lt hresolved p hp
      · exact congrArg (Option.map BufferPlane.modifier) hplane
  · cases h

/-- A description of any backend is sound, and one of a layout is admitted. -/
theorem sound_of_import {backend : Backend} {frame : VideoFrame} {catalog : FormatCatalog}
    (h : backend.importFrame frame catalog = .ok d) : d.IsSound := by
  unfold Backend.importFrame at h
  split at h
  · exact importSurface_sound h
  · exact (importLayout_sound h).1
  · cases h

theorem admits_of_import {duplicate : Duplicate} {frame : VideoFrame} {catalog : FormatCatalog}
    (h : (Backend.layouts duplicate).importFrame frame catalog = .ok d) : catalog.Admits d := by
  unfold Backend.importFrame at h
  split at h
  · rename_i heq _
    cases heq
  · rename_i heq _
    cases heq
    exact (importLayout_sound h).2
  · cases h

/-- The modifier that the catalog is asked about. -/
theorem BufferDescription.IsSound.modifier (h : d.IsSound) :
    ∃ modifier, d.modifier? = some modifier := by
  obtain ⟨plane, rest, hplanes⟩ := List.exists_cons_of_ne_nil h.planes
  exact ⟨plane.modifier, by rw [modifier?, hplanes]; rfl⟩

end Importers

namespace BufferPool

variable {backend : Backend} {frame : VideoFrame} {catalog : FormatCatalog} {d : BufferDescription}

/-- Of an imported frame only the catalog is left to be asked. -/
theorem describe_of_import (h : backend.importFrame frame catalog = .ok d) :
    ∃ modifier, d.modifier? = some modifier ∧ describe backend frame catalog
      = if catalog.supports d.format modifier then .ok d
        else .error (.unsupported d.format modifier) := by
  obtain ⟨modifier, hmodifier⟩ := (sound_of_import h).modifier
  refine ⟨modifier, hmodifier, ?_⟩
  unfold describe
  rw [h, ok_bind, hmodifier]

theorem import_of_describe (h : describe backend frame catalog = .ok d) :
    backend.importFrame frame catalog = .ok d := by
  obtain ⟨d', himport, hd⟩ := bind_eq_ok.1 h
  obtain ⟨modifier, -, hdescribe⟩ := describe_of_import himport
  rw [h] at hdescribe
  split_ifs at hdescribe
  cases hdescribe
  exact himport

/-- What the catalog supports of a layout was settled by the import. -/
theorem describe_layouts (duplicate : Duplicate) (frame : VideoFrame) (catalog : FormatCatalog) :
    describe (.layouts duplicate) frame catalog
      = (Backend.layouts duplicate).importFrame frame catalog := by
  cases h : (Backend.layouts duplicate).importFrame frame catalog with
  | error e =>
    unfold describe
    rw [h, error_bind]
  | ok d =>
    obtain ⟨modifier, hmodifier, hdescribe⟩ := describe_of_import h
    obtain ⟨modifier', hmodifier', hs⟩ := admits_of_import h
    obtain rfl : modifier = modifier' := Option.some.inj (hmodifier.symm.trans hmodifier')
    rw [hdescribe, if_pos hs]

end BufferPool

namespace Client

variable {d : BufferDescription}

/-- The requests that add the planes, from the given number on. -/
def planeRequests (params : Object) : Nat → List BufferPlane → List Request
  | _, [] => []
  | number, plane :: rest =>
    let (low, high) := modifierWords plane.modifier
    ⟨params, .add, [.descriptor, .int number, .int plane.offset, .int plane.stride, .int high,
      .int low]⟩ :: planeRequests params (number + 1) rest

/-- The requests that make a buffer: a request object is made, takes every plane, gives the buffer
and is ended. -/
def bufferRequests (log : RequestLog) (dmabuf : Object) (d : BufferDescription) : List Request :=
  let params := log.fresh .bufferParams
  ⟨dmabuf, .createParams, [.new params]⟩ :: planeRequests params 0 d.planes ++
    [⟨params, .createImmediate, [.new (log.fresh .buffer), .int d.width, .int d.height,
      .int d.format.code.toNat, .int 0]⟩, ⟨params, .destroy, []⟩]

theorem run_addPlanes (params : Object) (objects : List Descriptor) :
    ∀ (planes : List BufferPlane) (number : Nat) (log : RequestLog),
      (∀ plane ∈ planes, plane.object < objects.length) →
      (addPlanes params objects number planes).run log
        = (.ok (), { log with issued := log.issued ++ planeRequests params number planes })
  | [], _, log, _ => by
    rw [planeRequests, List.append_nil]
    rfl
  | plane :: rest, number, log, h => by
    obtain ⟨hplane, hrest⟩ := List.forall_mem_cons.1 h
    unfold addPlanes
    rw [if_neg (Nat.not_le.2 hplane)]
    have hadded := run_addPlanes params objects rest (number + 1)
      (log.issue ⟨params, .add, [.descriptor, .int number, .int plane.offset, .int plane.stride,
        .int (modifierWords plane.modifier).2, .int (modifierWords plane.modifier).1]⟩) hrest
    refine hadded.trans ?_
    rw [planeRequests, RequestLog.issue, List.append_assoc]
    rfl

theorem makes_planeRequests (params : Object) : ∀ (planes : List BufferPlane) (number : Nat),
    (planeRequests params number planes).flatMap Request.makes = []
  | [], _ => rfl
  | _ :: rest, number => makes_planeRequests params rest (number + 1)

theorem run_makeBuffer (h : d.IsSound) (dmabuf : Object) (log : RequestLog) :
    (makeBuffer dmabuf d).run log = (.ok (log.fresh .buffer),
      { log with issued := log.issued ++ bufferRequests log dmabuf d }) := by
  let params := log.fresh .bufferParams
  let making : Request := ⟨dmabuf, .createParams, [.new params]⟩
  let adding := planeRequests params 0 d.planes
  let added : RequestLog := { log with issued := log.issued ++ (making :: adding) }
  have hmade : (Issuing.make dmabuf .createParams .bufferParams [] []).run log
      = (params, log.issue making) := rfl
  have hadded : (addPlanes params d.objects 0 d.planes).run (log.issue making)
      = (.ok (), added) := by
    rw [run_addPlanes params d.objects d.planes 0 _ h.objects]
    simp only [added, RequestLog.issue, List.append_assoc, List.singleton_append, adding]
  have hmakes : ∀ o ∈ (making :: adding).flatMap Request.makes, o.interface ≠ .buffer := by
    rw [List.flatMap_cons, makes_planeRequests, List.append_nil]
    intro o ho
    obtain rfl : o = params := List.mem_singleton.1 ho
    exact Interface.noConfusion
  have hfresh : added.fresh .buffer = log.fresh .buffer := RequestLog.fresh_append hmakes log.sent
  have hissued : added.issued ++ [⟨params, .createImmediate, [.new (log.fresh .buffer),
        .int d.width, .int d.height, .int d.format.code.toNat, .int 0]⟩] ++
      [⟨params, .destroy, []⟩] = log.issued ++ bufferRequests log dmabuf d := by
    simp only [added, making, adding, params, bufferRequests, List.append_assoc, List.cons_append,
      List.nil_append]
  unfold makeBuffer
  rw [run_bind_of_eq hmade, run_bind_of_eq hadded, ← hfresh]
  exact Prod.ext rfl (congrArg (RequestLog.mk · log.sent) (hfresh ▸ hissued))

/-- A sound description is refused for its size or for want of the global, before anything is
asked, or gives a buffer. -/
theorem create_sound (h : d.IsSound) (dmabuf : Option Object) (log : RequestLog) :
    (∃ reason, (allocator dmabuf).create d log = (.error (.bufferCreation reason), log))
    ∨ ∃ o, dmabuf = some o ∧ (allocator dmabuf).create d log = (.ok (log.fresh .buffer),
      { log with issued := log.issued ++ bufferRequests log o d }) := by
  unfold allocator
  cases dmabuf with
  | none => exact .inl ⟨_, rfl⟩
  | some o =>
    dsimp only
    unfold oversize?
    split_ifs
    · exact .inl ⟨_, rfl⟩
    · exact .inl ⟨_, rfl⟩
    · exact .inr ⟨o, rfl, run_makeBuffer h o log⟩

/-- A lookup asks nothing of the compositor, or all that a buffer takes. -/
theorem getEntry_sound (dmabuf : Option Object) (p : BufferPool Object) (frame : VideoFrame)
    (catalog : FormatCatalog) (log : RequestLog) :
    (∃ answer, p.getEntry (allocator dmabuf) frame catalog log = (answer, p, log))
    ∨ ∃ backend o d entry, p.backend = some backend ∧ dmabuf = some o
      ∧ backend.importFrame frame catalog = .ok d
      ∧ entry.buffer = log.fresh .buffer ∧ entry.format = d.format
      ∧ p.getEntry (allocator dmabuf) frame catalog log
        = (.ok entry, { p with entries := p.entries ++ [entry] },
          { log with issued := log.issued ++ bufferRequests log o d }) := by
  rcases p.getEntry_eq frame catalog with
    ⟨answer, hget⟩ | ⟨d, identity, ⟨backend, hbackend, hdescribe⟩, hget⟩
  · exact .inl ⟨answer, hget _ log⟩
  · have himport := BufferPool.import_of_describe hdescribe
    rw [hget]
    rcases create_sound (sound_of_import himport) dmabuf log with ⟨reason, h⟩ | ⟨o, hdmabuf, h⟩
    · exact .inl ⟨_, by rw [h]; rfl⟩
    · refine .inr ⟨backend, o, d, ⟨identity, d.format, log.fresh .buffer⟩, hbackend, hdmabuf,
        himport, rfl, rfl, ?_⟩
      rw [h]
      rfl

/-- Every description that a backend makes of a frame has a plane, with a modifier for the pool to
ask the catalog about, and the planes lie in its objects. A buffer of it is refused before anything
is asked of the compositor, or a request object is made, takes every plane, gives the buffer and is
ended. What the pool makes of a layout is what the import made of it, and a lookup asks nothing of
the compositor, whatever it answers, or all that a buffer takes, and answers with that buffer. -/
theorem imports_complete :
    (∀ (backend : Backend) (frame : VideoFrame) (catalog : FormatCatalog) (d : BufferDescription),
      backend.importFrame frame catalog = .ok d →
      d.planes ≠ [] ∧ (∀ plane ∈ d.planes, plane.object < d.objects.length)
        ∧ ∃ modifier, d.modifier? = some modifier ∧ BufferPool.describe backend frame catalog
          = if catalog.supports d.format modifier then .ok d
            else .error (.unsupported d.format modifier))
    ∧ (∀ (backend : Backend) (frame : VideoFrame) (catalog : FormatCatalog) (d : BufferDescription),
      backend.importFrame frame catalog = .ok d → ∀ (dmabuf : Option Object) (log : RequestLog),
        (∃ reason, (allocator dmabuf).create d log = (.error (.bufferCreation reason), log))
        ∨ ∃ o, dmabuf = some o ∧ (allocator dmabuf).create d log = (.ok (log.fresh .buffer),
          { log with issued := log.issued ++ bufferRequests log o d }))
    ∧ (∀ (duplicate : Duplicate) (frame : VideoFrame) (catalog : FormatCatalog),
      BufferPool.describe (.layouts duplicate) frame catalog
        = (Backend.layouts duplicate).importFrame frame catalog)
    ∧ ∀ (dmabuf : Option Object) (p : BufferPool Object) (frame : VideoFrame)
      (catalog : FormatCatalog) (log : RequestLog),
      (∃ answer, p.getEntry (allocator dmabuf) frame catalog log = (answer, p, log))
      ∨ ∃ backend o d entry, p.backend = some backend ∧ dmabuf = some o
        ∧ backend.importFrame frame catalog = .ok d
        ∧ entry.buffer = log.fresh .buffer ∧ entry.format = d.format
        ∧ p.getEntry (allocator dmabuf) frame catalog log
          = (.ok entry, { p with entries := p.entries ++ [entry] },
            { log with issued := log.issued ++ bufferRequests log o d }) := by
  refine ⟨fun backend frame catalog d h => ?_, fun backend frame catalog d h => ?_,
    BufferPool.describe_layouts, getEntry_sound⟩
  · have hsound := sound_of_import h
    exact ⟨hsound.planes, hsound.objects, BufferPool.describe_of_import h⟩
  · exact create_sound (sound_of_import h)

/-- A layout of two planes in one object, and one that refers to an object it does not have. -/
theorem imports_complete_planar :
    let format : FourCc := ⟨0x3231564e⟩
    let catalog := FormatCatalog.empty.record format linearModifier
    let frame (object : Nat) : VideoFrame :=
      ⟨64, 32, .layout ⟨[⟨5, linearModifier⟩], [⟨format, [⟨0, 0, 64⟩, ⟨object, 2048, 64⟩]⟩]⟩⟩
    let p : BufferPool Object := { BufferPool.new 2 with backend := some (.layouts .ok) }
    let dmabuf : Object := ⟨.dmabuf, 1⟩
    (∃ d entry, (Backend.layouts .ok).importFrame (frame 0) catalog = .ok d ∧ d.planes.length = 2
      ∧ BufferPool.describe (.layouts .ok) (frame 0) catalog = .ok d
      ∧ p.getEntry (allocator (some dmabuf)) (frame 0) catalog {}
        = (.ok entry, { p with entries := [entry] }, { issued := bufferRequests {} dmabuf d })
      ∧ (bufferRequests {} dmabuf d).map Request.verb
        = [.createParams, .add, .add, .createImmediate, .destroy])
    ∧ p.getEntry (allocator (some dmabuf)) (frame 1) catalog {}
      = (.error (.missingObject 1), p, {}) := by
  intro format catalog frame p dmabuf
  obtain ⟨-, -, hlayouts, hlookups⟩ := imports_complete
  obtain ⟨d, himport⟩ : ∃ d, (Backend.layouts .ok).importFrame (frame 0) catalog = .ok d := ⟨_, rfl⟩
  refine ⟨?_, rfl⟩
  rcases hlookups (some dmabuf) p (frame 0) catalog {} with
    ⟨answer, hanswer⟩ | ⟨backend, o, d', entry, hbackend, ho, himport', -, -, hget⟩
  · have hentries : 1 = 0 := congrArg (fun x => x.2.1.entries.length) hanswer
    cases hentries
  · obtain rfl : Backend.layouts .ok = backend := Option.some.inj hbackend
    obtain rfl : dmabuf = o := Option.some.inj ho
    obtain rfl : d = d' := Except.ok.inj (himport.symm.trans himport')
    refine ⟨d, entry, himport, ?_, (hlayouts _ _ _).trans himport, hget, ?_⟩
    · cases himport
      rfl
    · cases himport
      rfl

end Client

end VideoOutput
