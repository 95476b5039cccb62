import VideoOutput.Frame.Import
import VideoOutput.Proofs.Outcome

/-!
# What becomes of a layout

A layout has one of four ends (`importLayout_settled`). The first plane that lies in no object of
the layout, layer by layer, is named before anything else is looked at. A layout that is whole has
no plane at all, or asks the catalog for the format of its last layer, with the modifier of the
object that its first plane lies in. What the catalog supports becomes a description of all planes
of all layers, with a duplicate of every object at its place.
-/

namespace VideoOutput

theorem exists_first {α : Type} {p : α → Prop} [DecidablePred p] {as : List α}
    (h : ¬ ∀ a ∈ as, p a) :
    ∃ before a after, as = before ++ a :: after ∧ (∀ b ∈ before, p b) ∧ ¬ p a := by
  obtain ⟨a, ha⟩ : ∃ a, as.find? (fun a => !decide (p a)) = some a := by
    rw [← Option.isSome_iff_exists, List.find?_isSome]
    simpa using h
  obtain ⟨hpa, before, after, rfl, hbefore⟩ := List.find?_eq_some_iff_append.1 ha
  exact ⟨before, a, after, rfl, by simpa using hbefore, by simpa using hpa⟩

namespace FrameLayout

variable {l : FrameLayout}

/-- Every plane of every layer lies in an object. -/
def IsWhole (l : FrameLayout) : Prop :=
  ∀ layer ∈ l.layers, ∀ plane ∈ layer.planes, plane.object < l.objects.length

instance (l : FrameLayout) : Decidable l.IsWhole := by unfold IsWhole; infer_instance

/-- The first plane that lies in no object, layer by layer and plane by plane, refers to the object
`i`. -/
def FirstMissing (l : FrameLayout) (i : Nat) : Prop :=
  ∃ earlier layer later before plane after,
    l.layers = earlier ++ layer :: later ∧ layer.planes = before ++ plane :: after
    ∧ (∀ e ∈ earlier, ∀ p ∈ e.planes, p.object < l.objects.length)
    ∧ (∀ p ∈ before, p.object < l.objects.length)
    ∧ l.objects.length ≤ plane.object ∧ plane.object = i

/-- The format of the last layer, whether or not it has planes. -/
def format? (l : FrameLayout) : Option FourCc := l.layers.getLast?.map FrameLayer.format

/-- The modifier of the object that the first plane of all lies in. -/
def modifier? (l : FrameLayout) : Option UInt64 :=
  l.planes.head?.bind fun plane => l.objects[plane.object]?.map FrameObject.modifier

/-- The plane as the compositor is told of it: as it was, with the modifier of its own object. -/
def Resolves (l : FrameLayout) (plane : FramePlane) (resolved : BufferPlane) : Prop :=
  ∃ object, l.objects[plane.object]? = some object
    ∧ resolved = ⟨plane.object, plane.offset, plane.pitch, object.modifier⟩

theorem isWhole_or_firstMissing (l : FrameLayout) : l.IsWhole ∨ ∃ i, l.FirstMissing i := by
  refine or_iff_not_imp_left.2 fun hwhole => ?_
  obtain ⟨earlier, layer, later, hlayers, hearlier, hlayer⟩ := exists_first hwhole
  obtain ⟨before, plane, after, hplanes, hbefore, hplane⟩ := exists_first hlayer
  exact ⟨plane.object, earlier, layer, later, before, plane, after, hlayers, hplanes, hearlier,
    hbefore, Nat.not_lt.1 hplane, rfl⟩

/-- A whole layout with a plane has something to ask the catalog. -/
theorem IsWhole.exists_asked (h : l.IsWhole) (hplanes : l.planes ≠ []) :
    ∃ format modifier, l.format? = some format ∧ l.modifier? = some modifier := by
  obtain ⟨first, rest, hfirst⟩ := List.exists_cons_of_ne_nil hplanes
  have hmem : first ∈ l.planes := hfirst ▸ List.mem_cons_self ..
  have hobject : first.object < l.objects.length := List.forall_mem_flatMap.2 h first hmem
  have hlayers : l.layers ≠ [] := by
    intro hnil
    exact hplanes (by simp [FrameLayout.planes, hnil])
  refine ⟨(l.layers.getLast hlayers).format, l.objects[first.object].modifier, ?_, ?_⟩
  · rw [format?, List.getLast?_eq_some_getLast hlayers]
    rfl
  · rw [modifier?, hfirst, List.head?_cons, Option.bind_some, List.getElem?_eq_getElem hobject]
    rfl

/-! ## Resolving the planes -/

theorem resolves_iff {plane : FramePlane} {resolved : BufferPlane} :
    (match l.objects[plane.object]? with
      | some object => .ok ⟨plane.object, plane.offset, plane.pitch, object.modifier⟩
      | none => .error (ImportError.missingObject plane.object)) = Except.ok resolved
      ↔ l.Resolves plane resolved := by
  unfold Resolves
  cases l.objects[plane.object]? <;> simp [eq_comm]

theorem resolvePlanes_eq_ok_iff {planes : List FramePlane} {resolved : List BufferPlane} :
    resolvePlanes l.objects planes = .ok resolved ↔ List.Forall₂ l.Resolves planes resolved := by
  unfold resolvePlanes
  rw [mapM_eq_ok_iff]
  exact ⟨List.Forall₂.imp fun _ _ => resolves_iff.1, List.Forall₂.imp fun _ _ => resolves_iff.2⟩

theorem exists_resolved {planes : List FramePlane}
    (h : ∀ plane ∈ planes, plane.object < l.objects.length) :
    ∃ resolved, resolvePlanes l.objects planes = .ok resolved := by
  obtain ⟨resolved, hresolved, -⟩ := mapM_ok fun plane hplane =>
    ⟨_, resolves_iff.2 ⟨_, List.getElem?_eq_getElem (h plane hplane), rfl⟩⟩
  exact ⟨resolved, hresolved⟩

theorem resolvePlanes_of_firstMissing {i : Nat} (h : l.FirstMissing i) :
    resolvePlanes l.objects l.planes = .error (.missingObject i) := by
  obtain ⟨earlier, layer, later, before, plane, after, hlayers, hplanes, hearlier, hbefore,
    hmissing, rfl⟩ := h
  have hsplit : l.planes = (earlier.flatMap FrameLayer.planes ++ before)
      ++ plane :: (after ++ later.flatMap FrameLayer.planes) := by
    simp [FrameLayout.planes, hlayers, hplanes]
  obtain ⟨resolved, hresolved⟩ : ∃ resolved, resolvePlanes l.objects
      (earlier.flatMap FrameLayer.planes ++ before) = .ok resolved :=
    exists_resolved (List.forall_mem_append.2 ⟨List.forall_mem_flatMap.2 hearlier, hbefore⟩)
  unfold resolvePlanes at hresolved ⊢
  rw [hsplit, List.mapM_append, hresolved, ok_bind, List.mapM_cons,
    List.getElem?_eq_none hmissing]
  rfl

end FrameLayout

/-! ## Importing the layout -/

variable {l : FrameLayout} {duplicate : Duplicate} {catalog : FormatCatalog} {width height : Nat}

theorem importLayout_of_firstMissing {i : Nat} (h : l.FirstMissing i) :
    importLayout duplicate catalog l width height = .error (.missingObject i) := by
  unfold importLayout
  rw [FrameLayout.resolvePlanes_of_firstMissing h]
  rfl

theorem importLayout_of_planes_eq_nil (h : l.planes = []) :
    importLayout duplicate catalog l width height = .error .noPlanes := by
  unfold importLayout
  rw [h]
  cases l.layers.getLast? <;> rfl

/-- The catalog is asked once all planes are resolved, and before any object is duplicated. -/
theorem importLayout_of_asked (duplicate : Duplicate) (catalog : FormatCatalog)
    (width height : Nat) {format : FourCc} {modifier : UInt64} (hwhole : l.IsWhole)
    (hformat : l.format? = some format) (hmodifier : l.modifier? = some modifier) :
    ∃ planes, List.Forall₂ l.Resolves l.planes planes
      ∧ importLayout duplicate catalog l width height
        = if catalog.supports format modifier then
            (l.objects.mapM fun object =>
              (duplicate object.descriptor).mapError ImportError.duplicationFailed).map
              (⟨format, width, height, ·, planes⟩)
          else .error (.unsupported format modifier) := by
  obtain ⟨planes, hplanes⟩ : ∃ planes, resolvePlanes l.objects l.planes = .ok planes :=
    FrameLayout.exists_resolved (List.forall_mem_flatMap.2 hwhole)
  have hresolves := FrameLayout.resolvePlanes_eq_ok_iff.1 hplanes
  refine ⟨planes, hresolves, ?_⟩
  obtain ⟨layer, hlayer, rfl⟩ := Option.map_eq_some_iff.1 hformat
  obtain ⟨first, hfirst, hfirst'⟩ := Option.bind_eq_some_iff.1 hmodifier
  obtain ⟨object, hobject, rfl⟩ := Option.map_eq_some_iff.1 hfirst'
  obtain ⟨rest, hrest⟩ := List.head?_eq_some_iff.1 hfirst
  -- the first plane that is resolved has the modifier that is asked about
  rw [hrest] at hresolves
  obtain ⟨_, _, ⟨object', hobject', rfl⟩, -, rfl⟩ := List.forall₂_cons_left_iff.1 hresolves
  obtain rfl : object = object' := Option.some.inj (hobject.symm.trans hobject')
  unfold importLayout
  rw [hplanes, ok_bind, hlayer]
  cases hs : catalog.supports layer.format object.modifier with
  | false => simp [hs, error_bind]
  | true =>
    rw [if_pos rfl]
    simp only [List.head?_cons, hs, Bool.not_true, Bool.false_eq_true, if_false]
    cases l.objects.mapM fun object =>
      (duplicate object.descriptor).mapError ImportError.duplicationFailed <;> rfl

theorem exists_duplicates
    (h : ∀ object ∈ l.objects, ∃ copy, duplicate object.descriptor = .ok copy) :
    ∃ copies, (l.objects.mapM fun object =>
        (duplicate object.descriptor).mapError ImportError.duplicationFailed) = .ok copies
      ∧ List.Forall₂ (fun object copy => duplicate object.descriptor = .ok copy)
        l.objects copies := by
  have hcopy : ∀ {object : FrameObject} {copy : Descriptor},
      (duplicate object.descriptor).mapError ImportError.duplicationFailed = .ok copy
        ↔ duplicate object.descriptor = .ok copy := by
    intro object copy
    cases duplicate object.descriptor <;> simp [Except.mapError]
  obtain ⟨copies, hcopies, -⟩ := mapM_ok fun object hobject => by
    obtain ⟨copy, hc⟩ := h object hobject
    exact ⟨copy, hcopy.2 hc⟩
  refine ⟨copies, hcopies, ?_⟩
  simpa only [hcopy] using mapM_eq_ok_iff.1 hcopies

/-- The objects of a layout can be duplicated. Its import fails with the first plane, layer by
layer, that lies in no object; otherwise for want of a plane, if it has none; otherwise with what
the catalog was asked about, if that does not support it. Otherwise it gives the format and the
size, every plane of every layer in order with the modifier of its own object, and a duplicate of
every object at its place. There is no layout besides these. -/
theorem importLayout_settled
    (hduplicate : ∀ object ∈ l.objects, ∃ copy, duplicate object.descriptor = .ok copy)
    (catalog : FormatCatalog) (width height : Nat) :
    (∀ i, l.FirstMissing i →
      importLayout duplicate catalog l width height = .error (.missingObject i))
    ∧ (l.planes = [] → importLayout duplicate catalog l width height = .error .noPlanes)
    ∧ (l.IsWhole → ∀ format modifier, l.format? = some format → l.modifier? = some modifier →
      (catalog.supports format modifier = false →
        importLayout duplicate catalog l width height = .error (.unsupported format modifier))
      ∧ (catalog.supports format modifier = true → ∃ planes copies,
        importLayout duplicate catalog l width height = .ok ⟨format, width, height, copies, planes⟩
        ∧ List.Forall₂ l.Resolves l.planes planes
        ∧ List.Forall₂ (fun object copy => duplicate object.descriptor = .ok copy)
          l.objects copies))
    ∧ ((∃ i, l.FirstMissing i) ∨ l.planes = []
      ∨ (l.IsWhole ∧ ∃ format modifier, l.format? = some format
        ∧ l.modifier? = some modifier)) := by
  refine ⟨fun i => importLayout_of_firstMissing, importLayout_of_planes_eq_nil,
    fun hwhole format modifier hformat hmodifier => ?_, ?_⟩
  · obtain ⟨planes, hplanes, himport⟩ :=
      importLayout_of_asked duplicate catalog width height hwhole hformat hmodifier
    refine ⟨fun hs => ?_, fun hs => ?_⟩
    · rw [himport, hs]
      rfl
    · obtain ⟨copies, hcopies, hall⟩ := exists_duplicates hduplicate
      refine ⟨planes, copies, ?_, hplanes, hall⟩
      rw [himport, if_pos hs, hcopies]
      rfl
  · rcases l.isWhole_or_firstMissing with hwhole | hmissing
    · by_cases hplanes : l.planes = []
      · exact .inr (.inl hplanes)
      · exact .inr (.inr ⟨hwhole, hwhole.exists_asked hplanes⟩)
    · exact .inl hmissing

/-- Four layers, the first and the last without planes. The first plane lies in the second object,
and the second is missing, as is the one after it, or both lie in the first. -/
theorem importLayout_settled_layered :
    let duplicate : Duplicate := fun d => .ok (d + 10)
    let catalog := FormatCatalog.empty.record ⟨0x30313050⟩ 1
    let layout (object : Nat) : FrameLayout := ⟨[⟨5, 0⟩, ⟨6, 1⟩], [⟨⟨0x34325258⟩, []⟩,
      ⟨⟨0x3231564e⟩, [⟨1, 0, 64⟩, ⟨object, 2048, 64⟩]⟩, ⟨⟨0x38385247⟩, [⟨2 * object, 4096, 32⟩]⟩,
      ⟨⟨0x30313050⟩, []⟩]⟩
    ((layout 9).FirstMissing 9
      ∧ importLayout duplicate catalog (layout 9) 64 32 = .error (.missingObject 9))
    ∧ ((layout 0).IsWhole ∧ (layout 0).format? = some ⟨0x30313050⟩
      ∧ (layout 0).modifier? = some 1 ∧ ∃ planes,
        importLayout duplicate catalog (layout 0) 64 32
          = .ok ⟨⟨0x30313050⟩, 64, 32, [15, 16], planes⟩
        ∧ planes.map BufferPlane.modifier = [1, 0, 0])
    ∧ importLayout duplicate .empty (layout 0) 64 32 = .error (.unsupported ⟨0x30313050⟩ 1) := by
  intro duplicate catalog layout
  have hduplicate : ∀ object, ∀ o ∈ (layout object).objects, ∃ copy,
      duplicate o.descriptor = .ok copy := fun _ _ _ => ⟨_, rfl⟩
  have hmissing : (layout 9).FirstMissing 9 :=
    ⟨[_], _, [_, _], [_], _, [], rfl, rfl, by decide, by decide, by decide, rfl⟩
  have hwhole : (layout 0).IsWhole := by decide
  obtain ⟨hfirst, -, -, -⟩ := importLayout_settled (hduplicate 9) catalog 64 32
  obtain ⟨-, -, hasked, -⟩ := importLayout_settled (hduplicate 0) catalog 64 32
  obtain ⟨-, -, hrefused, -⟩ := importLayout_settled (hduplicate 0) .empty 64 32
  obtain ⟨planes, copies, himport, -, -⟩ := (hasked hwhole _ _ rfl rfl).2 (by decide)
  refine ⟨⟨hmissing, hfirst 9 hmissing⟩, ⟨hwhole, rfl, rfl, planes, ?_, ?_⟩,
    (hrefused hwhole _ _ rfl rfl).1 (by decide)⟩
  · cases himport
    rfl
  · cases himport
    rfl

end VideoOutput
