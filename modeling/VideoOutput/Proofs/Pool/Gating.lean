import VideoOutput.Proofs.Outcome
import VideoOutput.Proofs.Pool.Operations

/-!
# What a pool asks of its allocator

A pool may stand over any allocator, and the allocator may change behind its back. A `watched`
allocator lists the calls made to it. A lookup that is refused leaves the pool as it was, and has
made at most one call, which was refused too (`getEntry_refused`). A buffer is asked for only where
the catalog of the lookup supports its description (`calls_gated`), and so in every run
(`trace_gated`). `imports_gated` puts the two together.
-/

namespace VideoOutput

variable {σ β : Type}

inductive AllocatorCall (β : Type) where
  | create (description : BufferDescription) (answer : Except ImportError β)
  | destroy (buffer : β)

/-- The allocator, with the calls made to it in order. -/
def Allocator.watched (a : Allocator σ β) : Allocator (σ × List (AllocatorCall β)) β where
  create description s :=
    let (answer, s') := a.create description s.1
    (answer, s', s.2 ++ [.create description answer])
  destroy buffer s := (a.destroy buffer s.1, s.2 ++ [.destroy buffer])

/-- The catalog takes a buffer of this description. -/
def FormatCatalog.Admits (catalog : FormatCatalog) (d : BufferDescription) : Prop :=
  ∃ modifier, d.modifier? = some modifier ∧ catalog.supports d.format modifier = true

theorem FormatCatalog.not_admits_of_isEmpty {catalog : FormatCatalog}
    (h : catalog.isEmpty = true) (d : BufferDescription) : ¬ catalog.Admits d := by
  simp only [FormatCatalog.isEmpty, Bool.and_eq_true, List.isEmpty_iff] at h
  rintro ⟨modifier, -, hs⟩
  simp [FormatCatalog.supports, h] at hs

namespace BufferPool

/-- What is done to a pool, or to its allocator behind its back. Freeing a pool clears it. -/
inductive Use (σ : Type) where
  | bind (backend : Backend)
  | get (frame : VideoFrame) (catalog : FormatCatalog)
  | clear
  | requestReset
  | beginCycle
  | disturb (change : σ → σ)

def use (a : Allocator σ β) (x : BufferPool β × σ) : Use σ → BufferPool β × σ
  | .bind backend => ((x.1.bind backend).toOption.getD x.1, x.2)
  | .get frame catalog => (x.1.getEntry a frame catalog x.2).2
  | .clear => x.1.clear a x.2
  | .requestReset => (x.1.requestReset, x.2)
  | .beginCycle => x.1.beginCycle a x.2
  | .disturb change => (x.1, change x.2)

/-- The same use of a watched pool. -/
def Use.watched : Use σ → Use (σ × List (AllocatorCall β))
  | .bind backend => .bind backend
  | .get frame catalog => .get frame catalog
  | .clear => .clear
  | .requestReset => .requestReset
  | .beginCycle => .beginCycle
  | .disturb change => .disturb fun s => (change s.1, s.2)

/-- The calls to the allocator that the use makes. -/
def calls (a : Allocator σ β) (x : BufferPool β × σ) (u : Use σ) : List (AllocatorCall β) :=
  (use a.watched (x.1, x.2, []) u.watched).2.2

/-- The calls that a run makes, each with the use it belongs to. -/
def trace (a : Allocator σ β) : BufferPool β × σ → List (Use σ) → List (Use σ × AllocatorCall β)
  | _, [] => []
  | x, u :: us => (calls a x u).map (u, ·) ++ trace a (use a x u) us

theorem admits_of_describe {backend : Backend} {frame : VideoFrame} {catalog : FormatCatalog}
    {d : BufferDescription} (h : describe backend frame catalog = .ok d) : catalog.Admits d := by
  obtain ⟨description, -, h⟩ := bind_eq_ok.1 h
  rcases hm : description.modifier? with _ | modifier <;> rw [hm] at h
  · cases h
  · dsimp only at h
    split_ifs at h with hs
    cases h
    exact ⟨modifier, hm, hs⟩

/-- What a lookup makes of the allocator's answer. -/
def store (p : BufferPool β) (entry : β → PoolEntry β) :
    Except ImportError β × σ → Except ImportError (PoolEntry β) × BufferPool β × σ
  | (.error e, s) => (.error e, p, s)
  | (.ok buffer, s) => (.ok (entry buffer), { p with entries := p.entries ++ [entry buffer] }, s)

/-- Whether a lookup asks the allocator, and for what, does not depend on the allocator. It asks
only for the description of the frame. -/
theorem getEntry_eq (p : BufferPool β) (frame : VideoFrame) (catalog : FormatCatalog) :
    (∃ answer, ∀ {σ : Type} (a : Allocator σ β) (s : σ),
      p.getEntry a frame catalog s = (answer, p, s))
    ∨ ∃ d identity, (∃ backend, p.backend = some backend ∧ describe backend frame catalog = .ok d)
      ∧ ∀ {σ : Type} (a : Allocator σ β) (s : σ),
        p.getEntry a frame catalog s = p.store (⟨identity, d.format, ·⟩) (a.create d s) := by
  unfold getEntry
  cases hbackend : p.backend with
  | none => exact .inl ⟨_, fun _ _ => rfl⟩
  | some backend =>
    cases hidentity : backend.identity frame with
    | error e => exact .inl ⟨.error e, fun _ _ => by simp only [hidentity]⟩
    | ok identity =>
      simp only [hidentity]
      cases hfind : p.entries.find? (·.identity.key = identity.key) with
      | some entry => exact .inl ⟨_, fun _ _ => rfl⟩
      | none =>
        cases hdescribe : describe backend frame catalog with
        | error e => exact .inl ⟨_, fun _ _ => rfl⟩
        | ok d =>
          refine .inr ⟨d, identity, ⟨backend, rfl, hdescribe⟩, fun a s => ?_⟩
          rcases hcreate : a.create d s with ⟨e | buffer, s'⟩
          · simp only [hcreate, store]
          · simp only [hcreate, store, hbackend]

theorem foldl_destroy_watched (a : Allocator σ β) : ∀ (entries : List (PoolEntry β)) (s : σ)
    (log : List (AllocatorCall β)),
    entries.foldl (fun s e => a.watched.destroy e.buffer s) (s, log)
      = (entries.foldl (fun s e => a.destroy e.buffer s) s,
        log ++ entries.map fun e => .destroy e.buffer)
  | [], s, log => by simp
  | e :: entries, s, log => by
    simp only [List.foldl_cons, List.map_cons]
    rw [show a.watched.destroy e.buffer (s, log)
      = (a.destroy e.buffer s, log ++ [.destroy e.buffer]) from rfl,
      foldl_destroy_watched a entries, List.append_assoc, List.singleton_append]

theorem clear_watched (a : Allocator σ β) (p : BufferPool β) (s : σ)
    (log : List (AllocatorCall β)) : p.clear a.watched (s, log)
      = ((p.clear a s).1, (p.clear a s).2, log ++ p.entries.map fun e => .destroy e.buffer) := by
  unfold clear
  rw [foldl_destroy_watched]

/-- Watching the allocator changes nothing but the list of calls. -/
theorem use_watched (a : Allocator σ β) (x : BufferPool β × σ) (log : List (AllocatorCall β))
    (u : Use σ) : use a.watched (x.1, x.2, log) u.watched
      = ((use a x u).1, (use a x u).2, log ++ calls a x u) := by
  obtain ⟨p, s⟩ := x
  unfold calls
  cases u with
  | get frame catalog =>
    simp only [use, Use.watched]
    rcases p.getEntry_eq frame catalog with ⟨answer, h⟩ | ⟨d, identity, -, h⟩
    · simp only [h, List.append_nil]
    · -- the same is asked of the allocator and of the watched one, and it answers both alike
      rw [h, h, h]
      rcases hcreate : a.create d s with ⟨e | buffer, s'⟩ <;>
        simp only [Allocator.watched, hcreate, store, List.nil_append]
  | clear =>
    simp only [use, Use.watched, clear_watched, List.nil_append]
  | beginCycle =>
    simp only [use, Use.watched, beginCycle]
    split_ifs
    · simp only [clear_watched, List.nil_append]
    · simp only [List.append_nil]
  | _ => simp only [use, Use.watched, List.append_nil]

/-- A buffer is asked for in lookups only, and of a description that the catalog admits. -/
theorem calls_gated {a : Allocator σ β} {x : BufferPool β × σ} {u : Use σ} {d : BufferDescription}
    {answer : Except ImportError β} (h : .create d answer ∈ calls a x u) :
    ∃ frame catalog, u = .get frame catalog ∧ catalog.Admits d := by
  obtain ⟨p, s⟩ := x
  -- emptying a pool, on request or at the start of a cycle, only destroys
  have hclear : ∀ q : BufferPool β, .create d answer ∉ (q.clear a.watched (s, [])).2.2 := by
    intro q hq
    rw [clear_watched] at hq
    simp at hq
  unfold calls at h
  cases u with
  | get frame catalog =>
    simp only [use, Use.watched] at h
    rcases p.getEntry_eq frame catalog with
      ⟨refusal, hget⟩ | ⟨d', identity, ⟨backend, -, hdescribe⟩, hget⟩
    · rw [hget] at h
      cases h
    · have hadmits : catalog.Admits d' := admits_of_describe hdescribe
      rw [hget] at h
      refine ⟨frame, catalog, rfl, ?_⟩
      rcases hcreate : a.create d' s with ⟨e | buffer, s'⟩ <;>
        simp only [Allocator.watched, hcreate, store, List.nil_append, List.mem_singleton,
          AllocatorCall.create.injEq] at h
      · rw [h.1]
        exact hadmits
      · rw [h.1]
        exact hadmits
  | clear => exact absurd h (hclear p)
  | beginCycle =>
    simp only [use, Use.watched, beginCycle] at h
    split_ifs at h
    · exact absurd h (hclear _)
    · cases h
  | bind backend => cases h
  | requestReset => cases h
  | disturb change => cases h

theorem trace_gated {a : Allocator σ β} {d : BufferDescription} {answer : Except ImportError β} :
    ∀ {us : List (Use σ)} {x : BufferPool β × σ} {u : Use σ}, (u, .create d answer) ∈ trace a x us →
      u ∈ us ∧ ∃ frame catalog, u = .get frame catalog ∧ catalog.Admits d
  | v :: us, x, u, h => by
    rw [trace, List.mem_append] at h
    rcases h with h | h
    · obtain ⟨call, hcall, heq⟩ := List.mem_map.1 h
      obtain ⟨rfl, rfl⟩ := Prod.mk.inj heq
      exact ⟨List.mem_cons_self .., calls_gated hcall⟩
    · obtain ⟨hu, hgated⟩ := trace_gated h
      exact ⟨List.mem_cons_of_mem _ hu, hgated⟩

/-- A refused lookup leaves the pool as it was. It made no call, or one that was refused. -/
theorem getEntry_refused {a : Allocator σ β} {p : BufferPool β} {frame : VideoFrame}
    {catalog : FormatCatalog} {s : σ} {e : ImportError}
    (h : (p.getEntry a frame catalog s).1 = .error e) :
    (p.getEntry a frame catalog s).2.1 = p
      ∧ (((p.getEntry a frame catalog s).2.2 = s ∧ calls a (p, s) (.get frame catalog) = [])
        ∨ ∃ d, calls a (p, s) (.get frame catalog) = [.create d (.error e)]) := by
  simp only [calls, use, Use.watched]
  rcases p.getEntry_eq frame catalog with ⟨answer, hget⟩ | ⟨d, identity, -, hget⟩
  · rw [hget, hget]
    exact ⟨rfl, .inl ⟨rfl, rfl⟩⟩
  · rw [hget] at h ⊢
    rw [hget]
    rcases hcreate : a.create d s with ⟨e' | buffer, s'⟩
    · rw [hcreate] at h
      obtain rfl : e' = e := Except.error.inj h
      refine ⟨rfl, .inr ⟨d, ?_⟩⟩
      simp only [Allocator.watched, hcreate, store, List.nil_append]
    · rw [hcreate] at h
      cases h

/-- Over any allocator, whatever is done to the pool. A lookup that is refused leaves the pool as it
was, with no buffer made and none destroyed. In a run every buffer is asked for by a lookup, of a
description whose format and first modifier the catalog of that lookup supports; where the catalogs
are empty none is asked for. The calls are those of a watched allocator, and to watch it changes
nothing else. -/
theorem imports_gated (a : Allocator σ β) :
    (∀ (p : BufferPool β) (frame : VideoFrame) (catalog : FormatCatalog) (s : σ) (e : ImportError),
      (p.getEntry a frame catalog s).1 = .error e →
      (p.getEntry a frame catalog s).2.1 = p
        ∧ (((p.getEntry a frame catalog s).2.2 = s ∧ calls a (p, s) (.get frame catalog) = [])
          ∨ ∃ d, calls a (p, s) (.get frame catalog) = [.create d (.error e)]))
    ∧ (∀ (x : BufferPool β × σ) (us : List (Use σ)) (u : Use σ) (d : BufferDescription)
      (answer : Except ImportError β), (u, .create d answer) ∈ trace a x us →
      ∃ frame catalog modifier, u = .get frame catalog ∧ d.modifier? = some modifier
        ∧ catalog.supports d.format modifier = true)
    ∧ (∀ (x : BufferPool β × σ) (us : List (Use σ)),
      (∀ frame catalog, .get frame catalog ∈ us → catalog.isEmpty = true) →
      ∀ u d answer, (u, .create d answer) ∉ trace a x us)
    ∧ ∀ (x : BufferPool β × σ) (log : List (AllocatorCall β)) (u : Use σ),
      use a.watched (x.1, x.2, log) u.watched
        = ((use a x u).1, (use a x u).2, log ++ calls a x u) := by
  refine ⟨fun p frame catalog s e h => getEntry_refused h, fun x us u d answer h => ?_,
    fun x us hempty u d answer h => ?_, use_watched a⟩
  · obtain ⟨-, frame, catalog, rfl, modifier, hmodifier, hs⟩ := trace_gated h
    exact ⟨frame, catalog, modifier, rfl, hmodifier, hs⟩
  · obtain ⟨hu, frame, catalog, rfl, hadmits⟩ := trace_gated h
    exact FormatCatalog.not_admits_of_isEmpty (hempty frame catalog hu) d hadmits

/-- The pool holds another frame and is being reset, and its allocator refuses. -/
theorem imports_gated_refusing :
    let format : FourCc := ⟨0x3231564e⟩
    let frame : VideoFrame := ⟨64, 32, .layout ⟨[⟨5, 0⟩], [⟨format, [⟨0, 0, 64⟩]⟩]⟩⟩
    let catalog := FormatCatalog.empty.record format linearModifier
    let description : BufferDescription := ⟨format, 64, 32, [5], [⟨0, 0, 64, 0⟩]⟩
    let p : BufferPool Nat :=
      { backend := some (.layouts .ok), entries := [⟨.descriptor 3, format, 1⟩]
        reset := { length := 2, active := true } }
    let l : BufferLedger := { refusing := true }
    let refusal : ImportError := .bufferCreation "refused"
    (p.getEntry BufferLedger.allocator frame catalog l).1 = .error refusal
      ∧ (p.getEntry BufferLedger.allocator frame catalog l).2.1 = p
      ∧ (.get frame catalog, .create description (.error refusal))
        ∈ trace BufferLedger.allocator (p, l) [.get frame catalog, .clear]
      ∧ catalog.supports format linearModifier = true
      ∧ ∀ u d answer, (u, .create d answer)
        ∉ trace BufferLedger.allocator (p, l) [.get frame .empty, .clear] := by
  intro format frame catalog description p l refusal
  obtain ⟨hrefused, hgated, hempty, -⟩ := imports_gated BufferLedger.allocator
  have hrefusal : (p.getEntry BufferLedger.allocator frame catalog l).1 = .error refusal := rfl
  have hasked : (.get frame catalog, .create description (.error refusal))
      ∈ trace BufferLedger.allocator (p, l) [.get frame catalog, .clear] := .head _
  obtain ⟨frame', catalog', modifier, hget, hmodifier, hs⟩ := hgated _ _ _ _ _ hasked
  obtain ⟨rfl, rfl⟩ := Use.get.inj hget
  obtain rfl : linearModifier = modifier := Option.some.inj hmodifier
  refine ⟨hrefusal, (hrefused p frame catalog l refusal hrefusal).1, hasked, hs, hempty _ _ ?_⟩
  intro frame' catalog' hmem
  simp only [List.mem_cons, Use.get.injEq, reduceCtorEq, List.not_mem_nil, or_false] at hmem
  rw [hmem.2]
  rfl

end BufferPool

end VideoOutput
