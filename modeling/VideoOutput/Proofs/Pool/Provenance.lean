import VideoOutput.Proofs.Pool.Conservation

/-!
# Where the entries of a pool come from

Surfaces and descriptors share their numbers, so an entry found by number alone could belong to a
frame of another decoder. It does not: the backend stays as long as anything is held, and each entry
is the one made by the first lookup of its number since the pool was last empty, under the backend
that is bound still (`lookup_provenance`).
-/

namespace VideoOutput

namespace Backend

variable {backend : Backend} {frame frame' : VideoFrame} {identity identity' : FrameIdentity}

/-- The kind of the identity is the backend's. -/
theorem identity_cases (h : backend.identity frame = .ok identity) :
    (∃ display id, backend = .surfaces display ∧ identity = .surface id)
    ∨ ∃ duplicate number, backend = .layouts duplicate ∧ identity = .descriptor number := by
  unfold Backend.identity at h
  split at h
  · rename_i display id _
    cases h
    exact .inl ⟨display, id, rfl, rfl⟩
  · rename_i duplicate layout _
    split at h
    · cases h
    · rename_i object _ _
      cases h
      exact .inr ⟨duplicate, object.descriptor, rfl, rfl⟩
  · cases h

/-- Under one backend the numbers tell frames apart as the identities do. -/
theorem identity_eq_of_key (h : backend.identity frame = .ok identity)
    (h' : backend.identity frame' = .ok identity') (hkey : identity.key = identity'.key) :
    identity = identity' := by
  rcases identity_cases h with ⟨display, id, rfl, rfl⟩ | ⟨duplicate, number, rfl, rfl⟩ <;>
    rcases identity_cases h' with ⟨_, _, hb, rfl⟩ | ⟨_, _, hb, rfl⟩ <;> cases hb
  · exact congrArg FrameIdentity.surface hkey
  · exact congrArg FrameIdentity.descriptor hkey

end Backend

namespace PoolHistory

/-- A lookup that was answered: the backend bound then, the answer, and the buffers made for it. -/
structure Lookup where
  frame : VideoFrame
  backend : Option Backend
  answer : PoolEntry Nat
  made : List (Nat × BufferDescription)

/-- The lookup the operation is, where it is answered. -/
def lookup? (h : PoolHistory) (op : Op) : Option Lookup :=
  match op, h.step op with
  | .get frame, (h', .entry (.ok answer)) =>
    some ⟨frame, h.bound, answer, h'.ledger.created.drop h.ledger.created.length⟩
  | _, _ => none

/-- The lookups since the pool was last empty, one operation later. -/
def lookupsStep (h : PoolHistory) (log : List Lookup) (op : Op) : List Lookup :=
  if (h.step op).1.held = [] then [] else log ++ (h.lookup? op).toList

def lookupsFrom : PoolHistory → List Lookup → List Op → List Lookup
  | _, log, [] => log
  | h, log, op :: ops => lookupsFrom (h.step op).1 (h.lookupsStep log op) ops

/-- The lookups answered since the pool was last empty, in order. -/
def lookups (h : PoolHistory) (ops : List Op) : List Lookup := lookupsFrom h [] ops

variable {h : PoolHistory} {log : List Lookup}

theorem run_concat (h : PoolHistory) (ops : List Op) (op : Op) :
    run h (ops ++ [op]) = ((run h ops).step op).1 := by
  unfold run
  rw [List.foldl_append]
  rfl

/-- The lookup made the buffer it answered with, from its own frame. -/
def Lookup.Imported (l : Lookup) : Prop :=
  ∃ backend catalog description, l.backend = some backend
    ∧ backend.identity l.frame = .ok l.answer.identity
    ∧ BufferPool.describe backend l.frame catalog = .ok description
    ∧ l.made = [(l.answer.buffer, description)] ∧ l.answer.format = description.format

/-- The lookups of the log were answered by what is held, under the backend bound still; what is
held was made by the first of them for its number. -/
structure Traced (h : PoolHistory) (log : List Lookup) : Prop where
  answers : ∀ l ∈ log, l.backend = h.bound ∧ l.answer ∈ h.held
  origins : ∀ e ∈ h.held, ∃ l, log.find? (·.answer.identity.key = e.identity.key) = some l
    ∧ l.answer = e ∧ l.Imported

theorem lookup?_eq_some {op : Op} {l : Lookup} (hl : h.lookup? op = some l) :
    l.backend = h.bound ∧ (h.step op).2 = .entry (.ok l.answer) := by
  unfold lookup? at hl
  split at hl
  · rename_i hstep
    cases hl
    rw [hstep]
    exact ⟨rfl, rfl⟩
  · cases hl

theorem lookup?_of_imports {frame : VideoFrame} {e : PoolEntry Nat}
    {description : BufferDescription}
    (hi : Imports h (h.step (.get frame)).1 frame e description)
    (hreply : (h.step (.get frame)).2 = .entry (.ok e)) :
    h.lookup? (.get frame) = some ⟨frame, h.bound, e, [(e.buffer, description)]⟩ := by
  have hstep : h.step (.get frame) = ((h.step (.get frame)).1, .entry (.ok e)) := by
    rw [← hreply]
  unfold lookup?
  rw [hstep]
  dsimp only
  rw [hi.created, List.drop_left]

namespace Traced

theorem of_empty (hheld : h.held = []) : Traced h [] :=
  ⟨nofun, by simp [hheld]⟩

/-- What is held has a backend. -/
theorem bound_ne_none (ht : Traced h log) (hheld : h.held ≠ []) : h.bound ≠ none := by
  obtain ⟨e, he⟩ := List.exists_mem_of_ne_nil _ hheld
  obtain ⟨l, hfind, -, backend, -, -, hbackend, -⟩ := ht.origins e he
  rw [← (ht.answers l (List.mem_of_find?_eq_some hfind)).1, hbackend]
  exact Option.some_ne_none backend

/-- Lookups answered by what is held already make no entry. -/
theorem keeps {h' : PoolHistory} {later : List Lookup} (ht : Traced h log) (hk : Keeps h h')
    (hheld : h'.held ≠ []) (hlater : ∀ l ∈ later, l.backend = h.bound ∧ l.answer ∈ h.held) :
    Traced h' (log ++ later) := by
  have hsame : h.held ≠ [] := hk.held ▸ hheld
  have hbound : h'.bound = h.bound := by
    rcases hk.bound with hb | hb | hb
    · exact hb
    · exact absurd hb (ht.bound_ne_none hsame)
    · exact absurd hb hsame
  refine ⟨fun l hl => ?_, fun e he => ?_⟩
  · rw [hbound, hk.held]
    rcases List.mem_append.1 hl with hl | hl
    · exact ht.answers l hl
    · exact hlater l hl
  · rw [hk.held] at he
    obtain ⟨l, hfind, hl⟩ := ht.origins e he
    exact ⟨l, by rw [List.find?_append, hfind, Option.some_or], hl⟩

/-- The lookup that imports an entry is the first one of its number. -/
theorem imports {h' : PoolHistory} {frame : VideoFrame} {e : PoolEntry Nat}
    {description : BufferDescription} (ht : Traced h log)
    (hi : Imports h h' frame e description) :
    Traced h' (log ++ [⟨frame, h.bound, e, [(e.buffer, description)]⟩]) := by
  refine ⟨fun l hl => ?_, fun e' he' => ?_⟩
  · rw [hi.bound, hi.held]
    rcases List.mem_append.1 hl with hl | hl
    · obtain ⟨hbackend, hanswer⟩ := ht.answers l hl
      exact ⟨hbackend, List.mem_append_left _ hanswer⟩
    · rw [List.mem_singleton.1 hl]
      exact ⟨rfl, List.mem_append_right _ (List.mem_singleton_self e)⟩
  · rw [hi.held] at he'
    rcases List.mem_append.1 he' with he' | he'
    · obtain ⟨l, hfind, hl⟩ := ht.origins e' he'
      exact ⟨l, by rw [List.find?_append, hfind, Option.some_or], hl⟩
    · obtain rfl := List.mem_singleton.1 he'
      have hnew : log.find? (·.answer.identity.key = e'.identity.key) = none := by
        refine List.find?_eq_none.2 fun l hl => ?_
        simpa using hi.unseen l.answer (ht.answers l hl).2
      obtain ⟨backend, hbound, hidentity, hdescribe⟩ := hi.source
      refine ⟨_, by rw [List.find?_append, hnew, Option.none_or]; simp; rfl, rfl, ?_⟩
      exact ⟨backend, h.catalog, description, hbound, hidentity, hdescribe, rfl, hi.format⟩

theorem step (ht : Traced h log) (op : Op) : Traced (h.step op).1 (h.lookupsStep log op) := by
  unfold lookupsStep
  split_ifs with hheld
  · exact of_empty hheld
  · rcases step_cases h op with ⟨hk, hanswer⟩ | ⟨frame, e, description, rfl, hi, hreply⟩ | he
    · refine ht.keeps hk hheld fun l hl => ?_
      obtain ⟨hbackend, hreply⟩ := lookup?_eq_some (Option.mem_toList.1 hl)
      exact ⟨hbackend, hanswer l.answer hreply⟩
    · rw [lookup?_of_imports hi hreply]
      exact ht.imports hi
    · exact absurd he.held hheld

theorem run : ∀ (ops : List Op) {h : PoolHistory} {log : List Lookup}, Traced h log →
    Traced (h.run ops) (lookupsFrom h log ops)
  | [], _, _, ht => ht
  | op :: ops, _, _, ht => by
    rw [run_cons]
    exact run ops (ht.step op)

end Traced

theorem run_traced (resetLength : Nat) (catalog : FormatCatalog) (ops : List Op) :
    Traced (run (start resetLength catalog) ops) (lookups (start resetLength catalog) ops) :=
  (Traced.of_empty rfl).run ops

/-- An answered lookup answers with what is held then, under the number of its frame. -/
theorem step_get_answered {frame : VideoFrame} {e : PoolEntry Nat}
    (hget : (h.step (.get frame)).2 = .entry (.ok e)) :
    e ∈ (h.step (.get frame)).1.held ∧ (h.step (.get frame)).1.bound = h.bound
      ∧ ∃ backend identity, h.bound = some backend ∧ backend.identity frame = .ok identity
        ∧ identity.key = e.identity.key := by
  rcases step_get_cases h frame with ⟨-, hnone⟩ |
    ⟨backend, identity, e', hbound, hidentity, hfind, hstep⟩ | ⟨e', description, hi, hreply⟩
  · exact absurd hget (hnone e)
  · rw [hstep] at hget ⊢
    cases hget
    have hkey : e.identity.key = identity.key := by simpa using List.find?_some hfind
    exact ⟨List.mem_of_find?_eq_some hfind, rfl, backend, identity, hbound, hidentity, hkey.symm⟩
  · rw [hreply] at hget
    cases hget
    obtain ⟨backend, hbound, hidentity, -⟩ := hi.source
    exact ⟨hi.held ▸ List.mem_append_right _ (List.mem_singleton_self _), hi.bound,
      backend, _, hbound, hidentity, rfl⟩

/-- A number that is held already is found again, and nothing else matters. -/
theorem step_get_again {frame : VideoFrame} {e e' : PoolEntry Nat}
    (hget : (h.step (.get frame)).2 = .entry (.ok e)) (he' : e' ∈ h.held)
    (hkey : e'.identity.key = e.identity.key) (catalog : FormatCatalog) (refusing : Bool) :
    let h' := { h with catalog, ledger := { h.ledger with refusing } }
    h'.step (.get frame) = (h', .entry (.ok e)) := by
  intro h'
  rcases step_get_cases h frame with ⟨-, hnone⟩ |
    ⟨backend, identity, e'', hbound, hidentity, hfind, hstep⟩ | ⟨e'', description, hi, hreply⟩
  · exact absurd hget (hnone e)
  · rw [hstep] at hget
    cases hget
    exact step_get_of_held (h := h') hbound hidentity hfind
  · rw [hreply] at hget
    cases hget
    exact absurd hkey (hi.unseen e' he')

/-- A lookup that is answered, at the end of any history. The answer has the identity the bound
backend gives the frame. It is the one of the first lookup of that number since the pool was last
empty, which made its buffer under the same backend and from a description of its format, and the
buffer is not destroyed. Unless this lookup is that one, it changes nothing and would be answered
the same with any catalog, by an allocator that refuses or not. -/
theorem lookup_provenance {resetLength : Nat} {catalog : FormatCatalog} {ops : List Op}
    {frame : VideoFrame} {e : PoolEntry Nat}
    (hget : ((run (start resetLength catalog) ops).step (.get frame)).2 = .entry (.ok e)) :
    let h := run (start resetLength catalog) ops
    ∃ backend l description, h.bound = some backend ∧ backend.identity frame = .ok e.identity
      ∧ (lookups (start resetLength catalog) (ops ++ [.get frame])).find?
          (·.answer.identity.key = e.identity.key) = some l
      ∧ l.backend = some backend ∧ l.answer = e ∧ l.made = [(e.buffer, description)]
      ∧ (∃ catalog, BufferPool.describe backend l.frame catalog = .ok description)
      ∧ e.format = description.format
      ∧ e.buffer ∉ (h.step (.get frame)).1.ledger.destroyed
      ∧ ((∃ l ∈ lookups (start resetLength catalog) ops,
            l.answer.identity.key = e.identity.key) →
          ∀ catalog refusing, let h' := { h with catalog, ledger := { h.ledger with refusing } }
            h'.step (.get frame) = (h', .entry (.ok e))) := by
  intro h
  have hnow : Traced h (lookups (start resetLength catalog) ops) :=
    run_traced resetLength catalog ops
  have hnext := run_traced resetLength catalog (ops ++ [.get frame])
  have hbalanced := run_balanced resetLength catalog (ops ++ [.get frame])
  rw [run_concat] at hnext hbalanced
  obtain ⟨hheld, hsame, backend, identity, hbound, hidentity, hkey⟩ := step_get_answered hget
  obtain ⟨l, hfind, rfl, origin, catalog', description, horigin, hl, hdescribe, hmade, hformat⟩ :=
    hnext.origins e hheld
  obtain rfl : origin = backend := by
    have hlog := (hnext.answers l (List.mem_of_find?_eq_some hfind)).1
    rw [hsame, horigin, hbound] at hlog
    exact Option.some.inj hlog
  obtain rfl := Backend.identity_eq_of_key hidentity hl hkey
  refine ⟨origin, l, description, hbound, hidentity, hfind, horigin, rfl, hmade,
    ⟨catalog', hdescribe⟩, hformat, fun hdestroyed => ?_, ?_⟩
  · have hdisjoint := (List.nodup_append.1 hbalanced.nodup).2.2
    exact hdisjoint _ (List.mem_map_of_mem hheld) _ hdestroyed rfl
  · rintro ⟨l', hl', hnumber⟩
    exact step_get_again hget (hnow.answers l' hl').2 hnumber

/-- A surface of one plane is shown twice. The second time the catalog is empty and the allocator
refuses. -/
def shownTwice : FormatCatalog × List Op × VideoFrame :=
  let format : FourCc := ⟨0x34325258⟩
  let surface : ExportedSurface := ⟨64, 32, ⟨[⟨3, 0⟩], [⟨format, [⟨0, 0, 256⟩]⟩]⟩⟩
  let frame : VideoFrame := ⟨64, 32, .surface 7⟩
  (FormatCatalog.empty.record format 0,
    [.bind (.surfaces ⟨[(7, .ok surface)]⟩), .get frame, .setCatalog .empty, .refuse true], frame)

theorem lookup_provenance_shownTwice : ∃ l,
    (lookups (start 2 shownTwice.1) (shownTwice.2.1 ++ [.get shownTwice.2.2])).find?
        (·.answer.identity.key = 7) = some l
      ∧ l.answer = ⟨.surface 7, ⟨0x34325258⟩, 1⟩ ∧ l.made.map Prod.fst = [1] := by
  obtain ⟨-, l, description, -, -, hfind, -, hanswer, hmade, -⟩ :=
    @lookup_provenance 2 shownTwice.1 shownTwice.2.1 shownTwice.2.2
      ⟨.surface 7, ⟨0x34325258⟩, 1⟩ (by rfl)
  exact ⟨l, hfind, hanswer, by rw [hmade]; rfl⟩

end PoolHistory

end VideoOutput
