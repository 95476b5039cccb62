import Mathlib
import VideoOutput.Pool.History

/-!
# What the operations on a pool do to its buffers

A step of a history keeps what is held, takes in one buffer that was just made for a frame, or
destroys all that is held (`step_cases`). No other thing happens to a buffer.
-/

namespace VideoOutput

namespace BufferPool

variable {σ β : Type}

theorem bind_cases (p : BufferPool β) (backend : Backend) :
    ((p.backend = none ∨ p.entries = []) ∧ p.bind backend = .ok { p with backend := some backend })
    ∨ ∃ current, p.backend = some current ∧ p.bind backend = .error ⟨current.name⟩ := by
  unfold bind
  split
  · rename_i current hcurrent
    split_ifs with hempty
    · exact .inl ⟨.inr (List.isEmpty_iff.1 hempty), rfl⟩
    · exact .inr ⟨current, hcurrent, rfl⟩
  · rename_i hnone
    exact .inl ⟨.inl hnone, rfl⟩

/-- A lookup is refused, or answers with an entry that is held, or makes a buffer for a frame whose
number no entry has. -/
theorem getEntry_cases (p : BufferPool Nat) (frame : VideoFrame) (catalog : FormatCatalog)
    (l : BufferLedger) :
    (∃ e, p.getEntry BufferLedger.allocator frame catalog l = (.error e, p, l))
    ∨ ∃ backend identity, p.backend = some backend ∧ backend.identity frame = .ok identity
      ∧ ((∃ entry, p.entries.find? (·.identity.key = identity.key) = some entry
          ∧ p.getEntry BufferLedger.allocator frame catalog l = (.ok entry, p, l))
        ∨ ∃ description entry, p.entries.find? (·.identity.key = identity.key) = none
          ∧ describe backend frame catalog = .ok description
          ∧ entry = ⟨identity, description.format, l.created.length + 1⟩
          ∧ p.getEntry BufferLedger.allocator frame catalog l
            = (.ok entry, { p with entries := p.entries ++ [entry] },
              { l with created := l.created ++ [(entry.buffer, description)] })) := by
  unfold getEntry
  cases hbackend : p.backend with
  | none => exact .inl ⟨_, rfl⟩
  | some backend =>
    cases hidentity : backend.identity frame with
    | error e => exact .inl ⟨e, by simp only [hidentity]⟩
    | ok identity =>
      simp only [hidentity]
      cases hfind : p.entries.find? (·.identity.key = identity.key) with
      | some entry => exact .inr ⟨backend, identity, rfl, hidentity, .inl ⟨entry, hfind, rfl⟩⟩
      | none =>
        cases hdescribe : describe backend frame catalog with
        | error e => exact .inl ⟨e, rfl⟩
        | ok description =>
          by_cases hrefusing : l.refusing = true
          · exact .inl ⟨.bufferCreation "refused", by simp [BufferLedger.allocator, hrefusing]⟩
          · refine .inr ⟨backend, identity, rfl, hidentity, .inr ⟨description, _, hfind,
              hdescribe, rfl, ?_⟩⟩
            simp [BufferLedger.allocator, hrefusing]

theorem foldl_destroy : ∀ (entries : List (PoolEntry Nat)) (l : BufferLedger),
    entries.foldl (fun l e => BufferLedger.allocator.destroy e.buffer l) l
      = { l with destroyed := l.destroyed ++ entries.map PoolEntry.buffer }
  | [], l => by simp
  | e :: entries, l => by
    rw [List.foldl_cons, foldl_destroy entries]
    simp [BufferLedger.allocator]

theorem clear_eq (p : BufferPool Nat) (l : BufferLedger) : p.clear BufferLedger.allocator l
    = ({ p with entries := [] },
      { l with destroyed := l.destroyed ++ p.entries.map PoolEntry.buffer }) := by
  unfold clear
  rw [foldl_destroy]

theorem beginCycle_cases (a : Allocator σ β) (p : BufferPool β) (s : σ) : ∃ reset,
    p.beginCycle a s = ({ p with reset }, s)
      ∨ p.beginCycle a s = BufferPool.clear a { p with reset } s := by
  unfold beginCycle
  refine ⟨p.reset.advance.2, ?_⟩
  dsimp only
  split_ifs
  · exact .inr rfl
  · exact .inl rfl

end BufferPool

namespace PoolHistory

/-- The entries of the pool; a freed one has none. -/
def held (h : PoolHistory) : List (PoolEntry Nat) := (h.pool.map BufferPool.entries).getD []

/-- The backend of the pool. -/
def bound (h : PoolHistory) : Option Backend := h.pool.bind BufferPool.backend

/-- Nothing was made or destroyed, and the backend of what is held stays. -/
structure Keeps (h h' : PoolHistory) : Prop where
  held : h'.held = h.held
  created : h'.ledger.created = h.ledger.created
  destroyed : h'.ledger.destroyed = h.ledger.destroyed
  bound : h'.bound = h.bound ∨ h.bound = none ∨ h.held = []

/-- A buffer was made for the frame, and is held under a number of its own. -/
structure Imports (h h' : PoolHistory) (frame : VideoFrame) (e : PoolEntry Nat)
    (description : BufferDescription) : Prop where
  held : h'.held = h.held ++ [e]
  created : h'.ledger.created = h.ledger.created ++ [(e.buffer, description)]
  destroyed : h'.ledger.destroyed = h.ledger.destroyed
  bound : h'.bound = h.bound
  number : e.buffer = h.ledger.created.length + 1
  format : e.format = description.format
  unseen : ∀ e' ∈ h.held, e'.identity.key ≠ e.identity.key
  source : ∃ backend, h.bound = some backend ∧ backend.identity frame = .ok e.identity
    ∧ BufferPool.describe backend frame h.catalog = .ok description

/-- All that was held is destroyed, in order. -/
structure Empties (h h' : PoolHistory) : Prop where
  held : h'.held = []
  created : h'.ledger.created = h.ledger.created
  destroyed : h'.ledger.destroyed = h.ledger.destroyed ++ h.held.map PoolEntry.buffer

variable {h : PoolHistory}

theorem step_of_freed (hpool : h.pool = none) (op : Op) : h.step op = (h, .none) := by
  unfold step
  rw [hpool]

/-- An entry that is held answers, whatever the catalog and the allocator. -/
theorem step_get_of_held {frame : VideoFrame} {backend : Backend} {identity : FrameIdentity}
    {e : PoolEntry Nat} (hbound : h.bound = some backend)
    (hidentity : backend.identity frame = .ok identity)
    (hfind : h.held.find? (·.identity.key = identity.key) = some e) :
    h.step (.get frame) = (h, .entry (.ok e)) := by
  obtain ⟨pool, catalog, ledger⟩ := h
  cases pool with
  | none => cases hbound
  | some p =>
    have hbackend : p.backend = some backend := hbound
    have hentry : p.entries.find? (·.identity.key = identity.key) = some e := hfind
    simp only [step, BufferPool.getEntry, hbackend, hidentity, hentry]

/-- A lookup that answers does so with an entry that is held, and changes nothing, or with one it
imports. -/
theorem step_get_cases (h : PoolHistory) (frame : VideoFrame) :
    ((h.step (.get frame)).1 = h ∧ ∀ e, (h.step (.get frame)).2 ≠ .entry (.ok e))
    ∨ (∃ backend identity e, h.bound = some backend ∧ backend.identity frame = .ok identity
        ∧ h.held.find? (·.identity.key = identity.key) = some e
        ∧ h.step (.get frame) = (h, .entry (.ok e)))
    ∨ ∃ e description, Imports h (h.step (.get frame)).1 frame e description
        ∧ (h.step (.get frame)).2 = .entry (.ok e) := by
  obtain ⟨pool, catalog, ledger⟩ := h
  cases pool with
  | none => exact .inl ⟨rfl, nofun⟩
  | some p =>
    rcases p.getEntry_cases frame catalog ledger with ⟨e, hget⟩ |
      ⟨backend, identity, hbackend, hidentity, ⟨entry, hfind, hget⟩ |
        ⟨description, entry, hfind, hdescribe, hentry, hget⟩⟩
    · have hstep : step ⟨some p, catalog, ledger⟩ (.get frame)
          = (⟨some p, catalog, ledger⟩, .entry (.error e)) := by
        simp only [step, hget]
      rw [hstep]
      exact .inl ⟨rfl, nofun⟩
    · exact .inr (.inl ⟨backend, identity, entry, hbackend, hidentity, hfind,
        step_get_of_held hbackend hidentity hfind⟩)
    · refine .inr (.inr ⟨entry, description, ?_, ?_⟩)
      · simp only [step, hget]
        subst hentry
        have hunseen : ∀ e' ∈ p.entries, e'.identity.key ≠ identity.key := fun e' he' => by
          simpa using List.find?_eq_none.1 hfind e' he'
        exact ⟨rfl, rfl, rfl, rfl, rfl, rfl, hunseen, backend, hbackend, hidentity, hdescribe⟩
      · simp only [step, hget]

theorem step_cases (h : PoolHistory) (op : Op) :
    (Keeps h (h.step op).1 ∧ ∀ e, (h.step op).2 = .entry (.ok e) → e ∈ h.held)
    ∨ (∃ frame e description, op = .get frame ∧ Imports h (h.step op).1 frame e description
        ∧ (h.step op).2 = .entry (.ok e))
    ∨ Empties h (h.step op).1 := by
  obtain ⟨pool, catalog, ledger⟩ := h
  cases pool with
  | none => exact .inl ⟨⟨rfl, rfl, rfl, .inl rfl⟩, nofun⟩
  | some p =>
    cases op with
    | bind backend =>
      left
      rcases p.bind_cases backend with ⟨hfree, hbind⟩ | ⟨current, -, hbind⟩ <;>
        simp only [step, hbind]
      · exact ⟨⟨rfl, rfl, rfl, .inr hfree⟩, nofun⟩
      · exact ⟨⟨rfl, rfl, rfl, .inl rfl⟩, nofun⟩
    | get frame =>
      rcases step_get_cases ⟨some p, catalog, ledger⟩ frame with ⟨hkept, hnone⟩ |
        ⟨backend, identity, entry, -, -, hfind, hget⟩ | ⟨e, description, himport, hreply⟩
      · rw [hkept]
        exact .inl ⟨⟨rfl, rfl, rfl, .inl rfl⟩, fun e he => absurd he (hnone e)⟩
      · rw [hget]
        refine .inl ⟨⟨rfl, rfl, rfl, .inl rfl⟩, fun e he => ?_⟩
        cases he
        exact List.mem_of_find?_eq_some hfind
      · exact .inr (.inl ⟨frame, e, description, rfl, himport, hreply⟩)
    | clear =>
      simp only [step, BufferPool.clear_eq]
      exact .inr (.inr ⟨rfl, rfl, rfl⟩)
    | requestReset => exact .inl ⟨⟨rfl, rfl, rfl, .inl rfl⟩, nofun⟩
    | beginCycle =>
      obtain ⟨reset, hcycle | hcycle⟩ := p.beginCycle_cases BufferLedger.allocator ledger
      · simp only [step, hcycle]
        exact .inl ⟨⟨rfl, rfl, rfl, .inl rfl⟩, nofun⟩
      · simp only [step, hcycle, BufferPool.clear_eq]
        exact .inr (.inr ⟨rfl, rfl, rfl⟩)
    | refuse on => exact .inl ⟨⟨rfl, rfl, rfl, .inl rfl⟩, nofun⟩
    | setCatalog catalog => exact .inl ⟨⟨rfl, rfl, rfl, .inl rfl⟩, nofun⟩
    | free =>
      simp only [step, BufferPool.clear_eq]
      exact .inr (.inr ⟨rfl, rfl, rfl⟩)

end PoolHistory

end VideoOutput
