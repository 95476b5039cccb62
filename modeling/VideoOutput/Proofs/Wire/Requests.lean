import VideoOutput.Proofs.Stateful
import VideoOutput.Wire.Request

/-!
# What stays in force in a log

A request is in force until another of its kind to the same target follows. Three kinds of request
lay a surface out; `RequestLog.Continues` says that a log goes on without any of them, so that the
ones in it stay in force (`InForce.continues`). An object that was made stays made, and the next one
is not among those (`not_hasMade_fresh`).
-/

namespace VideoOutput

namespace Wire

/-- A request of the verb says what part of a surface is seen through, how large it is or where it
lies. -/
def Verb.lays : Verb → Bool
  | setOpaqueRegion | setDestination | setPosition => true
  | _ => false

namespace RequestLog

variable {l l' : RequestLog} {r : Request} {preparing : List Request}

theorem foldl_issue : ∀ (rs : List Request) (l : RequestLog),
    rs.foldl issue l = { l with issued := l.issued ++ rs }
  | [], l => by simp
  | r :: rs, l => by
    rw [List.foldl_cons, foldl_issue rs]
    simp [issue]

/-- The log goes on, and nothing is laid out. -/
def Continues (l l' : RequestLog) : Prop :=
  ∃ rest, l'.issued = l.issued ++ rest ∧ ∀ r ∈ rest, r.verb.lays = false

instance : Std.Refl Continues := ⟨fun l => ⟨[], by simp, by simp⟩⟩

instance : IsTrans RequestLog Continues where
  trans l₁ l₂ l₃ := by
    rintro ⟨rest, h, hcalm⟩ ⟨rest', h', hcalm'⟩
    refine ⟨rest ++ rest', by rw [h', h, List.append_assoc], fun r hr => ?_⟩
    exact (List.mem_append.1 hr).elim (hcalm r) (hcalm' r)

protected theorem Continues.refl (l : RequestLog) : l.Continues l := Std.Refl.refl l

theorem continues_issue (l : RequestLog) (h : r.verb.lays = false) : l.Continues (l.issue r) :=
  ⟨[r], rfl, by simpa using h⟩

/-- To send the requests changes nothing about what they are. -/
theorem continues_emptyOutbox (l : RequestLog) : l.Continues l.emptyOutbox :=
  ⟨[], by simp [emptyOutbox], by simp⟩

/-- The request was issued right after those that prepare it, and none of its kind to its target
has been since. -/
def InForce (l : RequestLog) (preparing : List Request) (r : Request) : Prop :=
  ∃ before after, l.issued = before ++ preparing ++ r :: after
    ∧ ∀ q ∈ after, ¬ (q.target = r.target ∧ q.verb = r.verb)

theorem InForce.continues (h : l.InForce preparing r) (hr : r.verb.lays = true)
    (hl : l.Continues l') : l'.InForce preparing r := by
  obtain ⟨before, after, hissued, hlast⟩ := h
  obtain ⟨rest, hrest, hcalm⟩ := hl
  refine ⟨before, after ++ rest, by rw [hrest, hissued]; simp, fun q hq => ?_⟩
  rcases List.mem_append.1 hq with hq | hq
  · exact hlast q hq
  · rintro ⟨-, hverb⟩
    have hq := hcalm q hq
    rw [hverb, hr] at hq
    cases hq

/-! ## Objects -/

/-- How many objects of the interface were made. -/
def count (l : RequestLog) (interface : Interface) : Nat := l.made.countP (·.interface == interface)

/-- The object is among those made: their numbers go up to how many there are. -/
def HasMade (l : RequestLog) (o : Object) : Prop := o.number ≤ l.count o.interface

instance (l : RequestLog) (o : Object) : Decidable (l.HasMade o) :=
  inferInstanceAs (Decidable (_ ≤ _))

theorem count_mono (h : l.issued <+: l'.issued) (interface : Interface) :
    l.count interface ≤ l'.count interface := by
  obtain ⟨rest, hrest⟩ := h
  unfold count made
  rw [← hrest, List.flatMap_append, List.countP_append]
  exact Nat.le_add_right _ _

theorem HasMade.mono {o : Object} (h : l.HasMade o) (hl : l.issued <+: l'.issued) : l'.HasMade o :=
  h.trans (count_mono hl _)

theorem not_hasMade_fresh (l : RequestLog) (interface : Interface) :
    ¬ l.HasMade (l.fresh interface) :=
  Nat.not_succ_le_self _

/-- A request that makes the next object has made it. -/
theorem hasMade_issue {interface : Interface} (h : r.makes = [l.fresh interface]) :
    (l.issue r).HasMade (l.fresh interface) := by
  unfold HasMade count made issue
  rw [List.flatMap_append, List.countP_append]
  simp [h, fresh, made]

/-- Requests that make no object of the interface leave the next one what it is. -/
theorem fresh_append {rs : List Request} {interface : Interface}
    (h : ∀ o ∈ rs.flatMap Request.makes, o.interface ≠ interface) (sent : Nat) :
    (RequestLog.mk (l.issued ++ rs) sent).fresh interface = l.fresh interface := by
  have hnone : (rs.flatMap Request.makes).countP (·.interface == interface) = 0 :=
    List.countP_eq_zero.2 fun o ho => by simpa using h o ho
  unfold fresh made
  rw [List.flatMap_append, List.countP_append, hnone, Nat.add_zero]

end RequestLog

namespace Issuing

variable {target : Object} {verb : Verb}

theorem leads_ask (arguments : List Argument) (h : verb.lays = false) :
    Leads RequestLog.Continues (ask target verb arguments) :=
  fun l => l.continues_issue h

theorem leads_make (interface : Interface) (before after : List Argument)
    (h : verb.lays = false) :
    Leads RequestLog.Continues (make target verb interface before after) :=
  fun l => l.continues_issue h

theorem leads_bind (global : Global) (greatest : Nat) :
    Leads RequestLog.Continues (bind global greatest) :=
  fun l => l.continues_issue rfl

theorem leads_unmake (o : Object) : Leads RequestLog.Continues (unmake o) := leads_ask [] rfl

end Issuing

end Wire

end VideoOutput
