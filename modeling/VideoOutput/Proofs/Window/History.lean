import VideoOutput.Proofs.Window.Operations

/-!
# What a history tells of a window

Whatever else is asked of a window in between, its history alone tells which configure waits and the
size of the last one that was acknowledged (`run_configures`).
-/

namespace VideoOutput

namespace Window

variable {w v : Window}

section Run

variable {op : Op} {ops ops' : List Op}

theorem run_cons :
    run w (op :: ops) = .ok v ↔ ∃ u r, w.step op = .ok (u, r) ∧ run u ops = .ok v := by
  unfold run
  rw [List.foldlM_cons, bind_eq_ok]
  constructor
  · rintro ⟨u, hu, hv⟩
    obtain ⟨⟨u, r⟩, hstep, rfl⟩ := map_eq_ok.1 hu
    exact ⟨u, r, hstep, hv⟩
  · rintro ⟨u, r, hstep, hv⟩
    exact ⟨u, map_eq_ok.2 ⟨(u, r), hstep, rfl⟩, hv⟩

theorem run_append :
    run w (ops ++ ops') = .ok v ↔ ∃ u, run w ops = .ok u ∧ run u ops' = .ok v := by
  unfold run
  rw [List.foldlM_append, bind_eq_ok]

theorem run_singleton : run w [op] = .ok v ↔ ∃ r, w.step op = .ok (v, r) := by
  rw [run_cons]
  constructor
  · rintro ⟨u, r, hstep, hv⟩
    obtain rfl : u = v := pure_eq_ok.1 hv
    exact ⟨r, hstep⟩
  · rintro ⟨r, hstep⟩
    exact ⟨v, r, hstep, rfl⟩

theorem run_concat :
    run w (ops ++ [op]) = .ok v ↔ ∃ u r, run w ops = .ok u ∧ u.step op = .ok (v, r) := by
  simp [run_append, run_singleton]

end Run

/-- The configure that waits after the operation, where `waiting` waited before it. -/
def Op.waiting (waiting : Option PendingConfigure) : Op → Option PendingConfigure
  | .configureToplevel width height states => some ⟨width, height, states⟩
  | .configureSurface => none
  | _ => waiting

/-- The configure that the operation acknowledges. -/
def Op.acknowledges (waiting : Option PendingConfigure) : Op → Option PendingConfigure
  | .configureSurface => waiting
  | _ => none

/-- The configure that waits after the operations. -/
def waitingAfter (waiting : Option PendingConfigure) (ops : List Op) : Option PendingConfigure :=
  ops.foldl Op.waiting waiting

/-- The configures that the operations acknowledge, in order. -/
def acknowledged : Option PendingConfigure → List Op → List PendingConfigure
  | _, [] => []
  | waiting, op :: ops => (op.acknowledges waiting).toList ++ acknowledged (op.waiting waiting) ops

theorem Op.waiting_of_not_isConfigure {op : Op} (hop : ¬ op.IsConfigure)
    (waiting : Option PendingConfigure) : op.waiting waiting = waiting := by
  cases op <;> simp_all [Op.waiting, Op.IsConfigure]

theorem Op.acknowledges_of_not_isConfigure {op : Op} (hop : ¬ op.IsConfigure)
    (waiting : Option PendingConfigure) : op.acknowledges waiting = none := by
  cases op <;> simp_all [Op.acknowledges, Op.IsConfigure]

theorem acknowledged_append (ops' : List Op) :
    ∀ (ops : List Op) (waiting : Option PendingConfigure), acknowledged waiting (ops ++ ops')
      = acknowledged waiting ops ++ acknowledged (waitingAfter waiting ops) ops'
  | [], _ => rfl
  | op :: ops, waiting => by
    simp only [List.cons_append, acknowledged, List.append_assoc]
    rw [acknowledged_append ops' ops]
    rfl

theorem acknowledged_subset {pre ops : List Op} (h : pre <+: ops)
    (waiting : Option PendingConfigure) : acknowledged waiting pre ⊆ acknowledged waiting ops := by
  obtain ⟨rest, rfl⟩ := h
  rw [acknowledged_append]
  exact List.subset_append_left _ _

/-- The size of the last of the configures, or `size` where there is none. -/
def lastSize (size : Size) (configures : List PendingConfigure) : Size :=
  configures.foldl (fun _ c => c.size) size

theorem lastSize_append (size : Size) (cs ds : List PendingConfigure) :
    lastSize size (cs ++ ds) = lastSize (lastSize size cs) ds :=
  List.foldl_append

theorem step_configures {op : Op} {r : Reply} (h : w.step op = .ok (v, r)) :
    v.pending = op.waiting w.pending
      ∧ v.toplevelSize = lastSize w.toplevelSize (op.acknowledges w.pending).toList := by
  by_cases hop : op.IsConfigure
  · cases op with
    | configureToplevel width height states =>
      obtain ⟨rfl, -⟩ := Prod.mk.inj (pure_eq_ok.1 h)
      exact ⟨rfl, rfl⟩
    | configureSurface =>
      obtain ⟨⟨activated, u⟩, hu, h⟩ := bind_eq_ok.1 h
      obtain ⟨rfl, -⟩ := Prod.mk.inj (pure_eq_ok.1 h)
      rcases configureSurface_ok hu with ⟨hp, rfl⟩ | ⟨c, hp, ⟨-, rfl⟩ | ⟨-, rfl⟩⟩
      · simp [Op.waiting, Op.acknowledges, lastSize, hp]
      · simp [Op.waiting, Op.acknowledges, lastSize, hp]
      · obtain ⟨_, _, _, _, _, _, _, _, hc⟩ := afterConfigure_eq { w with pending := none } c
        rw [hc]
        simp [Op.waiting, Op.acknowledges, lastSize, hp]
    | _ => exact absurd hop id
  · have hs := step_sameDecisions h hop
    rw [Op.waiting_of_not_isConfigure hop, Op.acknowledges_of_not_isConfigure hop]
    exact ⟨hs.pending, hs.toplevelSize⟩

/-- No operation but a configure changes what waits, and none but an acknowledgement the size that
was acknowledged last. -/
theorem run_configures : ∀ {ops : List Op} {w v : Window}, run w ops = .ok v →
    v.pending = waitingAfter w.pending ops
      ∧ v.toplevelSize = lastSize w.toplevelSize (acknowledged w.pending ops)
  | [], _, _, h => by
    obtain rfl := pure_eq_ok.1 h
    exact ⟨rfl, rfl⟩
  | op :: ops, w, v, h => by
    obtain ⟨u, r, hstep, hrun⟩ := run_cons.1 h
    obtain ⟨hpending, hsize⟩ := step_configures hstep
    obtain ⟨hwaiting, hlast⟩ := run_configures hrun
    rw [hpending] at hwaiting hlast
    refine ⟨hwaiting, ?_⟩
    rw [hlast, hsize, acknowledged, lastSize_append]

/-- A history that leaves a configure waiting goes on to its acknowledgement. -/
theorem run_acknowledge {ops : List Op} {c : PendingConfigure} (h : run w ops = .ok v)
    (hp : v.pending = some c) (he : v.geometry.isEmpty = .ok false) :
    run w (ops ++ [.configureSurface])
      = .ok { afterConfigure { v with pending := none } c with phase := .steady } := by
  obtain ⟨activated, hstep⟩ := configureSurface_of_pending hp he
  exact run_concat.2 ⟨v, .flag activated, h, bind_eq_ok.2 ⟨_, hstep, rfl⟩⟩

end Window

end VideoOutput
