import Mathlib

/-!
# Stateful work

Work on a state is followed by a relation between the state it starts in and the one it ends in,
whatever it answers and whether it fails or not. A relation that is a preorder is followed by a
sequence of work when every part follows it.
-/

namespace VideoOutput

variable {σ α β ε : Type} {R : σ → σ → Prop}

/-- A relation that every step of a fold follows. -/
theorem rel_foldl [Std.Refl R] [IsTrans σ R] {f : σ → α → σ} (h : ∀ s a, R s (f s a)) :
    ∀ (l : List α) (s : σ), R s (l.foldl f s)
  | [], s => Std.Refl.refl s
  | a :: l, s => IsTrans.trans s _ _ (h s a) (rel_foldl h l (f s a))

/-- Work that reads the state first. -/
theorem run_get_bind (f : σ → ExceptT ε (StateM σ) β) (s : σ) :
    (get >>= f).run s = (f s).run s :=
  rfl

theorem run_mapM_cons (f : α → StateM σ β) (a : α) (l : List α) (s : σ) :
    ((a :: l).mapM f).run s = (((f a).run s).1 :: ((l.mapM f).run ((f a).run s).2).1,
      ((l.mapM f).run ((f a).run s).2).2) := by
  rw [List.mapM_cons]
  rfl

/-- Work that goes on from what its first part answers. -/
theorem run_bind_of_eq {work : StateM σ α} {f : α → StateM σ β} {s t : σ} {a : α}
    (h : work.run s = (a, t)) : (work >>= f).run s = (f a).run t := by
  rw [StateT.run_bind, h]
  rfl

section Sequence

variable {work : ExceptT ε (StateM σ) α} {f : α → ExceptT ε (StateM σ) β} {s t : σ}

theorem run_bind_of_ok {a : α} (h : work.run.run s = (.ok a, t)) :
    (work >>= f).run.run s = (f a).run.run t := by
  rw [ExceptT.run_bind, StateT.run_bind, h]
  rfl

theorem run_bind_of_error {e : ε} (h : work.run.run s = (.error e, t)) :
    (work >>= f).run.run s = (.error e, t) := by
  rw [ExceptT.run_bind, StateT.run_bind, h]
  rfl

/-- The first part of a sequence answers, and the rest goes on from there; or it fails, and nothing
comes after it. -/
theorem run_bind_cases (work : ExceptT ε (StateM σ) α) (f : α → ExceptT ε (StateM σ) β) (s : σ) :
    (∃ a t, work.run.run s = (.ok a, t) ∧ (work >>= f).run.run s = (f a).run.run t)
      ∨ ∃ e t, work.run.run s = (.error e, t) ∧ (work >>= f).run.run s = (.error e, t) := by
  rcases hwork : work.run.run s with ⟨e | a, t⟩
  · exact .inr ⟨e, t, rfl, run_bind_of_error hwork⟩
  · exact .inl ⟨a, t, rfl, run_bind_of_ok hwork⟩

theorem run_bind_pure_snd (work : ExceptT ε (StateM σ) α) (f : α → β) (s : σ) :
    ((work >>= fun a => pure (f a)).run.run s).2 = (work.run.run s).2 := by
  rcases run_bind_cases work (fun a => pure (f a)) s with ⟨a, t, h, hall⟩ | ⟨e, t, h, hall⟩
  · rw [hall, h]
    rfl
  · rw [hall, h]

/-- Work that cannot fail, done for every member of a list. -/
theorem run_mapM_lift (f : α → StateM σ β) (l : List α) (s : σ) :
    (l.mapM fun a => (liftM (f a) : ExceptT ε (StateM σ) β)).run.run s
      = (.ok ((l.mapM f).run s).1, ((l.mapM f).run s).2) := by
  induction l generalizing s with
  | nil => rfl
  | cons a l ih =>
    have hfirst : (liftM (f a) : ExceptT ε (StateM σ) β).run.run s
      = (.ok ((f a).run s).1, ((f a).run s).2) := rfl
    rw [List.mapM_cons, run_bind_of_ok hfirst, run_bind_of_ok (ih _), run_mapM_cons]
    rfl

end Sequence

/-- Whatever the work answers has the property, in the state it then ends in. -/
def Answers (P : α → σ → Prop) (work : ExceptT ε (StateM σ) α) : Prop :=
  ∀ s a t, work.run.run s = (.ok a, t) → P a t

theorem Answers.pure {P : α → σ → Prop} {a : α} (h : ∀ s, P a s) :
    Answers P (pure a : ExceptT ε (StateM σ) α) := by
  rintro s b t hb
  cases hb
  exact h s

theorem Answers.bind {P : β → σ → Prop} {work : ExceptT ε (StateM σ) α}
    {f : α → ExceptT ε (StateM σ) β} (hf : ∀ a, Answers P (f a)) : Answers P (work >>= f) := by
  intro s b u h
  rcases run_bind_cases work f s with ⟨a, t, -, hall⟩ | ⟨e, t, -, hall⟩
  · exact hf a t b u (hall.symm.trans h)
  · cases hall.symm.trans h

/-- From a state with the one property the work ends with an answer and a state that have the
other. -/
def Secures (P : σ → Prop) (work : StateM σ α) (Q : α → σ → Prop) : Prop :=
  ∀ s, P s → Q (work.run s).1 (work.run s).2

namespace Secures

variable {P : σ → Prop} {Q : α → σ → Prop} {T : β → σ → Prop}

protected theorem pure {a : α} (h : ∀ s, P s → Q a s) : Secures P (pure a : StateM σ α) Q := h

protected theorem bind {work : StateM σ α} {f : α → StateM σ β} (h : Secures P work Q)
    (hf : ∀ a, Secures (Q a) (f a) T) : Secures P (work >>= f) T :=
  fun s hs => hf _ _ (h s hs)

/-- What is so whatever the state is known from then on. -/
theorem of_and {p : Prop} {work : StateM σ α} (h : p → Secures P work Q) :
    Secures (fun s => p ∧ P s) work Q :=
  fun s hs => h hs.1 s hs.2

theorem mono {work : StateM σ α} {Q' : α → σ → Prop} (h : Secures P work Q)
    (hQ : ∀ a s, Q a s → Q' a s) : Secures P work Q' :=
  fun s hs => hQ _ _ (h s hs)

end Secures

/-- The property of an answer, if there is one. -/
def IfOk (Q : α → σ → Prop) (answer : Except ε α) (s : σ) : Prop := ∀ a, answer = .ok a → Q a s

namespace Secures

variable {P : σ → Prop} {Q : α → σ → Prop} {T : β → σ → Prop}

theorem except_pure {a : α} (h : ∀ s, P s → Q a s) :
    Secures P (pure a : ExceptT ε (StateM σ) α).run (IfOk Q) := by
  rintro s hs b hb
  cases hb
  exact h s hs

theorem except_lift {work : StateM σ α} (h : Secures P work Q) :
    Secures P (liftM work : ExceptT ε (StateM σ) α).run (IfOk Q) := by
  rintro s hs b hb
  cases hb
  exact h s hs

theorem except_bind {work : ExceptT ε (StateM σ) α} {f : α → ExceptT ε (StateM σ) β}
    (h : Secures P work.run (IfOk Q)) (hf : ∀ a, Secures (Q a) (f a).run (IfOk T)) :
    Secures P (work >>= f).run (IfOk T) := by
  intro s hs b hb
  have hfirst := h s hs
  rcases run_bind_cases work f s with ⟨a, t, hwork, hall⟩ | ⟨e, t, hwork, hall⟩
  · rw [hwork] at hfirst
    rw [hall] at hb ⊢
    exact hf a t (hfirst a rfl) b hb
  · rw [hall] at hb
    cases hb

/-- Work for every member of a list that cannot fail. -/
theorem except_mapM {γ : Type} {f : γ → StateM σ α} {l : List γ} {Q : List α → σ → Prop}
    (h : Secures P (l.mapM f) Q) :
    Secures P (l.mapM fun a => (liftM (f a) : ExceptT ε (StateM σ) α)).run (IfOk Q) := by
  intro s hs b hb
  have hrun := run_mapM_lift (ε := ε) f l s
  rw [hrun] at hb ⊢
  cases hb
  exact h s hs

/-- Work for what there may be that cannot fail. -/
theorem except_mapM_option {γ : Type} {f : γ → StateM σ α} {o : Option γ}
    {Q : Option α → σ → Prop} (h : Secures P (o.mapM f) Q) :
    Secures P (o.mapM fun a => (liftM (f a) : ExceptT ε (StateM σ) α)).run (IfOk Q) := by
  intro s hs b hb
  cases o with
  | none =>
    cases hb
    exact h s hs
  | some a =>
    cases hb
    exact h s hs

end Secures

/-- From any state the work ends in one that stands in the relation to it. -/
def Leads (R : σ → σ → Prop) (work : StateM σ α) : Prop := ∀ s, R s (work.run s).2

namespace Leads

section State

variable {work : StateM σ α} {f : α → StateM σ β}

protected theorem pure [Std.Refl R] (a : α) : Leads R (pure a : StateM σ α) :=
  fun s => Std.Refl.refl s

protected theorem bind [IsTrans σ R] (h : Leads R work) (hf : ∀ a, Leads R (f a)) :
    Leads R (work >>= f) :=
  fun s => IsTrans.trans s _ _ (h s) (hf _ _)

protected theorem mono {Q : σ → σ → Prop} (h : Leads R work) (hRQ : ∀ {s t}, R s t → Q s t) :
    Leads Q work :=
  fun s => hRQ (h s)

end State

/-! ## Work that can fail -/

section Except

variable {work : ExceptT ε (StateM σ) α} {f : α → ExceptT ε (StateM σ) β}

theorem except_pure [Std.Refl R] (a : α) : Leads R (pure a : ExceptT ε (StateM σ) α).run :=
  fun s => Std.Refl.refl s

theorem except_bind [IsTrans σ R] (h : Leads R work.run) (hf : ∀ a, Leads R (f a).run) :
    Leads R (work >>= f).run := by
  intro s
  have hfirst := h s
  rcases run_bind_cases work f s with ⟨a, t, hwork, hall⟩ | ⟨e, t, hwork, hall⟩
  · rw [hwork] at hfirst
    rw [hall]
    exact IsTrans.trans s t _ hfirst (hf a t)
  · rw [hwork] at hfirst
    rw [hall]
    exact hfirst

/-- Work that reads the state may use that it is the state it starts in. -/
theorem except_get_bind {f : σ → ExceptT ε (StateM σ) β} (hf : ∀ s, R s ((f s).run.run s).2) :
    Leads R (get >>= f).run :=
  hf

theorem except_set {s t : σ} (h : R s t) :
    R s ((set t : ExceptT ε (StateM σ) PUnit).run.run s).2 :=
  h

theorem except_modify {change : σ → σ} (h : ∀ s, R s (change s)) :
    Leads R (modify change : ExceptT ε (StateM σ) PUnit).run :=
  h

theorem except_forM_mem [Std.Refl R] [IsTrans σ R] {f : α → ExceptT ε (StateM σ) PUnit} :
    ∀ {l : List α}, (∀ a ∈ l, Leads R (f a).run) → Leads R (l.forM f).run
  | [], _ => except_pure _
  | _ :: _, h =>
    have ⟨hfirst, hrest⟩ := List.forall_mem_cons.1 h
    except_bind hfirst fun _ => except_forM_mem hrest

theorem except_forM [Std.Refl R] [IsTrans σ R] {f : α → ExceptT ε (StateM σ) PUnit}
    (hf : ∀ a, Leads R (f a).run) (l : List α) : Leads R (l.forM f).run :=
  except_forM_mem fun a _ => hf a

end Except

end Leads

end VideoOutput
