import Mathlib
import VideoOutput.Geometry.Rect

/-!
# Computations that may have no result

A computation that answers has answered every part it is made of: `bind_eq_ok` takes a sequence
apart, and `within_eq_ok` an operation on words. An operation whose exact result is in the word
answers with it (`add_ok` and those beside it). `isEmpty_eq_false` reads off a rectangle that is
found not empty that its sides are in the word and positive.
-/

namespace VideoOutput

section Except

variable {ε α β : Type}

theorem ok_bind (a : α) (f : α → Except ε β) : (.ok a >>= f) = f a := rfl

theorem error_bind (e : ε) (f : α → Except ε β) : (.error e >>= f) = .error e := rfl

theorem bind_eq_ok {x : Except ε α} {f : α → Except ε β} {b : β} :
    (x >>= f) = .ok b ↔ ∃ a, x = .ok a ∧ f a = .ok b := by
  cases x <;> simp [bind, Except.bind]

theorem map_eq_ok {x : Except ε α} {f : α → β} {b : β} :
    (f <$> x) = .ok b ↔ ∃ a, x = .ok a ∧ f a = b := by
  cases x <;> simp [Functor.map, Except.map]

theorem pure_eq_ok {a b : α} : (pure a : Except ε α) = .ok b ↔ a = b := by
  simp [pure, Except.pure]

/-- Where every member of a list has a result, they all have. -/
theorem mapM_ok {f : α → Except ε β} :
    ∀ {l : List α}, (∀ a ∈ l, ∃ b, f a = .ok b) → ∃ bs, l.mapM f = .ok bs ∧ bs.length = l.length
  | [], _ => ⟨[], rfl, rfl⟩
  | a :: l, h => by
    obtain ⟨⟨b, hb⟩, hl⟩ := List.forall_mem_cons.1 h
    obtain ⟨bs, hbs, hlength⟩ := mapM_ok hl
    refine ⟨b :: bs, ?_, congrArg Nat.succ hlength⟩
    rw [List.mapM_cons, hb, hbs]
    rfl

/-- The results of a list are those of its members one by one. -/
theorem mapM_eq_ok_iff {f : α → Except ε β} : ∀ {l : List α} {bs : List β},
    l.mapM f = .ok bs ↔ List.Forall₂ (fun a b => f a = .ok b) l bs
  | [], bs => by
    rw [List.mapM_nil, pure_eq_ok, List.forall₂_nil_left_iff, eq_comm]
  | a :: l, bs => by
    simp only [List.mapM_cons, bind_eq_ok, pure_eq_ok, List.forall₂_cons_left_iff, mapM_eq_ok_iff]
    constructor
    · rintro ⟨b, hb, rest, hrest, rfl⟩
      exact ⟨b, rest, hb, hrest, rfl⟩
    · rintro ⟨b, rest, hb, hrest, rfl⟩
      exact ⟨b, hb, rest, hrest, rfl⟩

/-- Where the members of a list all have results, each of these is that of a member. -/
theorem mapM_eq_ok {f : α → Except ε β} {l : List α} {bs : List β} (h : l.mapM f = .ok bs) :
    bs.length = l.length ∧ ∀ b ∈ bs, ∃ a ∈ l, f a = .ok b := by
  have hall := mapM_eq_ok_iff.1 h
  refine ⟨hall.length_eq.symm, ?_⟩
  clear h
  induction hall with
  | nil => exact nofun
  | cons ha _ ih =>
    refine List.forall_mem_cons.2 ⟨⟨_, .head _, ha⟩, fun b hb => ?_⟩
    obtain ⟨a, hmem, ha⟩ := ih b hb
    exact ⟨a, .tail _ hmem, ha⟩

/-- Two computations that come to the same under `p` both have results, or have neither. -/
theorem map_eq_map_cases {γ : Type} {x y : Except ε α} {p : α → γ} (h : p <$> x = p <$> y) :
    (∃ fault, x = .error fault ∧ y = .error fault)
      ∨ ∃ a b, x = .ok a ∧ y = .ok b ∧ p a = p b := by
  cases x with
  | error fault =>
    cases y with
    | error fault' => cases h; exact .inl ⟨fault, rfl, rfl⟩
    | ok b => cases h
  | ok a =>
    cases y with
    | error fault => cases h
    | ok b => exact .inr ⟨a, b, rfl, rfl, Except.ok.inj h⟩

theorem bind_congr_of_map {γ δ : Type} {x y : Except ε α} {p : α → γ} {q : β → δ}
    {f g : α → Except ε β} (hxy : p <$> x = p <$> y)
    (hfg : ∀ a b, p a = p b → q <$> f a = q <$> g b) : q <$> (x >>= f) = q <$> (y >>= g) := by
  rcases map_eq_map_cases hxy with ⟨fault, rfl, rfl⟩ | ⟨a, b, rfl, rfl, hab⟩
  · rfl
  · exact hfg a b hab

instance decidableExistsOk (x : Except ε α) (p : α → Prop) [DecidablePred p] :
    Decidable (∃ a, x = .ok a ∧ p a) :=
  match x with
  | .ok a => decidable_of_iff (p a) (by simp)
  | .error _ => isFalse (by simp)

end Except

namespace Word

variable {w : Word} {a b : Int}

theorem within_eq_ok {cause : ArithmeticFault} {n m : Int} :
    w.within cause n = .ok m ↔ w.Holds n ∧ n = m := by
  unfold within
  split_ifs with h <;> simp [h]

theorem add_ok (h : w.Holds (a + b)) : w.add a b = .ok (a + b) := if_pos h

theorem sub_ok (h : w.Holds (a - b)) : w.sub a b = .ok (a - b) := if_pos h

theorem mul_ok (h : w.Holds (a * b)) : w.mul a b = .ok (a * b) := if_pos h

theorem div_ok (hb : b ≠ 0) (h : w.Holds (a.tdiv b)) : w.div a b = .ok (a.tdiv b) := by
  unfold Word.div
  rw [if_neg hb]
  exact if_pos h

/-- A number of the word keeps its bits. -/
theorem wrap_of_holds {n : Int} (h : w.Holds n) : w.wrap n = n := by
  obtain ⟨hleast, hgreatest⟩ := h
  rw [wrap, Int.emod_eq_of_lt (by omega) (by omega)]
  omega

/-- The numbers of the word that are not negative. -/
theorem int32_holds {n : Int} (h0 : 0 ≤ n) (h : n ≤ 2147483647) : Word.int32.Holds n :=
  ⟨le_trans (by decide) h0, h⟩

theorem int64_holds {n : Int} (h0 : 0 ≤ n) (h : n ≤ 9223372036854775807) :
    Word.int64.Holds n :=
  ⟨le_trans (by decide) h0, h⟩

/-- What is held to the word is in it. -/
theorem int32_holds_clamp (n : Int) : int32.Holds (int32.clamp n) := by
  unfold Holds clamp
  simp only [int32]
  omega

theorem int32_holds_truncate (x : Float) : int32.Holds (int32.truncate x) := by
  unfold truncate
  split_ifs <;> exact int32_holds_clamp _

theorem int32_holds_ceil (x : Float) : int32.Holds (int32.ceil x) := by
  unfold ceil
  dsimp only
  split_ifs <;> exact int32_holds_clamp _

end Word

namespace Rect

theorem isEmpty_eq_false {r : Rect} : r.isEmpty = .ok false ↔
    (Word.int32.Holds (r.x1 - r.x0) ∧ 0 < r.x1 - r.x0)
      ∧ (Word.int32.Holds (r.y1 - r.y0) ∧ 0 < r.y1 - r.y0) := by
  unfold isEmpty width height Word.sub
  constructor
  · intro h
    obtain ⟨width, hwidth, h⟩ := bind_eq_ok.1 h
    obtain ⟨hw, rfl⟩ := Word.within_eq_ok.1 hwidth
    split_ifs at h with hpos
    · simp [pure, Except.pure] at h
    · obtain ⟨height, hheight, h⟩ := bind_eq_ok.1 h
      obtain ⟨hh, rfl⟩ := Word.within_eq_ok.1 hheight
      rw [pure_eq_ok, decide_eq_false_iff_not] at h
      exact ⟨⟨hw, by omega⟩, hh, by omega⟩
  · rintro ⟨⟨hw, hwpos⟩, hh, hhpos⟩
    refine bind_eq_ok.2 ⟨_, Word.within_eq_ok.2 ⟨hw, rfl⟩, ?_⟩
    rw [if_neg (by omega)]
    refine bind_eq_ok.2 ⟨_, Word.within_eq_ok.2 ⟨hh, rfl⟩, ?_⟩
    rw [pure_eq_ok, decide_eq_false_iff_not]
    omega

/-- A rectangle of positive sides in the word is found not empty. -/
theorem isEmpty_ofSize {width height : Int} (hw : Word.int32.Holds width) (hw0 : 0 < width)
    (hh : Word.int32.Holds height) (hh0 : 0 < height) : (ofSize width height).isEmpty = .ok false :=
  isEmpty_eq_false.2 (by simp only [ofSize, sub_zero]; exact ⟨⟨hw, hw0⟩, hh, hh0⟩)

end Rect

end VideoOutput
