import VideoOutput.Proofs.Geometry.Aspect

/-!
# The aspect of a size

A size with positive sides has one pair of coprime positive sides in the same proportion, and
`reduceAspect` finds it (`reduceAspect_lowest`). The loop of remainders behind it ends for every
pair of words (`remainders_euclid`); only the absolute value of the least word does not exist.
-/

namespace VideoOutput

/-- The loop runs from the pair `a`, `b` until nothing remains, and leaves `d`. -/
inductive Remainders : Nat → Nat → Nat → Prop
  | stop (a : Nat) : Remainders a 0 a
  | turn {a b d : Nat} (hb : b ≠ 0) (h : Remainders b (a % b) d) : Remainders a b d

theorem remainders_euclid (a b : Nat) : Remainders a b (euclid a b) := by
  induction a, b using euclid.induct with
  | case1 a =>
    rw [euclid, dif_pos rfl]
    exact .stop a
  | case2 a b hb ih =>
    rw [euclid, dif_neg hb]
    exact .turn hb ih

/-- A turn keeps the greatest common divisor. -/
theorem Remainders.eq_gcd {a b d : Nat} (h : Remainders a b d) : d = Nat.gcd a b := by
  induction h with
  | stop a => rw [Nat.gcd_zero_right]
  | turn hb h ih => rw [ih, Nat.gcd_comm, ← Nat.gcd_rec, Nat.gcd_comm]

theorem remainders_iff {a b d : Nat} : Remainders a b d ↔ d = Nat.gcd a b := by
  refine ⟨Remainders.eq_gcd, ?_⟩
  rintro rfl
  rw [← euclid_eq_gcd]
  exact remainders_euclid a b

namespace Size

/-- The sides are positive, have no common divisor, and are in proportion to the given ones. -/
structure LowestTerms (s : Size) (width height : Int) : Prop where
  width_pos : 0 < s.1
  height_pos : 0 < s.2
  coprime : IsCoprime s.1 s.2
  proportional : s.1 * height = s.2 * width

variable {s t : Size} {width height : Int}

theorem LowestTerms.cross (hs : s.LowestTerms width height) (ht : t.LowestTerms width height)
    (hwidth : 0 < width) : s.1 * t.2 = t.1 * s.2 := by
  have h : s.1 * t.2 * width = t.1 * s.2 * width := by
    linear_combination s.1 * (-ht.proportional) + t.1 * hs.proportional
  exact mul_right_cancel₀ hwidth.ne' h

theorem LowestTerms.dvd (hs : s.LowestTerms width height) (ht : t.LowestTerms width height)
    (hwidth : 0 < width) : s.1 ∣ t.1 := by
  refine hs.coprime.dvd_of_dvd_mul_right ?_
  rw [← hs.cross ht hwidth]
  exact dvd_mul_right _ _

theorem LowestTerms.unique (hs : s.LowestTerms width height) (ht : t.LowestTerms width height)
    (hwidth : 0 < width) : s = t := by
  have hfst : s.1 = t.1 := Int.dvd_antisymm hs.width_pos.le ht.width_pos.le
    (hs.dvd ht hwidth) (ht.dvd hs hwidth)
  have hsnd := hs.cross ht hwidth
  rw [hfst] at hsnd
  exact Prod.ext hfst (mul_left_cancel₀ ht.width_pos.ne' hsnd).symm

/-- Divided by their greatest common divisor the sides are in lowest terms. -/
theorem lowestTerms_div_gcd (hwidth : 0 < width) (hheight : 0 < height) :
    LowestTerms (width / Int.gcd width height, height / Int.gcd width height) width height := by
  have hgcd : 0 < Int.gcd width height := Int.gcd_pos_of_ne_zero_left _ hwidth.ne'
  have hgcd' : (0 : Int) < Int.gcd width height := Int.natCast_pos.2 hgcd
  have hleft := Int.gcd_dvd_left width height
  have hright := Int.gcd_dvd_right width height
  refine ⟨Int.ediv_pos_of_pos_of_dvd hwidth hgcd'.le hleft,
    Int.ediv_pos_of_pos_of_dvd hheight hgcd'.le hright,
    Int.isCoprime_iff_gcd_eq_one.2 (Int.gcd_ediv_gcd_ediv_gcd hgcd), ?_⟩
  dsimp only
  rw [← Int.mul_ediv_assoc' height hleft, ← Int.mul_ediv_assoc' width hright, Int.mul_comm]

end Size

/-- For any two words but the least one the loop of remainders ends, and only with their greatest
common divisor. A size with positive sides has one pair in lowest terms, which is its aspect. -/
theorem reduceAspect_lowest :
    (∀ a b, Word.int32.Holds a → Word.int32.Holds b → a ≠ -2147483648 → b ≠ -2147483648 →
      gcd a b = .ok (Int.gcd a b) ∧ ∀ d, Remainders a.natAbs b.natAbs d ↔ d = Int.gcd a b)
    ∧ ∀ width height, Word.int32.Holds width → 0 < width → Word.int32.Holds height → 0 < height →
      ∃ s, reduceAspect width height = .ok s
        ∧ ∀ t : Size, t.LowestTerms width height ↔ t = s := by
  constructor
  · intro a b ha hb ha' hb'
    have hleast : -2147483648 ≤ a ∧ -2147483648 ≤ b := ⟨ha.1, hb.1⟩
    exact ⟨gcd_ok (by omega) (by omega), fun d => remainders_iff⟩
  · intro width height hwidth hwidth' hheight hheight'
    have hlowest := Size.lowestTerms_div_gcd hwidth' hheight'
    refine ⟨_, reduceAspect_of_pos hwidth hwidth' hheight hheight', fun t => ?_⟩
    rw [Int.tdiv_eq_ediv_of_nonneg hwidth'.le, Int.tdiv_eq_ediv_of_nonneg hheight'.le]
    constructor
    · exact fun ht => ht.unique hlowest hwidth'
    · rintro rfl
      exact hlowest

theorem reduceAspect_lowest_wide : gcd (-2147483647) 2147483646 = .ok 1
    ∧ reduceAspect 2147483646 1073741823 = .ok (2, 1) := by
  obtain ⟨hgcd, haspect⟩ := reduceAspect_lowest
  obtain ⟨hone, -⟩ := hgcd (-2147483647) 2147483646 (by decide) (by decide) (by decide) (by decide)
  obtain ⟨s, hs, hlowest⟩ :=
    haspect 2147483646 1073741823 (by decide) (by decide) (by decide) (by decide)
  obtain rfl : (2, 1) = s :=
    (hlowest (2, 1)).1 ⟨by decide, by decide, isCoprime_one_right, by decide⟩
  exact ⟨hone, hs⟩

end VideoOutput
