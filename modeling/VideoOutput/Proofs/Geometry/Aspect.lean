import VideoOutput.Geometry.Aspect
import VideoOutput.Proofs.Outcome

/-!
# Aspects in lowest terms

The repeated remainders compute the greatest common divisor, so a reduced aspect has positive sides
of the word, whatever size it was reduced from (`reduceAspect_pos`).
-/

namespace VideoOutput

theorem euclid_eq_gcd (a b : Nat) : euclid a b = Nat.gcd a b := by
  induction a, b using euclid.induct with
  | case1 a => rw [euclid, dif_pos rfl, Nat.gcd_zero_right]
  | case2 a b hb ih => rw [euclid, dif_neg hb, ih, Nat.gcd_comm a, Nat.gcd_rec b a, Nat.gcd_comm]

theorem Word.div_eq_ok {w : Word} {a b q : Int} (h : w.div a b = .ok q) :
    w.Holds q ∧ q = a.tdiv b := by
  unfold Word.div at h
  split_ifs at h
  obtain ⟨hq, rfl⟩ := Word.within_eq_ok.1 h
  exact ⟨hq, rfl⟩

theorem Word.int32_abs_ok {a : Int} (h : -2147483648 < a) : int32.abs a = .ok |a| := by
  unfold Word.abs
  split_ifs with hneg
  · rw [abs_of_neg hneg]
    exact if_pos (int32_holds (by omega) (by omega))
  · rw [abs_of_nonneg (by omega)]

theorem gcd_ok {a b : Int} (ha : -2147483648 < a) (hb : -2147483648 < b) :
    gcd a b = .ok (Int.gcd a b) := by
  unfold gcd
  rw [Word.int32_abs_ok ha, Word.int32_abs_ok hb, ok_bind, ok_bind, euclid_eq_gcd, Int.gcd_def,
    Int.abs_eq_natAbs, Int.abs_eq_natAbs, Int.toNat_natCast, Int.toNat_natCast]
  rfl

/-- A quotient is no further from zero than what is divided. -/
theorem Word.int32_holds_tdiv {a b : Int} (ha : int32.Holds a) (hb : 1 ≤ b) :
    int32.Holds (a.tdiv b) := by
  obtain ⟨hleast, hgreatest⟩ := ha
  rcases le_total 0 a with hsign | hsign
  · have hpos := Int.tdiv_nonneg hsign (by omega : 0 ≤ b)
    exact ⟨le_trans (by decide) hpos, (Int.tdiv_le_self b hsign).trans hgreatest⟩
  · have hpos := Int.tdiv_nonneg (neg_nonneg.2 hsign) (by omega : 0 ≤ b)
    have hle := Int.tdiv_le_self b (neg_nonneg.2 hsign)
    rw [Int.neg_tdiv] at hpos hle
    exact ⟨hleast.trans (by omega), le_trans (by omega : a.tdiv b ≤ 0) (by decide)⟩

theorem reduceAspect_of_pos {width height : Int} (hwidth : Word.int32.Holds width)
    (hwidth' : 0 < width) (hheight : Word.int32.Holds height) (hheight' : 0 < height) :
    reduceAspect width height
      = .ok (width.tdiv (Int.gcd width height), height.tdiv (Int.gcd width height)) := by
  have hgcd : (0 : Int) < Int.gcd width height :=
    Int.natCast_pos.2 (Int.gcd_pos_of_ne_zero_left _ hwidth'.ne')
  unfold reduceAspect
  rw [if_neg (by omega), gcd_ok (by omega) (by omega), ok_bind,
    Word.div_ok hgcd.ne' (Word.int32_holds_tdiv hwidth (by omega)), ok_bind,
    Word.div_ok hgcd.ne' (Word.int32_holds_tdiv hheight (by omega))]
  rfl

/-- Every size of the word has an aspect. -/
theorem exists_reduceAspect {width height : Int} (hwidth : Word.int32.Holds width)
    (hheight : Word.int32.Holds height) : ∃ aspect, reduceAspect width height = .ok aspect := by
  by_cases hnone : width ≤ 0 ∨ height ≤ 0
  · exact ⟨(1, 1), if_pos hnone⟩
  · exact ⟨_, reduceAspect_of_pos hwidth (by omega) hheight (by omega)⟩

/-- Both sides are of the word and positive. -/
def Size.Positive (s : Size) : Prop :=
  (Word.int32.Holds s.1 ∧ 0 < s.1) ∧ Word.int32.Holds s.2 ∧ 0 < s.2

instance (s : Size) : Decidable s.Positive := by unfold Size.Positive; infer_instance

theorem reduceAspect_pos {width height : Int} {s : Size} (h : reduceAspect width height = .ok s) :
    s.Positive := by
  unfold reduceAspect at h
  split_ifs at h with hnone
  · obtain rfl := pure_eq_ok.1 h
    decide
  · obtain ⟨hwidth, hheight⟩ : 0 < width ∧ 0 < height := by omega
    obtain ⟨d, hd, h⟩ := bind_eq_ok.1 h
    obtain ⟨w, hw, h⟩ := bind_eq_ok.1 h
    obtain ⟨v, hv, h⟩ := bind_eq_ok.1 h
    obtain rfl := pure_eq_ok.1 h
    obtain rfl := Except.ok.inj ((gcd_ok (by omega) (by omega)).symm.trans hd)
    obtain ⟨hw, rfl⟩ := Word.div_eq_ok hw
    obtain ⟨hv, rfl⟩ := Word.div_eq_ok hv
    have hgcd : (0 : Int) < Int.gcd width height :=
      Int.natCast_pos.2 (Int.gcd_pos_of_ne_zero_left _ hwidth.ne')
    refine ⟨⟨hw, ?_⟩, hv, ?_⟩ <;> dsimp only
    · rw [Int.tdiv_eq_ediv_of_nonneg hwidth.le]
      exact Int.ediv_pos_of_pos_of_dvd hwidth hgcd.le (Int.gcd_dvd_left width height)
    · rw [Int.tdiv_eq_ediv_of_nonneg hheight.le]
      exact Int.ediv_pos_of_pos_of_dvd hheight hgcd.le (Int.gcd_dvd_right width height)

end VideoOutput
