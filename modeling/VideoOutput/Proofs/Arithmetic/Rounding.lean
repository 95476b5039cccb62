import VideoOutput.Proofs.Arithmetic.Normal

/-!
# How far rounding goes

A float of full precision stands for a rational number, its `value`. Rounding moves it by no more
than one unit of the mantissa, so a product or a quotient of two such floats is off the exact one by
at most one part in `2 ^ 52` (`Normal.value_mul`, `Normal.value_div`). What is left without the
fraction is the floor (`Normal.truncate`).
-/

namespace VideoOutput

open Float.Model Float.Model.UnpackedFloat

/-- The number that a positive float stands for; any other float counts as zero. -/
def value (x : Float) : ℚ :=
  match x.toModel.unpack with
  | .finite .positive m e _ => m * 2 ^ e
  | _ => 0

theorem value_of_unpack {x : Float} {m : Nat} {e : Int} {h : 0 < m}
    (hx : x.toModel.unpack = .finite .positive m e h) : value x = m * 2 ^ e := by
  rw [value, hx]

namespace Binary64

theorem two_zpow_pos (e : Int) : (0 : ℚ) < 2 ^ e := zpow_pos (by norm_num) e

/-- A mantissa of 53 bits or more, cut to 53 and rounded either way, is off by at most its last
unit, and so by one part in `2 ^ 52`. -/
theorem abs_cut_sub_le {m r k : Nat} {e : Int} {q : ℚ} (hm : 2 ^ 52 ≤ m / 2 ^ k)
    (hr : r = m / 2 ^ k ∨ r = m / 2 ^ k + 1) (hq : m * 2 ^ e ≤ q) (hq' : q ≤ (m + 1) * 2 ^ e) :
    |r * 2 ^ (e + k) - q| ≤ q / 2 ^ 52 := by
  have hpow := two_zpow_pos e
  have hunit : (2 : ℚ) ^ (e + k) = 2 ^ k * 2 ^ e := by
    rw [zpow_add₀ (by norm_num), zpow_natCast, mul_comm]
  have hlow : ((m / 2 ^ k : Nat) : ℚ) * 2 ^ (e + k) ≤ q := by
    have hcut : ((m / 2 ^ k : Nat) : ℚ) * 2 ^ k ≤ m := by
      exact_mod_cast Nat.div_mul_le_self m (2 ^ k)
    rw [hunit, ← mul_assoc]
    exact (mul_le_mul_of_nonneg_right hcut hpow.le).trans hq
  have hhigh : q ≤ ((m / 2 ^ k : Nat) + 1 : ℚ) * 2 ^ (e + k) := by
    have hcut : (m + 1 : ℚ) ≤ ((m / 2 ^ k : Nat) + 1) * 2 ^ k := by
      rw [mul_comm]
      exact_mod_cast Nat.lt_mul_div_succ m (Nat.two_pow_pos k)
    rw [hunit, ← mul_assoc]
    exact hq'.trans (mul_le_mul_of_nonneg_right hcut hpow.le)
  have hlast : (2 : ℚ) ^ (e + k) ≤ q / 2 ^ 52 := by
    have hm : (2 ^ 52 : ℚ) ≤ (m / 2 ^ k : Nat) := by exact_mod_cast hm
    rw [le_div_iff₀ (by norm_num), mul_comm]
    exact (mul_le_mul_of_nonneg_right hm (two_zpow_pos _).le).trans hlow
  have hunit_pos := two_zpow_pos (e + k)
  have hcut : |r * 2 ^ (e + k) - q| ≤ 2 ^ (e + k) := by
    rw [abs_le]
    rcases hr with rfl | rfl
    · constructor <;> linarith
    · rw [Nat.cast_add_one]
      constructor <;> linarith
  exact hcut.trans hlast

/-- The exact number lies between the mantissa and the next one. -/
theorem abs_value_round_sub_le {m : Nat} {e : Int} {a : Accuracy} {q : ℚ} (hm : 52 ≤ m.log2)
    (hlow : -1022 ≤ e + m.log2) (hhigh : e + m.log2 ≤ 1022) (hq : m * 2 ^ e ≤ q)
    (hq' : q ≤ (m + 1) * 2 ^ e) :
    |value (.ofModel (.pack (roundWithAccuracy Format.binary64 .positive m e a))) - q|
      ≤ q / 2 ^ 52 := by
  obtain ⟨m', e', h, hround, hlog, he, he', hcut⟩ := roundWithAccuracy_cases hm hlow .positive a
  have hvalue : value (.ofModel (.pack (.finite .positive m' e' h))) = m' * 2 ^ e' :=
    value_of_unpack (unpack_pack hlog (by omega))
  have hcarried : (m' : ℚ) * 2 ^ e'
      = (m' * 2 ^ (e' - (e + m.log2 - 52)).toNat : Nat) * 2 ^ (e + (m.log2 - 52 : Nat)) := by
    push_cast
    rw [mul_assoc, ← zpow_natCast (2 : ℚ), ← zpow_add₀ (by norm_num)]
    congr 2
    omega
  rw [hround, hvalue, hcarried]
  exact abs_cut_sub_le (div_two_pow_bounds hm).1 hcut hq hq'

theorem roundToInt_eq (m : Nat) (e : Int) :
    roundToInt .positive m e = (⌊(m * 2 ^ e : ℚ)⌋₊ : Int) := by
  have hinteger : roundToInt .positive m e
      = (m <<< e.toNat / 2 ^ (0 - (e - e.toNat)).toNat : Nat) := by
    simp only [roundToInt, decreaseExponent, shiftToExponent, mantissa_shiftRight,
      mantissa_ofMantissaAndAccuracy, sub_zero]
    rfl
  rw [hinteger, Nat.shiftLeft_eq]
  rcases le_total 0 e with he | he
  · obtain ⟨k, rfl⟩ := Int.eq_ofNat_of_zero_le he
    have hwhole : (m * 2 ^ (k : Int) : ℚ) = (m * 2 ^ k : Nat) := by
      push_cast
      rw [zpow_natCast]
    rw [hwhole, Nat.floor_natCast]
    simp
  · obtain ⟨k, rfl⟩ := Int.exists_eq_neg_ofNat he
    have hfraction : (m * 2 ^ (-k : Int) : ℚ) = m / (2 ^ k : Nat) := by
      push_cast
      rw [zpow_neg, zpow_natCast, div_eq_mul_inv]
    rw [hfraction, Nat.floor_div_eq_div]
    simp

end Binary64

namespace Normal

variable {x y : Float} {low high low' high' : Int}

theorem value_mul (hx : Normal x low high) (hy : Normal y low' high') (hlow : -1100 ≤ low + low')
    (hhigh : high + high' ≤ 900) :
    |value (x * y) - value x * value y| ≤ value x * value y / 2 ^ 52 := by
  obtain ⟨m, e, h, hm, hlog, he, he'⟩ := hx
  obtain ⟨n, f, h', hn, hlog', hf, hf'⟩ := hy
  obtain ⟨hprod, hprod'⟩ := Binary64.log2_mul hlog hlog'
  have hexact : value x * value y = (m * n : Nat) * 2 ^ (e + f) := by
    rw [value_of_unpack hm, value_of_unpack hn, zpow_add₀ (by norm_num)]
    push_cast
    ring
  rw [mul_eq hm hn]
  refine Binary64.abs_value_round_sub_le (by omega) (by omega) (by omega) hexact.ge ?_
  rw [hexact]
  exact mul_le_mul_of_nonneg_right (by linarith) (Binary64.two_zpow_pos _).le

theorem value_div (hx : Normal x low high) (hy : Normal y low' high') (hlow : -900 ≤ low - high')
    (hhigh : high - low' ≤ 900) :
    |value (x / y) - value x / value y| ≤ value x / value y / 2 ^ 52 := by
  obtain ⟨m, e, h, hm, hlog, he, he'⟩ := hx
  obtain ⟨n, f, h', hn, hlog', hf, hf'⟩ := hy
  obtain ⟨hquot, hquot'⟩ := Binary64.log2_div hlog hlog'
  have hexact : value x / value y = (m <<< 53 : Nat) / n * 2 ^ (e - f - 53) := by
    rw [value_of_unpack hm, value_of_unpack hn, Nat.shiftLeft_eq, zpow_sub₀ (by norm_num),
      zpow_sub₀ (by norm_num)]
    push_cast
    field_simp
  have hn : (0 : ℚ) < n := by exact_mod_cast h'
  have hnext : ((m <<< 53 : Nat) : ℚ) / n ≤ (m <<< 53 / n : Nat) + 1 := by
    rw [div_le_iff₀ hn, mul_comm]
    exact_mod_cast (Nat.lt_mul_div_succ (m <<< 53) h').le
  rw [div_eq hm hlog ‹_› hlog' (by omega)]
  refine Binary64.abs_value_round_sub_le (by omega) (by omega) (by omega) ?_ ?_ <;> rw [hexact]
  · exact mul_le_mul_of_nonneg_right Nat.cast_div_le (Binary64.two_zpow_pos _).le
  · exact mul_le_mul_of_nonneg_right hnext (Binary64.two_zpow_pos _).le

theorem toUInt64 (hx : Normal x low high) :
    x.toUInt64.toNat = min ⌊value x⌋₊ (2 ^ 64 - 1) := by
  obtain ⟨m, e, h, hm, -⟩ := hx
  change (UInt64.ofNatClamp (toInt 0 (UInt64.size - 1) x.toModel.unpack).toNat).toNat = _
  rw [value_of_unpack hm, hm, toInt, Binary64.roundToInt_eq, Int.toNat_natCast, UInt64.ofNatClamp]
  unfold UInt64.size
  split_ifs with hfits <;> rw [UInt64.toNat_ofNatLT] <;> omega

theorem truncate (hx : Normal x low high) :
    Word.int32.truncate x = Word.int32.clamp ⌊value x⌋₊ := by
  unfold Word.truncate
  rw [if_neg hx.not_neg, hx.toUInt64]
  unfold Word.clamp Word.int32
  push_cast
  omega

end Normal

end VideoOutput
