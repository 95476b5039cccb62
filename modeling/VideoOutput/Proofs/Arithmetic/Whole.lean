import VideoOutput.Proofs.Arithmetic.Rounding

/-!
# Whole numbers as floats

A positive whole number below `2 ^ 53` has a float of its own (`Whole`). The quotient of such a
float by itself is one, and a product with one changes nothing, so a coordinate that is scaled by
the quotient of a scale with itself comes back as it was (`truncate_mul_div_self`). From other
scales it comes back smaller or larger (`truncate_mul_div_lt`, `lt_truncate_mul_div`): rounding is
too little to hide one unit in `2 ^ 31`.
-/

namespace VideoOutput

open Float.Model Float.Model.UnpackedFloat

namespace Binary64

variable {m n : Nat} {e : Int}

theorem shiftRight_exact (k : Nat) :
    ∀ m : Nat, ExtendedMantissa.mk (m * 2 ^ k) false false >>> k = ⟨m, false, false⟩ := by
  induction k with
  | zero => intro m; simp [HShiftRight.hShiftRight, Nat.repeat]
  | succ k ih =>
    intro m
    change (ExtendedMantissa.mk (m * 2 ^ (k + 1)) false false >>> k).shiftRightOne = _
    rw [show m * 2 ^ (k + 1) = 2 * m * 2 ^ k by ring, ih]
    simp [ExtendedMantissa.shiftRightOne]

theorem log2_mul_two_pow (hm : m.log2 = 52) (k : Nat) : (m * 2 ^ k).log2 = 52 + k := by
  obtain ⟨hlow, hhigh⟩ := log2_eq_iff.1 hm
  have hpos : 0 < m * 2 ^ k := Nat.mul_pos (by omega) (Nat.two_pow_pos k)
  rw [Nat.log2_eq_iff (by omega), Nat.pow_add, show 52 + k + 1 = 53 + k by omega, Nat.pow_add]
  exact ⟨Nat.mul_le_mul_right _ hlow, Nat.mul_lt_mul_of_pos_right hhigh (Nat.two_pow_pos k)⟩

theorem shiftToTargetExponent_exact (hm : m.log2 = 52) (he : -1074 ≤ e) (k : Nat) :
    shiftToTargetExponent Format.binary64 (m * 2 ^ k) (e - k) .exact
      = (⟨m, false, false⟩, e) := by
  have htarget : Format.binary64.targetExponent (totalExponent (m * 2 ^ k) (e - k)) = e := by
    simp only [Format.targetExponent, totalExponent, Format.mantissaBits, Format.minExponent,
      log2_mul_two_pow hm]
    norm_num
    omega
  have hshift : (e - (e - (k : Int))).toNat = k := by omega
  simp only [shiftToTargetExponent, htarget, shiftToExponent, hshift,
    ExtendedMantissa.ofMantissaAndAccuracy, shiftRight_exact]
  congr 1
  omega

theorem log2_one : Nat.log2 1 = 0 := Nat.log2_two_pow (n := 0)

/-- Nothing is lost where the bits to be cut are zero. -/
theorem roundWithAccuracy_exact (hm : m.log2 = 52) (he : -1074 ≤ e) (s : Sign) (k : Nat) :
    ∃ h, roundWithAccuracy Format.binary64 s (m * 2 ^ k) (e - k) .exact = .finite s m e h := by
  have hm0 : m ≠ 0 := by
    rintro rfl
    simp at hm
  have hagain : shiftToTargetExponent Format.binary64 m e .exact = (⟨m, false, false⟩, e) := by
    simpa using shiftToTargetExponent_exact hm he 0
  refine ⟨Nat.pos_of_ne_zero hm0, ?_⟩
  simp only [roundWithAccuracy, shiftToTargetExponent_exact hm he,
    ExtendedMantissa.roundedMantissa, ExtendedMantissa.accuracy, Accuracy.roundToNearestEven,
    hagain, hm0, dite_false]

end Binary64

/-- The float is the whole number, its mantissa shifted until it has all its 53 bits. -/
def Whole (x : Float) (n : Nat) : Prop :=
  0 < n ∧ n < 2 ^ 53 ∧ ∃ h, x.toModel.unpack
    = .finite .positive (n <<< (52 - n.log2)) (n.log2 - 52) h

namespace Whole

variable {x y : Float} {n : Nat}

theorem of_round {k : Nat} {e : Int} (hn : 0 < n) (hn' : n < 2 ^ 53) (he : e = n.log2 - 52 - k) :
    Whole (.ofModel (.pack (roundWithAccuracy Format.binary64 .positive
      (n <<< (52 - n.log2) * 2 ^ k) e .exact))) n := by
  obtain ⟨hlog, hmantissa⟩ := Binary64.log2_shiftLeft hn hn'
  obtain ⟨h, hround⟩ := Binary64.roundWithAccuracy_exact (e := n.log2 - 52) hmantissa (by omega)
    .positive k
  rw [he, hround]
  exact ⟨hn, hn', h, Binary64.unpack_pack hmantissa (by omega)⟩

theorem of_one : Whole 1.0 1 := ⟨by decide, by decide, by decide, rfl⟩

theorem unpack_of_one (hx : Whole x 1) :
    ∃ h, x.toModel.unpack = .finite .positive (2 ^ 52) (-52) h := by
  obtain ⟨-, -, h, hone⟩ := hx
  simp only [Binary64.log2_one, Nat.one_shiftLeft] at hone
  exact ⟨by decide, hone⟩

protected theorem mul_one (hx : Whole x n) (hy : Whole y 1) : Whole (x * y) n := by
  obtain ⟨hn, hn', h, hm⟩ := hx
  obtain ⟨h', hone⟩ := hy.unpack_of_one
  rw [Normal.mul_eq hm hone]
  exact of_round hn hn' (by omega)

theorem div_self (hx : Whole x n) : Whole (x / x) 1 := by
  obtain ⟨hn, hn', h, hm⟩ := hx
  obtain ⟨-, hmantissa⟩ := Binary64.log2_shiftLeft hn hn'
  rw [Normal.div_eq hm hmantissa hm hmantissa (by omega), Nat.shiftLeft_eq _ 53,
    Nat.mul_div_cancel_left _ h, Nat.mul_mod_right, Int.sub_self]
  have hround := of_round (n := 1) (k := 1) (e := 0 - 53) (by decide) (by decide)
    (by rw [Binary64.log2_one]; rfl)
  rw [Binary64.log2_one] at hround
  exact hround

theorem of_nat (hn : 0 < n) (hn' : n < 2 ^ 53) : Whole (Float.ofNat n) n := by
  have hmodel : Whole (.ofModel (.ofNat n)) n := by
    have hround := of_round (k := 0) hn hn' rfl
    rw [Normal.ofNat_eq_pack hn hn']
    simpa using hround
  rw [Normal.ofNat_eq_mul_one hn']
  exact hmodel.mul_one of_one

theorem of_int {n : Int} (hn : 0 < n) (hn' : n < 2 ^ 53) : Whole (Float.ofInt n) n.toNat := by
  obtain ⟨k, rfl⟩ := Int.eq_ofNat_of_zero_le hn.le
  exact of_nat (by omega) (by omega)

theorem normal (hx : Whole x n) : Normal x (-52) 0 := by
  obtain ⟨hn, hn', h, hm⟩ := hx
  obtain ⟨hlog, hmantissa⟩ := Binary64.log2_shiftLeft hn hn'
  exact ⟨_, _, h, hm, hmantissa, by omega, by omega⟩

protected theorem value (hx : Whole x n) : value x = n := by
  obtain ⟨hn, hn', h, hm⟩ := hx
  obtain ⟨hlog, -⟩ := Binary64.log2_shiftLeft hn hn'
  rw [value_of_unpack hm, Nat.shiftLeft_eq]
  push_cast
  rw [mul_assoc, ← zpow_natCast, ← zpow_add₀ (by norm_num),
    show ((52 - n.log2 : Nat) : Int) + (n.log2 - 52) = 0 by omega, zpow_zero, mul_one]

theorem truncate (hx : Whole x n) (hn : n < 2 ^ 31) : Word.int32.truncate x = n := by
  rw [hx.normal.truncate, hx.value, Nat.floor_natCast]
  unfold Word.clamp Word.int32
  dsimp only
  omega

/-- The float of a positive number of the word. -/
theorem of_word {n : Int} (hn : Word.int32.Holds n) (hn' : 0 < n) :
    Whole (Float.ofInt n) n.toNat :=
  of_int hn' (hn.2.trans_lt (by decide))

end Whole

/-! ## Coordinates at another scale -/

section Scaling

variable {n s t : Int}

theorem cast_toNat (hn : 0 ≤ n) : (n.toNat : ℚ) = n := by
  exact_mod_cast congrArg (Int.cast (R := ℚ)) (Int.toNat_of_nonneg hn)

theorem value_ofInt (hn : Word.int32.Holds n) (hn' : 0 < n) : value (Float.ofInt n) = n := by
  rw [(Whole.of_word hn hn').value, cast_toNat hn'.le]

/-- A coordinate that is not negative comes back from its float. -/
theorem truncate_ofInt (hn : Word.int32.Holds n) (hn' : 0 ≤ n) :
    Word.int32.truncate (Float.ofInt n) = n := by
  rcases hn'.eq_or_lt with rfl | hpos
  · decide
  · have hword := hn.2.trans_lt (show Word.int32.greatest < 2 ^ 31 by decide)
    rw [(Whole.of_word hn hpos).truncate (by omega)]
    omega

/-- Scaling by a factor of one is exact. -/
theorem truncate_mul_div_self (hn : Word.int32.Holds n) (hn' : 0 < n) (hs : Word.int32.Holds s)
    (hs' : 0 < s) : Word.int32.truncate (Float.ofInt n * (Float.ofInt s / Float.ofInt s)) = n := by
  have hword := hn.2.trans_lt (show Word.int32.greatest < 2 ^ 31 by decide)
  rw [((Whole.of_word hn hn').mul_one (Whole.of_word hs hs').div_self).truncate (by omega)]
  omega

/-- Scaling rounds twice, and is off by less than one part in `2 ^ 50` before the fraction goes. -/
theorem truncate_mul_div (hn : Word.int32.Holds n) (hn' : 0 < n) (hs : Word.int32.Holds s)
    (hs' : 0 < s) (ht : Word.int32.Holds t) (ht' : 0 < t) : ∃ p : ℚ,
    Word.int32.truncate (Float.ofInt n * (Float.ofInt s / Float.ofInt t)) = Word.int32.clamp ⌊p⌋₊
      ∧ |p - n * (s / t)| ≤ n * (s / t) / 2 ^ 50 := by
  have hside := (Whole.of_word hn hn').normal
  have hscale := (Whole.of_word hs hs').normal
  have hscale' := (Whole.of_word ht ht').normal
  have hfactor := hscale.div hscale' (by omega) (by omega)
  have hdiv := hscale.value_div hscale' (by omega) (by omega)
  have hmul := hside.value_mul hfactor (by omega) (by omega)
  refine ⟨_, (hside.mul hfactor (by omega) (by omega)).truncate, ?_⟩
  rw [value_ofInt hs hs', value_ofInt ht ht'] at hdiv
  rw [value_ofInt hn hn'] at hmul
  generalize value (Float.ofInt s / Float.ofInt t) = factor at hdiv hmul
  generalize value (Float.ofInt n * (Float.ofInt s / Float.ofInt t)) = p at hmul ⊢
  have hn : (0 : ℚ) < n := by exact_mod_cast hn'
  have hs : (0 : ℚ) < s / t := div_pos (by exact_mod_cast hs') (by exact_mod_cast ht')
  generalize (s / t : ℚ) = exact at hs hdiv ⊢
  have hpos : 0 < n * exact := mul_pos hn hs
  have hoff : |n * factor - n * exact| ≤ n * exact / 2 ^ 52 := by
    rw [← mul_sub, abs_mul, abs_of_pos hn, mul_div_assoc]
    exact mul_le_mul_of_nonneg_left hdiv hn.le
  rw [abs_le] at *
  constructor <;> linarith

/-- At a larger scale every coordinate is smaller. -/
theorem truncate_mul_div_lt (hn : Word.int32.Holds n) (hn' : 0 < n) (hs : Word.int32.Holds s)
    (hs' : 0 < s) (ht : Word.int32.Holds t) (hst : s < t) :
    Word.int32.truncate (Float.ofInt n * (Float.ofInt s / Float.ofInt t)) < n := by
  obtain ⟨p, htruncate, hp⟩ := truncate_mul_div hn hn' hs hs' ht (hs'.trans hst)
  have hside : (0 : ℚ) < n := by exact_mod_cast hn'
  have hratio : (s / t : ℚ) ≤ 1 - 1 / 2 ^ 31 := by
    have hbelow : (s + 1 : ℚ) ≤ t := by exact_mod_cast hst
    have hword : (t : ℚ) ≤ 2 ^ 31 := by exact_mod_cast ht.2.trans (by decide)
    rw [div_le_iff₀ (by exact_mod_cast hs'.trans hst)]
    linarith
  have hbelow : p < n := by
    have hscaled := mul_le_mul_of_nonneg_left hratio hside.le
    linarith [(abs_le.1 hp).2]
  have hfloor : ⌊p⌋₊ < n.toNat := by
    rwa [Nat.floor_lt' (by omega), cast_toNat hn'.le]
  rw [htruncate]
  unfold Word.clamp Word.int32
  dsimp only
  omega

/-- At a smaller scale a coordinate is larger, if the scales leave it two units more. -/
theorem lt_truncate_mul_div (hn : Word.int32.Holds n) (hn' : 0 < n)
    (hgreatest : n < Word.int32.greatest) (hs : Word.int32.Holds s) (ht : Word.int32.Holds t)
    (ht' : 0 < t) (hst : 2 * t ≤ n * (s - t)) :
    n < Word.int32.truncate (Float.ofInt n * (Float.ofInt s / Float.ofInt t)) := by
  have hts : 0 < s - t := (mul_pos_iff_of_pos_left hn').1 (lt_of_lt_of_le (by omega) hst)
  obtain ⟨p, htruncate, hp⟩ := truncate_mul_div hn hn' hs (by omega) ht ht'
  have hword : (n : ℚ) ≤ 2 ^ 31 := by exact_mod_cast hn.2.trans (by decide)
  have hexact : (n + 2 : ℚ) ≤ n * (s / t) := by
    have hmore : (2 * t : ℚ) ≤ n * (s - t) := by exact_mod_cast hst
    rw [← mul_div_assoc, le_div_iff₀ (by exact_mod_cast ht')]
    linarith
  have habove : (n + 1 : ℚ) ≤ p := by linarith [(abs_le.1 hp).1]
  have hfloor : n.toNat + 1 ≤ ⌊p⌋₊ := by
    refine Nat.le_floor ?_
    rwa [Nat.cast_add_one, cast_toNat hn'.le]
  rw [htruncate]
  unfold Word.clamp Word.int32 at *
  dsimp only at *
  omega

end Scaling

end VideoOutput
