import VideoOutput.Proofs.Outcome

/-!
# Floats of full precision

A positive float whose mantissa has all its 53 bits is `Normal`, with bounds on its exponent.
Products and quotients of normal floats are normal while the exponents stay far from the ends of
the format, and so is the float of a positive whole number. Rounding may carry into the next bit,
so a bound on the exponent is never sharp. What is wanted in the end is that such a float is
rounded up to a whole number that is positive (`Normal.ceil_pos`).
-/

namespace VideoOutput

namespace Binary64

open Float.Model Float.Model.UnpackedFloat

variable {m n : Nat} {e : Int} {s : Sign} {a : Accuracy}

/-! ## Mantissas -/

theorem log2_eq_iff : m.log2 = 52 ↔ 2 ^ 52 ≤ m ∧ m < 2 ^ 53 := by
  constructor
  · intro h
    have hm : m ≠ 0 := by
      rintro rfl
      simp at h
    exact (Nat.log2_eq_iff hm).1 h
  · intro h
    exact (Nat.log2_eq_iff (by omega)).2 h

theorem log2_mul (hm : m.log2 = 52) (hn : n.log2 = 52) :
    104 ≤ (m * n).log2 ∧ (m * n).log2 < 106 := by
  obtain ⟨hm, hm'⟩ := log2_eq_iff.1 hm
  obtain ⟨hn, hn'⟩ := log2_eq_iff.1 hn
  have hlow : 2 ^ 52 * 2 ^ 52 ≤ m * n := Nat.mul_le_mul hm hn
  have hhigh : m * n < 2 ^ 53 * 2 ^ 53 := Nat.mul_lt_mul'' hm' hn'
  exact ⟨(Nat.le_log2 (by omega)).2 (by omega), (Nat.log2_lt (by omega)).2 (by omega)⟩

theorem log2_div (hm : m.log2 = 52) (hn : n.log2 = 52) :
    52 ≤ (m <<< 53 / n).log2 ∧ (m <<< 53 / n).log2 < 54 := by
  obtain ⟨hm, hm'⟩ := log2_eq_iff.1 hm
  obtain ⟨hn, hn'⟩ := log2_eq_iff.1 hn
  rw [Nat.shiftLeft_eq]
  have hlow : 2 ^ 52 ≤ m * 2 ^ 53 / n := by
    rw [Nat.le_div_iff_mul_le (by omega)]
    omega
  have hhigh : m * 2 ^ 53 / n < 2 ^ 54 := by
    rw [Nat.div_lt_iff_lt_mul (by omega)]
    omega
  exact ⟨(Nat.le_log2 (by omega)).2 hlow, (Nat.log2_lt (by omega)).2 hhigh⟩

theorem log2_shiftLeft (hn : 0 < n) (hn' : n < 2 ^ 53) :
    n.log2 < 53 ∧ (n <<< (52 - n.log2)).log2 = 52 := by
  have hlog : n.log2 < 53 := (Nat.log2_lt (by omega)).2 hn'
  refine ⟨hlog, log2_eq_iff.2 ⟨?_, ?_⟩⟩ <;> rw [Nat.shiftLeft_eq]
  · calc 2 ^ 52 = 2 ^ n.log2 * 2 ^ (52 - n.log2) := by rw [← Nat.pow_add]; congr 1; omega
      _ ≤ n * 2 ^ (52 - n.log2) := Nat.mul_le_mul_right _ (Nat.log2_self_le (by omega))
  · calc n * 2 ^ (52 - n.log2) < 2 ^ (n.log2 + 1) * 2 ^ (52 - n.log2) :=
          Nat.mul_lt_mul_of_pos_right Nat.lt_log2_self (Nat.two_pow_pos _)
      _ = 2 ^ 53 := by rw [← Nat.pow_add]; congr 1; omega

theorem div_two_pow_bounds (hm : 52 ≤ m.log2) :
    2 ^ 52 ≤ m / 2 ^ (m.log2 - 52) ∧ m / 2 ^ (m.log2 - 52) < 2 ^ 53 := by
  have hm0 : m ≠ 0 := by
    rintro rfl
    simp at hm
  constructor
  · rw [Nat.le_div_iff_mul_le (Nat.two_pow_pos _), ← Nat.pow_add, Nat.add_sub_cancel' hm]
    exact Nat.log2_self_le hm0
  · rw [Nat.div_lt_iff_lt_mul (Nat.two_pow_pos _), ← Nat.pow_add,
      show 53 + (m.log2 - 52) = m.log2 + 1 by omega]
    exact Nat.lt_log2_self

/-! ## Rounding -/

theorem mantissa_shiftRight (em : ExtendedMantissa) (k : Nat) :
    (em >>> k).mantissa = em.mantissa / 2 ^ k := by
  induction k with
  | zero => simp [HShiftRight.hShiftRight, Nat.repeat]
  | succ k ih =>
    change (em >>> k).mantissa / 2 = _
    rw [ih, Nat.div_div_eq_div_mul, Nat.pow_succ]

theorem mantissa_ofMantissaAndAccuracy (m : Nat) (a : Accuracy) :
    (ExtendedMantissa.ofMantissaAndAccuracy m a).mantissa = m := by
  rcases a with _ | _ | _ | _ <;> rfl

theorem roundedMantissa_cases (em : ExtendedMantissa) :
    em.roundedMantissa = em.mantissa ∨ em.roundedMantissa = em.mantissa + 1 := by
  rcases em with ⟨m, _ | _, _ | _⟩
  · exact .inl rfl
  · exact .inl rfl
  · -- halfway between two mantissas the even one is taken
    change m + m % 2 = m ∨ m + m % 2 = m + 1
    omega
  · exact .inr rfl

theorem shiftToTargetExponent_eq (hm : 52 ≤ m.log2) (he : -1022 ≤ e + m.log2) :
    (shiftToTargetExponent Format.binary64 m e a).1.mantissa = m / 2 ^ (m.log2 - 52)
      ∧ (shiftToTargetExponent Format.binary64 m e a).2 = e + m.log2 - 52 := by
  have htarget : Format.binary64.targetExponent (totalExponent m e) = e + m.log2 - 52 := by
    simp only [Format.targetExponent, totalExponent, Format.mantissaBits, Format.minExponent]
    norm_num
    omega
  have hshift : (e + m.log2 - 52 - e).toNat = m.log2 - 52 := by omega
  simp only [shiftToTargetExponent, htarget, shiftToExponent, hshift]
  refine ⟨?_, by omega⟩
  rw [mantissa_shiftRight, mantissa_ofMantissaAndAccuracy]

/-- The mantissa is cut to 53 bits and rounded; where that carries, it is cut once more, and nothing
is lost. -/
theorem roundWithAccuracy_cases (hm : 52 ≤ m.log2) (he : -1022 ≤ e + m.log2) (s : Sign)
    (a : Accuracy) : ∃ m' e', ∃ h : 0 < m',
      roundWithAccuracy Format.binary64 s m e a = .finite s m' e' h ∧ m'.log2 = 52
        ∧ e + m.log2 - 52 ≤ e' ∧ e' ≤ e + m.log2 - 51
        ∧ (m' * 2 ^ (e' - (e + m.log2 - 52)).toNat = m / 2 ^ (m.log2 - 52)
          ∨ m' * 2 ^ (e' - (e + m.log2 - 52)).toNat = m / 2 ^ (m.log2 - 52) + 1) := by
  obtain ⟨hmantissa, hexponent⟩ := shiftToTargetExponent_eq (a := a) hm he
  obtain ⟨hlow, hhigh⟩ := div_two_pow_bounds hm
  rw [← hmantissa] at hlow hhigh ⊢
  unfold roundWithAccuracy
  generalize shiftToTargetExponent Format.binary64 m e a = first at *
  obtain ⟨em, e₁⟩ := first
  dsimp only at *
  have hr := roundedMantissa_cases em
  generalize em.roundedMantissa = r at *
  have hlog : 52 ≤ r.log2 := (Nat.le_log2 (by omega)).2 (by omega)
  have hlog' : r.log2 < 54 := (Nat.log2_lt (by omega)).2 (by omega)
  obtain ⟨hmantissa', hexponent'⟩ :=
    shiftToTargetExponent_eq (m := r) (e := e₁) (a := .exact) hlog (by omega)
  obtain ⟨hlow', hhigh'⟩ := div_two_pow_bounds hlog
  -- only the even mantissa of 54 bits has a bit to lose
  have hkept : r / 2 ^ (r.log2 - 52) * 2 ^ (r.log2 - 52) = r := by
    obtain hbits | hbits : r.log2 = 52 ∨ r.log2 = 53 := by omega
    · simp [hbits]
    · have hfull := (Nat.log2_eq_iff (by omega)).1 hbits
      rw [hbits, show r = 2 ^ 53 by omega]
      rfl
  rw [← hmantissa'] at hlow' hhigh' hkept
  refine ⟨_, _, by omega, dif_neg (by omega), log2_eq_iff.2 ⟨hlow', hhigh'⟩, ?_, ?_, ?_⟩
  · rw [hexponent']; omega
  · rw [hexponent']; omega
  · rwa [← hexponent, hexponent', show (e₁ + (r.log2 : Int) - 52 - e₁).toNat = r.log2 - 52 by omega,
      hkept]

/-! ## Packing -/

theorem unpackSign_packComponents {spec : Format} {exponent : BitVec spec.exponentBits}
    {mantissa : BitVec spec.mantissaBitsWithoutImplicit} :
    unpackSign (packComponents spec s exponent mantissa) = s.toBitVec := by
  ext i hi
  obtain rfl : i = 0 := by omega
  simp [unpackSign, packComponents, BitVec.getLsbD_append, BitVec.getElem_append]

theorem pack_eq {h : 0 < m} (hm : m.log2 = 52) (he : -1074 ≤ e ∧ e ≤ 971) :
    UnpackedFloat.pack Format.binary64 (.finite s m e h) = packComponents Format.binary64 s
      (BitVec.ofNat _ (e + 1075).toNat) (BitVec.ofNat _ m) := by
  have hbias : e + Format.binary64.exponentBias + Format.binary64.mantissaBitsWithoutImplicit
      = e + 1075 := by
    simp only [Format.exponentBias]
    norm_num
    omega
  unfold UnpackedFloat.pack
  dsimp only
  rw [hbias, if_neg (by norm_num; omega), if_pos (by rw [hm]; rfl)]

theorem unpack_pack {h : 0 < m} (hm : m.log2 = 52) (he : -1074 ≤ e ∧ e ≤ 971) :
    (Float.Model.pack (.finite s m e h)).unpack = .finite s m e h := by
  obtain ⟨hlow, hhigh⟩ := log2_eq_iff.1 hm
  have hexponent : (BitVec.ofNat 11 (e + 1075).toNat).toNat = (e + 1075).toNat := by
    rw [BitVec.toNat_ofNat, Nat.mod_eq_of_lt (by omega)]
  have hmantissa : (1#1 ++ BitVec.ofNat 52 m).toNat = m := by
    rw [BitVec.toNat_append, ← Nat.shiftLeft_add_eq_or_of_lt (BitVec.isLt _), Nat.shiftLeft_eq]
    simp only [BitVec.toNat_ofNat]
    omega
  -- the exponents of all ones and of all zeros are kept for other floats
  have hones : BitVec.ofNat 11 (e + 1075).toNat ≠ -1#11 := by
    intro hall
    have hvalue := congrArg BitVec.toNat hall
    rw [hexponent] at hvalue
    norm_num at hvalue
    omega
  have hzeros : BitVec.ofNat 11 (e + 1075).toNat ≠ 0#11 := by
    intro hall
    have hvalue := congrArg BitVec.toNat hall
    rw [hexponent] at hvalue
    norm_num at hvalue
    omega
  unfold Float.Model.unpack Float.Model.pack
  dsimp only
  rw [pack_eq hm he]
  unfold UnpackedFloat.unpack
  simp only [unpackMantissa_packComponents, unpackExponent_packComponents,
    unpackSign_packComponents, hones, hzeros, if_false, hexponent, hmantissa]
  congr 1
  · cases s <;> rfl
  · simp only [Format.exponentBias]
    norm_num
    omega

end Binary64

open Float.Model Float.Model.UnpackedFloat

/-- The float is positive, with a mantissa of 53 bits and an exponent within the bounds. -/
def Normal (x : Float) (low high : Int) : Prop :=
  ∃ m e, ∃ h : 0 < m, x.toModel.unpack = .finite .positive m e h ∧ m.log2 = 52
    ∧ low ≤ e ∧ e ≤ high

namespace Normal

variable {x y : Float} {low high low' high' : Int}

theorem mono (hx : Normal x low high) (hlow : low' ≤ low) (hhigh : high ≤ high') :
    Normal x low' high' := by
  obtain ⟨m, e, h, hm, hlog, he, he'⟩ := hx
  exact ⟨m, e, h, hm, hlog, hlow.trans he, he'.trans hhigh⟩

theorem of_round {m : Nat} {e : Int} {a : Accuracy} (hm : 52 ≤ m.log2)
    (hlow : -1022 ≤ e + m.log2) (hhigh : e + m.log2 ≤ 1022) :
    Normal (.ofModel (.pack (roundWithAccuracy Format.binary64 .positive m e a)))
      (e + m.log2 - 52) (e + m.log2 - 51) := by
  obtain ⟨m', e', h, hround, hlog, he, he', -⟩ :=
    Binary64.roundWithAccuracy_cases hm hlow .positive a
  refine ⟨m', e', h, ?_, hlog, he, he'⟩
  rw [hround]
  exact Binary64.unpack_pack hlog (by omega)

theorem mul_eq {m n : Nat} {e f : Int} {h : 0 < m} {h' : 0 < n}
    (hx : x.toModel.unpack = .finite .positive m e h)
    (hy : y.toModel.unpack = .finite .positive n f h') : x * y = .ofModel (.pack
      (roundWithAccuracy Format.binary64 .positive (m * n) (e + f) .exact)) := by
  change Float.ofModel (.pack (UnpackedFloat.mul _ x.toModel.unpack y.toModel.unpack)) = _
  rw [hx, hy]
  rfl

theorem mul (hx : Normal x low high) (hy : Normal y low' high') (hlow : -1100 ≤ low + low')
    (hhigh : high + high' ≤ 900) : Normal (x * y) (low + low' + 52) (high + high' + 54) := by
  obtain ⟨m, e, h, hm, hlog, he, he'⟩ := hx
  obtain ⟨n, f, h', hn, hlog', hf, hf'⟩ := hy
  obtain ⟨hprod, hprod'⟩ := Binary64.log2_mul hlog hlog'
  rw [mul_eq hm hn]
  exact (of_round (by omega) (by omega) (by omega)).mono (by omega) (by omega)

theorem div_eq {m n : Nat} {e f : Int} {h : 0 < m} {h' : 0 < n}
    (hx : x.toModel.unpack = .finite .positive m e h) (hm : m.log2 = 52)
    (hy : y.toModel.unpack = .finite .positive n f h') (hn : n.log2 = 52)
    (hef : -900 ≤ e - f) : x / y = .ofModel (.pack (roundWithAccuracy Format.binary64 .positive
      (m <<< 53 / n) (e - f - 53) (accuracyOfFraction (m <<< 53 % n) n))) := by
  have htarget : Format.binary64.targetExponent (totalExponent m e - totalExponent n f)
      = e - f - 53 := by
    simp only [Format.targetExponent, totalExponent, Format.mantissaBits, Format.minExponent,
      hm, hn]
    norm_num
    omega
  have hcore : divCore Format.binary64 m e n f
      = (m <<< 53 / n, e - f - 53, accuracyOfFraction (m <<< 53 % n) n) := by
    simp [divCore, htarget]
  change Float.ofModel (.pack (UnpackedFloat.div _ x.toModel.unpack y.toModel.unpack)) = _
  rw [hx, hy]
  simp only [UnpackedFloat.div, hcore]
  rfl

theorem div (hx : Normal x low high) (hy : Normal y low' high') (hlow : -900 ≤ low - high')
    (hhigh : high - low' ≤ 900) : Normal (x / y) (low - high' - 53) (high - low' - 51) := by
  obtain ⟨m, e, h, hm, hlog, he, he'⟩ := hx
  obtain ⟨n, f, h', hn, hlog', hf, hf'⟩ := hy
  obtain ⟨hquot, hquot'⟩ := Binary64.log2_div hlog hlog'
  rw [div_eq hm hlog hn hlog' (by omega)]
  exact (of_round (by omega) (by omega) (by omega)).mono (by omega) (by omega)

theorem of_one : Normal 1.0 (-52) (-52) :=
  ⟨2 ^ 52, -52, by decide, rfl, Binary64.log2_eq_iff.2 (by decide), le_rfl, le_rfl⟩

/-- The mantissa of a whole number is shifted until it has all its bits. -/
theorem ofNat_eq_pack {n : Nat} (hn : 0 < n) (hn' : n < 2 ^ 53) :
    Float.Model.ofNat n = .pack (roundWithAccuracy Format.binary64 .positive
      (n <<< (52 - n.log2)) (n.log2 - 52) .exact) := by
  obtain ⟨hlog, -⟩ := Binary64.log2_shiftLeft hn hn'
  have htarget : Format.binary64.targetExponent (totalExponent n 0) = n.log2 - 52 := by
    simp only [Format.targetExponent, totalExponent, Format.mantissaBits, Format.minExponent]
    norm_num
    omega
  have hround : UnpackedFloat.round Format.binary64 .positive n 0 = roundWithAccuracy
      Format.binary64 .positive (n <<< (52 - n.log2)) (n.log2 - 52) .exact := by
    unfold UnpackedFloat.round decreaseExponent
    rw [htarget]
    dsimp only
    rw [show (0 - ((n.log2 : Int) - 52)).toNat = 52 - n.log2 by omega]
    congr 1
    omega
  rw [← hround]
  unfold Float.Model.ofNat UnpackedFloat.ofNat UnpackedFloat.ofInt UnpackedFloat.normalize
  rw [Int.compare_eq_gt.2 (by omega)]
  rfl

theorem of_model {n : Nat} (hn : 0 < n) (hn' : n < 2 ^ 53) :
    Normal (.ofModel (.ofNat n)) (-52) 1 := by
  obtain ⟨hlog, hshift⟩ := Binary64.log2_shiftLeft hn hn'
  rw [ofNat_eq_pack hn hn']
  exact (of_round (by omega) (by omega) (by omega)).mono (by omega) (by omega)

/-- A small whole number is read as a literal with no decimal places: its float times one. -/
theorem ofNat_eq_mul_one {n : Nat} (hn : n < 2 ^ 53) :
    Float.ofNat n = Float.ofModel (.ofNat n) * 1.0 := by
  have hword : n.toUInt64.toFloat = .ofModel (.ofNat n) := by
    have hn64 : n.toUInt64.toNat = n := UInt64.toNat_ofNat_of_lt (by unfold UInt64.size; omega)
    unfold UInt64.toFloat Float.Model.ofUInt64 UnpackedFloat.ofUInt64
    rw [hn64]
    rfl
  change Float.ofScientific n false 0 = _
  unfold Float.ofScientific
  rw [dif_pos ⟨hn, by decide⟩, ← hword]
  rfl

theorem of_nat {n : Nat} (hn : 0 < n) (hn' : n < 2 ^ 53) : Normal (Float.ofNat n) (-52) 3 := by
  rw [ofNat_eq_mul_one hn']
  exact ((of_model hn hn').mul of_one (by omega) (by omega)).mono (by omega) (by omega)

theorem of_int {n : Int} (hn : 0 < n) (hn' : n < 2 ^ 53) : Normal (Float.ofInt n) (-52) 3 := by
  obtain ⟨k, rfl⟩ := Int.eq_ofNat_of_zero_le hn.le
  exact of_nat (by omega) (by omega)

/-! ## Comparison with zero -/

theorem lt_iff (x y : Float) : x < y ↔ x.toModel.unpack.lt y.toModel.unpack = true := by
  change decide (x.toModel < y.toModel) = true ↔ _
  rw [decide_eq_true_iff]
  rfl

theorem unpack_zero : (0 : Float).toModel.unpack = .zero .positive := rfl

theorem pos (hx : Normal x low high) : 0 < x := by
  obtain ⟨m, e, h, hm, -⟩ := hx
  rw [lt_iff, unpack_zero, hm]
  rfl

theorem not_neg (hx : Normal x low high) : ¬ x < 0 := by
  obtain ⟨m, e, h, hm, -⟩ := hx
  rw [lt_iff, unpack_zero, hm]
  exact Bool.false_ne_true

theorem clamp_pos {n : Int} (hn : 0 < n) : 0 < Word.int32.clamp n := by
  unfold Word.clamp Word.int32
  dsimp only
  omega

theorem ceil_pos (hx : Normal x low high) :
    Word.int32.Holds (Word.int32.ceil x) ∧ 0 < Word.int32.ceil x := by
  have hwhole : 0 ≤ Word.int64.truncate x := by
    unfold Word.truncate
    rw [if_neg hx.not_neg]
    unfold Word.clamp Word.int64
    dsimp only
    omega
  refine ⟨Word.int32_holds_ceil x, ?_⟩
  unfold Word.ceil
  dsimp only
  split_ifs with hbelow
  · exact clamp_pos (by omega)
  · -- a positive float that is not above its whole part has one that is not zero
    refine clamp_pos (lt_of_le_of_ne hwhole fun hzero => hbelow ?_)
    rw [← hzero]
    exact hx.pos

end Normal

end VideoOutput
