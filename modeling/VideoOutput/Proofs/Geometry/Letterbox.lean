import VideoOutput.Proofs.Geometry.Aspect

/-!
# Pictures fitted into windows

A picture of a given aspect fills one side of its window and has a length proportional to it on the
other, rounded to nearest (`Size.fitted`). `letterbox_eq` says that the rectangle found for it is
that size in the middle of the window, and that on the way no word is left. So it lies in the window
and touches two of its edges, whatever the two aspects and wherever the window is
(`letterbox_fits`).
-/

namespace VideoOutput

/-- Two sides of a size make an area of the wide word. -/
theorem Size.Positive.holds_mul {s : Size} (h : s.Positive) :
    0 < s.1 * s.2 ∧ s.1 * s.2 ≤ 2147483647 * 2147483647 := by
  obtain ⟨⟨hwidth, hwidth0⟩, hheight, hheight0⟩ := h
  exact ⟨Int.mul_pos hwidth0 hheight0,
    Int.mul_le_mul hwidth.2 hheight.2 hheight0.le (by decide)⟩

/-- `length * numerator / denominator`, rounded to nearest with halves upward. -/
def nearest (length numerator denominator : Int) : Int :=
  (length * numerator + denominator / 2) / denominator

theorem nearest_nonneg {length numerator denominator : Int} (hlength : 0 ≤ length)
    (hnumerator : 0 ≤ numerator) (hdenominator : 0 < denominator) :
    0 ≤ nearest length numerator denominator :=
  Int.ediv_nonneg (by positivity) hdenominator.le

/-- A length that is at most a whole number is rounded to at most that. -/
theorem nearest_le {length numerator denominator side : Int} (hdenominator : 0 < denominator)
    (h : length * numerator ≤ side * denominator) :
    nearest length numerator denominator ≤ side := by
  refine Int.le_of_lt_add_one (Int.ediv_lt_of_lt_mul hdenominator ?_)
  rw [add_mul, one_mul]
  omega

/-- The rounding is off by at most half of the denominator. -/
theorem abs_nearest_mul_sub_le {denominator : Int} (length numerator : Int)
    (hdenominator : 0 < denominator) :
    |nearest length numerator denominator * denominator - length * numerator|
      ≤ denominator / 2 := by
  have hsplit := Int.ediv_mul_add_emod (length * numerator + denominator / 2) denominator
  have hrest0 := Int.emod_nonneg (length * numerator + denominator / 2) hdenominator.ne'
  have hrest := Int.emod_lt_of_pos (length * numerator + denominator / 2) hdenominator
  rw [← nearest] at hsplit
  rw [abs_le]
  omega

theorem proportion_eq {length numerator denominator : Int}
    (harea : Size.Positive (length, numerator)) (hd : Word.int32.Holds denominator)
    (hd0 : 0 < denominator) :
    proportion length numerator denominator = .ok (nearest length numerator denominator) := by
  obtain ⟨hproduct0, hproduct⟩ := harea.holds_mul
  have hd' : denominator ≤ 2147483647 := hd.2
  have hhalf : denominator.tdiv 2 = denominator / 2 := Int.tdiv_eq_ediv_of_nonneg hd0.le
  have hsum0 : 0 ≤ length * numerator + denominator / 2 := by dsimp only at hproduct0; omega
  have hquotient : (length * numerator + denominator / 2).tdiv denominator
      = nearest length numerator denominator := Int.tdiv_eq_ediv_of_nonneg hsum0
  have hquotient0 : 0 ≤ nearest length numerator denominator := Int.ediv_nonneg hsum0 hd0.le
  have hquotient' : nearest length numerator denominator
      ≤ length * numerator + denominator / 2 := Int.ediv_le_self _ hsum0
  dsimp only at hproduct0 hproduct
  unfold proportion
  refine bind_eq_ok.2 ⟨_, Word.mul_ok (Word.int64_holds (by omega) (by omega)), ?_⟩
  refine bind_eq_ok.2 ⟨_, Word.div_ok (by decide) (Word.int64_holds (by omega) (by omega)), ?_⟩
  rw [hhalf]
  refine bind_eq_ok.2 ⟨_, Word.add_ok (Word.int64_holds (by omega) (by omega)), ?_⟩
  rw [Word.div_ok (by omega) (hquotient ▸ Word.int64_holds hquotient0 (by omega)), hquotient]

/-- The size that a picture of the source's aspect takes in the window. A source with a side that is
not positive has no aspect, and takes all of it. -/
def Size.fitted (source window : Size) : Size :=
  if source.1 ≤ 0 ∨ source.2 ≤ 0 then window
  else if source.2 * window.1 < source.1 * window.2 then
    (window.1, nearest window.1 source.2 source.1)
  else (nearest window.2 source.1 source.2, window.2)

/-- The picture is no larger than the window. -/
theorem Size.fitted_le (source : Size) {window : Size} (h : window.Positive) :
    (0 ≤ (source.fitted window).1 ∧ (source.fitted window).1 ≤ window.1)
      ∧ 0 ≤ (source.fitted window).2 ∧ (source.fitted window).2 ≤ window.2 := by
  obtain ⟨⟨-, hwidth⟩, -, hheight⟩ := h
  unfold Size.fitted
  split_ifs with hnone hwide
  · exact ⟨⟨hwidth.le, le_rfl⟩, hheight.le, le_rfl⟩
  · obtain ⟨hsource, hsource'⟩ : 0 < source.1 ∧ 0 < source.2 := by omega
    refine ⟨⟨hwidth.le, le_rfl⟩, nearest_nonneg hwidth.le hsource'.le hsource,
      nearest_le hsource ?_⟩
    rw [mul_comm window.1, mul_comm window.2]
    exact hwide.le
  · obtain ⟨hsource, hsource'⟩ : 0 < source.1 ∧ 0 < source.2 := by omega
    refine ⟨⟨nearest_nonneg hheight.le hsource.le hsource', nearest_le hsource' ?_⟩,
      hheight.le, le_rfl⟩
    rw [mul_comm window.2, mul_comm window.1]
    exact not_lt.1 hwide

/-- One side of the picture is the window's, and the other is the proportional length rounded to
nearest. -/
theorem Size.fitted_proportional {source : Size} (hsource : source.Positive) (window : Size) :
    ((source.fitted window).1 = window.1
      ∧ |(source.fitted window).2 * source.1 - window.1 * source.2| ≤ source.1 / 2)
    ∨ ((source.fitted window).2 = window.2
      ∧ |(source.fitted window).1 * source.2 - window.2 * source.1| ≤ source.2 / 2) := by
  obtain ⟨⟨-, hwidth⟩, -, hheight⟩ := hsource
  unfold Size.fitted
  rw [if_neg (by omega)]
  split_ifs
  · exact .inl ⟨rfl, abs_nearest_mul_sub_le _ _ hwidth⟩
  · exact .inr ⟨rfl, abs_nearest_mul_sub_le _ _ hheight⟩

/-- The rectangle of the given size in the middle of the window. The nearer margin is the smaller
one where the two differ. -/
def Rect.centred (window : Rect) (size : Size) : Rect :=
  let x0 := window.x0 + (window.x1 - window.x0 - size.1) / 2
  let y0 := window.y0 + (window.y1 - window.y0 - size.2) / 2
  ⟨x0, y0, x0 + size.1, y0 + size.2⟩

/-- The corners are in the word. -/
structure Rect.Holds (r : Rect) : Prop where
  x0 : Word.int32.Holds r.x0
  y0 : Word.int32.Holds r.y0
  x1 : Word.int32.Holds r.x1
  y1 : Word.int32.Holds r.y1

theorem Rect.size_eq {r : Rect} (hwidth : Word.int32.Holds (r.x1 - r.x0))
    (hheight : Word.int32.Holds (r.y1 - r.y0)) : r.size = .ok (r.x1 - r.x0, r.y1 - r.y0) :=
  bind_eq_ok.2 ⟨_, Word.sub_ok hwidth, bind_eq_ok.2 ⟨_, Word.sub_ok hheight, rfl⟩⟩

theorem Rect.centred_self (r : Rect) : r.centred (r.x1 - r.x0, r.y1 - r.y0) = r := by
  simp [centred]

theorem margin_eq {side length : Int} (hside : Word.int32.Holds side) (h0 : 0 ≤ length)
    (h : length ≤ side) : margin side length = .ok ((side - length) / 2) := by
  have hgreatest : side ≤ 2147483647 := hside.2
  have hhalf : (side - length).tdiv 2 = (side - length) / 2 :=
    Int.tdiv_eq_ediv_of_nonneg (by omega)
  have hword : Word.int32.Holds ((side - length) / 2) := Word.int32_holds (by omega) (by omega)
  unfold margin
  refine bind_eq_ok.2 ⟨_, Word.sub_ok (Word.int64_holds (by omega) (by omega)), ?_⟩
  refine bind_eq_ok.2 ⟨_, Word.div_ok (by decide) ?_, ?_⟩
  · rw [hhalf]
    exact Word.int64_holds (by omega) (by omega)
  · rw [hhalf, Word.wrap_of_holds hword]
    rfl

/-- The corners of a size that fits the window are in the word, as the window's are. -/
theorem Rect.centred_ok {window : Rect} (hwindow : window.Holds)
    (hside : Word.int32.Holds (window.x1 - window.x0))
    (hside' : Word.int32.Holds (window.y1 - window.y0)) {size : Size}
    (hwidth : size.1 ≤ window.x1 - window.x0) (hwidth0 : 0 ≤ size.1)
    (hheight : size.2 ≤ window.y1 - window.y0) (hheight0 : 0 ≤ size.2) :
    (do
      let x0 ← Word.int32.add window.x0 (← margin (window.x1 - window.x0) size.1)
      let y0 ← Word.int32.add window.y0 (← margin (window.y1 - window.y0) size.2)
      let x1 ← Word.int32.add x0 (Word.int32.wrap size.1)
      let y1 ← Word.int32.add y0 (Word.int32.wrap size.2)
      return (⟨x0, y0, x1, y1⟩ : Rect)) = Except.ok (window.centred size) := by
  obtain ⟨hx0, hy0, hx1, hy1⟩ := hwindow
  have holds_between : ∀ {a b n : Int}, Word.int32.Holds a → Word.int32.Holds b → a ≤ n → n ≤ b →
      Word.int32.Holds n := fun ha hb han hnb => ⟨ha.1.trans han, hnb.trans hb.2⟩
  rw [Word.wrap_of_holds (Word.int32_holds hwidth0 (hwidth.trans hside.2)),
    Word.wrap_of_holds (Word.int32_holds hheight0 (hheight.trans hside'.2)),
    margin_eq hside hwidth0 hwidth, margin_eq hside' hheight0 hheight]
  simp only [ok_bind]
  refine bind_eq_ok.2 ⟨_, Word.add_ok (holds_between hx0 hx1 (by omega) (by omega)), ?_⟩
  refine bind_eq_ok.2 ⟨_, Word.add_ok (holds_between hy0 hy1 (by omega) (by omega)), ?_⟩
  refine bind_eq_ok.2 ⟨_, Word.add_ok (holds_between hx0 hx1 (by omega) (by omega)), ?_⟩
  refine bind_eq_ok.2 ⟨_, Word.add_ok (holds_between hy0 hy1 (by omega) (by omega)), rfl⟩

theorem letterbox_eq {source : Size} {window : Rect} (hwindow : window.Holds)
    (hsize : Size.Positive (window.x1 - window.x0, window.y1 - window.y0))
    (hsource : Word.int32.Holds source.1) (hsource' : Word.int32.Holds source.2) :
    letterbox source.1 source.2 window = .ok (window.centred
      (source.fitted (window.x1 - window.x0, window.y1 - window.y0))) := by
  obtain ⟨⟨hfitted0, hfitted⟩, hfitted0', hfitted'⟩ := source.fitted_le hsize
  obtain ⟨⟨hwidth, hwidth0⟩, hheight, hheight0⟩ := hsize
  unfold letterbox
  refine bind_eq_ok.2 ⟨_, Rect.size_eq hwidth hheight, ?_⟩
  dsimp only at hwidth hwidth0 hheight hheight0 ⊢
  by_cases hnone : source.1 ≤ 0 ∨ source.2 ≤ 0
  · rw [if_pos (by tauto), Size.fitted, if_pos hnone, Rect.centred_self]
    rfl
  · obtain ⟨hsource0, hsource0'⟩ : 0 < source.1 ∧ 0 < source.2 := by omega
    have hwide := Size.Positive.holds_mul (s := (source.1, window.y1 - window.y0))
      ⟨⟨hsource, hsource0⟩, hheight, hheight0⟩
    have htall := Size.Positive.holds_mul (s := (source.2, window.x1 - window.x0))
      ⟨⟨hsource', hsource0'⟩, hwidth, hwidth0⟩
    have hcentred := Rect.centred_ok hwindow hwidth hheight hfitted hfitted0 hfitted' hfitted0'
    rw [if_neg (by omega)]
    dsimp only at hwide htall
    refine bind_eq_ok.2 ⟨_, Word.mul_ok (Word.int64_holds (by omega) (by omega)), ?_⟩
    refine bind_eq_ok.2 ⟨_, Word.mul_ok (Word.int64_holds (by omega) (by omega)), ?_⟩
    unfold Size.fitted at hcentred ⊢
    rw [if_neg hnone] at hcentred ⊢
    split_ifs at hcentred ⊢
    · exact bind_eq_ok.2 ⟨_, proportion_eq ⟨⟨hwidth, hwidth0⟩, hsource', hsource0'⟩ hsource
        hsource0, hcentred⟩
    · exact bind_eq_ok.2 ⟨_, proportion_eq ⟨⟨hheight, hheight0⟩, hsource, hsource0⟩ hsource'
        hsource0', hcentred⟩

/-- The rectangle lies in the window, and its corners are in order. -/
structure Rect.Within (r window : Rect) : Prop where
  left : window.x0 ≤ r.x0
  width : r.x0 ≤ r.x1
  right : r.x1 ≤ window.x1
  top : window.y0 ≤ r.y0
  height : r.y0 ≤ r.y1
  bottom : r.y1 ≤ window.y1

/-- Opposite margins differ by a unit at most. -/
structure Rect.Centred (r window : Rect) : Prop where
  horizontal : |(r.x0 - window.x0) - (window.x1 - r.x1)| ≤ 1
  vertical : |(r.y0 - window.y0) - (window.y1 - r.y1)| ≤ 1

theorem Rect.within_centred (window : Rect) {size : Size} (hwidth0 : 0 ≤ size.1)
    (hwidth : size.1 ≤ window.x1 - window.x0) (hheight0 : 0 ≤ size.2)
    (hheight : size.2 ≤ window.y1 - window.y0) :
    (window.centred size).Within window ∧ (window.centred size).Centred window := by
  unfold Rect.centred
  refine ⟨?_, ?_⟩
  · constructor <;> dsimp only <;> omega
  · constructor <;> rw [abs_le] <;> dsimp only <;> omega

/-- A source and a window of positive sides are of the word, and so are the corners of the window.
Then no word is left on the way to the picture, which lies in the middle of the window, as wide or
as high as the window and on its other side of the proportional length, rounded to nearest. -/
theorem letterbox_fits {source : Size} {window : Rect} (hsource : source.Positive)
    (hwindow : window.Holds)
    (hsize : Size.Positive (window.x1 - window.x0, window.y1 - window.y0)) :
    ∃ r, letterbox source.1 source.2 window = .ok r ∧ r.Within window ∧ r.Centred window
      ∧ ((r.x1 - r.x0 = window.x1 - window.x0
          ∧ |(r.y1 - r.y0) * source.1 - (window.x1 - window.x0) * source.2| ≤ source.1 / 2)
        ∨ (r.y1 - r.y0 = window.y1 - window.y0
          ∧ |(r.x1 - r.x0) * source.2 - (window.y1 - window.y0) * source.1| ≤ source.2 / 2)) := by
  obtain ⟨⟨hwidth0, hwidth⟩, hheight0, hheight⟩ := source.fitted_le hsize
  obtain ⟨hwithin, hcentred⟩ := window.within_centred hwidth0 hwidth hheight0 hheight
  refine ⟨_, letterbox_eq hwindow hsize hsource.1.1 hsource.2.1, hwithin, hcentred, ?_⟩
  simpa only [Rect.centred, add_sub_cancel_left] using Size.fitted_proportional hsource _

/-- A picture one unit high at the edge of the word. The margins above and below differ. -/
theorem letterbox_fits_line :
    Size.Positive (2147483647, 1) ∧ ∃ r, letterbox 2147483647 1 ⟨-2147483648, -4, -1, 2⟩ = .ok r
      ∧ r.Within ⟨-2147483648, -4, -1, 2⟩ ∧ r.Centred ⟨-2147483648, -4, -1, 2⟩
      ∧ r = ⟨-2147483648, -2, -1, -1⟩ := by
  have hsource : Size.Positive (2147483647, 1) := by decide
  have hwindow : Rect.Holds ⟨-2147483648, -4, -1, 2⟩ :=
    ⟨by decide, by decide, by decide, by decide⟩
  obtain ⟨r, hr, hwithin, hcentred, -⟩ := letterbox_fits hsource hwindow (by decide)
  have hline : letterbox 2147483647 1 ⟨-2147483648, -4, -1, 2⟩ = .ok ⟨-2147483648, -2, -1, -1⟩ := by
    decide +kernel
  exact ⟨hsource, r, hr, hwithin, hcentred, Except.ok.inj (hr.symm.trans hline)⟩

end VideoOutput
