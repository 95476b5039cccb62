import VideoOutput.Geometry.Edge
import VideoOutput.Proofs.Arithmetic.Whole

/-!
# Resize zones across the window

Where the zones of opposite edges do not meet, the edge found `x` before the far side is the mirror
image of the one found at `x` (`at?_reflectX`). But the unit of the window that begins at `x` has
its opposite at `width - 1 - x`, and from there the image is found only where the edge does not
change from one unit to the next (`at?_succ`). So a near zone has as many units as it reaches, and
the far one has one less (`near?_across`, `exists_unmirrored`).
-/

namespace VideoOutput

namespace Edge

/-- Left and right exchanged. -/
def mirrorX : Edge → Edge
  | left => right
  | right => left
  | topLeft => topRight
  | topRight => topLeft
  | bottomLeft => bottomRight
  | bottomRight => bottomLeft
  | edge => edge

/-- Top and bottom exchanged. -/
def mirrorY : Edge → Edge
  | top => bottom
  | bottom => top
  | topLeft => bottomLeft
  | topRight => bottomRight
  | bottomLeft => topLeft
  | bottomRight => topRight
  | edge => edge

/-- The edge of the window with its axes exchanged. -/
def transpose : Edge → Edge
  | top => left
  | bottom => right
  | left => top
  | right => bottom
  | bottomLeft => topRight
  | topRight => bottomLeft
  | edge => edge

variable {x y reach width height : Int}

@[simp] theorem mirrorX_mirrorX (edge : Edge) : edge.mirrorX.mirrorX = edge := by cases edge <;> rfl

@[simp] theorem transpose_transpose (edge : Edge) : edge.transpose.transpose = edge := by
  cases edge <;> rfl

theorem mirrorY_eq (edge : Edge) : edge.mirrorY = edge.transpose.mirrorX.transpose := by
  cases edge <;> rfl

theorem mirrorX_injective : Function.Injective mirrorX :=
  Function.LeftInverse.injective mirrorX_mirrorX

theorem transpose_injective : Function.Injective transpose :=
  Function.LeftInverse.injective transpose_transpose

/-! ## Zones -/

theorem ofZones_transpose (near far near' far' : Bool) :
    ofZones near' far' near far = (ofZones near far near' far').map transpose := by
  cases near <;> cases far <;> cases near' <;> cases far' <;> rfl

/-- No position is both near the left edge and near the right one. -/
theorem ofZones_mirrorX {near far : Bool} (h : near = false ∨ far = false) (near' far' : Bool) :
    ofZones far near near' far' = (ofZones near far near' far').map mirrorX := by
  revert h
  cases near <;> cases far <;> cases near' <;> cases far' <;> decide

theorem ofZones_inj {near far near₂ far₂ : Bool} (h : near = false ∨ far = false)
    (h₂ : near₂ = false ∨ far₂ = false) (near' far' : Bool) :
    ofZones near₂ far₂ near' far' = ofZones near far near' far' ↔ near₂ = near ∧ far₂ = far := by
  revert h h₂
  cases near <;> cases far <;> cases near₂ <;> cases far₂ <;> cases near' <;> cases far' <;> decide

/-! ## Positions -/

theorem at?_eq (hwidth : Word.int32.Holds (width - reach))
    (hheight : Word.int32.Holds (height - reach)) (x y : Int) : at? x y reach width height
      = .ok (ofZones (decide (x < reach)) (decide (x > width - reach)) (decide (y < reach))
          (decide (y > height - reach))) := by
  unfold at?
  rw [Word.sub_ok hwidth, Word.sub_ok hheight]
  rfl

theorem at?_transpose (x y reach width height : Int) :
    at? y x reach height width = Option.map transpose <$> at? x y reach width height := by
  unfold at? Word.sub Word.within
  split_ifs
  · exact congrArg Except.ok (ofZones_transpose _ _ _ _)
  all_goals rfl

theorem at?_reflectX (hreach : 2 * reach ≤ width) (x y height : Int) :
    at? (width - x) y reach width height = Option.map mirrorX <$> at? x y reach width height := by
  have hnear : decide (width - x < reach) = decide (x > width - reach) := by
    simp only [decide_eq_decide]
    omega
  have hfar : decide (width - x > width - reach) = decide (x < reach) := by
    simp only [decide_eq_decide]
    omega
  have hapart : decide (x < reach) = false ∨ decide (x > width - reach) = false := by
    simp only [decide_eq_false_iff_not]
    omega
  unfold at? Word.sub Word.within
  split_ifs
  · refine congrArg Except.ok ?_
    rw [hnear, hfar]
    exact ofZones_mirrorX hapart _ _
  all_goals rfl

/-- The edge changes where the near zone ends and where the far one begins. -/
theorem at?_succ (hreach : 2 * reach ≤ width) (hwidth : Word.int32.Holds (width - reach))
    (hheight : Word.int32.Holds (height - reach)) (x y : Int) :
    at? (x + 1) y reach width height = at? x y reach width height
      ↔ x ≠ reach - 1 ∧ x ≠ width - reach := by
  have hapart : ∀ x : Int, decide (x < reach) = false ∨ decide (x > width - reach) = false := by
    intro x
    simp only [decide_eq_false_iff_not]
    omega
  rw [at?_eq hwidth hheight, at?_eq hwidth hheight, Except.ok.injEq,
    ofZones_inj (hapart x) (hapart (x + 1))]
  simp only [decide_eq_decide]
  omega

/-- From the unit on the other side the mirrored edge is found but at two bounds of the zones. -/
theorem at?_acrossX (hreach : 0 ≤ reach) (hwidth : 2 * reach ≤ width)
    (hwidth' : Word.int32.Holds width) (hheight : 2 * reach ≤ height)
    (hheight' : Word.int32.Holds height) (x y : Int) :
    ∃ edge across, at? x y reach width height = .ok edge
      ∧ at? (width - 1 - x) y reach width height = .ok across
      ∧ (across = edge.map mirrorX ↔ x ≠ reach - 1 ∧ x ≠ width - reach) := by
  have hfar : Word.int32.Holds (width - reach) :=
    Word.int32_holds (by omega) (le_trans (by omega) hwidth'.2)
  have hfar' : Word.int32.Holds (height - reach) :=
    Word.int32_holds (by omega) (le_trans (by omega) hheight'.2)
  have hsucc := at?_succ hwidth hfar hfar' x y
  rw [at?_eq hfar hfar', at?_eq hfar hfar', Except.ok.injEq] at hsucc
  refine ⟨_, _, at?_eq hfar hfar' x y, ?_,
    (Option.map_injective mirrorX_injective).eq_iff.trans hsucc⟩
  rw [show width - 1 - x = width - (x + 1) by omega, at?_reflectX hwidth, at?_eq hfar hfar']
  rfl

theorem at?_acrossY (hreach : 0 ≤ reach) (hwidth : 2 * reach ≤ width)
    (hwidth' : Word.int32.Holds width) (hheight : 2 * reach ≤ height)
    (hheight' : Word.int32.Holds height) (x y : Int) :
    ∃ edge across, at? x y reach width height = .ok edge
      ∧ at? x (height - 1 - y) reach width height = .ok across
      ∧ (across = edge.map mirrorY ↔ y ≠ reach - 1 ∧ y ≠ height - reach) := by
  have hmirror : mirrorY ∘ transpose = transpose ∘ mirrorX := by
    funext edge
    simp [mirrorY_eq]
  obtain ⟨edge, across, hedge, hacross, hiff⟩ :=
    at?_acrossX hreach hheight hheight' hwidth hwidth' y x
  refine ⟨edge.map transpose, across.map transpose, ?_, ?_, ?_⟩
  · rw [at?_transpose, hedge]
    rfl
  · rw [at?_transpose, hacross]
    rfl
  · rw [Option.map_map, hmirror, ← Option.map_map,
      (Option.map_injective transpose_injective).eq_iff, hiff]

/-! ## Positions on the surface -/

theorem near?_ofInt (hx : 0 ≤ x) (hx' : Word.int32.Holds x) (hy : 0 ≤ y) (hy' : Word.int32.Holds y)
    (reach width height : Int) :
    near? (.ofInt x) (.ofInt y) reach width height = at? x y reach width height := by
  rw [near?, truncate_ofInt hx' hx, truncate_ofInt hy' hy]

/-- Seen from the units opposite to each other, across the window and down it, the edges are mirror
images but at two places: in the last unit of the near zone, whose opposite lies in no far zone, and
in that opposite. -/
theorem near?_across (hreach : 0 ≤ reach) (hwidth : 2 * reach ≤ width)
    (hwidth' : Word.int32.Holds width) (hheight : 2 * reach ≤ height)
    (hheight' : Word.int32.Holds height) (hx : 0 ≤ x) (hx' : x < width) (hy : 0 ≤ y)
    (hy' : y < height) :
    ∃ edge acrossX acrossY, near? (.ofInt x) (.ofInt y) reach width height = .ok edge
      ∧ near? (.ofInt (width - 1 - x)) (.ofInt y) reach width height = .ok acrossX
      ∧ near? (.ofInt x) (.ofInt (height - 1 - y)) reach width height = .ok acrossY
      ∧ (acrossX = edge.map mirrorX ↔ x ≠ reach - 1 ∧ x ≠ width - reach)
      ∧ (acrossY = edge.map mirrorY ↔ y ≠ reach - 1 ∧ y ≠ height - reach) := by
  have hwhole : ∀ {n side : Int}, Word.int32.Holds side → 0 ≤ n → n < side → Word.int32.Holds n :=
    fun hside hn hn' => Word.int32_holds hn (hn'.le.trans hside.2)
  have hxw := hwhole hwidth' hx hx'
  have hyw := hwhole hheight' hy hy'
  obtain ⟨edge, acrossX, hedge, hacrossX, hiffX⟩ :=
    at?_acrossX hreach hwidth hwidth' hheight hheight' x y
  obtain ⟨edge', acrossY, hedge', hacrossY, hiffY⟩ :=
    at?_acrossY hreach hwidth hwidth' hheight hheight' x y
  obtain rfl : edge = edge' := Except.ok.inj (hedge.symm.trans hedge')
  refine ⟨edge, acrossX, acrossY, ?_, ?_, ?_, hiffX, hiffY⟩
  · rw [near?_ofInt hx hxw hy hyw, hedge]
  · rw [near?_ofInt (by omega) (hwhole hwidth' (by omega) (by omega)) hy hyw, hacrossX]
  · rw [near?_ofInt hx hxw (by omega) (hwhole hheight' (by omega) (by omega)), hacrossY]

/-- The last unit of a corner zone finds the corner; across the window there is only the top edge,
and down it the mirrored corner is found. -/
theorem near?_across_corner :
    near? (.ofInt 9) (.ofInt 3) 10 800 600 = .ok (some topLeft)
      ∧ near? (.ofInt 790) (.ofInt 3) 10 800 600 ≠ .ok (some topRight)
      ∧ near? (.ofInt 9) (.ofInt 596) 10 800 600 = .ok (some bottomLeft) := by
  obtain ⟨edge, acrossX, acrossY, hedge, hacrossX, hacrossY, hiffX, hiffY⟩ :=
    @near?_across 9 3 10 800 600 (by decide) (by decide) (by decide) (by decide) (by decide)
      (by decide) (by decide) (by decide) (by decide)
  have hcorner : near? (.ofInt 9) (.ofInt 3) 10 800 600 = .ok (some topLeft) := by decide +kernel
  obtain rfl : edge = some topLeft := Except.ok.inj (hedge.symm.trans hcorner)
  have hdiffers : acrossX ≠ some topRight := fun h => (hiffX.1 h).1 rfl
  refine ⟨hcorner, fun h => hdiffers (Except.ok.inj (hacrossX.symm.trans h)), ?_⟩
  exact hacrossY.trans (congrArg Except.ok (hiffY.2 (by decide)))

/-- The tenth unit from the left finds the left edge, the tenth from the right none. -/
theorem exists_unmirrored : ¬ ∀ x y reach width height : Int, 0 ≤ reach → 2 * reach ≤ width →
    Word.int32.Holds width → 2 * reach ≤ height → Word.int32.Holds height → 0 ≤ x → x < width →
    0 ≤ y → y < height →
    ∃ edge, near? (.ofInt x) (.ofInt y) reach width height = .ok edge
      ∧ near? (.ofInt (width - 1 - x)) (.ofInt y) reach width height = .ok (edge.map mirrorX)
      ∧ near? (.ofInt x) (.ofInt (height - 1 - y)) reach width height
        = .ok (edge.map mirrorY) := by
  intro hall
  obtain ⟨edge, hedge, hacross, -⟩ := hall 9 300 10 800 600 (by decide) (by decide) (by decide)
    (by decide) (by decide) (by decide) (by decide) (by decide) (by decide)
  have hleft : near? (.ofInt 9) (.ofInt 300) 10 800 600 = .ok (some left) := by decide +kernel
  have hnone : near? (.ofInt (800 - 1 - 9)) (.ofInt 300) 10 800 600 = .ok none := by decide +kernel
  obtain rfl : edge = some left := Except.ok.inj (hedge.symm.trans hleft)
  cases hnone.symm.trans hacross

end Edge

end VideoOutput
