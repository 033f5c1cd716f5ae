/-!
# Lib.F64

Rust's `f64` is Lean's `Float` (IEEE binary64 with a logical model); this
module adds the two library functions a program of opacities uses, `f64::clamp`
and a rounded saturating cast, and the facts about comparison with the
constants `0.0` and `1.0` that their proofs need.

Comparisons are decided on the unpacked form of a float, so `NaN`, the
infinities and `-0.0` are ordinary cases here, never side conditions.

This module depends only on the Lean 4 core library.
-/

namespace F64

open Float.Model

/-! ## comparison -/

/-- `<` on floats is the IEEE comparison of their unpacked forms. -/
theorem lt_iff_compare (a b : Float) :
    a < b ↔ a.toModel.unpack.compare b.toModel.unpack = some .lt := by
  have hlt : a < b ↔ Float.lt a b = true := Iff.rfl
  have hmodel : a.toModel < b.toModel ↔ Float.Model.lt a.toModel b.toModel = true := Iff.rfl
  rw [hlt, Float.lt, decide_eq_true_iff, hmodel, Float.Model.lt, UnpackedFloat.lt, beq_iff_eq]

/-- `==` on floats is the IEEE comparison of their unpacked forms. -/
theorem beq_iff_compare (a b : Float) :
    (a == b) = true ↔ a.toModel.unpack.compare b.toModel.unpack = some .eq := by
  have hbeq : (a == b) = (a.toModel.unpack.compare b.toModel.unpack == some .eq) := rfl
  rw [hbeq, beq_iff_eq]

theorem isNaN_eq (a : Float) : a.isNaN = a.toModel.unpack.isNaN := rfl

theorem unpack_zero : (0.0 : Float).toModel.unpack = .zero .positive := rfl

theorem unpack_one : ∃ h, (1.0 : Float).toModel.unpack = .finite .positive 4503599627370496 (-52) h :=
  ⟨by decide, rfl⟩

theorem zero_lt_one : (0.0 : Float) < 1.0 := by decide

theorem not_zero_lt_zero : ¬ (0.0 : Float) < 0.0 := by decide

theorem not_one_lt_zero : ¬ (1.0 : Float) < 0.0 := by decide

/-- What is above one is above zero. -/
theorem zero_lt_of_one_lt {x : Float} (h : 1.0 < x) : 0.0 < x := by
  obtain ⟨hm, hone⟩ := unpack_one
  rw [lt_iff_compare, hone] at h
  rw [lt_iff_compare, unpack_zero]
  generalize x.toModel.unpack = u at h ⊢
  cases u with
  | notANumber => cases h
  | infinity s => cases s <;> first | rfl | cases h
  | zero s => cases h
  | finite s m e hme => cases s <;> first | rfl | cases h

/-- What is below zero is not above it. -/
theorem not_zero_lt_of_lt_zero {x : Float} (h : x < 0.0) : ¬ 0.0 < x := by
  rw [lt_iff_compare, unpack_zero] at h ⊢
  generalize x.toModel.unpack = u at h ⊢
  intro hpos
  cases u with
  | notANumber => cases h
  | infinity s =>
      cases s with
      | positive => cases h
      | negative => cases hpos
  | zero s => cases h
  | finite s m e hme =>
      cases s with
      | positive => cases h
      | negative => cases hpos

/-- Trichotomy with zero: what is a number and neither below nor above zero equals it. -/
theorem zero_beq_of_not_lt {x : Float} (hx : x.isNaN = false) (hlo : ¬ x < 0.0)
    (hhi : ¬ 0.0 < x) : (0.0 == x) = true := by
  rw [isNaN_eq] at hx
  rw [lt_iff_compare, unpack_zero] at hlo hhi
  rw [beq_iff_compare, unpack_zero]
  generalize x.toModel.unpack = u at hx hlo hhi ⊢
  cases u with
  | notANumber => cases hx
  | infinity s =>
      cases s with
      | positive => exact absurd rfl hhi
      | negative => exact absurd rfl hlo
  | zero s => rfl
  | finite s m e hme =>
      cases s with
      | positive => exact absurd rfl hhi
      | negative => exact absurd rfl hlo

/-- A number equals itself (a `NaN` would not). -/
theorem beq_self_of_zero_lt {x : Float} (h : 0.0 < x) : (x == x) = true := by
  rw [lt_iff_compare, unpack_zero] at h
  rw [beq_iff_compare]
  generalize x.toModel.unpack = u at h ⊢
  cases u with
  | notANumber => cases h
  | infinity s =>
      cases s with
      | positive => rfl
      | negative => cases h
  | zero s => cases h
  | finite s m e hme =>
      cases s with
      | positive =>
          show some ((compare e e).then (compare m m)) = some .eq
          simp
      | negative => cases h

/-! ## clamping -/

/-- `f64::clamp`: the two comparisons in the order the library makes them, so a
`NaN` passes through. -/
def clamp (x min max : Float) : Float :=
  let y := if x < min then min else x
  if y > max then max else y

/-- Clamping to `[0, 1]`, by the three places a float can be in. -/
theorem clamp_unit_cases (x : Float) :
    (x < 0.0 ∧ clamp x 0.0 1.0 = 0.0) ∨ (1.0 < x ∧ clamp x 0.0 1.0 = 1.0) ∨
      (¬ x < 0.0 ∧ ¬ 1.0 < x ∧ clamp x 0.0 1.0 = x) := by
  simp only [clamp, GT.gt]
  by_cases hlo : x < 0.0
  · exact .inl ⟨hlo, by rw [if_pos hlo, if_neg not_one_lt_zero]⟩
  · by_cases hhi : 1.0 < x
    · exact .inr (.inl ⟨hhi, by rw [if_neg hlo, if_pos hhi]⟩)
    · exact .inr (.inr ⟨hlo, hhi, by rw [if_neg hlo, if_neg hhi]⟩)

/-- Clamping twice is clamping once. -/
@[simp] theorem clamp_clamp (x : Float) : clamp (clamp x 0.0 1.0) 0.0 1.0 = clamp x 0.0 1.0 := by
  rcases clamp_unit_cases x with ⟨-, h⟩ | ⟨-, h⟩ | ⟨-, -, h⟩
  · rw [h]; decide
  · rw [h]; decide
  · rw [h, h]

/-- Clamping to `[0, 1]` does not change what is above zero. -/
theorem zero_lt_clamp (x : Float) : 0.0 < clamp x 0.0 1.0 ↔ 0.0 < x := by
  rcases clamp_unit_cases x with ⟨hx, h⟩ | ⟨hx, h⟩ | ⟨-, -, h⟩
  · rw [h]
    exact iff_of_false not_zero_lt_zero (not_zero_lt_of_lt_zero hx)
  · rw [h]
    exact iff_of_true zero_lt_one (zero_lt_of_one_lt hx)
  · rw [h]

/-! ## opacities -/

/-- The opacity an alpha stands for: the alpha clamped to `[0, 1]`, where
whatever is not above zero (a `NaN` included, which casts to the byte `0`) is
fully transparent. -/
def opacity (alpha : Float) : Float :=
  if 0.0 < alpha then clamp alpha 0.0 1.0 else 0.0

theorem opacity_of_not_lt {alpha : Float} (h : ¬ 0.0 < alpha) : opacity alpha = 0.0 := if_neg h

@[simp] theorem opacity_zero : opacity 0.0 = 0.0 := if_neg not_zero_lt_zero

@[simp] theorem opacity_clamp (alpha : Float) :
    opacity (clamp alpha 0.0 1.0) = opacity alpha := by
  simp only [opacity, zero_lt_clamp, clamp_clamp]

/-- On numbers the opacity is the clamped alpha. -/
theorem opacity_beq_clamp {alpha : Float} (h : alpha.isNaN = false) :
    (opacity alpha == clamp alpha 0.0 1.0) = true := by
  by_cases hpos : 0.0 < alpha
  · rw [opacity, if_pos hpos]
    exact beq_self_of_zero_lt ((zero_lt_clamp alpha).mpr hpos)
  · rw [opacity_of_not_lt hpos]
    rcases clamp_unit_cases alpha with ⟨-, hc⟩ | ⟨hone, -⟩ | ⟨hlo, -, hc⟩
    · rw [hc]; decide
    · exact absurd (zero_lt_of_one_lt hone) hpos
    · rw [hc]
      exact zero_beq_of_not_lt h hlo hpos

/-! ## the alpha byte -/

/-- `x.round() as u8`: round half away from zero, then the saturating cast
(negative and `NaN` to `0`, above the range to `255`).  The truncation and the
fraction of a float below `256` are exact. -/
def roundToU8 (x : Float) : UInt8 :=
  let t := x.toUInt8
  if t = 255 then 255 else if 0.5 ≤ x - t.toFloat then t + 1 else t

/-- The alpha byte of an alpha: `(alpha * 255.0).round() as u8`. -/
def alphaByte (alpha : Float) : UInt8 := roundToU8 (alpha * 255.0)

example : alphaByte 1.0 = 255 ∧ alphaByte 0.5 = 128 ∧ alphaByte 0.0 = 0 := by decide

/-- What is neither below nor above zero, `NaN` included, has no alpha. -/
theorem alphaByte_of_not_lt {x : Float} (hlo : ¬ x < 0.0) (hhi : ¬ 0.0 < x) : alphaByte x = 0 := by
  rw [lt_iff_compare, unpack_zero] at hlo hhi
  have hmul : x * 255.0 = .ofModel (pack (UnpackedFloat.mul Format.binary64 x.toModel.unpack
      (255.0 : Float).toModel.unpack)) := rfl
  rw [alphaByte, hmul]
  generalize x.toModel.unpack = u at hlo hhi ⊢
  cases u with
  | notANumber => decide
  | infinity s =>
      cases s with
      | positive => exact absurd rfl hhi
      | negative => exact absurd rfl hlo
  | zero s => cases s <;> decide
  | finite s m e hme =>
      cases s with
      | positive => exact absurd rfl hhi
      | negative => exact absurd rfl hlo

/-- A clamped alpha has the byte of its opacity. -/
theorem alphaByte_opacity {x : Float} (h : clamp x 0.0 1.0 = x) :
    alphaByte (opacity x) = alphaByte x := by
  by_cases hpos : 0.0 < x
  · rw [opacity, if_pos hpos, h]
  · rw [opacity_of_not_lt hpos]
    rcases clamp_unit_cases x with ⟨-, hc⟩ | ⟨hone, -⟩ | ⟨hlo, -, -⟩
    · rw [← h, hc]
    · exact absurd (zero_lt_of_one_lt hone) hpos
    · rw [alphaByte_of_not_lt hlo hpos]
      decide

end F64
