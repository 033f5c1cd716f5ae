/-!
# Lib.I32

Rust's `i32` is Lean's `Int32`, whose operations wrap as a release build's do.
This module says where they are exact: an operation whose mathematical result is
in the range of the type computes that result.  The operations of a build with
overflow checks, `checkedSub` and `checkedAbs`, have a result just there.

This module depends only on the Lean 4 core library.
-/

namespace I32

/-- The integer is in the range of `i32`. -/
def InRange (z : Int) : Prop := -2147483648 ≤ z ∧ z < 2147483648

instance (z : Int) : Decidable (InRange z) := inferInstanceAs (Decidable (_ ∧ _))

/-- Wrapping an integer in range does nothing. -/
theorem bmod_eq {z : Int} (h : InRange z) : z.bmod 4294967296 = z := by
  have hlo := h.1
  have hhi := h.2
  exact Int.bmod_eq_of_le (by omega) (by omega)

theorem inRange_toInt (x : Int32) : InRange x.toInt := ⟨x.le_toInt, x.toInt_lt⟩

theorem toInt_sub {x y : Int32} (h : InRange (x.toInt - y.toInt)) :
    (x - y).toInt = x.toInt - y.toInt := by
  rw [Int32.toInt_sub]
  exact bmod_eq h

theorem toInt_mul {x y : Int32} (h : InRange (x.toInt * y.toInt)) :
    (x * y).toInt = x.toInt * y.toInt := by
  rw [Int32.toInt_mul]
  exact bmod_eq h

/-- The absolute value is exact off the smallest number. -/
theorem toInt_abs {x : Int32} (h : x.toInt ≠ -2147483648) : x.abs.toInt = x.toInt.natAbs := by
  have hne : x.toBitVec ≠ BitVec.intMin 32 := by
    intro hmin
    have hval : x.toInt = (BitVec.intMin 32).toInt := congrArg BitVec.toInt hmin
    exact h (hval.trans (by decide))
  exact BitVec.toInt_abs_eq_natAbs_of_ne_intMin hne

/-- The absolute difference is exact when it is in range. -/
theorem toInt_abs_sub {x y : Int32} (h : (x.toInt - y.toInt).natAbs < 2147483648) :
    (x - y).abs.toInt = (x.toInt - y.toInt).natAbs := by
  have hsub : (x - y).toInt = x.toInt - y.toInt := toInt_sub ⟨by omega, by omega⟩
  rw [toInt_abs (by rw [hsub]; omega), hsub]

/-- The cast from `u32` is exact in the lower half of its range. -/
theorem toInt_toInt32 {x : UInt32} (h : x.toNat < 2147483648) : x.toInt32.toInt = x.toNat := by
  have hcast : x.toInt32.toInt = x.toBitVec.toInt := rfl
  have hhalf : 2 * x.toBitVec.toNat < 2 ^ 32 := by
    show 2 * x.toNat < 2 ^ 32
    omega
  rw [hcast, BitVec.toInt_eq_toNat_of_lt hhalf]
  rfl

theorem toInt_max (x y : Int32) : (max x y).toInt = max x.toInt y.toInt := by
  have hmax : max x y = if x ≤ y then y else x := rfl
  rw [hmax]
  split
  · next h => exact (Int.max_eq_right (Int32.le_iff_toInt_le.mp h)).symm
  · next h =>
      have hle := Int32.le_iff_toInt_le.mp (Int32.le_of_lt (Int32.not_le.mp h))
      exact (Int.max_eq_left hle).symm

/-- Dividing a number that is not negative by a positive one rounds down. -/
theorem toInt_div {x y : Int32} (hx : 0 ≤ x.toInt) (hy : 0 < y.toInt) :
    (x / y).toInt = x.toInt / y.toInt := by
  have hmax := (inRange_toInt x).2
  have hle : x.toInt / y.toInt ≤ x.toInt := Int.ediv_le_self y.toInt hx
  have hpos : 0 ≤ x.toInt / y.toInt := Int.ediv_nonneg hx (Int.le_of_lt hy)
  rw [Int32.toInt_div, Int.tdiv_eq_ediv_of_nonneg hx]
  exact bmod_eq ⟨by omega, by omega⟩

/-! ## checked operations -/

/-- Subtraction, `none` where it overflows. -/
def checkedSub (x y : Int32) : Option Int32 := if InRange (x.toInt - y.toInt) then some (x - y) else none

/-- The absolute value, `none` where it overflows. -/
def checkedAbs (x : Int32) : Option Int32 := if x.toInt = -2147483648 then none else some x.abs

/-- The checked distance of two numbers: it has to be in range itself. -/
theorem checkedSub_bind_checkedAbs (x y : Int32) :
    (checkedSub x y).bind checkedAbs =
      if (x.toInt - y.toInt).natAbs < 2147483648 then some (x - y).abs else none := by
  by_cases hsub : InRange (x.toInt - y.toInt)
  · have hlo := hsub.1
    have hhi := hsub.2
    rw [checkedSub, if_pos hsub, Option.bind_some, checkedAbs, toInt_sub hsub]
    by_cases hmin : x.toInt - y.toInt = -2147483648
    · rw [if_pos hmin, if_neg (by omega)]
    · rw [if_neg hmin, if_pos (by omega)]
  · have hfar : ¬ (x.toInt - y.toInt).natAbs < 2147483648 := fun h => hsub ⟨by omega, by omega⟩
    rw [checkedSub, if_neg hsub, Option.bind_none, if_neg hfar]

end I32
