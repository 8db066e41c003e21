import Mathlib

/-! Quotients of integers rounded half up, what multiplying by a scaled factor and then by its
rounded reciprocal can gain, and how far two factors are from their rounded product.
-/

namespace Foundation

/-- The integer nearest to a quotient, the greater one where two are equally near. -/
def halfUp (num den : Int) : Int := (num + den / 2) / den

section Bounds

variable {den : Int} (num : Int)

theorem halfUp_mul_le (positive : 0 < den) : halfUp num den * den ≤ num + den / 2 :=
  Int.ediv_mul_le _ (ne_of_gt positive)

theorem lt_halfUp_mul (positive : 0 < den) : num + den / 2 < halfUp num den * den + den := by
  have bound := Int.lt_ediv_add_one_mul_self (num + den / 2) positive
  rwa [add_mul, one_mul] at bound

/-- Rounding is off by one half at most. -/
theorem halfUp_error (positive : 0 < den) : |2 * (halfUp num den * den) - 2 * num| ≤ den := by
  have above := halfUp_mul_le num positive
  have below := lt_halfUp_mul num positive
  rw [abs_le]
  constructor <;> omega

theorem halfUp_nonneg (positive : 0 < den) (nonneg : 0 ≤ num) : 0 ≤ halfUp num den :=
  Int.ediv_nonneg (by omega) (by omega)

end Bounds

/-- A rounded quotient is rounded down exactly when the remainder is under one half. -/
theorem halfUp_mul_le_iff {den : Int} (num : Int) (positive : 0 < den)
    : halfUp num den * den ≤ num ↔ 2 * (num % den) < den := by
  have split := Int.emod_add_mul_ediv num den
  have remainderNonneg := Int.emod_nonneg num (ne_of_gt positive)
  have remainderLt := Int.emod_lt_of_pos num positive
  have parts : halfUp num den = num / den + (num % den + den / 2) / den := by
    unfold halfUp
    conv_lhs => rw [← split]
    rw [show num % den + den * (num / den) + den / 2
        = num % den + den / 2 + den * (num / den) by ring,
      Int.add_mul_ediv_left _ _ (ne_of_gt positive), add_comm]
  rw [parts, add_mul, mul_comm (num / den)]
  by_cases down : 2 * (num % den) < den
  · have none : (num % den + den / 2) / den = 0 := Int.ediv_eq_zero_of_lt (by omega) (by omega)
    rw [none]
    omega
  · have one : (num % den + den / 2) / den = 1 :=
      (Int.ediv_eq_iff_of_pos positive).mpr (by omega)
    rw [one]
    omega

section Product

variable {scale : Int}

/-- Multiplying by the rounded product of two scaled factors is not far from multiplying by one
and then by the other. The four roundings are bounded in units of the squared scale.
-/
theorem halfUp_product_error (positive : 0 < scale) {x first second : Int} (nonneg : 0 ≤ x)
    (secondNonneg : 0 ≤ second)
    : 2 * scale
        * |halfUp (x * halfUp (first * second) scale) scale
          - halfUp (halfUp (x * first) scale * second) scale|
      ≤ x + second + 2 * scale := by
  set product := halfUp (first * second) scale
  set there := halfUp (x * first) scale
  set direct := halfUp (x * product) scale
  set legs := halfUp (there * second) scale
  -- Both ways are compared with the exact product, each rounding being off by half a unit
  have directError
      : |2 * (direct * scale * scale) - 2 * (x * first * second)|
        ≤ scale * scale + x * scale :=
    calc
      |2 * (direct * scale * scale) - 2 * (x * first * second)|
          = |(2 * (direct * scale) - 2 * (x * product)) * scale
            + x * (2 * (product * scale) - 2 * (first * second))| := by ring_nf
      _ ≤ |2 * (direct * scale) - 2 * (x * product)| * scale
            + x * |2 * (product * scale) - 2 * (first * second)| := by
        refine (abs_add_le _ _).trans (le_of_eq ?_)
        rw [abs_mul, abs_mul, abs_of_pos positive, abs_of_nonneg nonneg]
      _ ≤ scale * scale + x * scale :=
        add_le_add
          (mul_le_mul_of_nonneg_right (halfUp_error _ positive) (le_of_lt positive))
          (mul_le_mul_of_nonneg_left (halfUp_error _ positive) nonneg)
  have legsError
      : |2 * (legs * scale * scale) - 2 * (x * first * second)|
        ≤ scale * scale + scale * second :=
    calc
      |2 * (legs * scale * scale) - 2 * (x * first * second)|
          = |(2 * (legs * scale) - 2 * (there * second)) * scale
            + (2 * (there * scale) - 2 * (x * first)) * second| := by ring_nf
      _ ≤ |2 * (legs * scale) - 2 * (there * second)| * scale
            + |2 * (there * scale) - 2 * (x * first)| * second := by
        refine (abs_add_le _ _).trans (le_of_eq ?_)
        rw [abs_mul, abs_mul, abs_of_pos positive, abs_of_nonneg secondNonneg]
      _ ≤ scale * scale + scale * second :=
        add_le_add
          (mul_le_mul_of_nonneg_right (halfUp_error _ positive) (le_of_lt positive))
          (mul_le_mul_of_nonneg_right (halfUp_error _ positive) secondNonneg)
  have square : 0 < 2 * scale * scale := mul_pos (mul_pos (by decide) positive) positive
  have apart
      : 2 * scale * |direct - legs| * scale ≤ (x + second + 2 * scale) * scale :=
    calc
      2 * scale * |direct - legs| * scale
          = |2 * (direct * scale * scale) - 2 * (legs * scale * scale)| := by
        rw [show 2 * (direct * scale * scale) - 2 * (legs * scale * scale)
            = 2 * scale * scale * (direct - legs) by ring,
          abs_mul, abs_of_pos square]
        ring
      _ ≤ |2 * (direct * scale * scale) - 2 * (x * first * second)|
            + |2 * (legs * scale * scale) - 2 * (x * first * second)| := by
        rw [abs_sub_comm (2 * (legs * scale * scale))]
        exact abs_sub_le _ _ _
      _ ≤ (scale * scale + x * scale) + (scale * scale + scale * second) :=
        add_le_add directError legsError
      _ = (x + second + 2 * scale) * scale := by ring
  exact le_of_mul_le_mul_right apart positive

end Product

section RoundTrip

variable {scale factor reciprocal : Int}

/-- Multiply by a scaled factor, round, and do the same with its reciprocal. -/
def thereAndBack (scale factor reciprocal x : Int) : Int :=
  halfUp (halfUp (x * factor) scale * reciprocal) scale

/-- With a reciprocal that is not too great, a round trip gains less than one unit and the
unit of the other side. Both rounding errors are bounded in units of the squared scale.
-/
theorem thereAndBack_le (scalePositive : 0 < scale) (factorPositive : 0 < factor)
    (reciprocalNonneg : 0 ≤ reciprocal) (notAbove : reciprocal * factor ≤ scale * scale)
    {x unit : Int} (nonneg : 0 ≤ x) (covers : scale ≤ unit * factor)
    : thereAndBack scale factor reciprocal x ≤ x + 1 + unit := by
  have there := halfUp_mul_le (x * factor) scalePositive
  have back := halfUp_mul_le (halfUp (x * factor) scale * reciprocal) scalePositive
  have half : 2 * (scale / 2) ≤ scale := Int.mul_ediv_self_le (by omega)
  have square : 0 < scale * scale := mul_pos scalePositive scalePositive
  have unitPositive : 0 < unit := by
    by_contra notPositive
    have := mul_nonpos_of_nonpos_of_nonneg (not_lt.mp notPositive) (le_of_lt factorPositive)
    omega
  -- Half a unit lost on the way there is worth half the reciprocal on the way back
  have rest : reciprocal * scale ≤ unit * (scale * scale) :=
    calc
      reciprocal * scale ≤ reciprocal * (unit * factor) :=
        mul_le_mul_of_nonneg_left covers reciprocalNonneg
      _ = unit * (reciprocal * factor) := by ring
      _ ≤ unit * (scale * scale) := mul_le_mul_of_nonneg_left notAbove (le_of_lt unitPositive)
  have gained
      : 2 * thereAndBack scale factor reciprocal x * (scale * scale)
        ≤ (2 * x + unit + 1) * (scale * scale) :=
    calc
      2 * thereAndBack scale factor reciprocal x * (scale * scale)
          = 2 * (thereAndBack scale factor reciprocal x * scale) * scale := by ring
      _ ≤ (2 * (halfUp (x * factor) scale * reciprocal) + scale) * scale := by
        apply mul_le_mul_of_nonneg_right _ (le_of_lt scalePositive)
        unfold thereAndBack
        omega
      _ = 2 * (halfUp (x * factor) scale * scale) * reciprocal + scale * scale := by ring
      _ ≤ (2 * (x * factor) + scale) * reciprocal + scale * scale := by
        apply Int.add_le_add_right
        apply mul_le_mul_of_nonneg_right _ reciprocalNonneg
        omega
      _ = 2 * x * (reciprocal * factor) + reciprocal * scale + scale * scale := by ring
      _ ≤ 2 * x * (scale * scale) + unit * (scale * scale) + scale * scale := by
        have kept := mul_le_mul_of_nonneg_left notAbove (by omega : 0 ≤ 2 * x)
        omega
      _ = (2 * x + unit + 1) * (scale * scale) := by ring
  have := le_of_mul_le_mul_right gained square
  omega

/-- With a reciprocal that is too great, round trips gain without bound. -/
theorem thereAndBack_unbounded (scalePositive : 0 < scale) (factorPositive : 0 < factor)
    (above : scale * scale < reciprocal * factor) (gain : Int)
    : ∃ x, 0 ≤ x ∧ x + gain < thereAndBack scale factor reciprocal x := by
  have square : 0 < scale * scale := mul_pos scalePositive scalePositive
  have reciprocalPositive : 0 < reciprocal :=
    pos_of_mul_pos_left (lt_trans square above) (le_of_lt factorPositive)
  have product : 0 < scale * reciprocal := mul_pos scalePositive reciprocalPositive
  have room : 0 ≤ |gain| * (scale * scale) := mul_nonneg (abs_nonneg gain) (le_of_lt square)
  -- Large enough for one unit of each rounding and for the gain
  refine ⟨scale * reciprocal + scale * scale + |gain| * (scale * scale) + 1, by omega, ?_⟩
  set x := scale * reciprocal + scale * scale + |gain| * (scale * scale) + 1 with xDef
  have there := lt_halfUp_mul (x * factor) scalePositive
  have back := lt_halfUp_mul (halfUp (x * factor) scale * reciprocal) scalePositive
  have half : 0 ≤ scale / 2 := by omega
  have gained
      : (x + gain) * (scale * scale)
        < thereAndBack scale factor reciprocal x * (scale * scale) :=
    calc
      (x + gain) * (scale * scale) ≤ x * (scale * scale) + |gain| * (scale * scale) := by
        have := mul_le_mul_of_nonneg_right (le_abs_self gain) (le_of_lt square)
        linarith
      _ < x * (scale * scale) + x - scale * reciprocal - scale * scale := by omega
      _ ≤ x * (reciprocal * factor) - scale * reciprocal - scale * scale := by
        have := mul_le_mul_of_nonneg_left (Int.add_one_le_iff.mpr above) (by omega : 0 ≤ x)
        linarith
      _ = (x * factor - scale) * reciprocal - scale * scale := by ring
      _ ≤ halfUp (x * factor) scale * scale * reciprocal - scale * scale := by
        apply Int.sub_le_sub_right
        apply mul_le_mul_of_nonneg_right _ (le_of_lt reciprocalPositive)
        omega
      _ = (halfUp (x * factor) scale * reciprocal - scale) * scale := by ring
      _ ≤ thereAndBack scale factor reciprocal x * scale * scale := by
        apply mul_le_mul_of_nonneg_right _ (le_of_lt scalePositive)
        unfold thereAndBack
        omega
      _ = thereAndBack scale factor reciprocal x * (scale * scale) := by ring
  exact lt_of_mul_lt_mul_right gained (le_of_lt square)

end RoundTrip

end Foundation
