import FacetElements.Scalar
import Mathlib.Tactic

/-!
# Exact scalars

In exact arithmetic the order of a sum or of a product does not matter, and
nearness is a bound on the distance.  Nothing but a value itself is near it
within zero.
-/

namespace FacetElements

variable {K : Type}

theorem sumLeft_eq_sum [AddMonoid K] (xs : List K) : sumLeft xs = xs.sum :=
  List.sum_eq_foldl.symm

theorem prodLeft_eq_prod [Monoid K] (xs : List K) : prodLeft xs = xs.prod :=
  List.prod_eq_foldl.symm

section Order

variable [Field K] [LinearOrder K] [IsStrictOrderedRing K]

theorem magnitude_eq_abs (x : K) : magnitude x = |x| := by
  unfold magnitude
  by_cases hx : x < 0
  · rw [if_pos hx, abs_of_neg hx]
  · rw [if_neg hx, abs_of_nonneg (le_of_not_gt hx)]

theorem near_iff_abs_sub_le {eps a b : K} : Near eps a b ↔ |a - b| ≤ eps := by
  rw [Near, magnitude_eq_abs]

theorem near_zero_iff {a b : K} : Near 0 a b ↔ a = b := by
  rw [near_iff_abs_sub_le, abs_nonpos_iff, sub_eq_zero]

end Order

end FacetElements
