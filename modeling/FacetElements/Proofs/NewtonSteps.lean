import FacetElements.Proofs.LegendreValues
import FacetElements.Quadrature.Lobatto
import Mathlib.Dynamics.Newton

/-!
# Newton's method for abscissae

The search for an abscissa adds to it a step of Newton's method for the Lobatto
polynomial.  By the differential equation the derivative of that polynomial is a multiple
of the Legendre polynomial, which is how the program divides by it.  Away from the ends of
`[-1, 1]` the program has the exact slope, and at an end it multiplies whatever slope it has
by zero.  There the search walks along the iterates of Newton's method, and it stays where
it is at the ends, at the roots of the derivative of the Legendre polynomial, and nowhere
else.
-/

namespace FacetElements

open Polynomial

namespace Lobatto

variable {K : Type} [Field K]

theorem eval_lobattoPolynomial_eq_zero_iff {n : ℕ} {x : K} :
    (lobattoPolynomial K n).eval x = 0 ↔
      x = 1 ∨ x = -1 ∨ (derivative (legendrePolynomial K n)).eval x = 0 := by
  have hends : 1 - x ^ 2 = 0 ↔ x = 1 ∨ x = -1 := by
    rw [sub_eq_zero, eq_comm, sq, mul_self_eq_one_iff]
  rw [lobattoPolynomial, eval_mul, mul_eq_zero, ← or_assoc]
  simp [hends]

variable [LinearOrder K]

theorem newton_one (n : ℕ) (x : K) : newton n 1 x = x + newtonUpdate n x := by
  simp [newton]

variable [IsStrictOrderedRing K] {n : ℕ} {x : K}

/-- An abscissa at an end or away from both, at which the Lobatto polynomial has a slope. -/
structure Regular (n : ℕ) (x : K) : Prop where
  value_ne_zero : (legendrePolynomial K n).eval x ≠ 0
  not_close : x = 1 ∨ x = -1 ∨ 1e-14 ≤ |1 - x * x|

/-! ## One step -/

theorem eval_derivative_lobattoPolynomial_ne_zero (hn : 1 ≤ n) (hx : Regular n x) :
    (derivative (lobattoPolynomial K n)).eval x ≠ 0 := by
  obtain ⟨m, rfl⟩ : ∃ m, n = m + 1 := ⟨n - 1, by omega⟩
  rw [eval_derivative_lobattoPolynomial]
  exact mul_ne_zero (neg_ne_zero.mpr (scale_succ_ne_zero m)) hx.value_ne_zero

theorem one_sub_mul_slope (hx : Regular n x) :
    (1 - x * x) * (legendre n x).2 =
      (1 - x * x) * (derivative (legendrePolynomial K n)).eval x := by
  rcases hx.not_close with rfl | rfl | hinner
  · rw [mul_one, sub_self, zero_mul, zero_mul]
  · rw [neg_one_mul, neg_neg, sub_self, zero_mul, zero_mul]
  · rw [legendre_snd_of_le n hinner]

theorem newtonUpdate_eq (hx : Regular n x) :
    newtonUpdate n x =
      -((lobattoPolynomial K n).eval x / (derivative (lobattoPolynomial K n)).eval x) := by
  have hupdate : newtonUpdate n x =
      (1 - x * x) * (legendre n x).2 / (scale n * (legendre n x).1) := rfl
  have hvalue : (lobattoPolynomial K n).eval x =
      (1 - x * x) * (derivative (legendrePolynomial K n)).eval x := by
    simp [lobattoPolynomial, sq]
  have hscale : (scale n : K) = (n : K) * ((n : K) + 1) := by
    rw [scale]
    push_cast
    rfl
  rw [hupdate, legendre_fst, one_sub_mul_slope hx, eval_derivative_lobattoPolynomial, hvalue,
    hscale, neg_mul, div_neg, neg_neg]

theorem add_newtonUpdate (hx : Regular n x) :
    x + newtonUpdate n x = (lobattoPolynomial K n).newtonMap x := by
  rw [newtonUpdate_eq hx, newtonMap_apply, Ring.inverse_eq_inv', coe_aeval_eq_eval,
    ← sub_eq_add_neg, div_eq_inv_mul]

/-! ## The search -/

/-- The search ends at one of the iterates of Newton's method. -/
theorem exists_newton_eq_iterate
    {steps : ℕ}
    (hregular : ∀ k < steps, Regular n ((lobattoPolynomial K n).newtonMap^[k] x)) :
    ∃ k ≤ steps, newton n steps x = (lobattoPolynomial K n).newtonMap^[k] x := by
  induction steps generalizing x with
  | zero =>
      exact ⟨0, le_rfl, rfl⟩
  | succ steps ih =>
      have hfirst : Regular n x := hregular 0 steps.succ_pos
      have hstep := add_newtonUpdate hfirst
      by_cases hsmall : magnitude (newtonUpdate n x) < 1e-15
      · refine ⟨1, Nat.succ_le_succ steps.zero_le, ?_⟩
        simp only [newton, if_pos hsmall]
        exact hstep
      · have hrest : ∀ k < steps, Regular n
            ((lobattoPolynomial K n).newtonMap^[k] (x + newtonUpdate n x)) := by
          intro k hk
          rw [hstep, ← Function.iterate_succ_apply]
          exact hregular (k + 1) (Nat.succ_lt_succ hk)
        rcases ih hrest with ⟨k, hk, hend⟩
        refine ⟨k + 1, Nat.succ_le_succ hk, ?_⟩
        simp only [newton, if_neg hsmall]
        rw [hend, hstep, ← Function.iterate_succ_apply]

theorem newton_eq_self_iff (hn : 1 ≤ n) (hx : Regular n x) :
    (∀ steps, newton n steps x = x) ↔ (lobattoPolynomial K n).eval x = 0 := by
  have hunit : IsUnit (aeval x (derivative (lobattoPolynomial K n))) :=
    (eval_derivative_lobattoPolynomial_ne_zero hn hx).isUnit
  constructor
  · intro hstays
    have hone := hstays 1
    rw [newton_one, add_newtonUpdate hx] at hone
    exact (isFixedPt_newtonMap_of_isUnit_iff hunit).mp hone
  · intro hroot steps
    have hfixed : Function.IsFixedPt (lobattoPolynomial K n).newtonMap x :=
      isFixedPt_newtonMap_of_aeval_eq_zero hroot
    have hregular : ∀ k < steps, Regular n ((lobattoPolynomial K n).newtonMap^[k] x) := by
      intro k _
      rw [Function.iterate_fixed hfixed]
      exact hx
    rcases exists_newton_eq_iterate hregular with ⟨k, -, hend⟩
    rw [hend, Function.iterate_fixed hfixed]

/-- What the search adds is a step of Newton's method for `f`, whose derivative does not
vanish there.  The search stands still exactly at the ends and at the roots of the derivative
of the Legendre polynomial. -/
theorem newtonUpdate_eq_newton_step
    {P : ℕ → K[X]} (hP : LegendreFamily P) (hn : 1 ≤ n) (hvalue : (P n).eval x ≠ 0)
    (hslope : x = 1 ∨ x = -1 ∨ 1e-14 ≤ |1 - x ^ 2|)
    {f : K[X]} (hf : f = (1 - X ^ 2) * derivative (P n)) :
    derivative f = -((n : K[X]) * ((n : K[X]) + 1)) * P n ∧
    (derivative f).eval x ≠ 0 ∧
    newtonUpdate n x = -(f.eval x / (derivative f).eval x) ∧
    x + newtonUpdate n x = f.newtonMap x ∧
    (x + newtonUpdate n x = x ↔ x = 1 ∨ x = -1 ∨ (derivative (P n)).eval x = 0) ∧
    ((∀ steps, newton n steps x = x) ↔
      x = 1 ∨ x = -1 ∨ (derivative (P n)).eval x = 0) := by
  rw [hP.eq_legendrePolynomial] at hvalue hf ⊢
  rw [sq] at hslope
  have hx : Regular n x := ⟨hvalue, hslope⟩
  have hderivative := eval_derivative_lobattoPolynomial_ne_zero hn hx
  have hroot := eval_lobattoPolynomial_eq_zero_iff (n := n) (x := x)
  change f = lobattoPolynomial K n at hf
  subst hf
  refine ⟨derivative_one_sub_mul_derivative_legendrePolynomial n, hderivative, newtonUpdate_eq hx,
    add_newtonUpdate hx, ?_, ?_⟩
  · rw [add_eq_left, newtonUpdate_eq hx, neg_eq_zero, div_eq_zero_iff, or_iff_left hderivative,
      hroot]
  · rw [newton_eq_self_iff hn hx, hroot]

theorem newtonUpdate_eq_newton_step_three :
    LegendreFamily (legendrePolynomial ℚ) ∧ 1 ≤ 3 ∧
    (legendrePolynomial ℚ 3).eval (-1 / 2) ≠ 0 ∧ (1e-14 : ℚ) ≤ |1 - (-1 / 2) ^ 2| ∧
    newtonUpdate 3 (-1 / 2 : ℚ) = 3 / 56 := by
  have hfamily := legendreFamily_legendrePolynomial (K := ℚ)
  have hvalue : (legendrePolynomial ℚ 3).eval (-1 / 2) = 7 / 16 := by
    norm_num [legendrePolynomial]
  have hne : (legendrePolynomial ℚ 3).eval (-1 / 2) ≠ 0 := by
    rw [hvalue]
    norm_num
  have hinner : (1e-14 : ℚ) ≤ |1 - (-1 / 2) ^ 2| := by
    norm_num
  rcases newtonUpdate_eq_newton_step hfamily (by omega) hne (.inr (.inr hinner)) rfl with
    ⟨hderivative, -, hupdate, -, -, -⟩
  refine ⟨hfamily, by omega, hne, hinner, ?_⟩
  rw [hupdate, hderivative]
  norm_num [hvalue, legendrePolynomial]

end Lobatto

end FacetElements
