import FacetElements.Proofs.LegendrePolynomials

/-!
# Orthogonality of the Legendre polynomials

The integral over `[-1, 1]` is a linear form on polynomials, and that of a
derivative is a difference of values at the ends.  Nothing else about it is
used.  The differential equation, integrated by parts twice, makes a Legendre
polynomial orthogonal to all polynomials of lower degree, and the polynomial
with the abscissae of a Gauss-Lobatto rule as roots to all whose degree is lower
by two.
-/

namespace FacetElements

open Polynomial

variable {K : Type} [Field K]

/-! ## The integral -/

/-- The integral over `[-1, 1]`, from those of the powers. -/
noncomputable def integral : K[X] →ₗ[K] K :=
  lsum fun k => LinearMap.toSpanSingleton K K ((1 - (-1) ^ (k + 1)) / ((k : K) + 1))

theorem integral_monomial (k : ℕ) (c : K) :
    integral (monomial k c) = c * ((1 - (-1) ^ (k + 1)) / ((k : K) + 1)) := by
  simp [integral, lsum_apply]

section CharZero

variable [CharZero K]

theorem integral_derivative (p : K[X]) :
    integral (derivative p) = p.eval 1 - p.eval (-1) := by
  induction p using Polynomial.induction_on' with
  | add p q hp hq =>
      rw [derivative_add, map_add, hp, hq, eval_add, eval_add]
      ring
  | monomial k c =>
      cases k with
      | zero =>
          simp
      | succ k =>
          have hnumber : (k : K) + 1 ≠ 0 := Nat.cast_add_one_ne_zero k
          rw [derivative_monomial, Nat.add_sub_cancel, integral_monomial, eval_monomial,
            eval_monomial]
          push_cast
          field_simp
          ring

theorem exists_antiderivative (p : K[X]) : ∃ q, derivative q = p := by
  induction p using Polynomial.induction_on' with
  | add p q hp hq =>
      rcases hp with ⟨p', hp⟩
      rcases hq with ⟨q', hq⟩
      exact ⟨p' + q', by rw [derivative_add, hp, hq]⟩
  | monomial k c =>
      have hnumber : ((k + 1 : ℕ) : K) ≠ 0 := Nat.cast_ne_zero.mpr (Nat.succ_ne_zero k)
      refine ⟨monomial (k + 1) (c / (k + 1 : ℕ)), ?_⟩
      rw [derivative_monomial, Nat.add_sub_cancel, div_mul_cancel₀ c hnumber]

theorem degree_lt_of_degree_derivative_lt
    {p : K[X]} {n : ℕ} (hp : (derivative p).degree < n) : p.degree < (n + 1 : ℕ) := by
  rw [degree_lt_iff_coeff_zero] at hp ⊢
  intro k hk
  obtain ⟨j, rfl⟩ : ∃ j, k = j + 1 := ⟨k - 1, by omega⟩
  have hcoeff := hp j (Nat.le_of_succ_le_succ hk)
  rw [coeff_derivative] at hcoeff
  exact (mul_eq_zero.mp hcoeff).resolve_right (Nat.cast_add_one_ne_zero j)

theorem integral_derivative_mul
    {p : K[X]} (hright : p.eval 1 = 0) (hleft : p.eval (-1) = 0) (q : K[X]) :
    integral (derivative p * q) = -integral (p * derivative q) := by
  have hproduct := integral_derivative (p * q)
  rw [derivative_mul, map_add, eval_mul, eval_mul, hright, hleft] at hproduct
  linear_combination hproduct

/-! ## Legendre polynomials -/

/-- The polynomial with the ends of `[-1, 1]` and the roots of the derivative of
a Legendre polynomial as its roots. -/
noncomputable def lobattoPolynomial (K : Type) [Field K] (n : ℕ) : K[X] :=
  (1 - X ^ 2) * derivative (legendrePolynomial K n)

theorem integral_lobattoPolynomial_mul_derivative (n : ℕ) (q : K[X]) :
    integral (lobattoPolynomial K n * derivative q) =
      (n : K) * ((n : K) + 1) * integral (legendrePolynomial K n * q) := by
  have hright : (lobattoPolynomial K n).eval 1 = 0 := by
    simp [lobattoPolynomial]
  have hleft : (lobattoPolynomial K n).eval (-1) = 0 := by
    simp [lobattoPolynomial]
  have hequation : derivative (lobattoPolynomial K n) * q =
      -((n : K) * ((n : K) + 1)) • (legendrePolynomial K n * q) := by
    rw [lobattoPolynomial, derivative_one_sub_mul_derivative_legendrePolynomial, smul_eq_C_mul]
    simp only [C_neg, C_mul, C_add, C_1, map_natCast]
    ring
  have hparts := integral_derivative_mul hright hleft q
  rw [hequation, map_smul, smul_eq_mul] at hparts
  linear_combination hparts

theorem derivative_one_sub_mul_derivative_X_pow (m : ℕ) :
    derivative ((1 - X ^ 2) * derivative (X ^ m : K[X])) =
      ((m : K) * ((m : K) - 1)) • X ^ (m - 2) - ((m : K) * ((m : K) + 1)) • X ^ m := by
  simp only [smul_eq_C_mul, C_mul, C_add, C_sub, C_1, map_natCast]
  match m with
  | 0 =>
      simp
  | 1 =>
      simp
  | m + 2 =>
      simp only [derivative_X_pow, derivative_mul, derivative_sub, derivative_one,
        Nat.add_sub_cancel, map_natCast, derivative_natCast]
      push_cast
      ring

/-- Integration by parts twice. -/
theorem integral_legendrePolynomial_mul_X_pow_step (n m : ℕ) :
    ((n : K) * ((n : K) + 1) - (m : K) * ((m : K) + 1)) *
        integral (legendrePolynomial K n * X ^ m) =
      -((m : K) * ((m : K) - 1) * integral (legendrePolynomial K n * X ^ (m - 2))) := by
  have hright : ((1 - X ^ 2) * derivative (X ^ m : K[X])).eval 1 = 0 := by
    simp
  have hleft : ((1 - X ^ 2) * derivative (X ^ m : K[X])).eval (-1) = 0 := by
    simp
  have hfirst := integral_lobattoPolynomial_mul_derivative n (X ^ m : K[X])
  have hsecond := integral_derivative_mul hright hleft (legendrePolynomial K n)
  have hsame : (1 - X ^ 2) * derivative (X ^ m : K[X]) * derivative (legendrePolynomial K n) =
      lobattoPolynomial K n * derivative (X ^ m) := by
    rw [lobattoPolynomial]
    ring
  rw [hsame, hfirst, derivative_one_sub_mul_derivative_X_pow, sub_mul, smul_mul_assoc,
    smul_mul_assoc, map_sub, map_smul, map_smul, smul_eq_mul, smul_eq_mul,
    mul_comm _ (legendrePolynomial K n), mul_comm _ (legendrePolynomial K n)] at hsecond
  linear_combination hsecond

theorem integral_legendrePolynomial_mul_X_pow {n m : ℕ} (hmn : m < n) :
    integral (legendrePolynomial K n * X ^ m) = 0 := by
  induction m using Nat.strong_induction_on with
  | h m ih =>
      have hstep := integral_legendrePolynomial_mul_X_pow_step (K := K) n m
      have hlower : (m : K) * ((m : K) - 1) *
          integral (legendrePolynomial K n * X ^ (m - 2)) = 0 := by
        match m with
        | 0 =>
            simp
        | 1 =>
            simp
        | m + 2 =>
            rw [Nat.add_sub_cancel, ih m (by omega) (by omega), mul_zero]
      have hdiff : (n : K) - (m : K) ≠ 0 := by
        rw [sub_ne_zero]
        exact_mod_cast hmn.ne'
      have hsum : (n : K) + (m : K) + 1 ≠ 0 := by
        exact_mod_cast Nat.succ_ne_zero (n + m)
      have hfactor : (n : K) * ((n : K) + 1) - (m : K) * ((m : K) + 1) =
          ((n : K) - m) * ((n : K) + m + 1) := by
        ring
      rw [hlower, hfactor, neg_zero] at hstep
      exact (mul_eq_zero.mp hstep).resolve_left (mul_ne_zero hdiff hsum)

theorem integral_legendrePolynomial_mul {n : ℕ} {q : K[X]} (hq : q.degree < n) :
    integral (legendrePolynomial K n * q) = 0 := by
  rw [q.as_sum_support, Finset.mul_sum, map_sum]
  apply Finset.sum_eq_zero
  intro m hm
  have hmn : m < n := by
    exact_mod_cast (le_degree_of_mem_supp m hm).trans_lt hq
  rw [← C_mul_X_pow_eq_monomial, ← smul_eq_C_mul, mul_smul_comm, map_smul,
    integral_legendrePolynomial_mul_X_pow hmn, smul_zero]

theorem integral_lobattoPolynomial_mul {n : ℕ} {q : K[X]} (hq : q.degree < n) :
    integral (lobattoPolynomial K (n + 1) * q) = 0 := by
  rcases exists_antiderivative q with ⟨p, rfl⟩
  rw [integral_lobattoPolynomial_mul_derivative,
    integral_legendrePolynomial_mul (degree_lt_of_degree_derivative_lt hq), mul_zero]

end CharZero

end FacetElements
