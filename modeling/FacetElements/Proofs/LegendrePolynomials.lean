import FacetElements.Polynomial.Legendre
import FacetElements.Proofs.ExactScalar
import Mathlib.Algebra.Polynomial.Derivative
import Mathlib.Tactic

/-!
# Legendre polynomials

The recurrence that gives the values of the Legendre polynomials defines the
polynomials themselves.  Two relations between neighbouring derivatives follow
from it by one induction.  They give the slope formula and the differential
equation of each polynomial.
-/

namespace FacetElements

open Polynomial

noncomputable def legendrePolynomial (K : Type) [Field K] : ℕ → K[X]
  | 0 => 1
  | 1 => X
  | k + 2 =>
      C ((k + 2 : ℕ) : K)⁻¹ *
        (((2 * k + 3 : ℕ) : K[X]) * X * legendrePolynomial K (k + 1) -
          ((k + 1 : ℕ) : K[X]) * legendrePolynomial K k)

variable {K : Type} [Field K]

/-! ## Degree, end and parity -/

@[simp] theorem legendrePolynomial_zero : legendrePolynomial K 0 = 1 := by
  rw [legendrePolynomial]

@[simp] theorem legendrePolynomial_one : legendrePolynomial K 1 = X := by
  rw [legendrePolynomial]

theorem natDegree_legendrePolynomial_le (n : ℕ) : (legendrePolynomial K n).natDegree ≤ n := by
  induction n using Nat.twoStepInduction with
  | zero =>
      simp
  | one =>
      simp
  | more k hbefore hvalue =>
      have hfactor : (((2 * k + 3 : ℕ) : K[X]) * X).natDegree ≤ 1 := by
        compute_degree
      have hleft : (((2 * k + 3 : ℕ) : K[X]) * X * legendrePolynomial K (k + 1)).natDegree ≤
          k + 2 :=
        (natDegree_mul_le_of_le hfactor hvalue).trans (by omega)
      have hright : (((k + 1 : ℕ) : K[X]) * legendrePolynomial K k).natDegree ≤ k + 2 :=
        (natDegree_mul_le_of_le (natDegree_natCast _).le hbefore).trans (by omega)
      rw [legendrePolynomial]
      exact (natDegree_C_mul_le _ _).trans ((natDegree_sub_le _ _).trans (max_le hleft hright))

theorem natDegree_derivative_legendrePolynomial_le (n : ℕ) :
    (derivative (legendrePolynomial K (n + 1))).natDegree ≤ n :=
  (natDegree_derivative_le _).trans
    (Nat.sub_le_of_le_add (natDegree_legendrePolynomial_le (n + 1)))

theorem neg_one_pow_sq (n : ℕ) : ((-1 : K) ^ n) ^ 2 = 1 := by
  rw [pow_right_comm, neg_one_sq, one_pow]

theorem legendrePolynomial_comp_neg (n : ℕ) :
    (legendrePolynomial K n).comp (-X) = (-1) ^ n * legendrePolynomial K n := by
  induction n using Nat.twoStepInduction with
  | zero =>
      simp
  | one =>
      simp
  | more k hbefore hvalue =>
      rw [legendrePolynomial]
      simp only [mul_comp, sub_comp, C_comp, X_comp, natCast_comp, hbefore, hvalue]
      ring

theorem eval_neg_legendrePolynomial (n : ℕ) (x : K) :
    (legendrePolynomial K n).eval (-x) = (-1) ^ n * (legendrePolynomial K n).eval x := by
  have hcomp := congrArg (eval x) (legendrePolynomial_comp_neg (K := K) n)
  simpa [eval_comp] using hcomp

theorem eval_neg_derivative_legendrePolynomial (n : ℕ) (x : K) :
    (derivative (legendrePolynomial K n)).eval (-x) =
      (-1) ^ (n + 1) * (derivative (legendrePolynomial K n)).eval x := by
  have hcomp := congrArg (fun p => (derivative p).eval x) (legendrePolynomial_comp_neg (K := K) n)
  have hsign : derivative ((-1 : K[X]) ^ n) = 0 := by
    rw [← C_1, ← C_neg, ← C_pow, derivative_C]
  simp only [derivative_comp, derivative_mul, hsign, derivative_neg, derivative_X, eval_mul,
    eval_comp, eval_neg, eval_X, eval_one, eval_pow, zero_mul, zero_add] at hcomp
  linear_combination -hcomp

/-! ## Derivatives -/

variable [CharZero K]

theorem legendrePolynomial_recurrence (k : ℕ) :
    ((k : K[X]) + 2) * legendrePolynomial K (k + 2) =
      (2 * (k : K[X]) + 3) * X * legendrePolynomial K (k + 1) -
        ((k : K[X]) + 1) * legendrePolynomial K k := by
  have hnumber : ((k + 2 : ℕ) : K) ≠ 0 := Nat.cast_ne_zero.mpr (Nat.succ_ne_zero (k + 1))
  have hcast : (k : K[X]) + 2 = C ((k + 2 : ℕ) : K) := by
    rw [map_natCast, Nat.cast_add, Nat.cast_ofNat]
  rw [legendrePolynomial, hcast, ← mul_assoc, ← C_mul, mul_inv_cancel₀ hnumber, C_1, one_mul]
  push_cast
  ring

theorem eval_one_legendrePolynomial (n : ℕ) : (legendrePolynomial K n).eval 1 = 1 := by
  induction n using Nat.twoStepInduction with
  | zero =>
      simp
  | one =>
      simp
  | more k hbefore hvalue =>
      have hnumber : (k : K) + 2 ≠ 0 := by
        exact_mod_cast Nat.succ_ne_zero (k + 1)
      have hrec := congrArg (eval 1) (legendrePolynomial_recurrence (K := K) k)
      simp only [eval_mul, eval_sub, eval_add, eval_natCast, eval_ofNat, eval_one, eval_X,
        hbefore, hvalue] at hrec
      apply mul_left_cancel₀ hnumber
      linear_combination hrec

/-- Neighbouring Legendre polynomials by their derivatives, from the lower one
and from the upper one. -/
theorem derivative_legendrePolynomial (n : ℕ) :
    derivative (legendrePolynomial K (n + 1)) =
        X * derivative (legendrePolynomial K n) + ((n : K[X]) + 1) * legendrePolynomial K n ∧
      X * derivative (legendrePolynomial K (n + 1)) - derivative (legendrePolynomial K n) =
        ((n : K[X]) + 1) * legendrePolynomial K (n + 1) := by
  induction n with
  | zero =>
      simp
  | succ n ih =>
      obtain ⟨hlower, hupper⟩ := ih
      have hnumber : (n : K[X]) + 2 ≠ 0 := by
        exact_mod_cast Nat.succ_ne_zero (n + 1)
      have hrec := legendrePolynomial_recurrence (K := K) n
      have hder := congrArg derivative hrec
      simp only [derivative_mul, derivative_sub, derivative_add, derivative_natCast,
        derivative_ofNat, derivative_one, derivative_X] at hder
      have hnext : derivative (legendrePolynomial K (n + 2)) =
          X * derivative (legendrePolynomial K (n + 1)) +
            ((n : K[X]) + 2) * legendrePolynomial K (n + 1) := by
        apply mul_left_cancel₀ hnumber
        linear_combination hder + ((n : K[X]) + 1) * hupper
      push_cast
      constructor
      · linear_combination hnext
      · linear_combination X * hnext - hrec + X * hupper - hlower

/-- The slope formula. -/
theorem sub_one_mul_derivative_legendrePolynomial (n : ℕ) :
    (X ^ 2 - 1) * derivative (legendrePolynomial K (n + 1)) =
      ((n : K[X]) + 1) *
        (X * legendrePolynomial K (n + 1) - legendrePolynomial K n) := by
  obtain ⟨hlower, hupper⟩ := derivative_legendrePolynomial (K := K) n
  linear_combination X * hupper - hlower

/-- The differential equation. -/
theorem derivative_one_sub_mul_derivative_legendrePolynomial (n : ℕ) :
    derivative ((1 - X ^ 2) * derivative (legendrePolynomial K n)) =
      -((n : K[X]) * ((n : K[X]) + 1)) * legendrePolynomial K n := by
  cases n with
  | zero =>
      simp
  | succ n =>
      obtain ⟨-, hupper⟩ := derivative_legendrePolynomial (K := K) n
      have hslope : (1 - X ^ 2) * derivative (legendrePolynomial K (n + 1)) =
          -(((n : K[X]) + 1) * (X * legendrePolynomial K (n + 1) - legendrePolynomial K n)) := by
        linear_combination -sub_one_mul_derivative_legendrePolynomial (K := K) n
      rw [hslope]
      simp only [derivative_neg, derivative_mul, derivative_sub, derivative_add,
        derivative_natCast, derivative_one, derivative_X]
      push_cast
      linear_combination -((n : K[X]) + 1) * hupper

/-! ## Values -/

theorem legendrePair_eq_eval (x : K) (n : ℕ) :
    legendrePair x n =
      ((legendrePolynomial K n).eval x, (legendrePolynomial K (n + 1)).eval x) := by
  induction n with
  | zero =>
      simp
  | succ n ih =>
      have hnumber : (n : K) + 2 ≠ 0 := by
        exact_mod_cast Nat.succ_ne_zero (n + 1)
      have hrec := congrArg (eval x) (legendrePolynomial_recurrence (K := K) n)
      simp only [eval_mul, eval_sub, eval_add, eval_natCast, eval_ofNat, eval_one, eval_X] at hrec
      have hnext : legendreNext x (n + 1) ((legendrePolynomial K n).eval x)
          ((legendrePolynomial K (n + 1)).eval x) = (legendrePolynomial K (n + 2)).eval x := by
        have hsucc : ((n + 1 : ℕ) : K) + 1 = n + 2 := by
          push_cast
          ring
        rw [legendreNext, hsucc, div_eq_iff hnumber]
        push_cast
        linear_combination -hrec
      rw [legendrePair_succ, ih, hnext]

theorem legendre_fst
    [LinearOrder K] (n : ℕ) (x : K) : (legendre n x).1 = (legendrePolynomial K n).eval x := by
  cases n with
  | zero =>
      simp [legendre]
  | succ n =>
      simp [legendre, legendrePair_eq_eval]

theorem legendre_snd_of_le
    [LinearOrder K] [IsStrictOrderedRing K] (n : ℕ) {x : K} (hx : 1e-14 ≤ |1 - x * x|) :
    (legendre n x).2 = (derivative (legendrePolynomial K n)).eval x := by
  cases n with
  | zero =>
      simp [legendre]
  | succ n =>
      have hends : x * x - 1 ≠ 0 := by
        intro hzero
        have hbound : (0 : K) < 1e-14 := by
          norm_num
        rw [← neg_sub, hzero, neg_zero, abs_zero] at hx
        exact hbound.not_ge hx
      have hslope := congrArg (eval x) (sub_one_mul_derivative_legendrePolynomial (K := K) n)
      simp only [eval_mul, eval_sub, eval_add, eval_pow, eval_X, eval_one, eval_natCast] at hslope
      have hbranch : (legendre (n + 1) x).2 =
          ((n + 1 : ℕ) : K) * (x * (legendrePair x n).2 - (legendrePair x n).1) / (x * x - 1) := by
        simp only [legendre, magnitude_eq_abs, if_neg (not_lt.mpr hx)]
      rw [hbranch, legendrePair_eq_eval, div_eq_iff hends]
      push_cast
      linear_combination -hslope

end FacetElements
