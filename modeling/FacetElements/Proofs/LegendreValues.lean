import FacetElements.Proofs.LobattoWeights

/-!
# Values and slopes of the Legendre polynomials

The recurrence has one solution, the Legendre polynomials, and the program follows it.
A slope comes from the slope formula, and near the ends of `[-1, 1]`, where that formula
divides by almost nothing, from the slope at the end.  So it is exact away from the ends,
and at both ends exactly for the degrees whose product with their successor is a machine
word.
-/

namespace FacetElements

open Polynomial

variable {K : Type} [Field K]

/-- The recurrence of the Legendre polynomials. -/
structure LegendreFamily (P : ℕ → K[X]) : Prop where
  zero : P 0 = 1
  one : P 1 = X
  next : ∀ k : ℕ, 1 ≤ k → ((k : K[X]) + 1) * P (k + 1) =
    (2 * (k : K[X]) + 1) * X * P k - (k : K[X]) * P (k - 1)

section CharZero

variable [CharZero K]

theorem legendreFamily_legendrePolynomial : LegendreFamily (legendrePolynomial K) where
  zero := legendrePolynomial_zero
  one := legendrePolynomial_one
  next := by
    intro k hk
    rcases Nat.exists_eq_add_of_le' hk with ⟨k, rfl⟩
    have hrec := legendrePolynomial_recurrence (K := K) k
    rw [Nat.add_sub_cancel]
    push_cast
    linear_combination hrec

theorem LegendreFamily.eq_legendrePolynomial
    {P : ℕ → K[X]} (hP : LegendreFamily P) (n : ℕ) : P n = legendrePolynomial K n := by
  induction n using Nat.twoStepInduction with
  | zero =>
      rw [hP.zero, legendrePolynomial_zero]
  | one =>
      rw [hP.one, legendrePolynomial_one]
  | more k hbefore hvalue =>
      have hnumber : (k : K[X]) + 2 ≠ 0 := by
        exact_mod_cast Nat.succ_ne_zero (k + 1)
      have hnext := hP.next (k + 1) (Nat.succ_pos k)
      rw [Nat.add_sub_cancel, hbefore, hvalue] at hnext
      push_cast at hnext
      apply mul_left_cancel₀ hnumber
      linear_combination hnext - legendrePolynomial_recurrence (K := K) k

/-! ## Slopes at the ends -/

theorem two_mul_eval_neg_one_derivative_legendrePolynomial (n : ℕ) :
    2 * (derivative (legendrePolynomial K n)).eval (-1) =
      (-1) ^ (n + 1) * ((n : K) * ((n : K) + 1)) := by
  rw [eval_neg_derivative_legendrePolynomial, ← two_mul_eval_one_derivative_legendrePolynomial]
  ring

end CharZero

variable [LinearOrder K]

theorem sign_of_neg (n : ℕ) {x : K} (hx : x < 0) :
    (if 0 < x ∨ n % 2 = 1 then (1 : K) else -1) = (-1) ^ (n + 1) := by
  rcases Nat.mod_two_eq_zero_or_one n with heven | hodd
  · have hpower : Odd (n + 1) := (Nat.even_iff.mpr heven).add_one
    rw [if_neg (by simp [hx.not_gt, heven]), hpower.neg_one_pow]
  · have hpower : Even (n + 1) := (Nat.odd_iff.mpr hodd).add_one
    rw [if_pos (.inr hodd), hpower.neg_one_pow]

variable [IsStrictOrderedRing K]

theorem legendre_snd_of_lt (n : ℕ) {x : K} (hx : |1 - x * x| < 1e-14) :
    (legendre n x).2 =
      (if 0 < x ∨ n % 2 = 1 then 1 else -1) * (word (n * (n + 1)) : K) / 2 := by
  cases n with
  | zero =>
      have hword : word (0 * (0 + 1)) = 0 := rfl
      rw [hword]
      simp [legendre]
  | succ n =>
      simp only [legendre, magnitude_eq_abs, if_pos hx]

theorem abs_one_sub_mul_self_lt {x : K} (hx : x = 1 ∨ x = -1) : |1 - x * x| < 1e-14 := by
  rcases hx with rfl | rfl
  · norm_num
  · norm_num

theorem legendre_snd_one (n : ℕ) :
    (legendre n (1 : K)).2 = (word (n * (n + 1)) : K) / 2 := by
  rw [legendre_snd_of_lt n (abs_one_sub_mul_self_lt (.inl rfl)), if_pos (.inl one_pos), one_mul]

theorem legendre_snd_neg_one (n : ℕ) :
    (legendre n (-1 : K)).2 = (-1) ^ (n + 1) * (word (n * (n + 1)) : K) / 2 := by
  rw [legendre_snd_of_lt n (abs_one_sub_mul_self_lt (.inr rfl)), sign_of_neg n neg_one_lt_zero]

theorem cast_word_eq_iff (n : ℕ) :
    (word (n * (n + 1)) : K) = (n : K) * ((n : K) + 1) ↔ n * (n + 1) < 2 ^ 64 := by
  have hcast : (n : K) * ((n : K) + 1) = ((n * (n + 1) : ℕ) : K) := by
    push_cast
    rfl
  rw [hcast, Nat.cast_inj]
  exact word_eq_self_iff

theorem legendre_snd_one_iff (n : ℕ) :
    (legendre n (1 : K)).2 = (derivative (legendrePolynomial K n)).eval 1 ↔
      n * (n + 1) < 2 ^ 64 := by
  have hend := two_mul_eval_one_derivative_legendrePolynomial (K := K) n
  rw [legendre_snd_one, ← cast_word_eq_iff (K := K), ← hend, div_eq_iff two_ne_zero,
    mul_comm (2 : K)]

theorem legendre_snd_neg_one_iff (n : ℕ) :
    (legendre n (-1 : K)).2 = (derivative (legendrePolynomial K n)).eval (-1) ↔
      n * (n + 1) < 2 ^ 64 := by
  have hsign : (-1 : K) ^ (n + 1) ≠ 0 := pow_ne_zero _ (neg_ne_zero.mpr one_ne_zero)
  have hend := two_mul_eval_neg_one_derivative_legendrePolynomial (K := K) n
  rw [legendre_snd_neg_one, ← cast_word_eq_iff (K := K), div_eq_iff two_ne_zero,
    mul_comm ((derivative (legendrePolynomial K n)).eval (-1)), hend]
  exact mul_right_inj' hsign

/-- The program computes the Legendre polynomials, and their derivatives except close to
an end.  At an end it has the derivative exactly if its product is a machine word. -/
theorem legendre_eq_eval
    {P : ℕ → K[X]} (hP : LegendreFamily P) (n : ℕ) (x : K) :
    (legendre n x).1 = (P n).eval x ∧
      (1e-14 ≤ |1 - x ^ 2| → (legendre n x).2 = (derivative (P n)).eval x) ∧
      (x = 1 ∨ x = -1 →
        ((legendre n x).2 = (derivative (P n)).eval x ↔ n * (n + 1) < 2 ^ 64)) := by
  rw [hP.eq_legendrePolynomial, sq]
  refine ⟨legendre_fst n x, legendre_snd_of_le n, ?_⟩
  rintro (rfl | rfl)
  · exact legendre_snd_one_iff n
  · exact legendre_snd_neg_one_iff n

theorem legendre_eq_eval_four :
    LegendreFamily (legendrePolynomial ℚ) ∧
      (legendre 4 (-1 / 2 : ℚ)).1 = (legendrePolynomial ℚ 4).eval (-1 / 2) ∧
      (1e-14 : ℚ) ≤ |1 - (-1 / 2) ^ 2| ∧
      (legendre 4 (-1 / 2 : ℚ)).2 = (derivative (legendrePolynomial ℚ 4)).eval (-1 / 2) ∧
      4 * (4 + 1) < 2 ^ 64 ∧
      (legendre 4 (-1 : ℚ)).2 = (derivative (legendrePolynomial ℚ 4)).eval (-1) := by
  have hfamily := legendreFamily_legendrePolynomial (K := ℚ)
  have hinner : (1e-14 : ℚ) ≤ |1 - (-1 / 2) ^ 2| := by
    norm_num
  have hfits : 4 * (4 + 1) < 2 ^ 64 := by
    norm_num
  rcases legendre_eq_eval hfamily 4 (-1 / 2) with ⟨hvalue, hslope, -⟩
  rcases legendre_eq_eval hfamily 4 (-1) with ⟨-, -, hslopeEnd⟩
  exact ⟨hfamily, hvalue, hinner, hslope hinner, hfits, (hslopeEnd (.inr rfl)).mpr hfits⟩

/-- At the degree `2 ^ 32` the product loses its leading digit, and the slope at the upper
end with it. -/
theorem legendre_slope_too_small :
    LegendreFamily (legendrePolynomial ℚ) ∧
      (legendre 4294967296 (1 : ℚ)).2 = 2147483648 ∧
      (derivative (legendrePolynomial ℚ 4294967296)).eval 1 = 9223372039002259456 := by
  have hword : word (4294967296 * (4294967296 + 1)) = 4294967296 := by
    decide
  have hend := two_mul_eval_one_derivative_legendrePolynomial (K := ℚ) 4294967296
  refine ⟨legendreFamily_legendrePolynomial, ?_, ?_⟩
  · rw [legendre_snd_one, hword]
    norm_num
  · push_cast at hend
    linarith

end FacetElements
