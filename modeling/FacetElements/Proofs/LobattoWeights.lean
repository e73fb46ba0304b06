import FacetElements.Proofs.LegendreOrthogonality
import Mathlib.LinearAlgebra.Lagrange

/-!
# Weights of a Gauss-Lobatto rule

A rule that integrates the polynomial through its values is exact for as many
degrees as it has points.  With the roots of the Lobatto polynomial as points it
is exact for almost twice as many.  Two integrals known from orthogonality then
determine its weights: one gives the weight of the right end, the other relates
every weight to it, and together they are the closed formula.
-/

namespace FacetElements

open Polynomial

variable {K : Type} [Field K]

/-! ## Weights by interpolation -/

section Interpolation

variable [DecidableEq K]

/-- The integral of the polynomial that is one at a node and zero at the others. -/
noncomputable def nodeIntegral (nodes : Finset K) (a : K) : K :=
  integral (Lagrange.basis nodes id a)

theorem integral_eq_sum_of_degree_lt_card
    {nodes : Finset K} {r : K[X]} (hr : r.degree < nodes.card) :
    integral r = ∑ a ∈ nodes, r.eval a * nodeIntegral nodes a := by
  have hinterpolate : r = Lagrange.interpolate nodes id fun a => r.eval (id a) :=
    Lagrange.eq_interpolate Function.injective_id.injOn hr
  rw [Lagrange.interpolate_apply] at hinterpolate
  conv_lhs => rw [hinterpolate]
  simp [← smul_eq_C_mul, nodeIntegral]

end Interpolation

/-! ## The Lobatto polynomial -/

theorem natDegree_lobattoPolynomial_le (n : ℕ) :
    (lobattoPolynomial K (n + 1)).natDegree ≤ n + 2 := by
  have hends : (1 - X ^ 2 : K[X]).natDegree ≤ 2 := by
    compute_degree
  have hslope := natDegree_derivative_legendrePolynomial_le (K := K) n
  exact (natDegree_mul_le_of_le hends hslope).trans (by omega)

variable [CharZero K]

theorem scale_succ_ne_zero (n : ℕ) : ((n + 1 : ℕ) : K) * (((n + 1 : ℕ) : K) + 1) ≠ 0 :=
  mul_ne_zero (Nat.cast_ne_zero.mpr (Nat.succ_ne_zero n)) (Nat.cast_add_one_ne_zero (n + 1))

theorem eval_derivative_lobattoPolynomial (n : ℕ) (x : K) :
    (derivative (lobattoPolynomial K n)).eval x =
      -((n : K) * ((n : K) + 1)) * (legendrePolynomial K n).eval x := by
  have hequation := congrArg (eval x)
    (derivative_one_sub_mul_derivative_legendrePolynomial (K := K) n)
  simpa [lobattoPolynomial] using hequation

theorem lobattoPolynomial_ne_zero (n : ℕ) : lobattoPolynomial K (n + 1) ≠ 0 := by
  intro hzero
  have hslope := eval_derivative_lobattoPolynomial (n + 1) (1 : K)
  rw [hzero, derivative_zero, eval_zero, eval_one_legendrePolynomial, mul_one, zero_eq_neg]
    at hslope
  exact scale_succ_ne_zero n hslope

theorem two_mul_eval_one_derivative_legendrePolynomial (n : ℕ) :
    2 * (derivative (legendrePolynomial K n)).eval 1 = (n : K) * ((n : K) + 1) := by
  have hslope := eval_derivative_lobattoPolynomial n (1 : K)
  rw [eval_one_legendrePolynomial, lobattoPolynomial] at hslope
  simp only [derivative_mul, derivative_sub, derivative_one, derivative_X_pow, eval_add, eval_mul,
    eval_sub, eval_pow, eval_X, eval_C, eval_one, eval_zero] at hslope
  push_cast at hslope
  linear_combination -hslope

theorem integral_one_add_mul_derivative (n : ℕ) :
    integral ((1 + X) * derivative (legendrePolynomial K (n + 1))) = 2 := by
  have hone : (1 : K[X]).degree < (n + 1 : ℕ) := by
    rw [degree_one]
    exact_mod_cast Nat.succ_pos n
  have horthogonal := integral_legendrePolynomial_mul hone
  have hparts := integral_derivative ((1 + X) * legendrePolynomial K (n + 1))
  rw [mul_one] at horthogonal
  simp only [derivative_mul, derivative_one, derivative_X, zero_add, one_mul, map_add,
    horthogonal, eval_mul, eval_add, eval_one, eval_X, eval_one_legendrePolynomial] at hparts
  rw [hparts]
  ring

/-- The points of the rule with `n + 2` points on `[-1, 1]`. -/
structure LobattoNodes (n : ℕ) (nodes : Finset K) : Prop where
  card : nodes.card = n + 2
  one_mem : 1 ∈ nodes
  root : ∀ a ∈ nodes, (lobattoPolynomial K (n + 1)).eval a = 0

namespace LobattoNodes

variable {n : ℕ} {nodes : Finset K}

/-! ## Exactness -/

theorem degree_lobattoPolynomial (hnodes : LobattoNodes n nodes) :
    (lobattoPolynomial K (n + 1)).degree = (n + 2 : ℕ) := by
  have hne := lobattoPolynomial_ne_zero (K := K) n
  have hroots : nodes.val ⊆ (lobattoPolynomial K (n + 1)).roots := by
    intro a ha
    exact (mem_roots hne).mpr (hnodes.root a ha)
  have hlower := card_le_degree_of_subset_roots hroots
  rw [hnodes.card] at hlower
  rw [degree_eq_natDegree hne,
    Nat.le_antisymm (natDegree_lobattoPolynomial_le n) hlower]

theorem degree_div_lobattoPolynomial_lt
    (hnodes : LobattoNodes n nodes) {f : K[X]} (hf : f.degree < (2 * n + 2 : ℕ)) :
    (f / lobattoPolynomial K (n + 1)).degree < n := by
  have hne := lobattoPolynomial_ne_zero (K := K) n
  by_cases hlow : f.degree < (lobattoPolynomial K (n + 1)).degree
  · rw [(Polynomial.div_eq_zero_iff hne).mpr hlow, degree_zero]
    exact WithBot.bot_lt_coe n
  · have hdegree := degree_add_div hne (not_lt.mp hlow)
    rw [hnodes.degree_lobattoPolynomial] at hdegree
    by_contra hquotient
    have htotal : ((2 * n + 2 : ℕ) : WithBot ℕ) ≤ f.degree :=
      calc ((2 * n + 2 : ℕ) : WithBot ℕ)
        _ = ((n + 2 : ℕ) : WithBot ℕ) + (n : ℕ) := by
          rw [← Nat.cast_add]
          congr 1
          omega
        _ ≤ ((n + 2 : ℕ) : WithBot ℕ) + (f / lobattoPolynomial K (n + 1)).degree :=
          add_le_add_right (not_lt.mp hquotient) _
        _ = f.degree := hdegree
    exact absurd hf (not_lt.mpr htotal)

variable [DecidableEq K]

theorem integral_eq_sum
    (hnodes : LobattoNodes n nodes) {f : K[X]} (hf : f.degree < (2 * n + 2 : ℕ)) :
    integral f = ∑ a ∈ nodes, f.eval a * nodeIntegral nodes a := by
  let w := lobattoPolynomial K (n + 1)
  have hsplit : w * (f / w) + f % w = f := EuclideanDomain.div_add_mod f w
  have hrest : (f % w).degree < nodes.card := by
    rw [hnodes.card, ← hnodes.degree_lobattoPolynomial]
    exact degree_mod_lt f (lobattoPolynomial_ne_zero n)
  have hvalues : ∀ a ∈ nodes, (f % w).eval a = f.eval a := by
    intro a ha
    conv_rhs => rw [← hsplit, eval_add, eval_mul, hnodes.root a ha, zero_mul, zero_add]
  calc integral f
    _ = integral (w * (f / w)) + integral (f % w) := by rw [← map_add, hsplit]
    _ = integral (f % w) := by
      rw [integral_lobattoPolynomial_mul (hnodes.degree_div_lobattoPolynomial_lt hf), zero_add]
    _ = ∑ a ∈ nodes, (f % w).eval a * nodeIntegral nodes a :=
      integral_eq_sum_of_degree_lt_card hrest
    _ = ∑ a ∈ nodes, f.eval a * nodeIntegral nodes a :=
      Finset.sum_congr rfl fun a ha => by rw [hvalues a ha]

/-! ## Weights -/

theorem mul_nodeIntegral_one (hnodes : LobattoNodes n nodes) :
    ((n + 1 : ℕ) : K) * (((n + 1 : ℕ) : K) + 1) * nodeIntegral nodes 1 = 2 := by
  let f : K[X] := (1 + X) * derivative (legendrePolynomial K (n + 1))
  have hdegree : f.degree < (2 * n + 2 : ℕ) := by
    have hend : (1 + X : K[X]).natDegree ≤ 1 := by
      compute_degree
    have hnat : f.natDegree ≤ 1 + n :=
      natDegree_mul_le_of_le hend (natDegree_derivative_legendrePolynomial_le n)
    exact degree_le_natDegree.trans_lt (Nat.cast_lt.mpr (by omega))
  -- At every other node the factor `1 - X` of the Lobatto polynomial can be cancelled.
  have hothers : ∀ a ∈ nodes, a ≠ 1 → f.eval a * nodeIntegral nodes a = 0 := by
    intro a ha hne
    have hroot := hnodes.root a ha
    have hfactor : (lobattoPolynomial K (n + 1)).eval a = (1 - a) * f.eval a := by
      simp only [lobattoPolynomial, f, eval_mul, eval_sub, eval_add, eval_one, eval_pow, eval_X]
      ring
    rw [hfactor] at hroot
    rw [(mul_eq_zero.mp hroot).resolve_left (sub_ne_zero.mpr hne.symm), zero_mul]
  have hend : f.eval 1 = ((n + 1 : ℕ) : K) * (((n + 1 : ℕ) : K) + 1) := by
    rw [← two_mul_eval_one_derivative_legendrePolynomial]
    simp only [f, eval_mul, eval_add, eval_one, eval_X]
    ring
  rw [← hend, ← integral_one_add_mul_derivative n, hnodes.integral_eq_sum hdegree]
  exact (Finset.sum_eq_single_of_mem 1 hnodes.one_mem hothers).symm

theorem sum_legendrePolynomial_mul_cofactor
    (hnodes : LobattoNodes n nodes) {a : K} {g : K[X]}
    (hg : lobattoPolynomial K (n + 1) = (X - C a) * (X - C 1) * g) :
    ∑ b ∈ nodes, (legendrePolynomial K (n + 1) * g).eval b * nodeIntegral nodes b = 0 := by
  have hne := lobattoPolynomial_ne_zero (K := K) n
  have hnat : (lobattoPolynomial K (n + 1)).natDegree = n + 2 :=
    natDegree_eq_of_degree_eq_some hnodes.degree_lobattoPolynomial
  rw [hg] at hne hnat
  rw [natDegree_mul (left_ne_zero_of_mul hne) (right_ne_zero_of_mul hne),
    natDegree_mul (X_sub_C_ne_zero a) (X_sub_C_ne_zero 1), natDegree_X_sub_C,
    natDegree_X_sub_C] at hnat
  have hlow : g.degree < (n + 1 : ℕ) :=
    degree_le_natDegree.trans_lt (Nat.cast_lt.mpr (by omega))
  have hproduct : (legendrePolynomial K (n + 1) * g).natDegree ≤ n + 1 + g.natDegree :=
    natDegree_mul_le_of_le (natDegree_legendrePolynomial_le (n + 1)) le_rfl
  have hdegree : (legendrePolynomial K (n + 1) * g).degree < (2 * n + 2 : ℕ) :=
    degree_le_natDegree.trans_lt (Nat.cast_lt.mpr (by omega))
  rw [← hnodes.integral_eq_sum hdegree, integral_legendrePolynomial_mul hlow]

/-- The weight of a node against that of the right end: without their two
factors the Lobatto polynomial has a degree too low for the Legendre polynomial. -/
theorem sq_mul_nodeIntegral (hnodes : LobattoNodes n nodes) {a : K} (ha : a ∈ nodes) :
    (legendrePolynomial K (n + 1)).eval a ^ 2 * nodeIntegral nodes a = nodeIntegral nodes 1 := by
  by_cases hone : a = 1
  · rw [hone, eval_one_legendrePolynomial, one_pow, one_mul]
  · have hcoprime : IsCoprime (X - C a) (X - C 1) :=
      isCoprime_X_sub_C_of_isUnit_sub (sub_ne_zero.mpr hone).isUnit
    rcases hcoprime.mul_dvd (dvd_iff_isRoot.mpr (hnodes.root a ha))
      (dvd_iff_isRoot.mpr (hnodes.root 1 hnodes.one_mem)) with ⟨g, hg⟩
    have hvalue : ∀ b, (lobattoPolynomial K (n + 1)).eval b = (b - a) * (b - 1) * g.eval b := by
      intro b
      simp [hg]
    have hslope : ∀ b, (derivative (lobattoPolynomial K (n + 1))).eval b =
        (b - 1 + (b - a)) * g.eval b + (b - a) * (b - 1) * (derivative g).eval b := by
      intro b
      simp [hg]
    have hothers : ∀ b ∈ nodes, b ≠ a ∧ b ≠ 1 →
        (legendrePolynomial K (n + 1) * g).eval b * nodeIntegral nodes b = 0 := by
      intro b hb hne
      have hroot := hnodes.root b hb
      rw [hvalue] at hroot
      have hcofactor : g.eval b = 0 :=
        (mul_eq_zero.mp hroot).resolve_left
          (mul_ne_zero (sub_ne_zero.mpr hne.1) (sub_ne_zero.mpr hne.2))
      rw [eval_mul, hcofactor, mul_zero, zero_mul]
    have hsum := hnodes.sum_legendrePolynomial_mul_cofactor hg
    rw [Finset.sum_eq_add_of_mem a 1 ha hnodes.one_mem hone hothers, eval_mul, eval_mul,
      eval_one_legendrePolynomial] at hsum
    have hslopeNode := hslope a
    have hslopeEnd := hslope 1
    rw [eval_derivative_lobattoPolynomial] at hslopeNode hslopeEnd
    rw [eval_one_legendrePolynomial] at hslopeEnd
    apply mul_left_cancel₀ (scale_succ_ne_zero (K := K) n)
    linear_combination (1 - a) * hsum -
      (legendrePolynomial K (n + 1)).eval a * nodeIntegral nodes a * hslopeNode +
      nodeIntegral nodes 1 * hslopeEnd

theorem nodeIntegral_eq (hnodes : LobattoNodes n nodes) {a : K} (ha : a ∈ nodes) :
    nodeIntegral nodes a =
      2 / (((n + 1 : ℕ) : K) * (((n + 1 : ℕ) : K) + 1) *
        (legendrePolynomial K (n + 1)).eval a ^ 2) := by
  have hend := hnodes.mul_nodeIntegral_one
  rw [← hnodes.sq_mul_nodeIntegral ha, ← mul_assoc] at hend
  have hne : ((n + 1 : ℕ) : K) * (((n + 1 : ℕ) : K) + 1) *
      (legendrePolynomial K (n + 1)).eval a ^ 2 ≠ 0 := by
    intro hzero
    rw [hzero, zero_mul] at hend
    exact two_ne_zero hend.symm
  rw [eq_div_iff hne, mul_comm]
  exact hend

end LobattoNodes

end FacetElements
