import FacetElements.Proofs.ExactScalar
import FacetElements.Proofs.LobattoWeights
import FacetElements.Quadrature.Lobatto
import Mathlib.Analysis.Real.Sqrt
import Mathlib.Analysis.SpecialFunctions.Trigonometric.Basic

/-!
# Exactness of Gauss-Lobatto rules

The rule on `[0, 1]` is the image of one on `[-1, 1]` whose points are the
abscissae found by Newton's method, their mirror images and perhaps the middle.
If the search ends with distinct roots of the derivative of the Legendre
polynomial, these are all roots of the Lobatto polynomial.  The closed weights
are then those of interpolation, and the rule integrates exactly every power up
to its order.
-/

namespace FacetElements

open Polynomial

/-- What a rule gives for the integral of `x ^ k`. -/
def QuadratureRule.moment {K : Type} [Semiring K] (rule : QuadratureRule K) (k : ℕ) : K :=
  sumLeft (List.zipWith (fun w x => w * x ^ k) rule.weights rule.points)

theorem integral_toUnit_pow
    {K : Type} [Field K] [CharZero K] (k : ℕ) :
    integral ((C 2⁻¹ * (X + 1) : K[X]) ^ k) = 2 / ((k : K) + 1) := by
  have htwo : (2 : K) ≠ 0 := two_ne_zero
  have hnumber : (k : K) + 1 ≠ 0 := Nat.cast_add_one_ne_zero k
  have hderivative : derivative ((C 2⁻¹ * (X + 1) : K[X]) ^ (k + 1)) =
      (((k : K) + 1) * 2⁻¹) • (C 2⁻¹ * (X + 1)) ^ k := by
    rw [derivative_pow_succ, smul_eq_C_mul, C_mul]
    simp
    ring
  have hends := integral_derivative ((C 2⁻¹ * (X + 1) : K[X]) ^ (k + 1))
  rw [hderivative, map_smul, smul_eq_mul] at hends
  have hright : ((C 2⁻¹ * (X + 1) : K[X]) ^ (k + 1)).eval 1 = 1 := by
    norm_num
  have hleft : ((C 2⁻¹ * (X + 1) : K[X]) ^ (k + 1)).eval (-1) = 0 := by
    simp
  rw [hright, hleft] at hends
  field_simp at hends ⊢
  linear_combination hends

theorem eval_neg_lobattoPolynomial
    {K : Type} [Field K] (n : ℕ) (x : K) :
    (lobattoPolynomial K n).eval (-x) = (-1) ^ (n + 1) * (lobattoPolynomial K n).eval x := by
  simp only [lobattoPolynomial, eval_mul, eval_neg_derivative_legendrePolynomial, eval_sub,
    eval_one, eval_pow, eval_X]
  ring

namespace Lobatto

variable {K : Type} [Field K]

/-- The points of a rule on `[-1, 1]` from those below the middle, in their order. -/
def mirrored (npoints : ℕ) (left : List K) : List K :=
  left ++ ((if npoints % 2 = 1 then [0] else []) ++ (left.map (- ·)).reverse)

theorem mem_mirrored_iff {npoints : ℕ} {left : List K} {a : K} :
    a ∈ mirrored npoints left ↔ a ∈ left ∨ (npoints % 2 = 1 ∧ a = 0) ∨ -a ∈ left := by
  by_cases hodd : npoints % 2 = 1
  · simp [mirrored, hodd, neg_eq_iff_eq_neg]
  · simp [mirrored, hodd, neg_eq_iff_eq_neg]

/-! ## The search -/

variable [LinearOrder K]

section Search

variable [Cosine K]

variable (K) in
/-- The search for the inner abscissae of the left half ends with distinct roots
of the derivative of the Legendre polynomial. -/
structure Converged (npoints : ℕ) : Prop where
  inside : ∀ j ∈ Set.Ico 1 (npoints / 2),
    -1 < (abscissa (npoints - 1) j : K) ∧ (abscissa (npoints - 1) j : K) < 0
  root : ∀ j ∈ Set.Ico 1 (npoints / 2),
    (derivative (legendrePolynomial K (npoints - 1))).eval (abscissa (npoints - 1) j) = 0
  distinct : ∀ i ∈ Set.Ico 1 (npoints / 2), ∀ j ∈ Set.Ico 1 (npoints / 2),
    (abscissa (npoints - 1) i : K) = abscissa (npoints - 1) j → i = j

theorem Converged.nodup_left
    {npoints : ℕ} (h : Converged K npoints) : (leftAbscissae npoints : List K).Nodup := by
  apply List.Nodup.map_on _ List.nodup_range
  intro i hi j hj heq
  rw [List.mem_range] at hi hj
  cases i with
  | zero =>
      cases j with
      | zero =>
          rfl
      | succ j =>
          exact absurd heq (h.inside (j + 1) ⟨Nat.succ_pos j, hj⟩).1.ne
  | succ i =>
      have hinner : i + 1 ∈ Set.Ico 1 (npoints / 2) := ⟨Nat.succ_pos i, hi⟩
      cases j with
      | zero =>
          exact absurd heq (h.inside (i + 1) hinner).1.ne'
      | succ j =>
          exact h.distinct (i + 1) hinner (j + 1) ⟨Nat.succ_pos j, hj⟩ heq

/-- Up to three points no abscissa is searched for, so nothing depends on the cosine. -/
theorem converged_of_le_three {npoints : ℕ} (hpoints : npoints ≤ 3) :
    Converged K npoints := by
  have hnone : ∀ j, j ∉ Set.Ico 1 (npoints / 2) := by
    rintro j ⟨hlower, hupper⟩
    omega
  exact
    { inside := fun j hj => absurd hj (hnone j)
      root := fun j hj => absurd hj (hnone j)
      distinct := fun j hj => absurd hj (hnone j) }

end Search

variable [IsStrictOrderedRing K]

/-- At a root of the derivative of the Legendre polynomial the search stands still. -/
theorem newton_of_root
    {n : ℕ} {x : K} (hends : 1e-14 ≤ |1 - x * x|)
    (hroot : (derivative (legendrePolynomial K n)).eval x = 0) (steps : ℕ) :
    newton n steps x = x := by
  have hupdate : newtonUpdate n x = 0 := by
    simp [newtonUpdate, legendre_snd_of_le n hends, hroot]
  have hsmall : magnitude (0 : K) < 1e-15 := by
    rw [magnitude_eq_abs, abs_zero]
    norm_num
  cases steps with
  | zero =>
      rfl
  | succ steps =>
      simp only [newton, hupdate, add_zero, if_pos hsmall]

/-- The circle constant and the cosine themselves. -/
noncomputable abbrev realCosine : Cosine ℝ where
  pi := Real.pi
  cos := Real.cos

/-- Not a cosine, but a constant: the inner abscissa of the rule with four points, which
Newton's method from the true cosine only approaches.  The search starts at it whatever the
circle constant is, here a fraction close to it. -/
noncomputable abbrev exactGuess : Cosine ℝ where
  pi := 355 / 113
  cos _ := √5⁻¹

theorem eval_derivative_legendrePolynomial_three (x : ℝ) :
    (derivative (legendrePolynomial ℝ 3)).eval x = (15 * x ^ 2 - 3) / 2 := by
  simp [legendrePolynomial]
  ring

theorem sqrt_fifth_mul_self : √5⁻¹ * √5⁻¹ = (5⁻¹ : ℝ) :=
  Real.mul_self_sqrt (by norm_num)

theorem eval_derivative_legendrePolynomial_three_root :
    (derivative (legendrePolynomial ℝ 3)).eval (-√5⁻¹) = 0 := by
  rw [eval_derivative_legendrePolynomial_three]
  linear_combination 15 / 2 * sqrt_fifth_mul_self

theorem abscissa_exactGuess :
    letI := exactGuess
    (abscissa (4 - 1) 1 : ℝ) = -√5⁻¹ := by
  let _ := exactGuess
  have hends : (1e-14 : ℝ) ≤ |1 - -√5⁻¹ * -√5⁻¹| := by
    rw [neg_mul_neg, sqrt_fifth_mul_self]
    norm_num [abs_of_pos]
  rw [abscissa, if_neg one_ne_zero]
  exact newton_of_root hends eval_derivative_legendrePolynomial_three_root maxSteps

theorem converged_four :
    letI := exactGuess
    Converged ℝ 4 := by
  let _ := exactGuess
  have hsquare := sqrt_fifth_mul_self
  have hpos : (0 : ℝ) < √5⁻¹ := Real.sqrt_pos.mpr (by norm_num)
  have hone : ∀ j ∈ Set.Ico 1 (4 / 2), j = 1 := by
    intro j hj
    exact Nat.le_antisymm (Nat.le_of_lt_succ hj.2) hj.1
  constructor
  · intro j hj
    rw [hone j hj, abscissa_exactGuess]
    constructor <;> nlinarith
  · intro j hj
    rw [hone j hj, abscissa_exactGuess]
    exact eval_derivative_legendrePolynomial_three_root
  · intro i hi j hj _
    rw [hone i hi, hone j hj]

/-! ## The rule on `[-1, 1]` -/

theorem toUnit_neg (x : K) : toUnit (-x) = 1 - toUnit x := by
  unfold toUnit
  ring

theorem weightAt_eq (n : ℕ) (x : K) :
    weightAt n x = 1 / ((n : K) * ((n : K) + 1) * (legendrePolynomial K n).eval x ^ 2) := by
  simp only [weightAt, legendre_fst, scale]
  push_cast
  ring

theorem weightAt_neg (n : ℕ) (x : K) : weightAt n (-x) = weightAt n x := by
  rw [weightAt_eq, weightAt_eq, eval_neg_legendrePolynomial, mul_pow, neg_one_pow_sq, one_mul]

theorem two_mul_weightAt
    {n : ℕ} {nodes : Finset K} (hnodes : LobattoNodes n nodes) {a : K} (ha : a ∈ nodes) :
    2 * weightAt (n + 1) a = nodeIntegral nodes a := by
  rw [hnodes.nodeIntegral_eq ha, weightAt_eq]
  ring

variable [Cosine K] {npoints : ℕ}

theorem points_eq_map_toUnit (npoints : ℕ) :
    (points npoints : List K) = (mirrored npoints (leftAbscissae npoints)).map toUnit := by
  have hmiddle : (toUnit 0 : K) = 0.5 := by
    norm_num [toUnit]
  by_cases hodd : npoints % 2 = 1
  · simp [points, mirrored, hodd, hmiddle, toUnit_neg, Function.comp_def]
  · simp [points, mirrored, hodd, toUnit_neg, Function.comp_def]

theorem weights_eq_map_weightAt (npoints : ℕ) :
    (weights npoints : List K) =
      (mirrored npoints (leftAbscissae npoints)).map (weightAt (npoints - 1)) := by
  by_cases hodd : npoints % 2 = 1
  · simp [weights, mirrored, hodd, weightAt_neg, Function.comp_def]
  · simp [weights, mirrored, hodd, weightAt_neg, Function.comp_def]

theorem length_mirrored_leftAbscissae (npoints : ℕ) :
    (mirrored npoints (leftAbscissae npoints : List K)).length = npoints := by
  have hlength := length_points (K := K) npoints
  rwa [points_eq_map_toUnit, List.length_map] at hlength

namespace Converged

theorem of_mem_left
    (h : Converged K npoints) {a : K} (ha : a ∈ leftAbscissae npoints) :
    a < 0 ∧ (lobattoPolynomial K (npoints - 1)).eval a = 0 := by
  rcases List.mem_map.mp ha with ⟨j, hj, rfl⟩
  rw [List.mem_range] at hj
  cases j with
  | zero =>
      simp [abscissa, lobattoPolynomial]
  | succ j =>
      have hinner : j + 1 ∈ Set.Ico 1 (npoints / 2) := ⟨Nat.succ_pos j, hj⟩
      refine ⟨(h.inside (j + 1) hinner).2, ?_⟩
      rw [lobattoPolynomial, eval_mul, h.root (j + 1) hinner, mul_zero]

theorem nodup_mirrored (h : Converged K npoints) :
    (mirrored npoints (leftAbscissae npoints : List K)).Nodup := by
  have hleft : ∀ a ∈ (leftAbscissae npoints : List K), a < 0 :=
    fun a ha => (h.of_mem_left ha).1
  have hmiddle : ∀ a ∈ if npoints % 2 = 1 then [(0 : K)] else [], a = 0 := by
    split_ifs <;> simp
  have hright : ∀ a ∈ ((leftAbscissae npoints : List K).map (- ·)).reverse, 0 < a := by
    intro a ha
    simp only [List.mem_reverse, List.mem_map] at ha
    rcases ha with ⟨b, hb, rfl⟩
    exact neg_pos.mpr (hleft b hb)
  rw [mirrored, List.nodup_append', List.nodup_append']
  refine ⟨h.nodup_left, ⟨?_, ?_, ?_⟩, ?_⟩
  · split_ifs <;> simp
  · exact List.nodup_reverse.mpr (h.nodup_left.map neg_injective)
  · intro a hzero hpos
    exact (hright a hpos).ne' (hmiddle a hzero)
  · intro a hneg hrest
    rcases List.mem_append.mp hrest with hzero | hpos
    · exact (hleft a hneg).ne (hmiddle a hzero)
    · exact (hleft a hneg).not_gt (hright a hpos)

theorem lobattoNodes {n : ℕ} (h : Converged K (n + 2)) :
    LobattoNodes n (mirrored (n + 2) (leftAbscissae (n + 2) : List K)).toFinset where
  card := by
    rw [List.toFinset_card_of_nodup h.nodup_mirrored, length_mirrored_leftAbscissae]
  one_mem := by
    have hend : (-1 : K) ∈ leftAbscissae (n + 2) :=
      List.mem_map.mpr ⟨0, List.mem_range.mpr (by omega), if_pos rfl⟩
    rw [List.mem_toFinset, mem_mirrored_iff]
    exact .inr (.inr hend)
  root := by
    intro a ha
    rw [List.mem_toFinset, mem_mirrored_iff] at ha
    rcases ha with hleft | ⟨hodd, rfl⟩ | hright
    · exact (h.of_mem_left hleft).2
    · have hsign := eval_neg_lobattoPolynomial (n + 1) (0 : K)
      have hpower : Odd (n + 1 + 1) := Nat.odd_iff.mpr hodd
      rw [neg_zero, hpower.neg_one_pow, neg_one_mul] at hsign
      exact self_eq_neg.mp hsign
    · have hsign := eval_neg_lobattoPolynomial (n + 1) (-a)
      have hroot : (lobattoPolynomial K (n + 1)).eval (-a) = 0 := (h.of_mem_left hright).2
      rw [neg_neg, hroot, mul_zero] at hsign
      exact hsign

/-! ## Powers -/

theorem sum_weightAt_mul_toUnit_pow {n k : ℕ} (h : Converged K (n + 2)) (hk : k ≤ 2 * n + 1) :
    ((mirrored (n + 2) (leftAbscissae (n + 2))).map fun a =>
      weightAt (n + 1) a * toUnit a ^ k).sum = 1 / ((k : K) + 1) := by
  let nodes : Finset K := (mirrored (n + 2) (leftAbscissae (n + 2))).toFinset
  let f : K[X] := (C 2⁻¹ * (X + 1)) ^ k
  have hvalue : ∀ a, f.eval a = toUnit a ^ k := by
    intro a
    simp [f, toUnit, div_eq_inv_mul]
  have hdegree : f.degree < (2 * n + 2 : ℕ) := by
    have hline : (C 2⁻¹ * (X + 1) : K[X]).natDegree ≤ 1 := by
      compute_degree
    have hnat : f.natDegree ≤ k * 1 := natDegree_pow_le_of_le k hline
    exact degree_le_natDegree.trans_lt (Nat.cast_lt.mpr (by omega))
  have hterm : ∀ a ∈ nodes,
      f.eval a * nodeIntegral nodes a = 2 * (weightAt (n + 1) a * toUnit a ^ k) := by
    intro a ha
    rw [hvalue, ← two_mul_weightAt h.lobattoNodes ha]
    ring
  have hintegral := h.lobattoNodes.integral_eq_sum hdegree
  rw [integral_toUnit_pow, Finset.sum_congr rfl hterm, ← Finset.mul_sum,
    List.sum_toFinset _ h.nodup_mirrored] at hintegral
  apply mul_left_cancel₀ (two_ne_zero (α := K))
  rw [← hintegral]
  ring

end Converged

/-- If the search converges, the rule integrates all powers up to its order. -/
theorem rule_exact (hpoints : 2 ≤ npoints) (h : Converged K npoints) :
    ∃ rule : QuadratureRule K, Lobatto.rule npoints = .ok rule ∧
      rule.order = 2 * npoints - 3 ∧
      rule.weights.length = npoints ∧ rule.points.length = npoints ∧
      ∀ k ≤ rule.order, rule.moment k = 1 / ((k : K) + 1) := by
  obtain ⟨n, rfl⟩ : ∃ n, npoints = n + 2 := ⟨npoints - 2, by omega⟩
  refine ⟨_, if_neg (by omega), rfl, length_weights _, length_points _, ?_⟩
  intro k hk
  have horder : k ≤ 2 * n + 1 := by
    simp only at hk
    omega
  rw [← h.sum_weightAt_mul_toUnit_pow horder, QuadratureRule.moment, sumLeft_eq_sum]
  simp only [weights_eq_map_weightAt, points_eq_map_toUnit, List.zipWith_map, List.zipWith_self]
  rfl

/-- Three points with the true cosine, and four of which the inner abscissa is known. -/
theorem rule_exact_three_four :
    letI := realCosine
    2 ≤ 3 ∧ Converged ℝ 3 ∧
    (∃ rule : QuadratureRule ℝ, Lobatto.rule 3 = .ok rule ∧
      rule.order = 2 * 3 - 3 ∧
      rule.weights.length = 3 ∧ rule.points.length = 3 ∧
      ∀ k ≤ rule.order, rule.moment k = 1 / ((k : ℝ) + 1)) ∧
    letI := exactGuess
    2 ≤ 4 ∧ Converged ℝ 4 ∧
    ∃ rule : QuadratureRule ℝ, Lobatto.rule 4 = .ok rule ∧
      rule.order = 2 * 4 - 3 ∧
      rule.weights.length = 4 ∧ rule.points.length = 4 ∧
      ∀ k ≤ rule.order, rule.moment k = 1 / ((k : ℝ) + 1) := by
  let _ := realCosine
  have hthree := converged_of_le_three (K := ℝ) (le_refl 3)
  refine ⟨by omega, hthree, rule_exact (by omega) hthree, ?_⟩
  let _ := exactGuess
  exact ⟨by omega, converged_four, rule_exact (by omega) converged_four⟩

end Lobatto

end FacetElements
