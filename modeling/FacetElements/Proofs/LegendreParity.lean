import FacetElements.Proofs.LegendreValues
import FacetElements.Proofs.LobattoShape

/-!
# Parity of the Legendre polynomials

A Legendre polynomial is even or odd as its degree is, and its derivative the other way
round.  The program keeps to this at every point, also close to the ends of `[-1, 1]`, where
it takes the slope of the end.  So a rule may copy the weight of an abscissa to the mirrored
position: it is the weight that the formula gives there.
-/

namespace FacetElements

variable {K : Type} [Field K] [LinearOrder K] [IsStrictOrderedRing K]

/-! ## Values and slopes -/

theorem legendre_fst_neg (n : ℕ) (x : K) :
    (legendre n (-x)).1 = (-1) ^ n * (legendre n x).1 := by
  rw [legendre_fst, legendre_fst, eval_neg_legendrePolynomial]

theorem ne_zero_of_abs_one_sub_lt {x : K} (hx : |1 - x * x| < 1e-14) : x ≠ 0 := by
  intro hzero
  rw [hzero] at hx
  norm_num at hx

theorem legendre_snd_neg (n : ℕ) (x : K) :
    (legendre n (-x)).2 = (-1) ^ (n + 1) * (legendre n x).2 := by
  have hsame : |1 - -x * -x| = |1 - x * x| := by
    rw [neg_mul_neg]
  by_cases hx : |1 - x * x| < 1e-14
  · rw [legendre_snd_of_lt n hx, legendre_snd_of_lt n (hsame.trans_lt hx)]
    -- One of the two points is near the right end, where the slope is positive.
    rcases (ne_zero_of_abs_one_sub_lt hx).lt_or_gt with hneg | hpos
    · rw [sign_of_neg n hneg, if_pos (.inl (neg_pos.mpr hneg))]
      linear_combination -((word (n * (n + 1)) : K) / 2) * neg_one_pow_sq (K := K) (n + 1)
    · rw [sign_of_neg n (neg_lt_zero.mpr hpos), if_pos (.inl hpos)]
      ring
  · have hinner : 1e-14 ≤ |1 - x * x| := not_lt.mp hx
    rw [legendre_snd_of_le n hinner, legendre_snd_of_le n (hinner.trans_eq hsame.symm),
      eval_neg_derivative_legendrePolynomial]

theorem legendre_neg (n : ℕ) (x : K) :
    legendre n (-x) = ((-1) ^ n * (legendre n x).1, (-1) ^ (n + 1) * (legendre n x).2) :=
  Prod.ext (legendre_fst_neg n x) (legendre_snd_neg n x)

/-! ## Mirrored positions -/

namespace Lobatto

/-- The point and the weight at a position of a rule are those of an abscissa, by the
formulas for both. -/
structure BelongsTo (rule : QuadratureRule K) (n position : ℕ) (x : K) : Prop where
  point : rule.points[position]? = some ((x + 1) / 2)
  weight : rule.weights[position]? =
    some (1 / ((n : K) * ((n : K) + 1) * (legendre n x).1 ^ 2))

theorem belongsTo_iff {rule : QuadratureRule K} {n position : ℕ} {x : K} :
    BelongsTo rule n position x ↔
      rule.points[position]? = some (toUnit x) ∧
        rule.weights[position]? = some (weightAt n x) := by
  rw [weightAt_eq, ← legendre_fst]
  constructor
  · intro hbelongs
    exact ⟨hbelongs.point, hbelongs.weight⟩
  · intro hentries
    exact ⟨hentries.1, hentries.2⟩

variable [Cosine K]

/-- The entries of the left half are computed, those of the right half are copied. -/
theorem belongsTo_mirror
    {npoints j : ℕ} (hj : j < npoints / 2) {rule : QuadratureRule K}
    (hpoints : rule.points = points npoints) (hweights : rule.weights = weights npoints) :
    BelongsTo rule (npoints - 1) j (abscissa (npoints - 1) j) ∧
      BelongsTo rule (npoints - 1) (npoints - 1 - j) (-abscissa (npoints - 1) j) := by
  rw [belongsTo_iff, belongsTo_iff, toUnit_neg, weightAt_neg, hpoints, hweights,
    points_eq_fromEnds, weights_eq_fromEnds]
  exact ⟨⟨getElem?_fromEnds_left hj, getElem?_fromEnds_left hj⟩,
    getElem?_fromEnds_right hj, getElem?_fromEnds_right hj⟩

/-- Values and slopes of the Legendre polynomials have their parity everywhere.  So the
weight that is copied to a mirrored position is that of the mirrored abscissa, whatever
abscissa the search ends with. -/
theorem parity_mirrors_rule :
    (∀ (n : ℕ) (x : K),
      legendre n (-x) = ((-1) ^ n * (legendre n x).1, (-1) ^ (n + 1) * (legendre n x).2)) ∧
    ∀ npoints, 2 ≤ npoints → ∃ r : QuadratureRule K, rule npoints = .ok r ∧
      ∀ j < npoints / 2,
        BelongsTo r (npoints - 1) j (abscissa (npoints - 1) j) ∧
          BelongsTo r (npoints - 1) (npoints - 1 - j) (-abscissa (npoints - 1) j) := by
  refine ⟨legendre_neg, ?_⟩
  intro npoints hpoints
  refine ⟨_, if_neg (not_lt.mpr hpoints), ?_⟩
  intro j hj
  exact belongsTo_mirror hj rfl rfl

theorem parity_mirrors_rule_four :
    letI := exactGuess
    2 ≤ 4 ∧ 1 < 4 / 2 ∧ ∃ r : QuadratureRule ℝ, rule 4 = .ok r ∧
      BelongsTo r 3 1 (-√5⁻¹) ∧ BelongsTo r 3 2 √5⁻¹ := by
  let _ := exactGuess
  rcases (parity_mirrors_rule (K := ℝ)).2 4 (by omega) with ⟨r, hrule, hentries⟩
  have hinner := hentries 1 (by omega)
  rw [abscissa_exactGuess, neg_neg] at hinner
  exact ⟨by omega, by omega, r, hrule, hinner⟩

end Lobatto

end FacetElements
