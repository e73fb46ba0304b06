import FacetElements.Proofs.ListFilling
import FacetElements.Proofs.LobattoExactness
import FacetElements.Proofs.LobattoNodes
import FacetElements.Proofs.RationalElements

/-!
# Shape of Gauss-Lobatto rules

A rule is filled from both ends: each abscissa of the left half gives a point and a
weight, and their mirror images at the other end.  So its entries are symmetric and none
is left out, for either parity of their number.  This needs no law of the scalars and
nothing about what the search returns.
-/

namespace FacetElements

namespace Lobatto

/-! ## Points and weights -/

section Scalars

variable {K : Type} [Zero K] [One K] [OfNat K 2] [NatCast K] [Add K] [Sub K] [Mul K] [Div K]
variable [Neg K] [OfScientific K] [LT K] [DecidableLT K] [Cosine K]

def leftPoint (npoints j : ℕ) : K :=
  toUnit (abscissa (npoints - 1) j)

def leftWeight (npoints j : ℕ) : K :=
  weightAt (npoints - 1) (abscissa (npoints - 1) j)

theorem points_eq_fromEnds (npoints : ℕ) :
    (points npoints : List K) =
      fromEnds npoints (leftPoint npoints) (fun j => 1 - leftPoint npoints j) 0.5 := by
  have hleft : (leftAbscissae npoints : List K).map toUnit =
      (List.range (npoints / 2)).map (leftPoint npoints) := by
    rw [leftAbscissae, List.map_map]
    rfl
  rw [points, hleft]
  simp [fromEnds, Function.comp_def]

theorem weights_eq_fromEnds (npoints : ℕ) :
    (weights npoints : List K) =
      fromEnds npoints (leftWeight npoints) (leftWeight npoints) (weightAt (npoints - 1) 0) := by
  have hleft : (leftAbscissae npoints : List K).map (weightAt (npoints - 1)) =
      (List.range (npoints / 2)).map (leftWeight npoints) := by
    rw [leftAbscissae, List.map_map]
    rfl
  rw [weights, hleft]
  simp [fromEnds]

/-- The points in the order in which they are found, with their positions. -/
def pointWrites (npoints : ℕ) : List (K × ℕ) :=
  writesFromEnds npoints (leftPoint npoints) (fun j => 1 - leftPoint npoints j) 0.5

def weightWrites (npoints : ℕ) : List (K × ℕ) :=
  writesFromEnds npoints (leftWeight npoints) (leftWeight npoints) (weightAt (npoints - 1) 0)

theorem pointWrites_perm (npoints : ℕ) :
    (pointWrites npoints : List (K × ℕ)).Perm (points npoints).zipIdx := by
  rw [points_eq_fromEnds]
  exact writesFromEnds_perm _ _ _ _

theorem weightWrites_perm (npoints : ℕ) :
    (weightWrites npoints : List (K × ℕ)).Perm (weights npoints).zipIdx := by
  rw [weights_eq_fromEnds]
  exact writesFromEnds_perm _ _ _ _

theorem getElem?_points_mirror {npoints j : ℕ} (hj : j < npoints / 2) :
    ∃ x : K, (points npoints)[j]? = some x ∧ (points npoints)[npoints - 1 - j]? = some (1 - x) := by
  rw [points_eq_fromEnds]
  exact ⟨_, getElem?_fromEnds_left hj, getElem?_fromEnds_right hj⟩

theorem getElem?_points_middle {npoints : ℕ} (hodd : npoints % 2 = 1) :
    (points npoints : List K)[npoints / 2]? = some 0.5 := by
  rw [points_eq_fromEnds, getElem?_fromEnds_middle hodd]

theorem getElem?_points_zero {npoints : ℕ} (hpoints : 2 ≤ npoints) :
    (points npoints : List K)[0]? = some ((-1 + 1 : K) / 2) := by
  rw [points_eq_fromEnds, getElem?_fromEnds_left (Nat.div_pos hpoints Nat.two_pos)]
  rfl

theorem getElem?_points_last {npoints : ℕ} (hpoints : 2 ≤ npoints) :
    (points npoints : List K)[npoints - 1]? = some (1 - (-1 + 1 : K) / 2) := by
  rcases getElem?_points_mirror (K := K) (Nat.div_pos hpoints Nat.two_pos) with ⟨x, hfirst, hlast⟩
  rw [getElem?_points_zero hpoints, Option.some.injEq] at hfirst
  rw [hfirst]
  exact hlast

theorem reverse_weights (npoints : ℕ) : (weights npoints : List K).reverse = weights npoints := by
  rw [weights_eq_fromEnds, reverse_fromEnds]

theorem getElem?_weights_mirror {npoints j : ℕ} (hj : j < npoints) :
    ∃ w : K, (weights npoints)[j]? = some w ∧ (weights npoints)[npoints - 1 - j]? = some w := by
  have hmirror : (weights npoints : List K).reverse = (weights npoints).map id := by
    rw [reverse_weights, List.map_id]
  have hlength : j < (weights npoints : List K).length := by
    rwa [length_weights]
  have hentries := exists_getElem?_mirror hmirror hlength
  rwa [length_weights] at hentries

/-- A rule with the given number of points: its numbers, the symmetry of its entries, and
the writes that leave them, whatever was there before. -/
structure HasShape (npoints : ℕ) (rule : QuadratureRule K) : Prop where
  dim_eq : rule.dim = 1
  order_eq : rule.order = 2 * npoints - 3
  npoints_eq : rule.npoints = npoints
  length_points : rule.points.length = npoints
  length_weights : rule.weights.length = npoints
  points_written : (pointWrites npoints).Perm rule.points.zipIdx
  weights_written : (weightWrites npoints).Perm rule.weights.zipIdx
  points_filled : ∀ before : List K, before.length = npoints →
    writeAll (pointWrites npoints) before = rule.points
  weights_filled : ∀ before : List K, before.length = npoints →
    writeAll (weightWrites npoints) before = rule.weights
  first_point : rule.points[0]? = some ((-1 + 1 : K) / 2)
  last_point : rule.points[npoints - 1]? = some (1 - (-1 + 1 : K) / 2)
  mirrored_points : ∀ j < npoints / 2, ∃ x,
    rule.points[j]? = some x ∧ rule.points[npoints - 1 - j]? = some (1 - x)
  middle_point : npoints % 2 = 1 → rule.points[npoints / 2]? = some 0.5
  mirrored_weights : ∀ j < npoints, ∃ w,
    rule.weights[j]? = some w ∧ rule.weights[npoints - 1 - j]? = some w

theorem rule_eq_error_iff (npoints : ℕ) :
    (rule npoints : Except Error (QuadratureRule K)) = .error (.tooFewPoints npoints) ↔
      npoints < 2 := by
  unfold rule
  split_ifs with hpoints
  · simp [hpoints]
  · simp [hpoints]

theorem exists_hasShape {npoints : ℕ} (hpoints : 2 ≤ npoints) :
    ∃ r : QuadratureRule K, rule npoints = .ok r ∧ HasShape npoints r := by
  refine ⟨_, if_neg (not_lt.mpr hpoints), ?_⟩
  exact
    { dim_eq := rfl
      order_eq := rfl
      npoints_eq := rfl
      length_points := Lobatto.length_points npoints
      length_weights := Lobatto.length_weights npoints
      points_written := pointWrites_perm npoints
      weights_written := weightWrites_perm npoints
      points_filled := fun _ hbefore =>
        writeAll_eq_of_perm (pointWrites_perm npoints) (by rw [hbefore, Lobatto.length_points])
      weights_filled := fun _ hbefore =>
        writeAll_eq_of_perm (weightWrites_perm npoints) (by rw [hbefore, Lobatto.length_weights])
      first_point := getElem?_points_zero hpoints
      last_point := getElem?_points_last hpoints
      mirrored_points := fun _ hj => getElem?_points_mirror hj
      middle_point := getElem?_points_middle
      mirrored_weights := fun _ hj => getElem?_weights_mirror hj }

theorem nodes_ends
    {degree : ℕ} (hdegree : 1 ≤ degree) (hlower : (-1 + 1 : K) / 2 = 0)
    (hupper : (1 - 0 : K) = 1) :
    (nodes degree : List K).head? = some 0 ∧ (nodes degree : List K).getLast? = some 1 := by
  have hfirst := getElem?_points_zero (K := K) (Nat.succ_le_succ hdegree)
  have hlast := getElem?_points_last (K := K) (Nat.succ_le_succ hdegree)
  rw [hlower] at hfirst hlast
  rw [hupper] at hlast
  rw [List.head?_eq_getElem?, List.getLast?_eq_getElem?, length_nodes]
  exact ⟨hfirst, hlast⟩

end Scalars

/-! ## Exact arithmetic -/

section Exact

variable {K : Type} [Field K]

/-- What exact arithmetic adds to the shape of a rule: the weights of the ends, and the
symmetry of all points, the middle one included. -/
structure HasExactShape (npoints : ℕ) (rule : QuadratureRule K) : Prop where
  first_weight : rule.weights[0]? =
    some (1 / (((npoints - 1 : ℕ) : K) * (((npoints - 1 : ℕ) : K) + 1)))
  last_weight : rule.weights[npoints - 1]? =
    some (1 / (((npoints - 1 : ℕ) : K) * (((npoints - 1 : ℕ) : K) + 1)))
  mirrored_points : ∀ j < npoints, ∃ x,
    rule.points[j]? = some x ∧ rule.points[npoints - 1 - j]? = some (1 - x)

variable [LinearOrder K] [IsStrictOrderedRing K]

theorem weightAt_neg_one (n : ℕ) :
    weightAt n (-1 : K) = 1 / ((n : K) * ((n : K) + 1)) := by
  rw [weightAt_neg, weightAt_eq, eval_one_legendrePolynomial, one_pow, mul_one]

variable [Cosine K]

theorem exists_hasExactShape {npoints : ℕ} (hpoints : 2 ≤ npoints) :
    ∃ r : QuadratureRule K, rule npoints = .ok r ∧ HasExactShape npoints r := by
  have hpos : 0 < npoints / 2 := Nat.div_pos hpoints Nat.two_pos
  refine ⟨_, if_neg (not_lt.mpr hpoints), ?_, ?_, ?_⟩
  · rw [weights_eq_fromEnds, getElem?_fromEnds_left hpos, ← weightAt_neg_one]
    rfl
  · rw [weights_eq_fromEnds, ← weightAt_neg_one]
    exact getElem?_fromEnds_right hpos
  · intro j hj
    have hentries := exists_getElem?_mirror (reverse_points (K := K) npoints)
      (by rwa [length_points])
    rwa [length_points] at hentries

end Exact

/-- The shape of a rule needs two points and no law of the scalars; exact arithmetic
gives the weights of its ends.  The number by which values are scaled has to be a machine
word.  Nodes exist for these degrees, and for the largest degree there are none. -/
theorem rule_shape
    {S : Type} [Zero S] [One S] [OfNat S 2] [NatCast S] [Add S] [Sub S] [Mul S] [Div S]
    [Neg S] [OfScientific S] [LT S] [DecidableLT S] [Cosine S]
    {K : Type} [Field K] [LinearOrder K] [IsStrictOrderedRing K] [Cosine K]
    (npoints degree : ℕ) :
    ((rule npoints : Except Error (QuadratureRule S)) = .error (.tooFewPoints npoints) ↔
      npoints < 2) ∧
    (2 ≤ npoints → (npoints - 1) * npoints < 2 ^ 64 →
      ∃ r : QuadratureRule S, rule npoints = .ok r ∧ HasShape npoints r) ∧
    (2 ≤ npoints → (npoints - 1) * npoints < 2 ^ 64 →
      ∃ r : QuadratureRule K, rule npoints = .ok r ∧ HasExactShape npoints r) ∧
    (degree * (degree + 1) < 2 ^ 64 →
      (requestNodes degree : Except Error (List S)) = .ok (nodes degree)) ∧
    (degree + 1 = 2 ^ 64 →
      (requestNodes degree : Except Error (List S)) = .error (.tooFewPoints 0)) ∧
    (nodes degree : List S).length = degree + 1 ∧
    (1 ≤ degree → (-1 + 1 : S) / 2 = 0 → (1 - 0 : S) = 1 →
      (nodes degree : List S).head? = some 0 ∧ (nodes degree : List S).getLast? = some 1) ∧
    (1 ≤ degree →
      (nodes degree : List K).head? = some 0 ∧ (nodes degree : List K).getLast? = some 1) := by
  refine ⟨rule_eq_error_iff npoints, fun hpoints _ => exists_hasShape hpoints,
    fun hpoints _ => exists_hasExactShape hpoints, ?_, requestNodes_eq_error, length_nodes degree,
    nodes_ends, ?_⟩
  · intro hdegree
    exact requestNodes_eq (succ_lt_of_mul_succ_lt hdegree)
  · intro hdegree
    exact nodes_ends hdegree (by rw [neg_add_cancel, zero_div]) (sub_zero 1)

theorem rule_shape_five :
    2 ≤ 5 ∧ (5 - 1) * 5 < 2 ^ 64 ∧
    (∃ r : QuadratureRule Float, rule 5 = .ok r ∧ HasShape 5 r) ∧
    (∃ r : QuadratureRule ℚ, rule 5 = .ok r ∧ HasExactShape 5 r) ∧
    (requestNodes 4 : Except Error (List Float)) = .ok (nodes 4) ∧
    (nodes 4 : List ℚ).head? = some 0 ∧ (nodes 4 : List ℚ).getLast? = some 1 := by
  have hfits : (5 - 1) * 5 < 2 ^ 64 := by
    norm_num
  rcases rule_shape (S := Float) (K := ℚ) 5 4 with
    ⟨-, hshape, hexact, hnodes, -, -, -, hends⟩
  exact ⟨by omega, hfits, hshape (by omega) hfits, hexact (by omega) hfits, hnodes (by norm_num),
    hends (by omega)⟩

/-- One more than the largest degree is zero as a machine word, and a rule without points
is refused. -/
theorem requestNodes_largest_degree :
    (requestNodes 18446744073709551615 : Except Error (List Float)) =
      .error (.tooFewPoints 0) := by
  exact requestNodes_eq_error (by decide)

end Lobatto

end FacetElements
