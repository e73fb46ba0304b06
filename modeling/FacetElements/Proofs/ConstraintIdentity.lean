import FacetElements.Proofs.ExactConstraints
import FacetElements.Proofs.NodalBasis
import FacetElements.Proofs.RationalElements

/-!
# Constraints between equal elements

The dofs of an element are constrained to those of an equal one by the identity.  At
its own support points every face function is one or zero.  A tolerance below one
keeps these two values apart, so rounding changes neither, and they sum to one in
every row.  The matrix is exact for a whole range of tolerances.
-/

namespace FacetElements

variable {K F : Type}

/-! ## Equal elements -/

namespace FaceElement

theorem beq_eq [BEq K] (a b : FaceElement K) :
    (a == b) = (a.dim == b.dim && a.degree == b.degree && a.nodes == b.nodes) := rfl

instance [BEq K] [LawfulBEq K] : LawfulBEq (FaceElement K) where
  eq_of_beq {a b} h := by
    cases a
    cases b
    simpa [beq_eq, and_assoc] using h
  rfl {a} := by
    simp [beq_eq]

end FaceElement

namespace Constraint

variable [Field K] [LinearOrder K] [IsStrictOrderedRing K]
variable {eps : K} {tolerance : Tolerance K} {e : FaceElement K} {i j : ℕ}

/-! ## Rounding of one and zero -/

theorem snap_one (heps : eps < 1) : snap eps (1 : K) = 1 := by
  have hzero : ¬ Near eps 1 0 := by
    simpa [near_iff_abs_sub_le] using heps
  rw [snap, if_neg hzero, ite_self]

theorem snap_zero_of_lt_one (heps : eps < 1) : snap eps (0 : K) = 0 := by
  have hone : ¬ Near eps 0 1 := by
    simpa [near_iff_abs_sub_le] using heps
  rw [snap, if_neg hone, ite_self]

theorem roundedFunction_faceNode
    (hnodes : e.nodes.Nodup) (heps : tolerance.epsilon e.degree e.dim < 1)
    (hi : i < e.dofsPerFace) (hj : j < e.dofsPerFace) :
    roundedFunction tolerance e (e.faceNode i) j = e.faceFunction j (e.faceNode i) := by
  rw [roundedFunction, e.faceFunction_faceNode hnodes hj hi]
  by_cases hji : j = i
  · rw [if_pos hji, snap_one heps]
  · rw [if_neg hji, snap_zero_of_lt_one heps]

theorem rowPasses_faceNode
    (hnodes : e.nodes.Nodup) (hnonneg : 0 ≤ tolerance.epsilon e.degree e.dim)
    (heps : tolerance.epsilon e.degree e.dim < 1) (hi : i < e.dofsPerFace) :
    RowPasses tolerance e (e.faceNode i) := by
  have hrow :
      (List.range e.dofsPerFace).map (roundedFunction tolerance e (e.faceNode i)) =
        (List.range e.dofsPerFace).map fun dof => e.faceFunction dof (e.faceNode i) := by
    apply List.map_congr_left
    intro dof hdof
    exact roundedFunction_faceNode hnodes heps hi (List.mem_range.mp hdof)
  have htotal : rowTotal tolerance e (e.faceNode i) = 1 := by
    rw [rowTotal, hrow, sumLeft_eq_sum]
    exact e.sum_faceFunction hnodes (e.length_faceNode i)
  rw [RowPasses, htotal, near_iff_abs_sub_le, sub_self, abs_zero]
  exact hnonneg

/-! ## The identity -/

variable [ScalarText K] [ElementFamily F]

/-- Between equal elements with distinct nodes every tolerance from zero to below one
gives the identity, entry for entry. -/
theorem faceMatrix_identity
    {e' : FaceElement K} (hequal : (e == e') = true) (hnodes : e.nodes.Nodup)
    (hnonneg : 0 ≤ tolerance.epsilon e.degree e.dim)
    (heps : tolerance.epsilon e.degree e.dim < 1) :
    ∃ matrix, faceMatrix tolerance e (.face e' : Element K F) = .ok matrix ∧
      matrix.rows = e.dofsPerFace ∧ matrix.cols = e.dofsPerFace ∧
      ∀ i < e.dofsPerFace, ∀ j < e.dofsPerFace,
        matrix.read i j = .ok (if i = j then 1 else 0) := by
  obtain rfl := eq_of_beq hequal
  have hrows : ∀ i < e.dofsPerFace, RowPasses tolerance e (e.faceNode i) :=
    fun i hi => rowPasses_faceNode hnodes hnonneg heps hi
  have hmatrix := faceMatrix_eq_ok_iff (F := F).mpr
    ⟨checkPair_eq_ok rfl (le_refl e.degree), hrows, rfl⟩
  refine ⟨_, hmatrix, rfl, rfl, ?_⟩
  intro i hi j hj
  rw [roundedTable, Table.read_generate _ hi hj, roundedFunction_faceNode hnodes heps hi hj,
    e.faceFunction_faceNode hnodes hj hi]
  simp only [eq_comm]

/-- The tolerance is two fifths. -/
theorem faceMatrix_identity_quadratic :
    FaceElement.create 3 2 = .ok (rationalFace 2) ∧
    (rationalFace 2 == rationalFace 2) = true ∧ (rationalFace 2).nodes.Nodup ∧
    (⟨1 / 10⟩ : Tolerance ℚ).epsilon (rationalFace 2).degree (rationalFace 2).dim = 2 / 5 ∧
    ∃ matrix,
      faceMatrix ⟨1 / 10⟩ (rationalFace 2) (.face (rationalFace 2) : Element ℚ Empty) =
        .ok matrix ∧
      matrix.rows = (rationalFace 2).dofsPerFace ∧
      matrix.cols = (rationalFace 2).dofsPerFace ∧
      ∀ i < (rationalFace 2).dofsPerFace, ∀ j < (rationalFace 2).dofsPerFace,
        matrix.read i j = .ok (if i = j then 1 else 0) := by
  have hequal : (rationalFace 2 == rationalFace 2) = true := beq_self_eq_true _
  have hnodes := nodup_nodes_rationalFace 2
  have heps :
      (⟨1 / 10⟩ : Tolerance ℚ).epsilon (rationalFace 2).degree (rationalFace 2).dim = 2 / 5 := by
    norm_num [Tolerance.epsilon, rationalFace]
  refine ⟨create_rationalFace 2, hequal, hnodes, heps, ?_⟩
  apply faceMatrix_identity hequal hnodes
  · rw [heps]
    norm_num
  · rw [heps]
    norm_num

end Constraint

end FacetElements
