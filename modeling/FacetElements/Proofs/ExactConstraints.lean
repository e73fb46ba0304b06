import FacetElements.Proofs.ConstraintOutcome
import FacetElements.Proofs.FaceInterpolation

/-!
# Constraint matrices without tolerance

In exact arithmetic the face functions of an element with distinct nodes sum to
one at every point, so a tolerance of zero rounds no entry and refuses no row.
What remains of a constraint matrix is the values of the target functions at
the points of the source dofs.
-/

namespace FacetElements
namespace Constraint

variable {K F : Type}

theorem epsilon_zero [Semiring K] (degree dim : ℕ) :
    (⟨0⟩ : Tolerance K).epsilon degree dim = 0 := by
  rw [Tolerance.epsilon, zero_mul, zero_mul]

section Order

variable [Field K] [LinearOrder K] [IsStrictOrderedRing K]

theorem snap_zero (x : K) : snap 0 x = x := by
  unfold snap
  by_cases hone : Near 0 x 1
  · rw [if_pos hone]
    exact (near_zero_iff.mp hone).symm
  · rw [if_neg hone]
    by_cases hzero : Near 0 x 0
    · rw [if_pos hzero]
      exact (near_zero_iff.mp hzero).symm
    · rw [if_neg hzero]

theorem roundedFunction_zero
    (target : FaceElement K) (point : List K) (dof : ℕ) :
    roundedFunction ⟨0⟩ target point dof = target.faceFunction dof point := by
  rw [roundedFunction, epsilon_zero, snap_zero]

theorem roundedTable_zero (target : FaceElement K) (rows : ℕ) (point : ℕ → List K) :
    roundedTable ⟨0⟩ target rows point =
      Table.generate rows target.dofsPerFace fun i j => target.faceFunction j (point i) := by
  apply Table.generate_congr
  intro i _ j _
  exact roundedFunction_zero target (point i) j

theorem rowPasses_zero_iff (target : FaceElement K) (point : List K) :
    RowPasses ⟨0⟩ target point ↔
      ((List.range target.dofsPerFace).map fun dof => target.faceFunction dof point).sum =
        1 := by
  have hrow :
      (List.range target.dofsPerFace).map (roundedFunction ⟨0⟩ target point) =
        (List.range target.dofsPerFace).map fun dof =>
          target.faceFunction dof point := by
    apply List.map_congr_left
    intro dof _
    exact roundedFunction_zero target point dof
  rw [RowPasses, epsilon_zero, near_zero_iff, rowTotal, hrow, sumLeft_eq_sum]

theorem rowPasses_zero
    (target : FaceElement K) (hnodes : target.nodes.Nodup)
    {point : List K} (hpoint : point.length = target.dim - 1) :
    RowPasses ⟨0⟩ target point :=
  (rowPasses_zero_iff target point).mpr (target.sum_faceFunction hnodes hpoint)

variable [ScalarText K]

theorem ofPoints_exact
    (target : FaceElement K) (hnodes : target.nodes.Nodup)
    {points : Table K} {rows : ℕ} {point : ℕ → List K}
    (hpoints : points.rowList = (List.range rows).map point)
    (hlength : ∀ i, (point i).length = target.dim - 1) :
    ofPoints ⟨0⟩ target points =
      .ok (Table.generate rows target.dofsPerFace fun i j =>
        target.faceFunction j (point i)) := by
  rw [ofPoints_eq_ok hpoints fun i _ => rowPasses_zero target hnodes (hlength i),
    roundedTable_zero]

variable [ElementFamily F]

theorem faceMatrix_exact
    {target source : FaceElement K} (hdim : source.dim = target.dim)
    (hdegree : target.degree ≤ source.degree) (hnodes : target.nodes.Nodup) :
    faceMatrix ⟨0⟩ target (.face source : Element K F) =
      .ok (Table.generate source.dofsPerFace target.dofsPerFace fun i j =>
        target.faceFunction j (source.faceNode i)) := by
  rw [faceMatrix_face, checkPair_eq_ok hdim hdegree]
  refine ofPoints_exact target hnodes source.rowList_faceSupportPoints ?_
  intro dof
  rw [FaceElement.length_faceNode, hdim]

theorem subfaceMatrix_exact
    {target source : FaceElement K} (hdim : source.dim = target.dim)
    (hdegree : target.degree ≤ source.degree) (hnodes : target.nodes.Nodup)
    {subface : ℕ} (hsubface : subface < 2 ^ (target.dim - 1)) :
    subfaceMatrix ⟨0⟩ target (.face source : Element K F) subface =
      .ok (Table.generate source.dofsPerFace target.dofsPerFace fun i j =>
        target.faceFunction j (childPoint subface (source.faceNode i))) := by
  rw [subfaceMatrix_face source hsubface, checkPair_eq_ok hdim hdegree]
  refine ofPoints_exact target hnodes (rowList_childSupportPoints source subface) ?_
  intro dof
  rw [length_childPoint, FaceElement.length_faceNode, hdim]

end Order

end Constraint
end FacetElements
