import FacetElements.Proofs.ExactConstraints
import FacetElements.Proofs.RationalElements

/-!
# Constrained functions

The dofs of a source that are constrained to those of a target describe the
same function on the whole face, not only at the support points.  On a refined
face the source describes, on each child, the restriction of the target
function to it.  The statements hold of every face element with distinct nodes,
the created ones among them.
-/

namespace FacetElements

variable {K F : Type} [Field K] [LinearOrder K] [IsStrictOrderedRing K]
variable [ScalarText K] [ElementFamily F]

/-- Without tolerance every row of a face matrix passes, and each column holds
the dofs by which the source describes the target function of that column, at
every point of the face. -/
theorem faceMatrix_reproduces
    {target source : FaceElement K} (hdim : source.dim = target.dim)
    (hdegree : target.degree ≤ source.degree)
    (htarget : target.nodes.Nodup) (hsource : source.nodes.Nodup) :
    ∃ matrix,
      Constraint.faceMatrix ⟨0⟩ target (.face source : Element K F) =
        .ok matrix ∧
      matrix.rows = source.dofsPerFace ∧
      matrix.cols = target.dofsPerFace ∧
      ∀ dof < target.dofsPerFace, ∀ point : List K,
        point.length = target.dim - 1 →
          ∃ value,
            target.space.value dof point = .ok value ∧
            source.columnValue matrix dof point = .ok value := by
  refine ⟨_, Constraint.faceMatrix_exact hdim hdegree htarget, rfl, rfl, ?_⟩
  intro dof hdof point hpoint
  have hsourcePoint : point.length = source.dim - 1 := by
    rw [hdim]
    exact hpoint
  have hfunction := FaceElement.degreeBelow_faceFunction_of_le hdim hdegree dof
  refine ⟨target.faceFunction dof point, ?_, ?_⟩
  · exact target.space_value_eq hdof hpoint
  · exact source.columnValue_of_degreeBelow hsource hdof hfunction hsourcePoint

theorem faceMatrix_reproduces_linear_quadratic :
    FaceElement.create 3 1 = .ok (rationalFace 1) ∧
    FaceElement.create 3 2 = .ok (rationalFace 2) ∧
    (rationalFace 2).dim = (rationalFace 1).dim ∧
    (rationalFace 1).degree ≤ (rationalFace 2).degree ∧
    (rationalFace 1).nodes.Nodup ∧ (rationalFace 2).nodes.Nodup ∧
    ∃ matrix,
      Constraint.faceMatrix ⟨0⟩ (rationalFace 1)
          (.face (rationalFace 2) : Element ℚ Empty) = .ok matrix ∧
      matrix.rows = (rationalFace 2).dofsPerFace ∧
      matrix.cols = (rationalFace 1).dofsPerFace ∧
      ∀ dof < (rationalFace 1).dofsPerFace, ∀ point : List ℚ,
        point.length = (rationalFace 1).dim - 1 →
          ∃ value,
            (rationalFace 1).space.value dof point = .ok value ∧
            (rationalFace 2).columnValue matrix dof point = .ok value := by
  have hlinear := nodup_nodes_rationalFace 1
  have hquadratic := nodup_nodes_rationalFace 2
  have hdim : (rationalFace 2).dim = (rationalFace 1).dim := rfl
  have hdegree : (rationalFace 1).degree ≤ (rationalFace 2).degree := by
    decide
  exact ⟨create_rationalFace 1, create_rationalFace 2, hdim, hdegree,
    hlinear, hquadratic,
    faceMatrix_reproduces hdim hdegree hlinear hquadratic⟩

/-- Without tolerance each column of the matrix for a child of a refined face
holds the dofs by which the source on that child describes the restriction of
the target function, at every point of the child. -/
theorem subfaceMatrix_reproduces_restriction
    {target source : FaceElement K} (hdim : source.dim = target.dim)
    (hdegree : target.degree ≤ source.degree)
    (htarget : target.nodes.Nodup) (hsource : source.nodes.Nodup)
    {subface : ℕ} (hsubface : subface < 2 ^ (target.dim - 1)) :
    ∃ matrix,
      Constraint.subfaceMatrix ⟨0⟩ target (.face source : Element K F)
          subface = .ok matrix ∧
      matrix.rows = source.dofsPerFace ∧
      matrix.cols = target.dofsPerFace ∧
      ∀ dof < target.dofsPerFace, ∀ point : List K,
        point.length = target.dim - 1 →
          ∃ facePoint value,
            target.faceCell.childToCell subface point = .ok facePoint ∧
            target.space.value dof facePoint = .ok value ∧
            source.columnValue matrix dof point = .ok value := by
  refine ⟨_, Constraint.subfaceMatrix_exact hdim hdegree htarget hsubface,
    rfl, rfl, ?_⟩
  intro dof hdof point hpoint
  have hchild :
      target.faceCell.childToCell subface point =
        .ok (childPoint subface point) :=
    Constraint.childToCell_faceCell target hsubface hpoint
  have hfacePoint : (childPoint subface point).length = target.dim - 1 := by
    rw [length_childPoint, hpoint]
  have hsourcePoint : point.length = source.dim - 1 := by
    rw [hdim]
    exact hpoint
  have hfunction :=
    (FaceElement.degreeBelow_faceFunction_of_le hdim hdegree dof).comp_childPoint
      subface
  refine ⟨childPoint subface point,
    target.faceFunction dof (childPoint subface point), hchild, ?_, ?_⟩
  · exact target.space_value_eq hdof hfacePoint
  · exact source.columnValue_of_degreeBelow hsource hdof
      (f := fun j point => target.faceFunction j (childPoint subface point))
      hfunction hsourcePoint

theorem subfaceMatrix_reproduces_restriction_last_child :
    FaceElement.create 3 1 = .ok (rationalFace 1) ∧
    FaceElement.create 3 2 = .ok (rationalFace 2) ∧
    (rationalFace 2).dim = (rationalFace 1).dim ∧
    (rationalFace 1).degree ≤ (rationalFace 2).degree ∧
    (rationalFace 1).nodes.Nodup ∧ (rationalFace 2).nodes.Nodup ∧
    3 < 2 ^ ((rationalFace 1).dim - 1) ∧
    ∃ matrix,
      Constraint.subfaceMatrix ⟨0⟩ (rationalFace 1)
          (.face (rationalFace 2) : Element ℚ Empty) 3 = .ok matrix ∧
      matrix.rows = (rationalFace 2).dofsPerFace ∧
      matrix.cols = (rationalFace 1).dofsPerFace ∧
      ∀ dof < (rationalFace 1).dofsPerFace, ∀ point : List ℚ,
        point.length = (rationalFace 1).dim - 1 →
          ∃ facePoint value,
            (rationalFace 1).faceCell.childToCell 3 point = .ok facePoint ∧
            (rationalFace 1).space.value dof facePoint = .ok value ∧
            (rationalFace 2).columnValue matrix dof point = .ok value := by
  have hlinear := nodup_nodes_rationalFace 1
  have hquadratic := nodup_nodes_rationalFace 2
  have hdim : (rationalFace 2).dim = (rationalFace 1).dim := rfl
  have hdegree : (rationalFace 1).degree ≤ (rationalFace 2).degree := by
    decide
  have hsubface : 3 < 2 ^ ((rationalFace 1).dim - 1) := by
    decide
  exact ⟨create_rationalFace 1, create_rationalFace 2, hdim, hdegree,
    hlinear, hquadratic, hsubface,
    subfaceMatrix_reproduces_restriction hdim hdegree hlinear hquadratic
      hsubface⟩

end FacetElements
