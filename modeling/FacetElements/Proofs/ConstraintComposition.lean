import FacetElements.Proofs.ExactConstraints
import FacetElements.Proofs.RationalElements

/-!
# Chains of constraints

Dofs that are constrained through an element of intermediate degree receive the
same coefficients as dofs that are constrained at once, whether the face is
refined before the intermediate element or after it.
-/

namespace FacetElements

variable {K F : Type} [Field K]

/-- A table of values at arbitrary points, multiplied by a table of values at
the support points, is a table of values at the arbitrary points. -/
theorem FaceElement.product?_values_at_nodes
    (e : FaceElement K) (hnodes : e.nodes.Nodup) {rows cols : ℕ}
    {point : ℕ → List K} (hpoint : ∀ i, (point i).length = e.dim - 1)
    {f : ℕ → List K → K}
    (hf : ∀ j, DegreeBelow (e.degree + 1) (e.dim - 1) (f j)) :
    (Table.generate rows e.dofsPerFace fun i k =>
        e.faceFunction k (point i)).product?
      (Table.generate e.dofsPerFace cols fun k j => f j (e.faceNode k)) =
    some (Table.generate rows cols fun i j => f j (point i)) := by
  rw [Table.product?_generate]
  congr 1
  apply Table.generate_congr
  intro i _ j _
  have hcomm :
      ((List.range e.dofsPerFace).map fun k =>
        e.faceFunction k (point i) * f j (e.faceNode k)) =
      (List.range e.dofsPerFace).map fun k =>
        f j (e.faceNode k) * e.faceFunction k (point i) := by
    apply List.map_congr_left
    intro k _
    exact mul_comm _ _
  rw [sumLeft_eq_sum, hcomm]
  exact e.sum_faceNode_mul_faceFunction hnodes (hf j) (hpoint i)

variable [LinearOrder K] [IsStrictOrderedRing K] [ScalarText K] [ElementFamily F]

/-- The matrix from a coarse element to a fine one, on the face or on a child
of it, is the product of the matrices through an element of intermediate
degree; the child may be entered on either side of that element. -/
theorem constraint_matrices_compose
    {coarse middle fine : FaceElement K}
    (hmiddle : middle.dim = coarse.dim) (hfine : fine.dim = coarse.dim)
    (hlow : coarse.degree ≤ middle.degree)
    (hhigh : middle.degree ≤ fine.degree)
    (hcoarseNodes : coarse.nodes.Nodup) (hmiddleNodes : middle.nodes.Nodup)
    {subface : ℕ} (hsubface : subface < 2 ^ (coarse.dim - 1)) :
    ∃ coarseMiddle middleFine coarseFine : Table K,
    ∃ childCoarseMiddle childMiddleFine childCoarseFine : Table K,
      Constraint.faceMatrix ⟨0⟩ coarse (.face middle : Element K F) =
        .ok coarseMiddle ∧
      Constraint.faceMatrix ⟨0⟩ middle (.face fine : Element K F) =
        .ok middleFine ∧
      Constraint.faceMatrix ⟨0⟩ coarse (.face fine : Element K F) =
        .ok coarseFine ∧
      Constraint.subfaceMatrix ⟨0⟩ coarse (.face middle : Element K F)
        subface = .ok childCoarseMiddle ∧
      Constraint.subfaceMatrix ⟨0⟩ middle (.face fine : Element K F)
        subface = .ok childMiddleFine ∧
      Constraint.subfaceMatrix ⟨0⟩ coarse (.face fine : Element K F)
        subface = .ok childCoarseFine ∧
      middleFine.product? coarseMiddle = some coarseFine ∧
      childMiddleFine.product? coarseMiddle = some childCoarseFine ∧
      middleFine.product? childCoarseMiddle = some childCoarseFine := by
  have hfineMiddle : fine.dim = middle.dim := by
    rw [hfine, hmiddle]
  have hdirect : coarse.degree ≤ fine.degree := hlow.trans hhigh
  have hsubfaceMiddle : subface < 2 ^ (middle.dim - 1) := by
    rw [hmiddle]
    exact hsubface
  have hnode : ∀ i, (fine.faceNode i).length = middle.dim - 1 := by
    intro i
    rw [FaceElement.length_faceNode, hfineMiddle]
  have hchildNode :
      ∀ i, (childPoint subface (fine.faceNode i)).length = middle.dim - 1 := by
    intro i
    rw [length_childPoint, hnode]
  have hfunction :
      ∀ j, DegreeBelow (middle.degree + 1) (middle.dim - 1)
        (coarse.faceFunction j) :=
    FaceElement.degreeBelow_faceFunction_of_le hmiddle hlow
  have hchildFunction :
      ∀ j, DegreeBelow (middle.degree + 1) (middle.dim - 1) fun point =>
        coarse.faceFunction j (childPoint subface point) := by
    intro j
    exact (hfunction j).comp_childPoint subface
  refine ⟨_, _, _, _, _, _,
    Constraint.faceMatrix_exact hmiddle hlow hcoarseNodes,
    Constraint.faceMatrix_exact hfineMiddle hhigh hmiddleNodes,
    Constraint.faceMatrix_exact hfine hdirect hcoarseNodes,
    Constraint.subfaceMatrix_exact hmiddle hlow hcoarseNodes hsubface,
    Constraint.subfaceMatrix_exact hfineMiddle hhigh hmiddleNodes hsubfaceMiddle,
    Constraint.subfaceMatrix_exact hfine hdirect hcoarseNodes hsubface,
    ?_, ?_, ?_⟩
  · exact middle.product?_values_at_nodes hmiddleNodes hnode
      (f := coarse.faceFunction) hfunction
  · exact middle.product?_values_at_nodes hmiddleNodes hchildNode
      (f := coarse.faceFunction) hfunction
  · exact middle.product?_values_at_nodes hmiddleNodes hnode
      (f := fun j point => coarse.faceFunction j (childPoint subface point))
      hchildFunction

theorem constraint_matrices_compose_constant_linear_quadratic :
    FaceElement.create 3 0 = .ok (rationalFace 0) ∧
    FaceElement.create 3 1 = .ok (rationalFace 1) ∧
    FaceElement.create 3 2 = .ok (rationalFace 2) ∧
    (rationalFace 1).dim = (rationalFace 0).dim ∧
    (rationalFace 2).dim = (rationalFace 0).dim ∧
    (rationalFace 0).degree ≤ (rationalFace 1).degree ∧
    (rationalFace 1).degree ≤ (rationalFace 2).degree ∧
    (rationalFace 0).nodes.Nodup ∧ (rationalFace 1).nodes.Nodup ∧
    2 < 2 ^ ((rationalFace 0).dim - 1) ∧
    ∃ coarseMiddle middleFine coarseFine : Table ℚ,
    ∃ childCoarseMiddle childMiddleFine childCoarseFine : Table ℚ,
      Constraint.faceMatrix ⟨0⟩ (rationalFace 0)
        (.face (rationalFace 1) : Element ℚ Empty) = .ok coarseMiddle ∧
      Constraint.faceMatrix ⟨0⟩ (rationalFace 1)
        (.face (rationalFace 2) : Element ℚ Empty) = .ok middleFine ∧
      Constraint.faceMatrix ⟨0⟩ (rationalFace 0)
        (.face (rationalFace 2) : Element ℚ Empty) = .ok coarseFine ∧
      Constraint.subfaceMatrix ⟨0⟩ (rationalFace 0)
        (.face (rationalFace 1) : Element ℚ Empty) 2 = .ok childCoarseMiddle ∧
      Constraint.subfaceMatrix ⟨0⟩ (rationalFace 1)
        (.face (rationalFace 2) : Element ℚ Empty) 2 = .ok childMiddleFine ∧
      Constraint.subfaceMatrix ⟨0⟩ (rationalFace 0)
        (.face (rationalFace 2) : Element ℚ Empty) 2 = .ok childCoarseFine ∧
      middleFine.product? coarseMiddle = some coarseFine ∧
      childMiddleFine.product? coarseMiddle = some childCoarseFine ∧
      middleFine.product? childCoarseMiddle = some childCoarseFine := by
  have hconstant := nodup_nodes_rationalFace 0
  have hlinear := nodup_nodes_rationalFace 1
  have hmiddle : (rationalFace 1).dim = (rationalFace 0).dim := rfl
  have hfine : (rationalFace 2).dim = (rationalFace 0).dim := rfl
  have hlow : (rationalFace 0).degree ≤ (rationalFace 1).degree := by
    decide
  have hhigh : (rationalFace 1).degree ≤ (rationalFace 2).degree := by
    decide
  have hsubface : 2 < 2 ^ ((rationalFace 0).dim - 1) := by
    decide
  exact ⟨create_rationalFace 0, create_rationalFace 1, create_rationalFace 2,
    hmiddle, hfine, hlow, hhigh, hconstant, hlinear, hsubface,
    constraint_matrices_compose hmiddle hfine hlow hhigh hconstant hlinear
      hsubface⟩

end FacetElements
