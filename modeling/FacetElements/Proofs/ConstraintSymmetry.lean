import FacetElements.Proofs.ExactConstraints
import FacetElements.Proofs.RationalElements
import FacetElements.Proofs.Reflection

/-!
# Symmetry of constraint matrices

Two cells may see the face between them with different orientations.  In exact
arithmetic the constraints do not depend on that: a symmetry of the face moves
the entries of a constraint matrix with the dofs, and takes the constraints on a
child to those on the image of the child.  Rounding and the check of the row sums
cannot tell the two apart, whatever the tolerance.
-/

namespace FacetElements
namespace Constraint

open FaceSymmetry

variable {K F : Type} [Field K] [LinearOrder K]

/-! ## Rows -/

section Rows

variable {tolerance : Tolerance K} {target source : FaceElement K} {s : FaceSymmetry}

theorem roundedFunction_dofImage
    (hmirror : target.space.basis.Mirrored) (dof : ℕ)
    {point : List K} (hpoint : point.length = target.dim - 1) :
    roundedFunction tolerance target (act (1 - ·) s point) (target.dofImage s dof) =
      roundedFunction tolerance target point dof := by
  rw [roundedFunction, roundedFunction,
    FaceElement.faceFunction_dofImage hmirror s dof hpoint]

/-- The row of a moved point has the same entries in another order. -/
theorem rowTotal_act
    (hmirror : target.space.basis.Mirrored)
    {point : List K} (hpoint : point.length = target.dim - 1) :
    rowTotal tolerance target (act (1 - ·) s point) = rowTotal tolerance target point := by
  have hperm := (target.map_dofImage_perm s).map
    (roundedFunction tolerance target (act (1 - ·) s point))
  rw [List.map_map] at hperm
  rw [rowTotal, rowTotal, sumLeft_eq_sum, sumLeft_eq_sum, ← hperm.sum_eq]
  congr 1
  apply List.map_congr_left
  intro dof _
  exact roundedFunction_dofImage hmirror dof hpoint

theorem rowPasses_act_iff
    (hmirror : target.space.basis.Mirrored)
    {point : List K} (hpoint : point.length = target.dim - 1) :
    RowPasses tolerance target (act (1 - ·) s point) ↔
      RowPasses tolerance target point := by
  rw [RowPasses, RowPasses, rowTotal_act hmirror hpoint]

end Rows

/-! ## Tables -/

/-- The entries of one matrix are those of the other at the images of the dofs. -/
def EntriesMoved (s : FaceSymmetry) (target source : FaceElement K)
    (matrix image : Table K) : Prop :=
  ∀ i < source.dofsPerFace, ∀ j < target.dofsPerFace, ∃ entry,
    matrix.read i j = .ok entry ∧
      image.read (source.dofImage s i) (target.dofImage s j) = .ok entry

section Tables

variable {target source : FaceElement K} {s : FaceSymmetry} {point point' : ℕ → List K}

theorem rowsPass_iff
    (tolerance : Tolerance K) (hmirror : target.space.basis.Mirrored)
    (hpoint : ∀ i, (point i).length = target.dim - 1)
    (himage : ∀ i, point' (source.dofImage s i) = act (1 - ·) s (point i)) :
    (∀ i < source.dofsPerFace, RowPasses tolerance target (point' i)) ↔
      ∀ i < source.dofsPerFace, RowPasses tolerance target (point i) := by
  rw [← source.forall_dofImage_iff s]
  simp only [himage, rowPasses_act_iff hmirror (hpoint _)]

theorem entriesMoved_roundedTable
    (tolerance : Tolerance K) (hmirror : target.space.basis.Mirrored)
    (hpoint : ∀ i, (point i).length = target.dim - 1)
    (himage : ∀ i, point' (source.dofImage s i) = act (1 - ·) s (point i)) :
    EntriesMoved s target source
      (roundedTable tolerance target source.dofsPerFace point)
      (roundedTable tolerance target source.dofsPerFace point') := by
  intro i hi j hj
  refine ⟨roundedFunction tolerance target (point i) j, Table.read_generate _ hi hj, ?_⟩
  rw [roundedTable,
    Table.read_generate _ (source.dofImage_lt s i) (target.dofImage_lt s j), himage,
    roundedFunction_dofImage hmirror j (hpoint i)]

end Tables

/-! ## Matrices -/

variable [IsStrictOrderedRing K] [Cosine K] [ScalarText K] [ElementFamily F]

/-- A symmetry of the face leaves the constraints on the whole face as they are
and exchanges those on its children. -/
theorem constraint_matrices_symmetric
    {dim p q : ℕ} {target source : FaceElement K}
    (htarget : FaceElement.create dim p = .ok target)
    (hsource : FaceElement.create dim q = .ok source)
    (tolerance : Tolerance K) (s : FaceSymmetry) :
    (∀ matrix,
      faceMatrix tolerance target (.face source : Element K F) = .ok matrix →
        EntriesMoved s target source matrix matrix) ∧
    ∀ subface < 2 ^ (dim - 1),
      ((∃ matrix, subfaceMatrix tolerance target (.face source : Element K F)
          subface = .ok matrix) ↔
        ∃ image, subfaceMatrix tolerance target (.face source : Element K F)
          (s.childImage (dim - 1) subface) = .ok image) ∧
      ∀ matrix image,
        subfaceMatrix tolerance target (.face source : Element K F)
          subface = .ok matrix →
        subfaceMatrix tolerance target (.face source : Element K F)
          (s.childImage (dim - 1) subface) = .ok image →
        EntriesMoved s target source matrix image := by
  have hmirror := FaceElement.mirrored_of_create htarget
  have hmirror' := FaceElement.mirrored_of_create hsource
  obtain ⟨rfl, -, -⟩ := FaceElement.create_eq_ok_iff.mp htarget
  obtain ⟨hdim, -, -⟩ := FaceElement.create_eq_ok_iff.mp hsource
  have hnode : ∀ i, (source.faceNode i).length = target.dim - 1 := by
    intro i
    rw [FaceElement.length_faceNode, hdim]
  refine ⟨?_, ?_⟩
  · intro matrix hmatrix
    obtain ⟨-, -, rfl⟩ := faceMatrix_eq_ok_iff.mp hmatrix
    exact entriesMoved_roundedTable tolerance hmirror hnode
      (FaceElement.faceNode_dofImage hmirror' s)
  · intro subface hsubface
    have hmoved : s.childImage (target.dim - 1) subface < 2 ^ (target.dim - 1) :=
      s.image_lt Nat.two_pos (target.dim - 1) subface
    have hpoint : ∀ i,
        (childPoint subface (source.faceNode i)).length = target.dim - 1 := by
      intro i
      rw [length_childPoint, hnode]
    have himage : ∀ i,
        childPoint (s.childImage (target.dim - 1) subface)
            (source.faceNode (source.dofImage s i)) =
          act (1 - ·) s (childPoint subface (source.faceNode i)) := by
      intro i
      rw [← hdim]
      exact FaceElement.childPoint_faceNode_dofImage hmirror' s subface i
    have hrows :
        (∀ i < source.dofsPerFace, RowPasses tolerance target
          (childPoint (s.childImage (target.dim - 1) subface) (source.faceNode i))) ↔
        ∀ i < source.dofsPerFace, RowPasses tolerance target
          (childPoint subface (source.faceNode i)) :=
      rowsPass_iff tolerance hmirror hpoint himage
    refine ⟨?_, ?_⟩
    · rw [subfaceMatrix_returns_iff hsubface, subfaceMatrix_returns_iff hmoved, hrows]
    · intro matrix image hmatrix hother
      obtain ⟨-, -, -, rfl⟩ := subfaceMatrix_eq_ok_iff.mp hmatrix
      obtain ⟨-, -, -, rfl⟩ := subfaceMatrix_eq_ok_iff.mp hother
      exact entriesMoved_roundedTable tolerance hmirror hpoint himage

/-- A quarter of a turn, which reverses the first axis and then exchanges the
axes, takes the child 0 to the child 2. -/
theorem constraint_matrices_symmetric_quarter_turn :
    FaceElement.create 3 1 = .ok (rationalFace 1) ∧
    FaceElement.create 3 2 = .ok (rationalFace 2) ∧
    FaceSymmetry.childImage [.reverse 0, .exchange] (3 - 1) 0 = 2 ∧
    ∃ whole child image : Table ℚ,
      faceMatrix ⟨0⟩ (rationalFace 1) (.face (rationalFace 2) : Element ℚ Empty) =
        .ok whole ∧
      subfaceMatrix ⟨0⟩ (rationalFace 1) (.face (rationalFace 2) : Element ℚ Empty) 0 =
        .ok child ∧
      subfaceMatrix ⟨0⟩ (rationalFace 1) (.face (rationalFace 2) : Element ℚ Empty) 2 =
        .ok image ∧
      EntriesMoved [.reverse 0, .exchange] (rationalFace 1) (rationalFace 2)
        whole whole ∧
      EntriesMoved [.reverse 0, .exchange] (rationalFace 1) (rationalFace 2)
        child image := by
  have hnodes := nodup_nodes_rationalFace 1
  have hdim : (rationalFace 2).dim = (rationalFace 1).dim := rfl
  have hdegree : (rationalFace 1).degree ≤ (rationalFace 2).degree := by
    decide
  have hwhole := faceMatrix_exact (F := Empty) hdim hdegree hnodes
  have hchild := subfaceMatrix_exact (F := Empty) hdim hdegree hnodes
    (by decide : 0 < 2 ^ ((rationalFace 1).dim - 1))
  have himage := subfaceMatrix_exact (F := Empty) hdim hdegree hnodes
    (by decide : 2 < 2 ^ ((rationalFace 1).dim - 1))
  obtain ⟨hface, hsubface⟩ :=
    constraint_matrices_symmetric (F := Empty) (create_rationalFace 1)
      (create_rationalFace 2) ⟨0⟩ [.reverse 0, .exchange]
  obtain ⟨-, hmoved⟩ := hsubface 0 (by decide)
  exact ⟨create_rationalFace 1, create_rationalFace 2, rfl, _, _, _, hwhole, hchild,
    himage, hface _ hwhole, hmoved _ _ hchild himage⟩

end Constraint
end FacetElements
