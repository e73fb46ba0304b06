import FacetElements.Proofs.ConstraintOutcome
import FacetElements.Proofs.ExactConstraints
import FacetElements.Proofs.LobattoNodes
import FacetElements.Proofs.RationalElements

/-!
# Dofs shared by children

Two children of a refined face that are neighbours along an axis share the
points at the upper end of the one and at the lower end of the other.  A source
on each of them has a dof at every such point, and both dofs are constrained by
the same coefficients.  This needs the ends of the interval to be exact, and of
the scalars no more than the three laws of `EndpointScalar`.
-/

namespace FacetElements

variable {K F : Type}

/-! ## Neighbours -/

theorem testBit_add_two_pow_self
    {n axis : ℕ} (hbit : n.testBit axis = false) :
    (n + 2 ^ axis).testBit axis = true := by
  rw [Nat.add_comm, Nat.testBit_two_pow_add_eq, hbit]
  rfl

theorem testBit_add_two_pow_of_ne
    {n axis k : ℕ} (hbit : n.testBit axis = false) (hk : k ≠ axis) :
    (n + 2 ^ axis).testBit k = n.testBit k := by
  -- Without carry, all bits but one are those of the number itself.
  induction axis generalizing n k with
  | zero =>
      cases k with
      | zero =>
          exact absurd rfl hk
      | succ k =>
          have hhalf : (n + 2 ^ 0) / 2 = n / 2 := by
            simp at hbit
            omega
          rw [Nat.testBit_succ, Nat.testBit_succ, hhalf]
  | succ axis ih =>
      have hhalf : (n + 2 ^ (axis + 1)) / 2 = n / 2 + 2 ^ axis := by
        rw [Nat.pow_succ, Nat.add_mul_div_right _ _ (by omega)]
      cases k with
      | zero =>
          rw [Nat.testBit_zero, Nat.testBit_zero, Nat.pow_succ, Nat.add_mul_mod_self_right]
      | succ k =>
          rw [Nat.testBit_succ] at hbit
          rw [Nat.testBit_succ, Nat.testBit_succ, hhalf]
          exact ih hbit fun heq => hk (congrArg Nat.succ heq)

section Points

variable [Zero K] [One K] [OfNat K 2] [Neg K] [Add K] [Sub K] [Div K] [EndpointScalar K]

/-- The upper end of a child and the lower end of its neighbour along an axis
are one point of the face. -/
theorem childPoint_eq_of_neighbours
    {axis lower : ℕ} (hbit : lower.testBit axis = false)
    {point point' : List K} (hlast : point[axis]? = some 1)
    (hfirst : point' = point.set axis 0) :
    childPoint lower point = childPoint (lower + 2 ^ axis) point' := by
  subst hfirst
  apply List.ext_getElem?
  intro k
  rw [childPoint, childPoint, List.getElem?_mapIdx, List.getElem?_mapIdx]
  by_cases hk : k = axis
  · subst hk
    have hlength : k < point.length := (List.getElem?_eq_some_iff.mp hlast).1
    rw [hlast, List.getElem?_set_self hlength]
    simp only [Option.map_some, bitScalar, hbit, testBit_add_two_pow_self hbit,
      Bool.false_eq_true, if_false, if_true]
    rw [EndpointScalar.one_add_zero_div_two]
  · rw [List.getElem?_set_ne (Ne.symm hk)]
    simp only [bitScalar, testBit_add_two_pow_of_ne hbit hk]

end Points

section Nodes

variable [Zero K] [One K] [OfNat K 2] [NatCast K] [Neg K] [Add K] [Sub K] [Mul K] [Div K]
variable [OfScientific K] [LT K] [DecidableLT K] [Cosine K] [EndpointScalar K]

variable {dim degree : ℕ} {e : FaceElement K} {axis : ℕ}
variable {index index' : MultiIndex e.space.basis.size}

theorem FaceElement.gridPoint_eq_set
    (hcreate : FaceElement.create dim degree = .ok e) (hdegree : 1 ≤ degree)
    (hfirst : index'.map Fin.val = (index.map Fin.val).set axis 0) :
    e.space.gridPoint index' = (e.space.gridPoint index).set axis 0 := by
  have hindex : index' = index.set axis ⟨0, e.basis_size_pos⟩ := by
    apply List.map_injective_iff.mpr Fin.val_injective
    rw [hfirst, List.map_set]
  rw [hindex, TensorSpace.gridPoint, List.map_set, node_first hcreate hdegree rfl]
  rfl

theorem FaceElement.gridPoint_getElem?_last
    (hcreate : FaceElement.create dim degree = .ok e) (hdegree : 1 ≤ degree)
    (hlast : (index.map Fin.val)[axis]? = some degree) :
    (e.space.gridPoint index)[axis]? = some 1 := by
  rw [List.getElem?_map, Option.map_eq_some_iff] at hlast
  obtain ⟨digit, hdigit, hvalue⟩ := hlast
  rw [TensorSpace.gridPoint, List.getElem?_map, hdigit, Option.map_some,
    node_last hcreate hdegree hvalue]

end Nodes

/-! ## Rows -/

namespace Constraint

section Rows

variable [Zero K] [One K] [OfNat K 2] [NatCast K] [Neg K] [Add K] [Sub K] [Mul K] [Div K]
variable [OfScientific K] [LT K] [DecidableLT K] [LE K] [DecidableLE K]
variable [Cosine K] [EndpointScalar K] [ScalarText K] [ElementFamily F]

/-- A dof at the upper end of one child along an axis and the dof with the same
indices, but at the lower end, of the next child have equal rows. -/
theorem subfaceMatrix_shared_rows
    {dim degree : ℕ} {target source : FaceElement K}
    (hsource : FaceElement.create dim degree = .ok source) (hdegree : 1 ≤ degree)
    (tolerance : Tolerance K)
    {axis subface : ℕ} (hbit : subface.testBit axis = false)
    {lower upper : Table K}
    (hlower : subfaceMatrix tolerance target (.face source : Element K F)
      subface = .ok lower)
    (hupper : subfaceMatrix tolerance target (.face source : Element K F)
      (subface + 2 ^ axis) = .ok upper)
    {dof dof' : ℕ} {index index' : MultiIndex source.space.basis.size}
    (hindex : source.space.indices dof = .ok index)
    (hindex' : source.space.indices dof' = .ok index')
    (hlast : (index.map Fin.val)[axis]? = some degree)
    (hfirst : index'.map Fin.val = (index.map Fin.val).set axis 0) :
    ∃ row, lower.row? dof = some row ∧ upper.row? dof' = some row := by
  obtain ⟨-, -, -, rfl⟩ := subfaceMatrix_eq_ok_iff.mp hlower
  obtain ⟨-, -, -, rfl⟩ := subfaceMatrix_eq_ok_iff.mp hupper
  obtain ⟨hdof, rfl⟩ := source.indices_space_eq_ok_iff.mp hindex
  obtain ⟨hdof', rfl⟩ := source.indices_space_eq_ok_iff.mp hindex'
  have hpoint :
      childPoint subface (source.faceNode dof) =
        childPoint (subface + 2 ^ axis) (source.faceNode dof') :=
    childPoint_eq_of_neighbours hbit
      (FaceElement.gridPoint_getElem?_last hsource hdegree hlast)
      (FaceElement.gridPoint_eq_set hsource hdegree hfirst)
  refine ⟨_, row?_roundedTable tolerance target _ hdof, ?_⟩
  rw [row?_roundedTable tolerance target _ hdof', hpoint]

end Rows

/-- The dofs 7 and 1 of a quadratic source have the indices `(1, 2)` and
`(1, 0)`, and the children 1 and 3 are neighbours along the second axis. -/
theorem subfaceMatrix_shared_rows_quadratic :
    ∃ lower upper : Table ℚ,
      FaceElement.create 3 2 = .ok (rationalFace 2) ∧
      Nat.testBit 1 1 = false ∧
      subfaceMatrix ⟨0⟩ (rationalFace 1) (.face (rationalFace 2) : Element ℚ Empty) 1 =
        .ok lower ∧
      subfaceMatrix ⟨0⟩ (rationalFace 1) (.face (rationalFace 2) : Element ℚ Empty)
        (1 + 2 ^ 1) = .ok upper ∧
      ∃ index index' : MultiIndex (rationalFace 2).space.basis.size,
        (rationalFace 2).space.indices 7 = .ok index ∧
        (rationalFace 2).space.indices 1 = .ok index' ∧
        index.map Fin.val = [1, 2] ∧ index'.map Fin.val = [1, 0] ∧
        ∃ row, lower.row? 7 = some row ∧ upper.row? 1 = some row := by
  have hnodes := nodup_nodes_rationalFace 1
  have hdim : (rationalFace 2).dim = (rationalFace 1).dim := rfl
  have hdegree : (rationalFace 1).degree ≤ (rationalFace 2).degree := by
    decide
  have hlower := subfaceMatrix_exact (F := Empty) hdim hdegree hnodes
    (by decide : 1 < 2 ^ ((rationalFace 1).dim - 1))
  have hupper := subfaceMatrix_exact (F := Empty) hdim hdegree hnodes
    (by decide : 1 + 2 ^ 1 < 2 ^ ((rationalFace 1).dim - 1))
  have hseven : (rationalFace 2).space.indices 7 = .ok ((rationalFace 2).faceIndex 7) :=
    (rationalFace 2).indices_space_eq_ok_iff.mpr ⟨by decide, rfl⟩
  have hone : (rationalFace 2).space.indices 1 = .ok ((rationalFace 2).faceIndex 1) :=
    (rationalFace 2).indices_space_eq_ok_iff.mpr ⟨by decide, rfl⟩
  have hindex : ((rationalFace 2).faceIndex 7).map Fin.val = [1, 2] := by
    rfl
  have hindex' : ((rationalFace 2).faceIndex 1).map Fin.val = [1, 0] := by
    rfl
  refine ⟨_, _, create_rationalFace 2, rfl, hlower, hupper, _, _, hseven, hone,
    hindex, hindex', ?_⟩
  refine subfaceMatrix_shared_rows (create_rationalFace 2) (by omega) ⟨0⟩ rfl
    hlower hupper hseven hone (by rw [hindex]; rfl) ?_
  rw [hindex, hindex']
  rfl

end Constraint
end FacetElements
