import FacetElements.Cell.Embedding
import FacetElements.Proofs.ExactScalar
import FacetElements.Proofs.FaceSymmetry
import FacetElements.Proofs.LobattoNodes

/-!
# Reflected face functions

Over nodes that are their own reflection, a basis function seen in a mirror is
the basis function of the reflected node: the differences in each of its ratios
change their signs together.  So a symmetry of the face that takes every point
to its image takes every face function to the one of the image dof, and children
to their images.
-/

namespace FacetElements

variable {K : Type}

/-! ## Dofs -/

open FaceSymmetry MultiIndex

namespace FaceElement

/-- The dof whose tensor indices are the image of those of a dof.  Along a
reversed axis the index `a` becomes the degree less `a`. -/
def dofImage (e : FaceElement K) (s : FaceSymmetry) (dof : ℕ) : ℕ :=
  s.image e.basis_size_pos e.space.dim dof

theorem faceIndex_dofImage (e : FaceElement K) (s : FaceSymmetry) (dof : ℕ) :
    e.faceIndex (e.dofImage s dof) = act Fin.rev s (e.faceIndex dof) :=
  s.digits_image e.basis_size_pos e.space.dim dof

theorem dofImage_lt (e : FaceElement K) (s : FaceSymmetry) (dof : ℕ) :
    e.dofImage s dof < e.dofsPerFace := by
  rw [← pow_size_basis]
  exact s.image_lt e.basis_size_pos e.space.dim dof

theorem map_dofImage_perm (e : FaceElement K) (s : FaceSymmetry) :
    ((List.range e.dofsPerFace).map (e.dofImage s)).Perm
      (List.range e.dofsPerFace) := by
  rw [← pow_size_basis]
  exact s.map_image_range_perm e.basis_size_pos e.space.dim

theorem forall_dofImage_iff
    (e : FaceElement K) (s : FaceSymmetry) {p : ℕ → Prop} :
    (∀ dof < e.dofsPerFace, p (e.dofImage s dof)) ↔ ∀ dof < e.dofsPerFace, p dof := by
  have hperm := e.map_dofImage_perm s
  constructor
  · intro h dof hdof
    have hmem := hperm.mem_iff.mpr (List.mem_range.mpr hdof)
    obtain ⟨preimage, hpreimage, rfl⟩ := List.mem_map.mp hmem
    exact h preimage (List.mem_range.mp hpreimage)
  · intro h dof _
    exact h _ (e.dofImage_lt s dof)

end FaceElement

/-! ## One variable -/

variable [Field K]

theorem eraseIdx_reverse {α : Type} {xs : List α} {i : ℕ} (hi : i < xs.length) :
    xs.reverse.eraseIdx i = (xs.eraseIdx (xs.length - (i + 1))).reverse := by
  have htail : xs.length - (i + 1) + 1 = xs.length - i := by
    omega
  rw [List.eraseIdx_eq_take_drop_succ, List.eraseIdx_eq_take_drop_succ, htail,
    List.reverse_append, List.take_reverse, List.drop_reverse]

namespace LagrangeBasis

variable {basis : LagrangeBasis K}

theorem node_rev (hmirror : basis.Mirrored) (k : Fin basis.size) :
    basis.node k.rev = 1 - basis.node k := by
  have hleft : basis.nodes.reverse[k.val]? = some (basis.node k.rev) := by
    have hrev : basis.nodes.length - 1 - k.val = k.rev.val := by
      change basis.size - 1 - k.val = k.rev.val
      rw [Fin.val_rev]
      omega
    rw [List.getElem?_reverse k.isLt, hrev, basis.getElem?_nodes]
  have hright : (basis.nodes.map (1 - ·))[k.val]? = some (1 - basis.node k) := by
    rw [List.getElem?_map, basis.getElem?_nodes]
    rfl
  rw [hmirror, hright] at hleft
  exact (Option.some.inj hleft).symm

theorem zerosOf_rev (hmirror : basis.Mirrored) (k : Fin basis.size) :
    basis.zerosOf k.rev = ((basis.zerosOf k).map (1 - ·)).reverse := by
  have herase : basis.nodes.reverse.eraseIdx k =
      (basis.nodes.eraseIdx k.rev).reverse := by
    rw [Fin.val_rev]
    exact eraseIdx_reverse k.isLt
  rw [zerosOf, zerosOf, ← List.eraseIdx_map, ← hmirror, herase, List.reverse_reverse]

theorem basisValue_rev (hmirror : basis.Mirrored) (k : Fin basis.size) (x : K) :
    basis.basisValue k.rev (1 - x) = basis.basisValue k x := by
  have hsub : ∀ a b : K, 1 - a - (1 - b) = -(a - b) := by
    intro a b
    ring
  rw [basisValue, basisValue, prodLeft_eq_prod, prodLeft_eq_prod, ratios, ratios,
    zerosOf_rev hmirror, List.map_reverse, List.prod_reverse, List.map_map]
  congr 1
  apply List.map_congr_left
  intro y _
  rw [Function.comp_apply, node_rev hmirror, hsub, hsub, neg_div_neg_eq]

end LagrangeBasis

/-! ## Several variables -/

namespace TensorSpace

variable {space : TensorSpace K}

theorem gridPoint_act
    (hmirror : space.basis.Mirrored) (s : FaceSymmetry)
    (ix : MultiIndex space.basis.size) :
    space.gridPoint (act Fin.rev s ix) = act (1 - ·) s (space.gridPoint ix) :=
  map_act (LagrangeBasis.node_rev hmirror) s ix

theorem basisValue_act
    (hmirror : space.basis.Mirrored) (s : FaceSymmetry)
    {ix : MultiIndex space.basis.size} {point : List K}
    (hlength : ix.length = point.length) :
    space.basisValue (act Fin.rev s ix) (act (1 - ·) s point) =
      space.basisValue ix point := by
  have hfactors :
      List.zipWith space.basis.basisValue (act Fin.rev s ix) (act (1 - ·) s point) =
        act id s (List.zipWith space.basis.basisValue ix point) :=
    zipWith_act (LagrangeBasis.basisValue_rev hmirror) s hlength
  rw [basisValue, basisValue, hfactors, prodLeft_eq_prod, prodLeft_eq_prod]
  exact (perm_act_id s _).prod_eq

end TensorSpace

namespace FaceElement

variable {e : FaceElement K}

theorem faceNode_dofImage
    (hmirror : e.space.basis.Mirrored) (s : FaceSymmetry) (dof : ℕ) :
    e.faceNode (e.dofImage s dof) = act (1 - ·) s (e.faceNode dof) := by
  rw [faceNode, faceNode, faceIndex_dofImage, TensorSpace.gridPoint_act hmirror]

theorem faceFunction_dofImage
    (hmirror : e.space.basis.Mirrored) (s : FaceSymmetry) (dof : ℕ)
    {point : List K} (hpoint : point.length = e.dim - 1) :
    e.faceFunction (e.dofImage s dof) (act (1 - ·) s point) =
      e.faceFunction dof point := by
  have hlength : (e.faceIndex dof).length = point.length := by
    rw [length_faceIndex, hpoint]
  rw [faceFunction, faceFunction, faceIndex_dofImage]
  exact TensorSpace.basisValue_act hmirror s hlength

end FaceElement

/-! ## Children -/

/-- A coordinate of a child as one of the face, by the bit of the child. -/
def halfCoordinate (bit : Fin 2) (x : K) : K :=
  (x + if bit = 1 then 1 else 0) / 2

theorem childPoint_cons (child : ℕ) (x : K) (xs : List K) :
    childPoint child (x :: xs) =
      halfCoordinate (Fin.ofNat 2 child) x :: childPoint (child / 2) xs := by
  have hhead : (x + bitScalar child 0) / 2 = halfCoordinate (Fin.ofNat 2 child) x := by
    simp [bitScalar, halfCoordinate, Nat.testBit_zero, Fin.ext_iff]
  have htail : (xs.mapIdx fun k y => (y + bitScalar child (k + 1)) / 2) =
      childPoint (child / 2) xs := by
    simp only [childPoint, bitScalar, Nat.testBit_succ]
  rw [childPoint, List.mapIdx_cons, hhead, htail]

theorem childPoint_eq_zipWith (child : ℕ) (point : List K) :
    childPoint child point =
      List.zipWith halfCoordinate (digits Nat.two_pos point.length child) point := by
  induction point generalizing child with
  | nil =>
      rfl
  | cons x xs ih =>
      rw [childPoint_cons, ih]
      rfl

variable [LinearOrder K] [IsStrictOrderedRing K]

theorem halfCoordinate_rev (bit : Fin 2) (x : K) :
    halfCoordinate bit.rev (1 - x) = 1 - halfCoordinate bit x := by
  fin_cases bit
  · simp [halfCoordinate]
    ring
  · simp [halfCoordinate]
    ring

theorem childPoint_childImage
    (s : FaceSymmetry) (child : ℕ) {axes : ℕ} {point : List K}
    (hpoint : point.length = axes) :
    childPoint (s.childImage axes child) (act (1 - ·) s point) =
      act (1 - ·) s (childPoint child point) := by
  have hlength : (digits Nat.two_pos axes child).length = point.length := by
    rw [length_digits, hpoint]
  rw [childPoint_eq_zipWith, childPoint_eq_zipWith, FaceSymmetry.length_act, hpoint,
    childImage, digits_image]
  exact zipWith_act halfCoordinate_rev s hlength

theorem FaceElement.childPoint_faceNode_dofImage
    {e : FaceElement K} (hmirror : e.space.basis.Mirrored)
    (s : FaceSymmetry) (child dof : ℕ) :
    childPoint (s.childImage (e.dim - 1) child) (e.faceNode (e.dofImage s dof)) =
      act (1 - ·) s (childPoint child (e.faceNode dof)) := by
  rw [faceNode_dofImage hmirror, childPoint_childImage s child (e.length_faceNode dof)]

end FacetElements
