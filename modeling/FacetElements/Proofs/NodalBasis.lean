import FacetElements.Proofs.FaceFunctions
import FacetElements.Proofs.RationalElements
import Mathlib.Tactic

/-!
# Nodal values

A Lagrange basis function is a product of ratios.  At its own node every ratio
is a number divided by itself, at another node one ratio has the numerator
zero.  Few laws of the scalars make these values exact, and they carry over to
tensor products and from a face to all dofs of a cell, for every face element
with distinct nodes.
-/

namespace FacetElements

variable {K : Type}

/-- The laws under which a product of ratios is exactly one or zero at the
nodes.  Neither addition nor an order takes part. -/
class NodalScalar (K : Type) [Zero K] [One K] [Sub K] [Mul K] [Div K] : Prop where
  sub_self : ∀ a : K, a - a = 0
  sub_ne_zero : ∀ {a b : K}, a ≠ b → a - b ≠ 0
  div_self : ∀ {a : K}, a ≠ 0 → a / a = 1
  zero_div : ∀ {a : K}, a ≠ 0 → 0 / a = 0
  one_mul_one : (1 : K) * 1 = 1
  zero_mul : ∀ a : K, 0 * a = 0
  mul_zero : ∀ a : K, a * 0 = 0

instance [Field K] : NodalScalar K where
  sub_self := sub_self
  sub_ne_zero := sub_ne_zero_of_ne
  div_self := div_self
  zero_div := fun _ => zero_div _
  one_mul_one := one_mul 1
  zero_mul := zero_mul
  mul_zero := mul_zero

section NodalScalar

variable [Zero K] [One K] [Sub K] [Mul K] [Div K] [NodalScalar K]

theorem prodLeft_eq_one_of_forall
    {xs : List K} (h : ∀ x ∈ xs, x = 1) : prodLeft xs = 1 := by
  induction xs with
  | nil =>
      rfl
  | cons x xs ih =>
      have hx : x = 1 := h x List.mem_cons_self
      have hrest : prodLeft xs = 1 :=
        ih fun y hy => h y (List.mem_cons_of_mem x hy)
      rw [prodLeft, List.foldl_cons, hx, NodalScalar.one_mul_one]
      exact hrest

theorem foldl_mul_zero (xs : List K) : xs.foldl (· * ·) 0 = 0 := by
  induction xs with
  | nil =>
      rfl
  | cons x xs ih =>
      rw [List.foldl_cons, NodalScalar.zero_mul]
      exact ih

theorem prodLeft_eq_zero_of_mem
    {xs : List K} (h : (0 : K) ∈ xs) : prodLeft xs = 0 := by
  obtain ⟨before, after, rfl⟩ := List.append_of_mem h
  rw [prodLeft, List.foldl_append, List.foldl_cons, NodalScalar.mul_zero]
  exact foldl_mul_zero after

end NodalScalar

/-! ## One variable -/

namespace LagrangeBasis

theorem node_inj
    {basis : LagrangeBasis K} (hnodes : basis.nodes.Nodup)
    {i k : Fin basis.size} : basis.node i = basis.node k ↔ i = k :=
  hnodes.get_inj_iff

theorem node_ne
    {basis : LagrangeBasis K} (hnodes : basis.nodes.Nodup)
    {i k : Fin basis.size} (hik : i ≠ k) : basis.node i ≠ basis.node k := by
  intro heq
  exact hik ((node_inj hnodes).mp heq)

theorem length_zerosOf (basis : LagrangeBasis K) (i : Fin basis.size) :
    (basis.zerosOf i).length = basis.size - 1 := by
  rw [zerosOf, List.length_eraseIdx_of_lt i.isLt]
  rfl

theorem mem_zerosOf_iff
    {basis : LagrangeBasis K} {i : Fin basis.size} {y : K} :
    y ∈ basis.zerosOf i ↔ ∃ k, k ≠ i ∧ basis.node k = y := by
  unfold zerosOf
  rw [List.mem_eraseIdx_iff_getElem]
  constructor
  · rintro ⟨k, hk, hne, hy⟩
    refine ⟨⟨k, hk⟩, ?_, hy⟩
    intro heq
    exact hne (congrArg Fin.val heq)
  · rintro ⟨k, hne, hy⟩
    refine ⟨k, k.isLt, ?_, hy⟩
    intro heq
    exact hne (Fin.ext heq)

variable [Zero K] [One K] [Sub K] [Mul K] [Div K] [NodalScalar K]

theorem basisValue_node_self
    (basis : LagrangeBasis K) (hnodes : basis.nodes.Nodup)
    (i : Fin basis.size) :
    basis.basisValue i (basis.node i) = 1 := by
  apply prodLeft_eq_one_of_forall
  intro ratio hratio
  obtain ⟨y, hy, rfl⟩ := List.mem_map.mp hratio
  obtain ⟨k, hki, rfl⟩ := mem_zerosOf_iff.mp hy
  have hne : basis.node i ≠ basis.node k := node_ne hnodes hki.symm
  exact NodalScalar.div_self (NodalScalar.sub_ne_zero hne)

theorem basisValue_node_of_ne
    (basis : LagrangeBasis K) (hnodes : basis.nodes.Nodup)
    {i k : Fin basis.size} (hik : i ≠ k) :
    basis.basisValue i (basis.node k) = 0 := by
  have hmem : basis.node k ∈ basis.zerosOf i :=
    mem_zerosOf_iff.mpr ⟨k, hik.symm, rfl⟩
  have hne : basis.node i ≠ basis.node k := node_ne hnodes hik
  apply prodLeft_eq_zero_of_mem
  refine List.mem_map.mpr ⟨basis.node k, hmem, ?_⟩
  rw [NodalScalar.sub_self]
  exact NodalScalar.zero_div (NodalScalar.sub_ne_zero hne)

end LagrangeBasis

/-! ## Several variables -/

namespace TensorSpace

variable [Zero K] [One K] [Sub K] [Mul K] [Div K] [NodalScalar K]

theorem basisValue_gridPoint_self
    (space : TensorSpace K) (hnodes : space.basis.nodes.Nodup)
    (ix : MultiIndex space.basis.size) :
    space.basisValue ix (space.gridPoint ix) = 1 := by
  apply prodLeft_eq_one_of_forall
  intro factor hfactor
  rw [gridPoint, List.zipWith_map_right, List.zipWith_self] at hfactor
  obtain ⟨k, -, rfl⟩ := List.mem_map.mp hfactor
  exact space.basis.basisValue_node_self hnodes k

theorem zero_mem_zipWith_gridPoint
    (space : TensorSpace K) (hnodes : space.basis.nodes.Nodup)
    {ix jx : MultiIndex space.basis.size}
    (hlength : ix.length = jx.length) (hne : ix ≠ jx) :
    0 ∈ List.zipWith space.basis.basisValue ix (space.gridPoint jx) := by
  induction ix generalizing jx with
  | nil =>
      have hnil : jx = [] := List.length_eq_zero_iff.mp hlength.symm
      exact absurd hnil.symm hne
  | cons i ix ih =>
      cases jx with
      | nil =>
          simp at hlength
      | cons j jx =>
          simp only [gridPoint, List.map_cons, List.zipWith_cons_cons, List.mem_cons]
          by_cases hij : i = j
          · right
            refine ih (by simpa using hlength) ?_
            intro heq
            exact hne (by rw [hij, heq])
          · left
            exact (space.basis.basisValue_node_of_ne hnodes hij).symm

theorem basisValue_gridPoint_of_ne
    (space : TensorSpace K) (hnodes : space.basis.nodes.Nodup)
    {ix jx : MultiIndex space.basis.size}
    (hlength : ix.length = jx.length) (hne : ix ≠ jx) :
    space.basisValue ix (space.gridPoint jx) = 0 :=
  prodLeft_eq_zero_of_mem (space.zero_mem_zipWith_gridPoint hnodes hlength hne)

end TensorSpace

/-! ## Faces and cells -/

namespace FaceElement

variable [Zero K] [One K] [Sub K] [Mul K] [Div K] [NodalScalar K]

theorem faceFunction_faceNode
    (e : FaceElement K) (hnodes : e.nodes.Nodup) {i j : ℕ}
    (hi : i < e.dofsPerFace) (hj : j < e.dofsPerFace) :
    e.faceFunction i (e.faceNode j) = if i = j then 1 else 0 := by
  by_cases hij : i = j
  · subst hij
    rw [if_pos rfl]
    exact e.space.basisValue_gridPoint_self hnodes (e.faceIndex i)
  · have hne : e.faceIndex i ≠ e.faceIndex j := by
      rw [Ne, faceIndex_inj e hi hj]
      exact hij
    rw [if_neg hij]
    exact e.space.basisValue_gridPoint_of_ne hnodes (by simp) hne

/-- At every support point of every face exactly one shape function of the cell
is one, and all others are zero. -/
theorem faceShapeValue_supportPoint
    (e : FaceElement K) (hnodes : e.nodes.Nodup) {shape face dof : ℕ}
    (hshape : shape < e.dofsPerCell) (hface : face < 2 * e.dim)
    (hdof : dof < e.dofsPerFace) :
    ∃ point, e.faceSupportPoints.row? dof = some point ∧
      e.faceShapeValue shape face point =
        .ok (if shape = face * e.dofsPerFace + dof then 1 else 0) := by
  have hmod : shape % e.dofsPerFace < e.dofsPerFace :=
    Nat.mod_lt shape e.dofsPerFace_pos
  refine ⟨e.faceNode dof, e.row?_faceSupportPoints hdof, ?_⟩
  rw [e.faceShapeValue_eq hshape hface (e.length_faceNode dof),
    e.faceFunction_faceNode hnodes hmod hdof]
  congr 1
  by_cases hsupport : face = shape / e.dofsPerFace
  · by_cases hrest : shape % e.dofsPerFace = dof
    · have heq := (e.eq_face_mul_add_iff hdof).mpr ⟨hsupport, hrest⟩
      rw [if_pos hsupport, if_pos hrest, if_pos heq]
    · have hne : ¬ shape = face * e.dofsPerFace + dof := by
        intro heq
        exact hrest ((e.eq_face_mul_add_iff hdof).mp heq).2
      rw [if_pos hsupport, if_neg hrest, if_neg hne]
  · have hne : ¬ shape = face * e.dofsPerFace + dof := by
      intro heq
      exact hsupport ((e.eq_face_mul_add_iff hdof).mp heq).1
    rw [if_neg hsupport, if_neg hne]

theorem faceShapeValue_supportPoint_quadratic :
    FaceElement.create 3 2 = .ok (rationalFace 2) ∧
    (rationalFace 2).nodes.Nodup ∧
    41 < (rationalFace 2).dofsPerCell ∧ 4 < 2 * (rationalFace 2).dim ∧
    5 < (rationalFace 2).dofsPerFace ∧
    ∃ point, (rationalFace 2).faceSupportPoints.row? 5 = some point ∧
      (rationalFace 2).faceShapeValue 41 4 point =
        .ok (if 41 = 4 * (rationalFace 2).dofsPerFace + 5 then 1 else 0) := by
  have hnodes := nodup_nodes_rationalFace 2
  have hshape : 41 < (rationalFace 2).dofsPerCell := by
    decide
  have hface : 4 < 2 * (rationalFace 2).dim := by
    decide
  have hdof : 5 < (rationalFace 2).dofsPerFace := by
    decide
  exact ⟨create_rationalFace 2, hnodes, hshape, hface, hdof,
    faceShapeValue_supportPoint (rationalFace 2) hnodes hshape hface hdof⟩

end FaceElement
end FacetElements
