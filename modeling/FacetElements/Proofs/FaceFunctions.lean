import FacetElements.Element.Face
import FacetElements.Proofs.Tabulation
import Mathlib.Tactic

/-!
# Nodes and functions of a face element

A face element numbers its support points by the list of all multi-indices and
its functions by digits.  Both are described here by one total function of the
number of a dof, to which support points, single values and tables reduce.
-/

namespace FacetElements
namespace FaceElement

open MultiIndex

variable {K : Type}

theorem basis_size_pos (e : FaceElement K) : 0 < e.space.basis.size := by
  rw [size_basis_space]
  exact Nat.succ_pos e.degree

theorem dofsPerFace_pos (e : FaceElement K) : 0 < e.dofsPerFace :=
  Nat.pow_pos (Nat.succ_pos e.degree)

theorem pow_size_basis (e : FaceElement K) :
    e.space.basis.size.pow e.space.dim = e.dofsPerFace := by
  rw [size_basis_space]
  rfl

@[simp] theorem dim_space (e : FaceElement K) : e.space.dim = e.dim - 1 := rfl

theorem dofsPerFace_lt (e : FaceElement K) : e.dofsPerFace < 2 ^ 64 := by
  have hfaces : 0 < 2 * e.dim := by
    have htwo := e.two_le_dim
    omega
  exact (Nat.le_mul_of_pos_left e.dofsPerFace hfaces).trans_lt e.dofs_fit

theorem pow_size_basis_lt (e : FaceElement K) :
    e.space.basis.size ^ e.space.dim < 2 ^ 64 :=
  e.pow_size_basis.trans_lt e.dofsPerFace_lt

@[simp] theorem size_space (e : FaceElement K) : e.space.size = e.dofsPerFace := by
  rw [e.space.size_eq_of_fits e.basis_size_pos e.pow_size_basis_lt]
  exact e.pow_size_basis

def faceIndex (e : FaceElement K) (dof : ℕ) : MultiIndex e.space.basis.size :=
  digits e.basis_size_pos e.space.dim dof

@[simp] theorem length_faceIndex (e : FaceElement K) (dof : ℕ) :
    (e.faceIndex dof).length = e.dim - 1 :=
  length_digits _ _ _

theorem faceIndex_inj
    (e : FaceElement K) {i j : ℕ}
    (hi : i < e.dofsPerFace) (hj : j < e.dofsPerFace) :
    e.faceIndex i = e.faceIndex j ↔ i = j := by
  rw [← pow_size_basis] at hi hj
  exact digits_inj e.basis_size_pos hi hj

theorem indices_space_eq_ok_iff
    (e : FaceElement K) {dof : ℕ} {index : MultiIndex e.space.basis.size} :
    e.space.indices dof = .ok index ↔
      dof < e.dofsPerFace ∧ e.faceIndex dof = index := by
  have hindices : e.space.indices dof =
      (e.space.checkNumber dof).bind fun _ => .ok (e.faceIndex dof) := by
    rw [faceIndex, ← ofNumber_eq_digits]
    rfl
  rw [hindices, TensorSpace.checkNumber, size_space]
  by_cases hdof : dof < e.dofsPerFace
  · rw [if_pos hdof]
    simp [Except.bind, hdof]
  · rw [if_neg hdof]
    simp [Except.bind, hdof]

theorem allIndices_space (e : FaceElement K) :
    e.space.allIndices = (List.range e.dofsPerFace).map e.faceIndex := by
  rw [← pow_size_basis]
  exact all_eq_map_digits e.basis_size_pos e.space.dim

/-- The support point of a dof, in face coordinates. -/
def faceNode (e : FaceElement K) (dof : ℕ) : List K :=
  e.space.gridPoint (e.faceIndex dof)

@[simp] theorem length_faceNode (e : FaceElement K) (dof : ℕ) :
    (e.faceNode dof).length = e.dim - 1 := by
  simp [faceNode]

theorem rowList_faceSupportPoints (e : FaceElement K) :
    e.faceSupportPoints.rowList = (List.range e.dofsPerFace).map e.faceNode := by
  rw [faceSupportPoints, Table.rowList_ofRows, allIndices_space, List.map_map]
  rfl

theorem row_faceSupportPoints
    (e : FaceElement K) {dof : ℕ} (hdof : dof < e.dofsPerFace) :
    e.faceSupportPoints.row dof = e.faceNode dof :=
  Table.row_eq_of_rowList e.rowList_faceSupportPoints hdof

theorem eq_face_mul_add_iff
    (e : FaceElement K) {shape face dof : ℕ} (hdof : dof < e.dofsPerFace) :
    shape = face * e.dofsPerFace + dof ↔
      face = shape / e.dofsPerFace ∧ shape % e.dofsPerFace = dof := by
  have hpos := e.dofsPerFace_pos
  constructor
  · rintro rfl
    rw [Nat.mul_comm, Nat.mul_add_div hpos, Nat.mul_add_mod,
      Nat.div_eq_of_lt hdof, Nat.mod_eq_of_lt hdof]
    simp
  · rintro ⟨rfl, rfl⟩
    rw [Nat.mul_comm]
    exact (Nat.div_add_mod shape e.dofsPerFace).symm

theorem row?_faceSupportPoints
    (e : FaceElement K) {dof : ℕ} (hdof : dof < e.dofsPerFace) :
    e.faceSupportPoints.row? dof = some (e.faceNode dof) := by
  rw [Table.row?, rows_faceSupportPoints, if_pos hdof, row_faceSupportPoints e hdof]

theorem faceCount_cell (e : FaceElement K) : e.cell.faceCount = 2 * e.dim := by
  rw [Cell.faceCount, dim_cell]

theorem dofsPerCell_eq (e : FaceElement K) : e.dofsPerCell = 2 * e.dim * e.dofsPerFace := by
  rw [dofsPerCell, faceCount_cell]

theorem div_dofsPerFace_lt (e : FaceElement K) {shape : ℕ} (hshape : shape < e.dofsPerCell) :
    shape / e.dofsPerFace < 2 * e.dim := by
  rw [dofsPerCell_eq] at hshape
  exact (Nat.div_lt_iff_lt_mul e.dofsPerFace_pos).mpr hshape

theorem checkShapeAndFace_eq_ok
    (e : FaceElement K) {shape face : ℕ}
    (hshape : shape < e.dofsPerCell) (hface : face < 2 * e.dim) :
    e.checkShapeAndFace shape face = .ok () := by
  rw [checkShapeAndFace, faceCount_cell, if_neg (Nat.not_le.mpr hshape),
    if_neg (Nat.not_le.mpr hface)]

theorem checkFaceCoordinates_eq_ok
    (e : FaceElement K) {point : List K} (hpoint : point.length = e.dim - 1) :
    e.checkFaceCoordinates point.length = .ok () := by
  rw [checkFaceCoordinates, if_pos hpoint]

theorem mod_dofsPerFace_lt (e : FaceElement K) (shape : ℕ) :
    shape % e.dofsPerFace < e.dofsPerFace :=
  Nat.mod_lt shape e.dofsPerFace_pos

section Evaluation

variable [One K] [Sub K] [Mul K] [Div K]

/-- The face function of a dof at a point of the face. -/
def faceFunction (e : FaceElement K) (dof : ℕ) (point : List K) : K :=
  e.space.basisValue (e.faceIndex dof) point

theorem space_value_eq
    (e : FaceElement K) {dof : ℕ} (hdof : dof < e.dofsPerFace)
    {point : List K} (hpoint : point.length = e.dim - 1) :
    e.space.value dof point = .ok (e.faceFunction dof point) := by
  rw [← size_space] at hdof
  exact TensorSpace.value_eq e.space e.basis_size_pos hdof hpoint

theorem valueTable_space
    [Zero K] (e : FaceElement K) (points : Table K) :
    e.space.valueTable points =
      Table.generate points.rows e.dofsPerFace fun p i =>
        e.faceFunction i (points.row p) := by
  rw [TensorSpace.valueTable_eq_generate e.space e.basis_size_pos, size_space]
  rfl

theorem faceShapeValue_eq
    [Zero K] (e : FaceElement K) {shape face : ℕ}
    (hshape : shape < e.dofsPerCell) (hface : face < 2 * e.dim)
    {point : List K} (hpoint : point.length = e.dim - 1) :
    e.faceShapeValue shape face point =
      .ok (if face = shape / e.dofsPerFace then
        e.faceFunction (shape % e.dofsPerFace) point else 0) := by
  unfold faceShapeValue
  rw [e.checkShapeAndFace_eq_ok hshape hface, e.checkFaceCoordinates_eq_ok hpoint,
    e.space_value_eq (e.mod_dofsPerFace_lt shape) hpoint]
  by_cases hsupport : face = shape / e.dofsPerFace
  · simp [hasSupportOnFace, hsupport, bind, Except.bind]
  · simp [hasSupportOnFace, hsupport, bind, Except.bind, pure, Except.pure]

end Evaluation

end FaceElement
end FacetElements
