import FacetElements.Proofs.FaceFunctions

/-!
# Shape functions of a cell on one face

On a face a shape function of the cell is a face function, or zero if its dof
belongs to another face.  Single values, gradients and the table of all shape
functions are described by one total function of the number of the dof, without
any law of the scalars.
-/

namespace FacetElements

open MultiIndex

variable {K : Type}

namespace TensorSpace

variable [Zero K] [One K] [Add K] [Sub K] [Mul K] [Div K]

theorem gradient_eq_of_index
    (space : TensorSpace K) {i : ℕ} (hi : i < space.size)
    {ix : MultiIndex space.basis.size}
    (hindex : ofNumber space.basis.size space.dim i = .ok ix)
    {point : List K} (hpoint : point.length = space.dim) :
    space.gradient i point =
      .ok ((List.range space.dim).map (space.basisPartial ix point)) := by
  unfold gradient
  rw [hindex]
  simp only [checkNumber, hi, checkCoordinates, hpoint, if_true]
  rfl

theorem gradient_eq
    (space : TensorSpace K) (hpos : 0 < space.basis.size)
    {i : ℕ} (hi : i < space.size)
    {point : List K} (hpoint : point.length = space.dim) :
    space.gradient i point =
      .ok ((List.range space.dim).map
        (space.basisPartial (digits hpos space.dim i) point)) :=
  space.gradient_eq_of_index hi (ofNumber_eq_digits hpos space.dim i) hpoint

end TensorSpace

namespace FaceElement

variable {shape face : ℕ} {point : List K}

/-- The dofs of a face are those in its block of columns. -/
theorem eq_div_dofsPerFace_iff (e : FaceElement K) :
    face = shape / e.dofsPerFace ↔
      face * e.dofsPerFace ≤ shape ∧ shape - face * e.dofsPerFace < e.dofsPerFace := by
  have hpos := e.dofsPerFace_pos
  rw [eq_comm, Nat.div_eq_iff hpos]
  omega

theorem dofsPerCell_pos (e : FaceElement K) : 0 < e.dofsPerCell := by
  have hdim : 0 < 2 * e.dim := by
    have htwo := e.two_le_dim
    omega
  rw [dofsPerCell_eq]
  exact Nat.mul_pos hdim e.dofsPerFace_pos

theorem checkShapeAndFace_of_shape_le
    (e : FaceElement K) (hshape : e.dofsPerCell ≤ shape) :
    e.checkShapeAndFace shape face =
      .error (.indexOutOfRange .shapeFunction shape e.dofsPerCell) := by
  rw [checkShapeAndFace, if_pos hshape]

theorem checkShapeAndFace_of_face_le
    (e : FaceElement K) (hshape : shape < e.dofsPerCell) (hface : 2 * e.dim ≤ face) :
    e.checkShapeAndFace shape face = .error (.indexOutOfRange .face face (2 * e.dim)) := by
  rw [checkShapeAndFace, faceCount_cell, if_neg (Nat.not_le.mpr hshape), if_pos hface]

/-! ## Values and gradients -/

section Evaluation

variable [Zero K] [One K] [Sub K] [Mul K] [Div K]

/-- A shape function of the cell at a point of a face. -/
def shapeFunction (e : FaceElement K) (face shape : ℕ) (point : List K) : K :=
  if face = shape / e.dofsPerFace then e.faceFunction (shape % e.dofsPerFace) point else 0

theorem faceShapeValue_eq_shapeFunction
    (e : FaceElement K) (hshape : shape < e.dofsPerCell) (hface : face < 2 * e.dim)
    (hpoint : point.length = e.dim - 1) :
    e.faceShapeValue shape face point = .ok (e.shapeFunction face shape point) :=
  e.faceShapeValue_eq hshape hface hpoint

/-- The derivative of the face function of a dof along an axis of the face. -/
def facePartial [Add K] (e : FaceElement K) (dof : ℕ) (point : List K) (axis : ℕ) : K :=
  e.space.basisPartial (e.faceIndex dof) point axis

def shapePartial [Add K] (e : FaceElement K) (face shape : ℕ) (point : List K) (axis : ℕ) : K :=
  if face = shape / e.dofsPerFace then e.facePartial (shape % e.dofsPerFace) point axis else 0

theorem space_gradient_eq
    [Add K] (e : FaceElement K) {dof : ℕ} (hdof : dof < e.dofsPerFace)
    (hpoint : point.length = e.dim - 1) :
    e.space.gradient dof point =
      .ok ((List.range (e.dim - 1)).map (e.facePartial dof point)) := by
  rw [← size_space] at hdof
  exact TensorSpace.gradient_eq e.space e.basis_size_pos hdof hpoint

theorem faceShapeGradient_eq
    [Add K] (e : FaceElement K) (hshape : shape < e.dofsPerCell) (hface : face < 2 * e.dim)
    (hpoint : point.length = e.dim - 1) :
    e.faceShapeGradient shape face point =
      .ok ((List.range (e.dim - 1)).map (e.shapePartial face shape point)) := by
  unfold faceShapeGradient
  rw [e.checkShapeAndFace_eq_ok hshape hface, e.checkFaceCoordinates_eq_ok hpoint,
    e.space_gradient_eq (e.mod_dofsPerFace_lt shape) hpoint]
  by_cases hsupport : face = shape / e.dofsPerFace
  · have hown : e.shapePartial face shape point =
        e.facePartial (shape % e.dofsPerFace) point :=
      funext fun _ => if_pos hsupport
    rw [hown]
    simp [hasSupportOnFace, hsupport, bind, Except.bind]
  · have hother : e.shapePartial face shape point = fun _ => 0 :=
      funext fun _ => if_neg hsupport
    rw [hother]
    simp [hasSupportOnFace, hsupport, bind, Except.bind, pure, Except.pure]

/-! ## Tables -/

theorem tabulate_space
    (e : FaceElement K) {points : Table K} (hcols : points.cols = e.dim - 1) :
    e.space.tabulate points = .ok (e.space.valueTable points) :=
  e.space.tabulate_eq hcols e.pow_size_basis_lt

theorem tabulateFace_eq
    (e : FaceElement K) (hface : face < 2 * e.dim)
    {points : Table K} (hcols : points.cols = e.dim - 1) :
    e.tabulateFace face points =
      .ok (Table.generate points.rows e.dofsPerCell fun p shape =>
        e.shapeFunction face shape (points.row p)) := by
  -- The columns before the block, the block and the columns behind it.
  have hcolumns : face * e.dofsPerFace + e.dofsPerFace +
      (e.cell.faceCount - 1 - face) * e.dofsPerFace = e.dofsPerCell := by
    rw [dofsPerCell_eq, faceCount_cell, ← Nat.succ_mul, ← Nat.add_mul]
    congr 1
    omega
  unfold tabulateFace
  rw [e.checkShapeAndFace_eq_ok e.dofsPerCell_pos hface, e.tabulate_space hcols,
    valueTable_space]
  change Except.ok (Table.padColumns _ _ (Table.generate _ _ _)) = _
  rw [Table.padColumns_generate, hcolumns]
  congr 1
  apply Table.generate_congr
  intro p _ shape _
  by_cases hsupport : face = shape / e.dofsPerFace
  · have hblock := e.eq_div_dofsPerFace_iff.mp hsupport
    have hdof : shape - face * e.dofsPerFace = shape % e.dofsPerFace := by
      rw [hsupport, Nat.mod_eq_sub_div_mul]
    rw [if_pos hblock, shapeFunction, if_pos hsupport, hdof]
  · have hblock := e.eq_div_dofsPerFace_iff.not.mp hsupport
    rw [if_neg hblock, shapeFunction, if_neg hsupport]

theorem tabulateFace_of_face_le
    (e : FaceElement K) (hface : 2 * e.dim ≤ face) (points : Table K) :
    e.tabulateFace face points = .error (.indexOutOfRange .face face (2 * e.dim)) := by
  unfold tabulateFace
  rw [e.checkShapeAndFace_of_face_le e.dofsPerCell_pos hface]
  rfl

theorem tabulateFace_of_cols_ne
    (e : FaceElement K) (hface : face < 2 * e.dim)
    {points : Table K} (hcols : points.cols ≠ e.dim - 1) :
    e.tabulateFace face points = .error (.dimensionMismatch (e.dim - 1) points.cols) := by
  unfold tabulateFace
  rw [e.checkShapeAndFace_eq_ok e.dofsPerCell_pos hface, e.space.tabulate_of_cols_ne hcols]
  rfl

end Evaluation

end FaceElement
end FacetElements
