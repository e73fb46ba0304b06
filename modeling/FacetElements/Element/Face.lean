import FacetElements.Cell.Embedding
import FacetElements.Name
import FacetElements.Polynomial.TensorSpace
import FacetElements.Quadrature.Lobatto

/-!
# Face elements

The shape functions of a face element live on the faces of a square or a cube.
On each face they are the tensor products of a Lagrange basis, so every dof
belongs to exactly one face.  The dofs of a cell are numbered face by face.
-/

namespace FacetElements

/-- The number of dofs of a cell: two faces for each axis, and on each of them one dof for
every choice of nodes along the other axes. -/
def FaceElement.dofCount (dim degree : Nat) : Nat :=
  2 * dim * (degree + 1).pow (dim - 1)

/-- A face element: its dimension, and one node per function of the
one-dimensional basis.  All else follows from these. -/
structure FaceElement (K : Type) where
  dim : Nat
  degree : Nat
  nodes : List K
  two_le_dim : 2 ≤ dim
  dim_le_three : dim ≤ 3
  length_nodes : nodes.length = degree + 1
  /-- A machine word counts the dofs. -/
  dofs_fit : FaceElement.dofCount dim degree < wordBound

namespace FaceElement

variable {K : Type}

theorem succ_le_dofCount
    {dim degree : Nat} (hdim : 2 ≤ dim) :
    degree + 1 ≤ dofCount dim degree := by
  have hpower : (degree + 1).pow 1 ≤ (degree + 1).pow (dim - 1) :=
    Nat.pow_le_pow_right (Nat.succ_pos degree) (by omega)
  have hfaces : 0 < 2 * dim := by
    omega
  calc degree + 1
    _ = (degree + 1).pow 1 := (Nat.pow_one _).symm
    _ ≤ (degree + 1).pow (dim - 1) := hpower
    _ ≤ dofCount dim degree := Nat.le_mul_of_pos_left _ hfaces

/-- Two face elements agree when dimension, degree and nodes do, nodes by their
own comparison. -/
instance [BEq K] : BEq (FaceElement K) where
  beq a b := a.dim == b.dim && a.degree == b.degree && a.nodes == b.nodes

section Construction

variable [Zero K] [One K] [OfNat K 2] [NatCast K] [Add K] [Sub K] [Mul K] [Div K] [Neg K]
variable [OfScientific K] [LT K] [DecidableLT K] [Cosine K]

/-- The element with the nodes of a degree.  If no machine word counts the dofs, no table
holds their support points. -/
def create (dim degree : Nat) : Except Error (FaceElement K) :=
  if hdim : 2 ≤ dim ∧ dim ≤ 3 then
    match hrequest : Lobatto.requestNodes degree with
    | .error refusal => .error refusal
    | .ok nodes =>
        if hfits : dofCount dim degree < wordBound then
          have hdegree : degree + 1 < wordBound :=
            Nat.lt_of_le_of_lt (succ_le_dofCount hdim.1) hfits
          .ok
            { dim := dim
              degree := degree
              nodes := nodes
              two_le_dim := hdim.1
              dim_le_three := hdim.2
              length_nodes := Lobatto.length_of_requestNodes hrequest hdegree
              dofs_fit := hfits }
        else
          .error .capacityOverflow
  else
    .error (.unsupportedDimension dim)

theorem create_of_dim_ne
    {dim : Nat} (hdim : ¬(2 ≤ dim ∧ dim ≤ 3)) (degree : Nat) :
    (create dim degree : Except Error (FaceElement K)) = .error (.unsupportedDimension dim) := by
  unfold create
  rw [dif_neg hdim]

theorem create_of_requestNodes_eq_error
    {dim degree : Nat} {refusal : Error} (hdim : 2 ≤ dim ∧ dim ≤ 3)
    (hrequest : (Lobatto.requestNodes degree : Except Error (List K)) = .error refusal) :
    (create dim degree : Except Error (FaceElement K)) = .error refusal := by
  unfold create
  rw [dif_pos hdim]
  split
  · next other hother =>
      rw [hrequest] at hother
      cases hother
      rfl
  · next nodes hnodes =>
      rw [hrequest] at hnodes
      cases hnodes

theorem create_of_not_fits
    {dim degree : Nat} (hdim : 2 ≤ dim ∧ dim ≤ 3) (hdegree : degree + 1 < wordBound)
    (hlarge : ¬dofCount dim degree < wordBound) :
    (create dim degree : Except Error (FaceElement K)) = .error .capacityOverflow := by
  have hrequest := Lobatto.requestNodes_eq (K := K) hdegree
  unfold create
  rw [dif_pos hdim]
  split
  · next refusal hrefusal =>
      rw [hrequest] at hrefusal
      cases hrefusal
  · rw [dif_neg hlarge]

theorem create_of_fits
    {dim degree : Nat} (hdim : 2 ≤ dim ∧ dim ≤ 3) (hfits : dofCount dim degree < wordBound) :
    (create dim degree : Except Error (FaceElement K)) =
      .ok
        { dim := dim
          degree := degree
          nodes := Lobatto.nodes degree
          two_le_dim := hdim.1
          dim_le_three := hdim.2
          length_nodes := Lobatto.length_nodes degree
          dofs_fit := hfits } := by
  have hdegree : degree + 1 < wordBound :=
    Nat.lt_of_le_of_lt (succ_le_dofCount hdim.1) hfits
  have hrequest := Lobatto.requestNodes_eq (K := K) hdegree
  unfold create
  rw [dif_pos hdim]
  split
  · next refusal hrefusal =>
      rw [hrequest] at hrefusal
      cases hrefusal
  · next nodes hnodes =>
      rw [hrequest] at hnodes
      cases hnodes
      rw [dif_pos hfits]

/-- What is created has these numbers and the nodes of the degree, and every such element
is created. -/
theorem create_eq_ok_iff
    {dim degree : Nat} {e : FaceElement K} :
    create dim degree = .ok e ↔
      e.dim = dim ∧ e.degree = degree ∧ e.nodes = Lobatto.nodes degree := by
  constructor
  · intro hcreate
    have hdim : 2 ≤ dim ∧ dim ≤ 3 := by
      apply Decidable.byContradiction
      intro hne
      rw [create_of_dim_ne hne] at hcreate
      cases hcreate
    have hfits : dofCount dim degree < wordBound := by
      unfold create at hcreate
      rw [dif_pos hdim] at hcreate
      split at hcreate
      · cases hcreate
      · split at hcreate
        · assumption
        · cases hcreate
    rw [create_of_fits hdim hfits] at hcreate
    cases hcreate
    exact ⟨rfl, rfl, rfl⟩
  · obtain ⟨_, ownDegree, nodes, htwo, hthree, _, hfits⟩ := e
    rintro ⟨rfl, rfl, hnodes⟩
    change nodes = Lobatto.nodes ownDegree at hnodes
    subst hnodes
    exact create_of_fits ⟨htwo, hthree⟩ hfits

end Construction

/-! ## Counts -/

/-- The number of dofs on each subentity of each dimension: only the faces carry
any. -/
def dofsPerObject (dim degree : Nat) : List Nat :=
  (List.range (dim + 1)).map fun d => if d + 1 = dim then wordPow (degree + 1) d else 0

def name (e : FaceElement K) : ElementName :=
  .faceLagrange e.dim e.degree

def cell (e : FaceElement K) : Cell :=
  Cell.hypercube ⟨e.dim, Nat.lt_succ_of_le e.dim_le_three⟩

def faceCell (e : FaceElement K) : Cell :=
  Cell.hypercube ⟨e.dim - 1, Nat.lt_succ_of_le (Nat.le_trans (Nat.sub_le _ _) e.dim_le_three)⟩

@[simp] theorem dim_cell (e : FaceElement K) : e.cell.dim = e.dim := by
  simp [cell]

@[simp] theorem dim_faceCell (e : FaceElement K) : e.faceCell.dim = e.dim - 1 := by
  simp [faceCell]

def dofsPerFace (e : FaceElement K) : Nat :=
  (e.degree + 1).pow (e.dim - 1)

def dofsPerCell (e : FaceElement K) : Nat :=
  e.cell.faceCount * e.dofsPerFace

def space (e : FaceElement K) : TensorSpace K where
  basis := ⟨e.nodes⟩
  dim := e.dim - 1

@[simp] theorem size_basis_space (e : FaceElement K) : e.space.basis.size = e.degree + 1 :=
  e.length_nodes

/-- A dof belongs to the face in whose block its number falls. -/
def hasSupportOnFace (e : FaceElement K) (shape face : Nat) : Bool :=
  face = shape / e.dofsPerFace

/-! ## Support points -/

/-- The support points of the dofs of one face, in face coordinates. -/
def faceSupportPoints (e : FaceElement K) : Table K :=
  Table.ofRows (e.dim - 1) (e.space.allIndices.map e.space.gridPoint) fun r h => by
    obtain ⟨ix, hix, rfl⟩ := List.mem_map.1 h
    rw [TensorSpace.length_gridPoint]
    exact MultiIndex.length_of_mem_all hix

@[simp] theorem cols_faceSupportPoints (e : FaceElement K) :
    e.faceSupportPoints.cols = e.dim - 1 := rfl

@[simp] theorem rows_faceSupportPoints (e : FaceElement K) :
    e.faceSupportPoints.rows = e.dofsPerFace :=
  calc (e.space.allIndices.map e.space.gridPoint).length
    _ = e.space.basis.size.pow e.space.dim := by simp
    _ = e.dofsPerFace := by rw [size_basis_space]; rfl

/-- The support points of all dofs, in cell coordinates. -/
def supportPoints [Zero K] [One K] (e : FaceElement K) : Table K :=
  let onFace := e.faceSupportPoints.rowList
  Table.ofRows e.dim
    ((List.range e.cell.faceCount).flatMap fun face => onFace.map (facePoint face))
    fun r h => by
      simp only [List.mem_flatMap, List.mem_range, List.mem_map] at h
      obtain ⟨face, hface, point, hpoint, rfl⟩ := h
      have hlength := Table.length_of_mem_rowList hpoint
      have hdim := e.two_le_dim
      refine length_facePoint (by simpa [Cell.faceCount] using hface) ?_
      rw [hlength, cols_faceSupportPoints]
      omega

/-- Puts the support points of a face into the cell, one after the other, and
writes them into the rows of the face. -/
def fillFace [Zero K] [One K] (e : FaceElement K) (table : Table K) (face : Nat) :
    Except Error (Table K) := do
  let points ← e.faceSupportPoints.rowList.mapM (e.cell.faceToCell face)
  table.writeRows (face * e.dofsPerFace) points

/-- The table of the support points of all dofs, filled face by face. -/
def fillSupportPoints [Zero K] [One K] (e : FaceElement K) : Except Error (Table K) :=
  (List.range e.cell.faceCount).foldlM e.fillFace (Table.zeros e.dofsPerCell e.dim)

/-! ## Shape functions on a face -/

def checkShapeAndFace (e : FaceElement K) (shape face : Nat) : Except Error Unit :=
  if e.dofsPerCell ≤ shape then
    .error (.indexOutOfRange .shapeFunction shape e.dofsPerCell)
  else if e.cell.faceCount ≤ face then
    .error (.indexOutOfRange .face face e.cell.faceCount)
  else
    .ok ()

def checkFaceCoordinates (e : FaceElement K) (count : Nat) : Except Error Unit :=
  if count = e.dim - 1 then .ok () else .error (.dimensionMismatch (e.dim - 1) count)

section Evaluation

variable [Zero K] [One K] [Sub K] [Mul K] [Div K]

/-- A shape function at a point of a face, in face coordinates.  It is zero on
every face but its own. -/
def faceShapeValue (e : FaceElement K) (shape face : Nat) (point : List K) :
    Except Error K := do
  e.checkShapeAndFace shape face
  e.checkFaceCoordinates point.length
  if e.hasSupportOnFace shape face then e.space.value (shape % e.dofsPerFace) point
  else return 0

/-- The gradient of a shape function along a face, in face coordinates. -/
def faceShapeGradient [Add K] (e : FaceElement K) (shape face : Nat) (point : List K) :
    Except Error (List K) := do
  e.checkShapeAndFace shape face
  e.checkFaceCoordinates point.length
  if e.hasSupportOnFace shape face then e.space.gradient (shape % e.dofsPerFace) point
  else return List.replicate (e.dim - 1) 0

/-- Every shape function of the cell at points of a face: the functions of the
face fill its block of columns, all other columns are zero. -/
def tabulateFace (e : FaceElement K) (face : Nat) (points : Table K) :
    Except Error (Table K) := do
  e.checkShapeAndFace 0 face
  let onFace ← e.space.tabulate points
  return onFace.padColumns (face * e.dofsPerFace)
    ((e.cell.faceCount - 1 - face) * e.dofsPerFace)

end Evaluation

end FaceElement

end FacetElements
