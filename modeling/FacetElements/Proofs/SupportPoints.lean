import FacetElements.Proofs.LobattoNodes
import FacetElements.Proofs.RationalElements
import FacetElements.Proofs.TableFilling
import FacetElements.Proofs.Traversal

/-!
# Support points of a created element

The tables of support points have a closed form.  The digits of a dof pick its
nodes on the face, and the coordinate along the normal axis is put between them
to give a point of the cell.  Filling tables of zeros by these points, face by
face, leaves no row out and asks for no entry that does not exist.
-/

namespace FacetElements

variable {K : Type}

/-! ## Points of a face in the cell -/

theorem getElem?_facePoint
    [Zero K] [One K] (face : ℕ) {point : List K} {axis : ℕ} (haxis : axis ≤ point.length) :
    (facePoint face point)[axis]? =
      if axis = face / 2 then some (if face % 2 = 1 then 1 else 0)
      else point[if axis < face / 2 then axis else axis - 1]? := by
  have hbit : (bitScalar face 0 : K) = if face % 2 = 1 then 1 else 0 := by
    simp [bitScalar, Nat.testBit_zero]
  rw [facePoint, List.getElem?_insertIdx, hbit]
  obtain hlt | heq | hgt := Nat.lt_trichotomy axis (face / 2)
  · simp [hlt, hlt.ne]
  · simp [heq, heq ▸ haxis]
  · simp [hgt.not_gt, hgt.ne']

namespace FaceElement

variable {e : FaceElement K} {dof axis : ℕ}

/-! ## Points on one face -/

theorem getElem?_faceNode (e : FaceElement K) (dof : ℕ) (haxis : axis < e.dim - 1) :
    (e.faceNode dof)[axis]? =
      e.nodes[dof / (e.degree + 1) ^ axis % (e.degree + 1)]? := by
  have hspace : axis < e.space.dim := haxis
  have hdigit := MultiIndex.getElem?_digits e.basis_size_pos dof hspace
  rw [← size_basis_space e, faceNode, TensorSpace.gridPoint, List.getElem?_map, faceIndex, hdigit]
  exact (e.space.basis.getElem?_nodes _).symm

theorem get?_faceSupportPoints (hdof : dof < e.dofsPerFace) (haxis : axis < e.dim - 1) :
    e.faceSupportPoints.get? dof axis = (e.faceNode dof)[axis]? := by
  have hrow : dof < e.faceSupportPoints.rows := by
    rw [rows_faceSupportPoints]
    exact hdof
  rw [Table.get?_eq_getElem?_row _ hrow haxis, row_faceSupportPoints e hdof]

theorem exists_faceSupportPoints_entry
    (e : FaceElement K) (hdof : dof < e.dofsPerFace) (haxis : axis < e.dim - 1) :
    ∃ x, e.nodes[dof / (e.degree + 1) ^ axis % (e.degree + 1)]? = some x ∧
      e.faceSupportPoints.get? dof axis = some x := by
  have hnumber : dof / (e.degree + 1) ^ axis % (e.degree + 1) < e.nodes.length := by
    rw [e.length_nodes]
    exact Nat.mod_lt _ (Nat.succ_pos e.degree)
  have hnode := List.getElem?_eq_getElem hnumber
  rw [get?_faceSupportPoints hdof haxis, getElem?_faceNode e dof haxis]
  exact ⟨_, hnode, hnode⟩

theorem writeRows_gridPoints [Zero K] (e : FaceElement K) :
    (Table.zeros e.dofsPerFace (e.dim - 1) : Table K).writeRows 0
        (e.space.allIndices.map e.space.gridPoint) =
      .ok e.faceSupportPoints := by
  have hrows : e.dofsPerFace = (e.space.allIndices.map e.space.gridPoint).length :=
    e.rows_faceSupportPoints.symm
  rw [hrows]
  exact Table.writeRows_zeros _

/-! ## Points on all faces -/

theorem hasSupportOnFace_iff (e : FaceElement K) {shape face : ℕ} :
    e.hasSupportOnFace shape face = true ↔ face = shape / e.dofsPerFace := by
  simp [hasSupportOnFace]

section Cell

variable [Zero K] [One K]

theorem rowList_supportPoints (e : FaceElement K) :
    e.supportPoints.rowList = (List.range e.dofsPerCell).map fun shape =>
      facePoint (shape / e.dofsPerFace) (e.faceNode (shape % e.dofsPerFace)) := by
  have hpos := e.dofsPerFace_pos
  rw [supportPoints, Table.rowList_ofRows, rowList_faceSupportPoints]
  apply List.ext_getElem?
  intro shape
  rw [MultiIndex.getElem?_flatMap_of_length hpos (by simp)]
  have hrest := e.mod_dofsPerFace_lt shape
  have hface : shape / e.dofsPerFace < e.cell.faceCount ↔ shape < e.dofsPerCell :=
    Nat.div_lt_iff_lt_mul hpos
  by_cases hshape : shape < e.dofsPerCell
  · simp [hshape, hface.mpr hshape, hrest]
  · have hnot : ¬ shape / e.dofsPerFace < e.cell.faceCount := hface.not.mpr hshape
    simp [hshape, hnot]

theorem rows_supportPoints (e : FaceElement K) : e.supportPoints.rows = e.dofsPerCell :=
  Table.rows_eq_of_rowList e.rowList_supportPoints

theorem get?_supportPoints
    (e : FaceElement K) {shape : ℕ} (hshape : shape < e.dofsPerCell) (haxis : axis < e.dim) :
    e.supportPoints.get? shape axis =
      (facePoint (shape / e.dofsPerFace) (e.faceNode (shape % e.dofsPerFace)))[axis]? := by
  have hrow : shape < e.supportPoints.rows := by
    rw [rows_supportPoints]
    exact hshape
  rw [Table.get?_eq_getElem?_row _ hrow haxis,
    Table.row_eq_of_rowList e.rowList_supportPoints hshape]

theorem get?_supportPoints_face
    (e : FaceElement K) {face : ℕ} (hface : face < 2 * e.dim) (hdof : dof < e.dofsPerFace)
    (haxis : axis < e.dim) :
    e.supportPoints.get? (face * e.dofsPerFace + dof) axis =
      if axis = face / 2 then some (if face % 2 = 1 then 1 else 0)
      else e.faceSupportPoints.get? dof (if axis < face / 2 then axis else axis - 1) := by
  have hshape : face * e.dofsPerFace + dof < e.dofsPerCell := by
    rw [dofsPerCell_eq]
    exact Table.position_lt hface hdof
  obtain ⟨hquotient, hrest⟩ := (e.eq_face_mul_add_iff hdof).mp rfl
  have hlength : axis ≤ (e.faceNode dof).length := by
    rw [length_faceNode]
    omega
  rw [e.get?_supportPoints hshape haxis, ← hquotient, hrest, getElem?_facePoint face hlength]
  by_cases hnormal : axis = face / 2
  · simp [hnormal]
  · rw [if_neg hnormal, if_neg hnormal, get?_faceSupportPoints hdof]
    split_ifs with hbelow <;> omega

/-! ## Filling the tables -/

theorem faceToCell_cell
    (e : FaceElement K) {face : ℕ} (hface : face < 2 * e.dim)
    {point : List K} (hpoint : point.length = e.dim - 1) :
    e.cell.faceToCell face point = .ok (facePoint face point) := by
  have htwo := e.two_le_dim
  have hcount : ¬ e.cell.faceCount ≤ face := by
    rw [faceCount_cell]
    exact Nat.not_le.mpr hface
  have hdim : ¬ point.length + 1 ≠ e.cell.dim := by
    rw [dim_cell]
    omega
  rw [Cell.faceToCell, if_neg hcount, if_neg hdim]

/-- The support points of one face, in cell coordinates. -/
def cellPoints (e : FaceElement K) (face : ℕ) : List (List K) :=
  e.faceSupportPoints.rowList.map (facePoint face)

@[simp] theorem length_cellPoints (e : FaceElement K) (face : ℕ) :
    (e.cellPoints face).length = e.dofsPerFace := by
  simp [cellPoints]

theorem length_of_mem_cellPoints
    {face : ℕ} (hface : face < 2 * e.dim) {row : List K} (hrow : row ∈ e.cellPoints face) :
    row.length = e.dim := by
  obtain ⟨point, hpoint, rfl⟩ := List.mem_map.mp hrow
  have hlength : point.length = e.dim - 1 := Table.length_of_mem_rowList hpoint
  have htwo := e.two_le_dim
  exact length_facePoint hface (by omega)

theorem length_of_mem_flatMap_cellPoints
    {faces : ℕ} (hfaces : faces ≤ 2 * e.dim) {row : List K}
    (hrow : row ∈ (List.range faces).flatMap e.cellPoints) : row.length = e.dim := by
  obtain ⟨face, hface, hmem⟩ := List.mem_flatMap.mp hrow
  exact length_of_mem_cellPoints ((List.mem_range.mp hface).trans_le hfaces) hmem

theorem length_flatten_cellPoints
    (e : FaceElement K) {faces : ℕ} (hfaces : faces ≤ 2 * e.dim) :
    ((List.range faces).flatMap e.cellPoints).flatten.length =
      faces * e.dofsPerFace * e.dim := by
  rw [Table.length_flatten_of_length_eq fun _ => length_of_mem_flatMap_cellPoints hfaces]
  simp [List.length_flatMap]

theorem fillFace_eq
    (e : FaceElement K) (table : Table K) {face : ℕ} (hface : face < 2 * e.dim) :
    e.fillFace table face = table.writeRows (face * e.dofsPerFace) (e.cellPoints face) := by
  have hpoints : e.faceSupportPoints.rowList.mapM (e.cell.faceToCell face) =
      .ok (e.cellPoints face) :=
    mapM_eq_ok fun point hpoint => e.faceToCell_cell hface (Table.length_of_mem_rowList hpoint)
  rw [fillFace, hpoints]
  rfl

theorem exists_foldlM_fillFace (e : FaceElement K) {faces : ℕ} (hfaces : faces ≤ 2 * e.dim) :
    ∃ table,
      (List.range faces).foldlM e.fillFace (Table.zeros e.dofsPerCell e.dim) = .ok table ∧
      table.FilledTo e.dofsPerCell e.dim ((List.range faces).flatMap e.cellPoints).flatten := by
  induction faces with
  | zero =>
      exact ⟨_, rfl, Table.filledTo_zeros _ _⟩
  | succ face ih =>
      obtain ⟨table, htable, hfilled⟩ := ih (Nat.le_of_succ_le hfaces)
      have hfits : face * e.dofsPerFace + (e.cellPoints face).length ≤ e.dofsPerCell := by
        rw [length_cellPoints, dofsPerCell_eq, ← Nat.succ_mul]
        exact Nat.mul_le_mul_right _ hfaces
      obtain ⟨next, hnext, hlast⟩ := hfilled.writeRows
        (fun _ hrow => length_of_mem_cellPoints hfaces hrow) hfits
        (e.length_flatten_cellPoints (Nat.le_of_succ_le hfaces))
      refine ⟨next, ?_, ?_⟩
      · rw [List.range_succ, List.foldlM_append, htable, ← hnext, ← e.fillFace_eq table hfaces]
        exact bind_pure (e.fillFace table face)
      · simpa [List.range_succ] using hlast

theorem fillSupportPoints_eq (e : FaceElement K) :
    e.fillSupportPoints = .ok e.supportPoints := by
  have hfaces : e.cell.faceCount ≤ 2 * e.dim := e.faceCount_cell.le
  obtain ⟨table, htable, hfilled⟩ := e.exists_foldlM_fillFace hfaces
  have hrows : e.dofsPerCell = ((List.range e.cell.faceCount).flatMap e.cellPoints).length := by
    simp [List.length_flatMap, dofsPerCell]
  rw [hrows] at hfilled
  rw [fillSupportPoints, htable]
  exact congrArg Except.ok
    (hfilled.eq_ofRows fun _ => length_of_mem_flatMap_cellPoints hfaces)

/-! ## Dofs and faces -/

theorem exists_face_of_shape (e : FaceElement K) {shape : ℕ} (hshape : shape < e.dofsPerCell) :
    ∃ face < 2 * e.dim, (∀ f, e.hasSupportOnFace shape f = true ↔ f = face) ∧
      e.supportPoints.get? shape (face / 2) = some (if face % 2 = 1 then 1 else 0) := by
  have hface := e.div_dofsPerFace_lt hshape
  have hdof := e.mod_dofsPerFace_lt shape
  have hposition := (e.eq_face_mul_add_iff hdof).mpr ⟨rfl, rfl⟩
  have hcoordinate := e.get?_supportPoints_face hface hdof
    (by omega : shape / e.dofsPerFace / 2 < e.dim)
  rw [← hposition, if_pos rfl] at hcoordinate
  exact ⟨_, hface, fun f => e.hasSupportOnFace_iff, hcoordinate⟩

theorem get?_supportPoints_opposite
    (e : FaceElement K) (haxis : axis < e.dim) (hdof : dof < e.dofsPerFace) :
    e.supportPoints.get? (2 * axis * e.dofsPerFace + dof) axis = some 0 ∧
      e.supportPoints.get? ((2 * axis + 1) * e.dofsPerFace + dof) axis = some 1 ∧
      ∀ other < e.dim, other ≠ axis →
        e.supportPoints.get? (2 * axis * e.dofsPerFace + dof) other =
          e.supportPoints.get? ((2 * axis + 1) * e.dofsPerFace + dof) other := by
  have hlower : 2 * axis < 2 * e.dim := by
    omega
  have hupper : 2 * axis + 1 < 2 * e.dim := by
    omega
  have hhalf : (2 * axis + 1) / 2 = axis := by
    omega
  refine ⟨?_, ?_, fun other hother hne => ?_⟩
  · rw [e.get?_supportPoints_face hlower hdof haxis]
    simp
  · rw [e.get?_supportPoints_face hupper hdof haxis]
    simp [hhalf]
  · rw [e.get?_supportPoints_face hlower hdof hother,
      e.get?_supportPoints_face hupper hdof hother]
    simp [hhalf, hne]

end Cell

/-! ## Created elements -/

section Created

variable [Zero K] [One K] [OfNat K 2] [NatCast K] [Add K] [Sub K] [Mul K] [Div K]
variable [Neg K] [OfScientific K] [LT K] [DecidableLT K] [Cosine K]

/-- The tables of an element that was created with a dimension and a degree:
their shapes, every entry of them, and what the entries say about the faces of a
cell and of its neighbours. -/
structure CreatedWith (e : FaceElement K) (dim degree : ℕ) : Prop where
  dim_eq : e.dim = dim
  degree_eq : e.degree = degree
  dofsPerFace_eq : e.dofsPerFace = (degree + 1) ^ (dim - 1)
  dofsPerCell_eq : e.dofsPerCell = 2 * dim * e.dofsPerFace
  face_shape : e.faceSupportPoints.rows = e.dofsPerFace ∧ e.faceSupportPoints.cols = dim - 1
  face_entry : ∀ dof < e.dofsPerFace, ∀ axis < dim - 1, ∃ x,
    (Lobatto.nodes degree)[dof / (degree + 1) ^ axis % (degree + 1)]? = some x ∧
      e.faceSupportPoints.get? dof axis = some x
  face_filled : (Table.zeros e.dofsPerFace (dim - 1) : Table K).writeRows 0
    (e.space.allIndices.map e.space.gridPoint) = .ok e.faceSupportPoints
  cell_shape : e.supportPoints.rows = e.dofsPerCell ∧ e.supportPoints.cols = dim
  cell_entry : ∀ face < 2 * dim, ∀ dof < e.dofsPerFace, ∀ axis < dim,
    e.supportPoints.get? (face * e.dofsPerFace + dof) axis =
      if axis = face / 2 then some (if face % 2 = 1 then 1 else 0)
      else e.faceSupportPoints.get? dof (if axis < face / 2 then axis else axis - 1)
  cell_filled : e.fillSupportPoints = .ok e.supportPoints
  on_face : ∀ shape < e.dofsPerCell, ∃ face < 2 * dim,
    (∀ f, e.hasSupportOnFace shape f = true ↔ f = face) ∧
      e.supportPoints.get? shape (face / 2) = some (if face % 2 = 1 then 1 else 0)
  opposite : ∀ axis < dim, ∀ dof < e.dofsPerFace,
    e.supportPoints.get? (2 * axis * e.dofsPerFace + dof) axis = some 0 ∧
      e.supportPoints.get? ((2 * axis + 1) * e.dofsPerFace + dof) axis = some 1 ∧
      ∀ other < dim, other ≠ axis →
        e.supportPoints.get? (2 * axis * e.dofsPerFace + dof) other =
          e.supportPoints.get? ((2 * axis + 1) * e.dofsPerFace + dof) other

theorem createdWith_of_create
    {dim degree : ℕ} {e : FaceElement K} (hcreate : create dim degree = .ok e) :
    e.CreatedWith dim degree := by
  obtain ⟨rfl, rfl, hnodes⟩ := create_eq_ok_iff.mp hcreate
  exact
    { dim_eq := rfl
      degree_eq := rfl
      dofsPerFace_eq := rfl
      dofsPerCell_eq := e.dofsPerCell_eq
      face_shape := ⟨e.rows_faceSupportPoints, rfl⟩
      face_entry := fun _ hdof _ haxis =>
        hnodes ▸ e.exists_faceSupportPoints_entry hdof haxis
      face_filled := e.writeRows_gridPoints
      cell_shape := ⟨e.rows_supportPoints, rfl⟩
      cell_entry := fun _ hface _ hdof _ haxis => e.get?_supportPoints_face hface hdof haxis
      cell_filled := e.fillSupportPoints_eq
      on_face := fun _ hshape => e.exists_face_of_shape hshape
      opposite := fun _ haxis _ hdof => e.get?_supportPoints_opposite haxis hdof }

/-- An element is created exactly on squares and cubes, if a machine word counts its dofs,
and its tables of support points then have their closed form in every entry.  The scale of
the rule that gives the nodes has to be a machine word too; the largest degree has none. -/
theorem create_represents (dim degree : ℕ) :
    (¬(dim = 2 ∨ dim = 3) →
      (create dim degree : Except Error (FaceElement K)) = .error (.unsupportedDimension dim)) ∧
    (dim = 2 ∨ dim = 3 → degree * (degree + 1) < 2 ^ 64 →
      2 * dim * (degree + 1) ^ (dim - 1) < 2 ^ 64 →
      ∃ e : FaceElement K, create dim degree = .ok e) ∧
    (dim = 2 ∨ dim = 3 → degree * (degree + 1) < 2 ^ 64 →
      2 ^ 64 ≤ 2 * dim * (degree + 1) ^ (dim - 1) →
      (create dim degree : Except Error (FaceElement K)) = .error .capacityOverflow) ∧
    (dim = 2 ∨ dim = 3 → degree + 1 = 2 ^ 64 →
      (create dim degree : Except Error (FaceElement K)) = .error (.tooFewPoints 0)) ∧
    ∀ e : FaceElement K, create dim degree = .ok e → e.CreatedWith dim degree := by
  have hrange : dim = 2 ∨ dim = 3 ↔ 2 ≤ dim ∧ dim ≤ 3 := by
    omega
  rw [hrange]
  refine ⟨fun hdim => create_of_dim_ne hdim degree, ?_, ?_, ?_, fun e => createdWith_of_create⟩
  · intro hdim _ hfits
    exact ⟨_, create_of_fits hdim hfits⟩
  · intro hdim hdegree hlarge
    exact create_of_not_fits hdim (succ_lt_of_mul_succ_lt hdegree) hlarge.not_gt
  · intro hdim hdegree
    exact create_of_requestNodes_eq_error hdim (Lobatto.requestNodes_eq_error hdegree)

end Created

/-- Dof 5 of face 4 of a cube is dof 41 of the cell. -/
theorem create_represents_quadratic :
    2 * (2 + 1) < 2 ^ 64 ∧ 2 * 3 * (2 + 1) ^ (3 - 1) < 2 ^ 64 ∧
    (∃ e : FaceElement ℚ, FaceElement.create 3 2 = .ok e) ∧
    FaceElement.create 3 2 = .ok (rationalFace 2) ∧
    (rationalFace 2).hasSupportOnFace 41 4 = true ∧
    ∃ x y, (Lobatto.nodes 2 : List ℚ)[2]? = some x ∧ (Lobatto.nodes 2 : List ℚ)[1]? = some y ∧
      (rationalFace 2).supportPoints.get? 41 0 = some x ∧
      (rationalFace 2).supportPoints.get? 41 1 = some y ∧
      (rationalFace 2).supportPoints.get? 41 2 = some 0 := by
  have hdegree : 2 * (2 + 1) < 2 ^ 64 := by
    norm_num
  have hfits : 2 * 3 * (2 + 1) ^ (3 - 1) < 2 ^ 64 := by
    norm_num
  rcases create_represents (K := ℚ) 3 2 with ⟨-, hexists, -, -, hrepresents⟩
  have hcreated := hrepresents (rationalFace 2) (create_rationalFace 2)
  have hdof : 5 < (rationalFace 2).dofsPerFace := by
    decide
  obtain ⟨x, hx, hfirst⟩ := hcreated.face_entry 5 hdof 0 (by decide)
  obtain ⟨y, hy, hsecond⟩ := hcreated.face_entry 5 hdof 1 (by decide)
  have hentry := hcreated.cell_entry 4 (by decide) 5 hdof
  exact ⟨hdegree, hfits, hexists (.inr rfl) hdegree hfits, create_rationalFace 2, by decide, x, y,
    hx, hy, (hentry 0 (by decide)).trans hfirst, (hentry 1 (by decide)).trans hsecond,
    hentry 2 (by decide)⟩

/-- The number of nodes of the largest degree is zero as a machine word. -/
theorem create_largest_degree :
    (FaceElement.create 2 18446744073709551615 : Except Error (FaceElement ℚ)) =
      .error (.tooFewPoints 0) := by
  have hdegree : 18446744073709551615 + 1 = wordBound := by
    decide
  exact create_of_requestNodes_eq_error ⟨le_rfl, by omega⟩ (Lobatto.requestNodes_eq_error hdegree)

end FaceElement
end FacetElements
