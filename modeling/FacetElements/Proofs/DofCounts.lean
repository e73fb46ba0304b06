import FacetElements.Proofs.NameRebuilding
import FacetElements.Proofs.RequestFaults
import FacetElements.Proofs.SupportPoints

/-!
# Counts of dofs

The dofs of a cell are counted from its subentities, each with the dofs that belong to it,
and face by face, from the shape functions that do not vanish there.  Every face owns a
block of consecutive dofs, and the blocks of all faces follow each other without a gap, so
both counts give the number of dofs of the cell.  The number on one face is never zero,
and it is also the size of the space on a face and the number of its support points.
-/

namespace FacetElements

/-! ## Counts by subentities -/

namespace Cell

theorem length_entityCounts (cell : Cell) : cell.entityCounts.length = cell.dim + 1 := by
  cases cell with
  | point => rfl
  | interval => rfl
  | quadrilateral => rfl
  | hexahedron => rfl

/-- Among the subentities only the faces have dofs. -/
theorem sum_dofsPerObject
    {cell : Cell} (hcell : cell ≠ .point) (degree : ℕ) :
    (List.zipWith (· * ·) (FaceElement.dofsPerObject cell.dim degree) cell.entityCounts).sum =
      cell.faceCount * wordPow (degree + 1) (cell.dim - 1) := by
  cases cell with
  | point =>
      contradiction
  | interval =>
      norm_num [FaceElement.dofsPerObject, List.range_succ, dim, entityCounts, faceCount, mul_comm]
  | quadrilateral =>
      norm_num [FaceElement.dofsPerObject, List.range_succ, dim, entityCounts, faceCount, mul_comm]
  | hexahedron =>
      norm_num [FaceElement.dofsPerObject, List.range_succ, dim, entityCounts, faceCount, mul_comm]

end Cell

theorem sum_zipWith_zeros (n : ℕ) (counts : List ℕ) :
    (List.zipWith (· * ·) (List.replicate n 0) counts).sum = 0 := by
  induction n generalizing counts with
  | zero =>
      simp
  | succ n ih =>
      cases counts with
      | nil =>
          simp
      | cons count counts =>
          simp [List.replicate_succ, ih]

/-! ## Blocks of dofs -/

theorem flatMap_range_block (blocks size : ℕ) :
    ((List.range blocks).flatMap fun k => List.range' (k * size) size) =
      List.range (blocks * size) := by
  induction blocks with
  | zero =>
      simp
  | succ blocks ih =>
      rw [List.range_succ, List.flatMap_append, ih, List.flatMap_singleton, Nat.succ_mul,
        List.range_eq_range', List.range_eq_range', ← List.range'_append_1, Nat.zero_add]

theorem filter_range_eq_range'
    {start size total : ℕ} {p : ℕ → Bool} (htotal : start + size ≤ total)
    (hp : ∀ k, p k = true ↔ start ≤ k ∧ k < start + size) :
    (List.range total).filter p = List.range' start size := by
  apply List.Pairwise.eq_of_mem_iff (List.pairwise_lt_range.filter p) List.pairwise_lt_range'
  intro k
  rw [List.mem_filter, List.mem_range, hp, List.mem_range'_1]
  constructor
  · intro hk
    exact hk.2
  · intro hk
    exact ⟨hk.2.trans_le htotal, hk⟩

variable {K F : Type}

namespace FaceElement

/-- The dofs of the cell whose shape functions do not vanish on a face. -/
def dofsOnFace (e : FaceElement K) (face : ℕ) : List ℕ :=
  (List.range e.dofsPerCell).filter fun shape => e.hasSupportOnFace shape face

theorem hasSupportOnFace_iff_block (e : FaceElement K) {shape face : ℕ} :
    e.hasSupportOnFace shape face = true ↔
      face * e.dofsPerFace ≤ shape ∧ shape < face * e.dofsPerFace + e.dofsPerFace := by
  rw [hasSupportOnFace_iff, eq_div_dofsPerFace_iff]
  omega

theorem dofsOnFace_eq_block (e : FaceElement K) {face : ℕ} (hface : face < 2 * e.dim) :
    e.dofsOnFace face = List.range' (face * e.dofsPerFace) e.dofsPerFace := by
  apply filter_range_eq_range' _ fun shape => e.hasSupportOnFace_iff_block
  rw [dofsPerCell_eq, ← Nat.succ_mul]
  exact Nat.mul_le_mul_right _ hface

/-- The faces share all dofs of the cell among them, in their order. -/
theorem flatMap_dofsOnFace (e : FaceElement K) :
    (List.range (2 * e.dim)).flatMap e.dofsOnFace = List.range e.dofsPerCell := by
  have hblocks : ∀ face ∈ List.range (2 * e.dim),
      e.dofsOnFace face = List.range' (face * e.dofsPerFace) e.dofsPerFace := by
    intro face hface
    exact e.dofsOnFace_eq_block (List.mem_range.mp hface)
  rw [List.flatMap_congr hblocks, flatMap_range_block, dofsPerCell_eq]

theorem existsUnique_face (e : FaceElement K) {shape : ℕ} (hshape : shape < e.dofsPerCell) :
    ∃! face, face < 2 * e.dim ∧ e.hasSupportOnFace shape face = true := by
  refine ⟨shape / e.dofsPerFace, ⟨e.div_dofsPerFace_lt hshape, e.hasSupportOnFace_iff.mpr rfl⟩, ?_⟩
  intro face hface
  exact e.hasSupportOnFace_iff.mp hface.2

theorem wordPow_dofsPerFace (e : FaceElement K) :
    wordPow (e.degree + 1) (e.dim - 1) = e.dofsPerFace :=
  wordPow_eq (fun hzero => absurd hzero (Nat.succ_ne_zero e.degree)) e.dofsPerFace_lt

theorem getElem?_dofsPerObject (e : FaceElement K) :
    (dofsPerObject e.dim e.degree)[e.dim - 1]? = some e.dofsPerFace := by
  have htwo := e.two_le_dim
  have hface : e.dim - 1 + 1 = e.dim := by
    omega
  rw [dofsPerObject, List.getElem?_map, List.getElem?_range (by omega), Option.map_some,
    if_pos hface, wordPow_dofsPerFace]

/-- The face of a dof by a division that fails for the divisor zero. -/
def runHasSupportOnFace (e : FaceElement K) (shape face : ℕ) : Except Error Bool :=
  (divide shape e.dofsPerFace).map fun division => decide (face = division.2)

theorem runHasSupportOnFace_eq (e : FaceElement K) (shape face : ℕ) :
    e.runHasSupportOnFace shape face = .ok (e.hasSupportOnFace shape face) := by
  rw [runHasSupportOnFace, divide_eq_ok shape e.dofsPerFace_pos]
  rfl

/-- Every face has the same number of dofs, a block of those of the cell. -/
structure PartitionedByFaces (e : FaceElement K) : Prop where
  one_face : ∀ shape < e.dofsPerCell,
    ∃! face, face < 2 * e.dim ∧ e.hasSupportOnFace shape face = true
  block : ∀ face < 2 * e.dim,
    e.dofsOnFace face = List.range' (face * e.dofsPerFace) e.dofsPerFace
  blocks : (List.range (2 * e.dim)).flatMap e.dofsOnFace = List.range e.dofsPerCell
  object_eq : (dofsPerObject e.dim e.degree)[e.dim - 1]? = some e.dofsPerFace
  size_eq : e.space.size = e.dofsPerFace
  rows_eq : e.faceSupportPoints.rows = e.dofsPerFace
  one_le : 1 ≤ e.dofsPerFace
  divides : ∀ shape face,
    e.runHasSupportOnFace shape face = .ok (e.hasSupportOnFace shape face)

theorem partitionedByFaces (e : FaceElement K) : e.PartitionedByFaces where
  one_face := fun _ hshape => e.existsUnique_face hshape
  block := fun _ hface => e.dofsOnFace_eq_block hface
  blocks := e.flatMap_dofsOnFace
  object_eq := e.getElem?_dofsPerObject
  size_eq := e.size_space
  rows_eq := e.rows_faceSupportPoints
  one_le := e.dofsPerFace_pos
  divides := e.runHasSupportOnFace_eq

end FaceElement

/-! ## Elements -/

namespace Element

variable [ElementFamily F]

/-- The dofs of the cell are those of its subentities, and those of its faces. -/
structure CountsAgree (e : Element K F) : Prop where
  length_dofsPerObject : e.dofsPerObject.length = e.dim + 1
  length_entityCounts : e.cell.entityCounts.length = e.dim + 1
  by_entities : (List.zipWith (· * ·) e.dofsPerObject e.cell.entityCounts).sum = e.dofsPerCell
  by_faces : ((List.range e.cell.faceCount).map fun face =>
    (List.range e.dofsPerCell).countP fun shape => e.hasSupportOnFace shape face).sum =
      e.dofsPerCell

theorem countsAgree_face (e : FaceElement K) : (face e : Element K F).CountsAgree where
  length_dofsPerObject := by
    simp [dofsPerObject, FaceElement.dofsPerObject, dim]
  length_entityCounts := by
    rw [Cell.length_entityCounts]
    exact congrArg (· + 1) e.dim_cell
  by_entities := by
    have hcell : e.cell ≠ .point := by
      intro hpoint
      have hdim := e.dim_cell
      have htwo := e.two_le_dim
      rw [hpoint] at hdim
      simp only [Cell.dim] at hdim
      omega
    have hsum := Cell.sum_dofsPerObject hcell e.degree
    rw [e.dim_cell, e.wordPow_dofsPerFace] at hsum
    exact hsum
  by_faces := by
    have hlength := congrArg List.length e.flatMap_dofsOnFace
    rw [List.length_flatMap, List.length_range, ← e.faceCount_cell] at hlength
    simp only [FaceElement.dofsOnFace, ← List.countP_eq_length_filter] at hlength
    exact hlength

theorem countsAgree_nothing (e : NothingElement) : (nothing e : Element K F).CountsAgree where
  length_dofsPerObject := by
    simp [dofsPerObject, NothingElement.dofsPerObject, dim]
  length_entityCounts := by
    rw [Cell.length_entityCounts]
    simp [cell, NothingElement.cell, dim]
  by_entities := sum_zipWith_zeros (e.dim + 1) _
  by_faces := by
    simp [dofsPerCell]

/-- An element that was created has as many dofs as its subentities, and as its faces, and
the dofs of a face element are divided among the faces. -/
theorem dof_counts_agree
    [Zero K] [One K] [OfNat K 2] [NatCast K] [Add K] [Sub K] [Mul K] [Div K] [Neg K]
    [OfScientific K] [LT K] [DecidableLT K] [Cosine K]
    {name : ElementName} {e : Element K F} (hbuilds : name.Builds e) :
    e.CountsAgree ∧ ∀ f, e = face f → f.PartitionedByFaces := by
  cases hbuilds with
  | @faceLagrange dim degree f hcreate =>
      refine ⟨countsAgree_face f, ?_⟩
      intro g _
      exact g.partitionedByFaces
  | @nothing dim f hcreate =>
      refine ⟨countsAgree_nothing f, ?_⟩
      intro g hg
      cases hg

theorem dof_counts_agree_quadratic :
    ElementName.Builds (.faceLagrange 3 2) (face (rationalFace 2) : Element ℚ Empty) ∧
    (face (rationalFace 2) : Element ℚ Empty).CountsAgree ∧
    (rationalFace 2).PartitionedByFaces ∧
    (rationalFace 2).dofsPerCell = 54 ∧
    (rationalFace 2).dofsOnFace 4 = List.range' 36 9 := by
  have hbuilds : ElementName.Builds (.faceLagrange 3 2) (face (rationalFace 2) : Element ℚ Empty) :=
    .faceLagrange (create_rationalFace 2)
  rcases dof_counts_agree hbuilds with ⟨hcounts, hfaces⟩
  have hpartition := hfaces (rationalFace 2) rfl
  exact ⟨hbuilds, hcounts, hpartition, rfl, hpartition.block 4 (by decide)⟩

end Element

end FacetElements
