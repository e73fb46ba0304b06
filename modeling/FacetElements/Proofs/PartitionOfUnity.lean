import FacetElements.Proofs.BasisDerivatives
import FacetElements.Proofs.FaceInterpolation
import FacetElements.Proofs.FaceTabulation

/-!
# Partition of unity on a face

On every face the shape functions of a cell add up to one, at every point and
not only at the support points, and their gradients add up to zero.  A sum over
all multi-indices of a product is a product of sums in one variable each.  For
a partial derivative one of these sums vanishes.  The dofs of the other faces
contribute nothing.
-/

namespace FacetElements

variable {K : Type} [Field K]

/-! ## Sums of products -/

namespace MultiIndex

theorem sum_map_all_prod {N : ℕ} (gs : List (Fin N → K)) :
    ((all N gs.length).map fun ix => (List.zipWith (fun g k => g k) gs ix).prod).sum =
      (gs.map fun g => ∑ k, g k).prod := by
  induction gs with
  | nil =>
      simp [all]
  | cons g gs ih =>
      rw [List.length_cons, sum_map_all_succ, List.map_cons, List.prod_cons, ← ih,
        ← List.sum_map_mul_left]
      simp only [List.zipWith_cons_cons, List.prod_cons, Finset.sum_mul]

end MultiIndex

namespace TensorSpace

open MultiIndex

/-- The factor of a partial derivative along `axis` that belongs to variable
`d`, as a function of the number of its node. -/
def partialFactor
    (space : TensorSpace K) (axis d : ℕ) (x : K) (k : Fin space.basis.size) : K :=
  if d = axis then space.basis.basisDerivative k x else space.basis.basisValue k x

theorem mapIdx_zip_eq_zipWith_mapIdx
    {α β γ : Type} (f : ℕ → β → α → γ) (ix : List α) (xs : List β) :
    (ix.zip xs).mapIdx (fun d factor => f d factor.2 factor.1) =
      List.zipWith (fun g k => g k) (xs.mapIdx f) ix := by
  induction ix generalizing f xs with
  | nil =>
      simp
  | cons k ix ih =>
      cases xs with
      | nil =>
          simp
      | cons x xs =>
          simp [ih fun d => f (d + 1)]

theorem basisPartial_eq
    (space : TensorSpace K) (ix : MultiIndex space.basis.size) (point : List K) (axis : ℕ) :
    space.basisPartial ix point axis =
      (List.zipWith (fun g k => g k) (point.mapIdx (space.partialFactor axis)) ix).prod := by
  rw [← mapIdx_zip_eq_zipWith_mapIdx, ← prodLeft_eq_prod]
  rfl

theorem sum_partialFactor_self
    (space : TensorSpace K) (hnodes : space.basis.nodes.Nodup) (hsize : 0 < space.basis.size)
    (axis : ℕ) (x : K) : ∑ k, space.partialFactor axis axis x k = 0 := by
  simpa [partialFactor] using LagrangeBasis.sum_basisDerivative hnodes hsize x

theorem sum_basisPartial
    (space : TensorSpace K) (hnodes : space.basis.nodes.Nodup) (hsize : 0 < space.basis.size)
    {point : List K} {axis : ℕ} (haxis : axis < point.length) :
    ((all space.basis.size point.length).map fun ix => space.basisPartial ix point axis).sum =
      0 := by
  have hprod := sum_map_all_prod (point.mapIdx (space.partialFactor axis))
  rw [List.length_mapIdx] at hprod
  simp only [basisPartial_eq, hprod]
  -- The sum of the derivatives in the variable of the axis is one of the factors.
  apply List.prod_eq_zero
  rw [← space.sum_partialFactor_self hnodes hsize axis point[axis]]
  exact List.mem_map.mpr ⟨_, List.mem_mapIdx.mpr ⟨axis, haxis, rfl⟩, rfl⟩

end TensorSpace

/-! ## Sums over blocks -/

theorem sum_map_range_block (h : ℕ → K) {size : ℕ} (hsize : 0 < size) (face blocks : ℕ) :
    ((List.range (blocks * size)).map fun s => if face = s / size then h (s % size) else 0).sum =
      if face < blocks then ((List.range size).map h).sum else 0 := by
  induction blocks with
  | zero =>
      simp
  | succ blocks ih =>
      have hblock : ∀ r ∈ List.range size,
          (if face = (blocks * size + r) / size then h ((blocks * size + r) % size) else 0) =
            if face = blocks then h r else 0 := by
        intro r hr
        have hlt := List.mem_range.mp hr
        rw [Nat.mul_comm, Nat.mul_add_div hsize, Nat.mul_add_mod, Nat.div_eq_of_lt hlt,
          Nat.mod_eq_of_lt hlt, Nat.add_zero]
      rw [Nat.succ_mul, List.range_add, List.map_append, List.sum_append, ih, List.map_map,
        Function.comp_def, List.map_congr_left hblock]
      obtain hlt | heq | hgt := Nat.lt_trichotomy face blocks
      · simp [hlt, hlt.ne, hlt.trans (Nat.lt_succ_self blocks)]
      · simp [heq]
      · simp [hgt.not_gt, hgt.ne', Nat.not_lt.mpr hgt]

/-- The sum of vectors of equal length, entry by entry. -/
def sumPoints (dim : ℕ) (points : List (List K)) : List K :=
  points.foldl (List.zipWith (· + ·)) (List.replicate dim 0)

theorem sumPoints_map {α : Type} (dim : ℕ) (f : α → ℕ → K) (xs : List α) :
    sumPoints dim (xs.map fun x => (List.range dim).map (f x)) =
      (List.range dim).map fun axis => (xs.map fun x => f x axis).sum := by
  induction xs using List.reverseRecOn with
  | nil =>
      simp [sumPoints, List.map_const']
  | append_singleton xs x ih =>
      rw [sumPoints] at ih
      rw [sumPoints, List.map_append, List.foldl_append, ih]
      simp [List.zipWith_map, List.zipWith_self]

/-! ## Faces -/

namespace FaceElement

variable {face : ℕ} {point : List K}

theorem sum_facePartial
    (e : FaceElement K) (hnodes : e.nodes.Nodup) (hpoint : point.length = e.dim - 1)
    {axis : ℕ} (haxis : axis < e.dim - 1) :
    ((List.range e.dofsPerFace).map fun dof => e.facePartial dof point axis).sum = 0 := by
  rw [← hpoint] at haxis
  have hsum := e.space.sum_basisPartial hnodes e.basis_size_pos haxis
  have hall : MultiIndex.all e.space.basis.size point.length =
      (List.range e.dofsPerFace).map e.faceIndex := by
    rw [hpoint]
    exact e.allIndices_space
  rw [hall, List.map_map] at hsum
  exact hsum

theorem sum_shapeFunction
    (e : FaceElement K) (hnodes : e.nodes.Nodup) (hface : face < 2 * e.dim)
    (hpoint : point.length = e.dim - 1) :
    ((List.range e.dofsPerCell).map fun shape => e.shapeFunction face shape point).sum = 1 := by
  have hblock := sum_map_range_block (fun dof => e.faceFunction dof point)
    e.dofsPerFace_pos face (2 * e.dim)
  rw [if_pos hface, e.sum_faceFunction hnodes hpoint, ← dofsPerCell_eq] at hblock
  exact hblock

theorem sum_shapePartial
    (e : FaceElement K) (hnodes : e.nodes.Nodup) (hface : face < 2 * e.dim)
    (hpoint : point.length = e.dim - 1) {axis : ℕ} (haxis : axis < e.dim - 1) :
    ((List.range e.dofsPerCell).map fun shape => e.shapePartial face shape point axis).sum =
      0 := by
  have hblock := sum_map_range_block (fun dof => e.facePartial dof point axis)
    e.dofsPerFace_pos face (2 * e.dim)
  rw [if_pos hface, e.sum_facePartial hnodes hpoint haxis, ← dofsPerCell_eq] at hblock
  exact hblock

/-- On a face the shape functions of the cell add up to one and their gradients
to zero at every point, and every row of a table of them adds up to one. -/
theorem faceShapes_partition_of_unity
    (e : FaceElement K) (hnodes : e.nodes.Nodup) {face : ℕ} (hface : face < 2 * e.dim)
    {point : List K} (hpoint : point.length = e.dim - 1)
    {points : Table K} (hcols : points.cols = e.dim - 1) :
    (∃ values,
      (List.range e.dofsPerCell).mapM (e.faceShapeValue · face point) = .ok values ∧
      values.sum = 1) ∧
    (∃ gradients,
      (List.range e.dofsPerCell).mapM (e.faceShapeGradient · face point) = .ok gradients ∧
      sumPoints (e.dim - 1) gradients = List.replicate (e.dim - 1) 0) ∧
    ∃ table, e.tabulateFace face points = .ok table ∧ table.cols = e.dofsPerCell ∧
      table.rowSums = List.replicate points.rows 1 := by
  have hvalues := mapM_eq_ok fun shape hshape =>
    e.faceShapeValue_eq_shapeFunction (List.mem_range.mp hshape) hface hpoint
  have hgradients := mapM_eq_ok fun shape hshape =>
    e.faceShapeGradient_eq (List.mem_range.mp hshape) hface hpoint
  have hzero : ∀ axis ∈ List.range (e.dim - 1),
      ((List.range e.dofsPerCell).map fun shape =>
        e.shapePartial face shape point axis).sum = 0 := by
    intro axis haxis
    exact e.sum_shapePartial hnodes hface hpoint (List.mem_range.mp haxis)
  have hone : ∀ p ∈ List.range points.rows,
      sumLeft ((List.range e.dofsPerCell).map fun shape =>
        e.shapeFunction face shape (points.row p)) = 1 := by
    intro p hp
    have hrow : (points.row p).length = e.dim - 1 := by
      rw [Table.length_row points (List.mem_range.mp hp), hcols]
    rw [sumLeft_eq_sum, e.sum_shapeFunction hnodes hface hrow]
  refine ⟨⟨_, hvalues, e.sum_shapeFunction hnodes hface hpoint⟩, ⟨_, hgradients, ?_⟩,
    ⟨_, e.tabulateFace_eq hface hcols, rfl, ?_⟩⟩
  · rw [sumPoints_map, List.map_congr_left hzero]
    simp [List.map_const']
  · rw [Table.rowSums, Table.rowList_generate, List.map_map, Function.comp_def,
      List.map_congr_left hone]
    simp [List.map_const']

theorem faceShapes_partition_of_unity_quadratic :
    FaceElement.create 3 2 = .ok (rationalFace 2) ∧
    (rationalFace 2).nodes.Nodup ∧ 5 < 2 * (rationalFace 2).dim ∧
    (∃ values,
      (List.range (rationalFace 2).dofsPerCell).mapM
        ((rationalFace 2).faceShapeValue · 5 [1 / 3, 7]) = .ok values ∧
      values.sum = 1) ∧
    (∃ gradients,
      (List.range (rationalFace 2).dofsPerCell).mapM
        ((rationalFace 2).faceShapeGradient · 5 [1 / 3, 7]) = .ok gradients ∧
      sumPoints ((rationalFace 2).dim - 1) gradients =
        List.replicate ((rationalFace 2).dim - 1) 0) ∧
    ∃ table, (rationalFace 2).tabulateFace 5 (rationalFace 1).faceSupportPoints = .ok table ∧
      table.cols = (rationalFace 2).dofsPerCell ∧
      table.rowSums = List.replicate (rationalFace 1).faceSupportPoints.rows 1 := by
  have hnodes := nodup_nodes_rationalFace 2
  have hface : 5 < 2 * (rationalFace 2).dim := by
    decide
  exact ⟨create_rationalFace 2, hnodes, hface,
    faceShapes_partition_of_unity (rationalFace 2) hnodes hface rfl rfl⟩

end FaceElement
end FacetElements
