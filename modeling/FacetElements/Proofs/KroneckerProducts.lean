import FacetElements.Proofs.ExactConstraints
import FacetElements.Proofs.LobattoNodes
import FacetElements.Proofs.RationalElements

/-!
# Products of constraint matrices

The face of a cube is the product of two faces of a square.  Multi-indices, grid
points, tensor products and children in two variables are put together from those in
one, so a constraint matrix in dimension three is the Kronecker product of two in
dimension two.  Its row sums are products of row sums, so no row is refused that the
square accepts.  The nodes need not be distinct.
-/

namespace FacetElements

variable {K F : Type}

/-! ## Variables side by side -/

theorem childPoint_append
    [Zero K] [One K] [OfNat K 2] [Add K] [Div K] (child : ℕ) (xs ys : List K) :
    childPoint child (xs ++ ys) =
      childPoint (child % 2 ^ xs.length) xs ++ childPoint (child / 2 ^ xs.length) ys := by
  have hfirst : ∀ k < xs.length, (child % 2 ^ xs.length).testBit k = child.testBit k := by
    intro k hk
    rw [Nat.testBit_mod_two_pow, decide_eq_true hk, Bool.true_and]
  have hsecond : ∀ k, (child / 2 ^ xs.length).testBit k = child.testBit (k + xs.length) := by
    intro k
    rw [Nat.testBit_div_two_pow]
  unfold childPoint
  rw [List.mapIdx_append]
  congr 1
  · apply List.ext_getElem
    · simp
    · intro k hk hk'
      have hlt : k < xs.length := by
        simpa using hk
      simp only [List.getElem_mapIdx, bitScalar, hfirst k hlt]
  · simp only [bitScalar, hsecond]

theorem TensorSpace.basisValue_append
    [Field K] (space : TensorSpace K) {ix : MultiIndex space.basis.size} {xs : List K}
    (hlength : ix.length = xs.length) (jx : MultiIndex space.basis.size) (ys : List K) :
    space.basisValue (ix ++ jx) (xs ++ ys) =
      space.basisValue ix xs * space.basisValue jx ys := by
  simp only [basisValue, prodLeft_eq_prod]
  rw [List.zipWith_append hlength, List.prod_append]

/-- A sum of products with one factor for each of two digits is a product of sums. -/
theorem sum_map_range_mul
    [Field K] {f g h : ℕ → K} {size : ℕ}
    (hproduct : ∀ i < size, ∀ j, f (i + size * j) = g i * h j) (count : ℕ) :
    ((List.range (size * count)).map f).sum =
      ((List.range size).map g).sum * ((List.range count).map h).sum := by
  induction count with
  | zero =>
      simp
  | succ count ih =>
      -- All numbers of the last block have the second digit `count`.
      have hblock : ∀ i ∈ List.range size, f (size * count + i) = g i * h count := by
        intro i hi
        rw [Nat.add_comm]
        exact hproduct i (List.mem_range.mp hi) count
      rw [Nat.mul_succ, List.range_add, List.map_append, List.sum_append, ih, List.map_map,
        Function.comp_def, List.map_congr_left hblock, List.sum_map_mul_right,
        List.range_succ, List.map_append, List.sum_append, mul_add]
      simp

/-! ## From the square to the cube -/

namespace FaceElement

theorem dim_cube_le_three : 3 ≤ 3 := le_rfl

/-- A machine word counts the dofs of a cube with these nodes. -/
def CubeFits (e : FaceElement K) : Prop :=
  dofCount 3 e.degree < wordBound

/-- The element on a cube with the nodes of one on a square. -/
def extrude (e : FaceElement K) (hfits : e.CubeFits) : FaceElement K where
  dim := 3
  degree := e.degree
  nodes := e.nodes
  two_le_dim := e.two_le_dim.trans e.dim_le_three
  dim_le_three := dim_cube_le_three
  length_nodes := e.length_nodes
  dofs_fit := hfits

theorem exists_eq_extrude_of_create
    [Zero K] [One K] [OfNat K 2] [NatCast K] [Add K] [Sub K] [Mul K] [Div K] [Neg K]
    [OfScientific K] [LT K] [DecidableLT K] [Cosine K] {degree : ℕ} {square cube : FaceElement K}
    (hsquare : create 2 degree = .ok square) (hcube : create 3 degree = .ok cube) :
    ∃ hfits, cube = square.extrude hfits := by
  rcases create_eq_ok_iff.mp hsquare with ⟨-, hdegree, hnodes⟩
  rcases create_eq_ok_iff.mp hcube with ⟨hdim', hdegree', hnodes'⟩
  have hfits : square.CubeFits := by
    rw [CubeFits, hdegree, ← hdegree', ← hdim']
    exact cube.dofs_fit
  refine ⟨hfits, ?_⟩
  have hextruded : create 3 degree = .ok (square.extrude hfits) :=
    create_eq_ok_iff.mpr ⟨rfl, hdegree, hnodes⟩
  rw [hcube] at hextruded
  exact Except.ok.inj hextruded

variable {e : FaceElement K} {hfits : e.CubeFits} {i j : ℕ}

theorem dofsPerFace_of_dim_eq_two (hdim : e.dim = 2) : e.dofsPerFace = e.degree + 1 := by
  rw [dofsPerFace, hdim]
  exact Nat.pow_one _

theorem dofsPerFace_extrude (e : FaceElement K) (hfits : e.CubeFits) :
    (e.extrude hfits).dofsPerFace = (e.degree + 1) * (e.degree + 1) :=
  Nat.pow_two (e.degree + 1)

theorem faceIndex_extrude (hdim : e.dim = 2) (hi : i < e.degree + 1) (j : ℕ) :
    (e.extrude hfits).faceIndex (i + (e.degree + 1) * j) = e.faceIndex i ++ e.faceIndex j := by
  have hspace : e.space.dim = 1 := by
    rw [dim_space, hdim]
  have hsize : e.degree + 1 = e.space.basis.size ^ 1 := by
    rw [size_basis_space, Nat.pow_one]
  rw [hsize] at hi ⊢
  unfold faceIndex
  rw [hspace]
  exact MultiIndex.digits_append e.basis_size_pos 1 1 hi j

theorem faceNode_extrude (hdim : e.dim = 2) (hi : i < e.degree + 1) (j : ℕ) :
    (e.extrude hfits).faceNode (i + (e.degree + 1) * j) = e.faceNode i ++ e.faceNode j := by
  rw [faceNode, faceIndex_extrude hdim hi]
  exact List.map_append

/-- Points of the cube's face, row after row, put together from those of two faces of
the square. -/
structure PointsJoin (rows : ℕ) (first second point : ℕ → List K) : Prop where
  length_first : ∀ i, (first i).length = 1
  join : ∀ i < rows, ∀ j, point (i + rows * j) = first i ++ second j

theorem pointsJoin_faceNode (hfits : e.CubeFits) (hdim : e.dim = 2) :
    PointsJoin (e.degree + 1) e.faceNode e.faceNode (e.extrude hfits).faceNode where
  length_first := by
    intro i
    rw [length_faceNode, hdim]
  join := fun _ hi j => faceNode_extrude hdim hi j

theorem PointsJoin.onChild
    [Zero K] [One K] [OfNat K 2] [Add K] [Div K] {rows : ℕ} {first second point : ℕ → List K}
    (h : PointsJoin rows first second point) (child : ℕ) :
    PointsJoin rows (fun i => childPoint (child % 2) (first i))
      (fun j => childPoint (child / 2) (second j)) (fun i => childPoint child (point i)) where
  length_first := by
    intro i
    rw [length_childPoint, h.length_first]
  join := by
    intro i hi j
    rw [h.join i hi, childPoint_append, h.length_first, Nat.pow_one]

section Field

variable [Field K] {xs : List K}

theorem faceFunction_extrude
    (hdim : e.dim = 2) (hi : i < e.degree + 1) (j : ℕ) (hxs : xs.length = 1) (ys : List K) :
    (e.extrude hfits).faceFunction (i + (e.degree + 1) * j) (xs ++ ys) =
      e.faceFunction i xs * e.faceFunction j ys := by
  have hlength : (e.faceIndex i).length = xs.length := by
    rw [length_faceIndex, hdim, hxs]
  rw [faceFunction, faceIndex_extrude hdim hi]
  exact e.space.basisValue_append hlength (e.faceIndex j) ys

theorem sum_faceFunction_extrude (hdim : e.dim = 2) (hxs : xs.length = 1) (ys : List K) :
    ((List.range (e.extrude hfits).dofsPerFace).map fun dof =>
        (e.extrude hfits).faceFunction dof (xs ++ ys)).sum =
      ((List.range e.dofsPerFace).map fun dof => e.faceFunction dof xs).sum *
        ((List.range e.dofsPerFace).map fun dof => e.faceFunction dof ys).sum := by
  rw [dofsPerFace_extrude, dofsPerFace_of_dim_eq_two hdim]
  exact sum_map_range_mul (fun i hi j => faceFunction_extrude hdim hi j hxs ys) (e.degree + 1)

end Field

end FaceElement

/-! ## Tables -/

/-- Two tables of one shape and the table of the products of their entries, in which the
numbers of rows and columns of the first vary fastest. -/
structure Table.IsKronecker
    [Mul K] (rows cols : ℕ) (first second product : Table K) : Prop where
  first_shape : first.rows = rows ∧ first.cols = cols
  second_shape : second.rows = rows ∧ second.cols = cols
  product_shape : product.rows = rows * rows ∧ product.cols = cols * cols
  read : ∀ i₁ < rows, ∀ i₂ < rows, ∀ j₁ < cols, ∀ j₂ < cols, ∃ x y,
    first.read i₁ j₁ = .ok x ∧ second.read i₂ j₂ = .ok y ∧
      product.read (i₁ + rows * i₂) (j₁ + cols * j₂) = .ok (x * y)

theorem add_mul_lt_mul_self {n i j : ℕ} (hi : i < n) (hj : j < n) : i + n * j < n * n :=
  calc i + n * j
    _ < n + n * j := Nat.add_lt_add_right hi _
    _ = n * (j + 1) := by rw [Nat.mul_succ, Nat.add_comm]
    _ ≤ n * n := Nat.mul_le_mul_left n hj

namespace Constraint

open FaceElement

variable [Field K] [LinearOrder K] [IsStrictOrderedRing K]
variable {target source : FaceElement K} {rows : ℕ} {point first second : ℕ → List K}
variable {targetFits : target.CubeFits} {sourceFits : source.CubeFits}

theorem rowPasses_extrude
    (hdim : target.dim = 2) {xs ys : List K} (hxs : xs.length = 1)
    (hfirst : RowPasses ⟨0⟩ target xs) (hsecond : RowPasses ⟨0⟩ target ys) :
    RowPasses ⟨0⟩ (target.extrude targetFits) (xs ++ ys) := by
  rw [rowPasses_zero_iff] at hfirst hsecond ⊢
  rw [sum_faceFunction_extrude hdim hxs, hfirst, hsecond, one_mul]

theorem rowsPass_extrude
    (hdim : target.dim = 2) (h : PointsJoin rows first second point)
    (hfirst : ∀ i < rows, RowPasses ⟨0⟩ target (first i))
    (hsecond : ∀ i < rows, RowPasses ⟨0⟩ target (second i)) :
    ∀ i < rows * rows, RowPasses ⟨0⟩ (target.extrude targetFits) (point i) := by
  intro i hi
  have hpos : 0 < rows := Nat.pos_of_mul_pos_left (Nat.zero_lt_of_lt hi)
  have hmod : i % rows < rows := Nat.mod_lt i hpos
  have hdiv : i / rows < rows := Nat.div_lt_of_lt_mul hi
  rw [← Nat.mod_add_div i rows, h.join _ hmod]
  exact rowPasses_extrude hdim (h.length_first _) (hfirst _ hmod) (hsecond _ hdiv)

theorem isKronecker_roundedTable
    (hdim : target.dim = 2) (h : PointsJoin rows first second point) :
    Table.IsKronecker rows (target.degree + 1) (roundedTable ⟨0⟩ target rows first)
      (roundedTable ⟨0⟩ target rows second)
      (roundedTable ⟨0⟩ (target.extrude targetFits) (rows * rows) point) := by
  rw [roundedTable_zero, roundedTable_zero, roundedTable_zero, dofsPerFace_extrude,
    dofsPerFace_of_dim_eq_two hdim]
  refine ⟨⟨rfl, rfl⟩, ⟨rfl, rfl⟩, ⟨rfl, rfl⟩, ?_⟩
  intro i₁ hi₁ i₂ hi₂ j₁ hj₁ j₂ hj₂
  refine ⟨_, _, Table.read_generate _ hi₁ hj₁, Table.read_generate _ hi₂ hj₂, ?_⟩
  rw [Table.read_generate _ (add_mul_lt_mul_self hi₁ hi₂) (add_mul_lt_mul_self hj₁ hj₂),
    h.join i₁ hi₁, faceFunction_extrude hdim hj₁ j₂ (h.length_first i₁)]

variable [ScalarText K] [ElementFamily F]

theorem faceMatrix_extrude
    (hdim : target.dim = 2) {matrix : Table K}
    (hmatrix : faceMatrix ⟨0⟩ target (.face source : Element K F) = .ok matrix) :
    ∃ product,
      faceMatrix ⟨0⟩ (target.extrude targetFits) (.face (source.extrude sourceFits) : Element K F) = .ok product ∧
      Table.IsKronecker (source.degree + 1) (target.degree + 1) matrix matrix product := by
  obtain ⟨hpair, hrows, rfl⟩ := faceMatrix_eq_ok_iff.mp hmatrix
  obtain ⟨hsame, hdegree⟩ := checkPair_eq_ok_iff.mp hpair
  have hsource : source.dim = 2 := hsame.trans hdim
  have hpoints := pointsJoin_faceNode sourceFits hsource
  rw [dofsPerFace_of_dim_eq_two hsource] at hrows ⊢
  refine ⟨_, faceMatrix_eq_ok_iff.mpr ⟨checkPair_eq_ok rfl hdegree, ?_, rfl⟩, ?_⟩
  · rw [dofsPerFace_extrude]
    exact rowsPass_extrude hdim hpoints hrows hrows
  · rw [dofsPerFace_extrude]
    exact isKronecker_roundedTable hdim hpoints

theorem subfaceMatrix_extrude
    (hdim : target.dim = 2) {child : ℕ} (hchild : child < 4) {lower upper : Table K}
    (hlower : subfaceMatrix ⟨0⟩ target (.face source : Element K F) (child % 2) = .ok lower)
    (hupper : subfaceMatrix ⟨0⟩ target (.face source : Element K F) (child / 2) = .ok upper) :
    ∃ product,
      subfaceMatrix ⟨0⟩ (target.extrude targetFits) (.face (source.extrude sourceFits) : Element K F) child =
        .ok product ∧
      Table.IsKronecker (source.degree + 1) (target.degree + 1) lower upper product := by
  obtain ⟨-, hpair, hfirst, rfl⟩ := subfaceMatrix_eq_ok_iff.mp hlower
  obtain ⟨-, -, hsecond, rfl⟩ := subfaceMatrix_eq_ok_iff.mp hupper
  obtain ⟨hsame, hdegree⟩ := checkPair_eq_ok_iff.mp hpair
  have hsource : source.dim = 2 := hsame.trans hdim
  have hpoints := (pointsJoin_faceNode sourceFits hsource).onChild child
  rw [dofsPerFace_of_dim_eq_two hsource] at hfirst hsecond ⊢
  refine ⟨_, subfaceMatrix_eq_ok_iff.mpr ⟨hchild, checkPair_eq_ok rfl hdegree, ?_, rfl⟩, ?_⟩
  · rw [dofsPerFace_extrude]
    exact rowsPass_extrude hdim hpoints hfirst hsecond
  · rw [dofsPerFace_extrude]
    exact isKronecker_roundedTable hdim hpoints

/-- Whenever the matrices between two elements on a square are returned, so is the
matrix between the elements of the same degrees on a cube, and it is their Kronecker
product.  On a child the lowest bit of its number belongs to the first matrix. -/
theorem constraint_matrices_kronecker
    [Cosine K] {p q : ℕ} {target source cubeTarget cubeSource : FaceElement K}
    (htarget : FaceElement.create 2 p = .ok target)
    (hsource : FaceElement.create 2 q = .ok source)
    (hcubeTarget : FaceElement.create 3 p = .ok cubeTarget)
    (hcubeSource : FaceElement.create 3 q = .ok cubeSource) :
    (∀ matrix, faceMatrix ⟨0⟩ target (.face source : Element K F) = .ok matrix →
      ∃ product,
        faceMatrix ⟨0⟩ cubeTarget (.face cubeSource : Element K F) = .ok product ∧
        Table.IsKronecker (q + 1) (p + 1) matrix matrix product) ∧
    ∀ child < 4, ∀ lower upper,
      subfaceMatrix ⟨0⟩ target (.face source : Element K F) (child % 2) = .ok lower →
      subfaceMatrix ⟨0⟩ target (.face source : Element K F) (child / 2) = .ok upper →
      ∃ product,
        subfaceMatrix ⟨0⟩ cubeTarget (.face cubeSource : Element K F) child =
          .ok product ∧
        Table.IsKronecker (q + 1) (p + 1) lower upper product := by
  obtain ⟨hdim, hp, -⟩ := create_eq_ok_iff.mp htarget
  obtain ⟨-, hq, -⟩ := create_eq_ok_iff.mp hsource
  rcases exists_eq_extrude_of_create htarget hcubeTarget with ⟨targetFits, rfl⟩
  rcases exists_eq_extrude_of_create hsource hcubeSource with ⟨sourceFits, rfl⟩
  rw [← hp, ← hq]
  refine ⟨?_, ?_⟩
  · intro matrix hmatrix
    exact faceMatrix_extrude hdim hmatrix
  · intro child hchild lower upper hlower hupper
    exact subfaceMatrix_extrude hdim hchild hlower hupper

/-- The child 2 of the face of a cube is the product of the children 0 and 1. -/
theorem constraint_matrices_kronecker_linear_quadratic :
    ∃ target source : FaceElement ℚ,
      FaceElement.create 2 1 = .ok target ∧ FaceElement.create 2 2 = .ok source ∧
      FaceElement.create 3 1 = .ok (rationalFace 1) ∧
      FaceElement.create 3 2 = .ok (rationalFace 2) ∧
      (∃ matrix product : Table ℚ,
        faceMatrix ⟨0⟩ target (.face source : Element ℚ Empty) = .ok matrix ∧
        faceMatrix ⟨0⟩ (rationalFace 1) (.face (rationalFace 2) : Element ℚ Empty) =
          .ok product ∧
        Table.IsKronecker 3 2 matrix matrix product) ∧
      ∃ lower upper product : Table ℚ,
        subfaceMatrix ⟨0⟩ target (.face source : Element ℚ Empty) 0 = .ok lower ∧
        subfaceMatrix ⟨0⟩ target (.face source : Element ℚ Empty) 1 = .ok upper ∧
        subfaceMatrix ⟨0⟩ (rationalFace 1) (.face (rationalFace 2) : Element ℚ Empty) 2 =
          .ok product ∧
        Table.IsKronecker 3 2 lower upper product := by
  have hcreate : ∀ degree, FaceElement.dofCount 2 degree < wordBound →
      ∃ e : FaceElement ℚ, FaceElement.create 2 degree = .ok e := by
    intro degree hfits
    exact ⟨_, FaceElement.create_of_fits ⟨le_rfl, by omega⟩ hfits⟩
  obtain ⟨target, htarget⟩ := hcreate 1 (by decide)
  obtain ⟨source, hsource⟩ := hcreate 2 (by decide)
  obtain ⟨hdim, hp, hnodes⟩ := create_eq_ok_iff.mp htarget
  obtain ⟨hdim', hq, -⟩ := create_eq_ok_iff.mp hsource
  have hsame : source.dim = target.dim := hdim'.trans hdim.symm
  have hdegree : target.degree ≤ source.degree := by
    omega
  have hnodup : target.nodes.Nodup := by
    rw [hnodes]
    exact nodup_nodes_rationalFace 1
  have hchildren : 2 ^ (target.dim - 1) = 2 := by
    rw [hdim]
    rfl
  have hmatrix := faceMatrix_exact (F := Empty) hsame hdegree hnodup
  have hlower := subfaceMatrix_exact (F := Empty) hsame hdegree hnodup
    (by omega : 0 < 2 ^ (target.dim - 1))
  have hupper := subfaceMatrix_exact (F := Empty) hsame hdegree hnodup
    (by omega : 1 < 2 ^ (target.dim - 1))
  obtain ⟨hface, hsubface⟩ := constraint_matrices_kronecker (F := Empty) htarget hsource
    (create_rationalFace 1) (create_rationalFace 2)
  obtain ⟨whole, hwhole, hproduct⟩ := hface _ hmatrix
  obtain ⟨child, hchild, hproduct'⟩ := hsubface 2 (by omega) _ _ hlower hupper
  exact ⟨target, source, htarget, hsource, create_rationalFace 1, create_rationalFace 2,
    ⟨_, whole, hmatrix, hwhole, hproduct⟩, _, _, child, hlower, hupper, hchild, hproduct'⟩

end Constraint
end FacetElements
