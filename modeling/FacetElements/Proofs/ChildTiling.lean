import FacetElements.Proofs.Reflection

/-!
# Children tile their cell

A child halves every coordinate and moves it to one half of the interval, as its bit
for that axis says.  The two halves cover the interval and meet in its middle.  Taken
along all axes this covers the cell by its children, each of them the whole cell in
its own coordinates, and away from the middle of the axes they do not overlap.
-/

namespace FacetElements

open MultiIndex

variable {K : Type} [Field K] [LinearOrder K] [IsStrictOrderedRing K]

/-! ## One axis -/

section Axis

variable {bit : Fin 2} {x : K}

theorem halfCoordinate_mem_Icc (hx : x ∈ Set.Icc 0 1) : halfCoordinate bit x ∈ Set.Icc 0 1 := by
  rcases hx with ⟨hlower, hupper⟩
  fin_cases bit
  · constructor <;> simp [halfCoordinate] <;> linarith
  · constructor <;> simp [halfCoordinate] <;> linarith

theorem halfCoordinate_injective (bit : Fin 2) :
    Function.Injective (halfCoordinate bit : K → K) := by
  intro x y hxy
  unfold halfCoordinate at hxy
  linarith

theorem exists_halfCoordinate_eq (hx : x ∈ Set.Icc 0 1) :
    ∃ bit, ∃ y ∈ Set.Icc 0 1, halfCoordinate bit y = x := by
  rcases hx with ⟨hlower, hupper⟩
  by_cases hhalf : x ≤ 1 / 2
  · refine ⟨0, 2 * x, ⟨by linarith, by linarith⟩, ?_⟩
    simp [halfCoordinate]
  · refine ⟨1, 2 * x - 1, ⟨by linarith, by linarith⟩, ?_⟩
    simp [halfCoordinate]

/-- The bit tells the half, except in the middle, where the halves meet. -/
theorem bit_eq_one_iff
    (hx : x ∈ Set.Icc 0 1) (hmiddle : halfCoordinate bit x ≠ 1 / 2) :
    bit = 1 ↔ 1 / 2 < halfCoordinate bit x := by
  rcases hx with ⟨hlower, hupper⟩
  fin_cases bit
  · simp [halfCoordinate]
    linarith
  · have hhalf : 1 / 2 ≤ halfCoordinate 1 x := by
      simp [halfCoordinate]
      linarith
    simpa using lt_of_le_of_ne hhalf hmiddle.symm

end Axis

/-! ## All axes -/

variable {child child' : ℕ} {point point' : List K}

theorem childPoint_mem_Icc (child : ℕ) (hpoint : ∀ x ∈ point, x ∈ Set.Icc 0 1) :
    ∀ x ∈ childPoint child point, x ∈ Set.Icc 0 1 := by
  induction point generalizing child with
  | nil =>
      simp [childPoint]
  | cons x xs ih =>
      rw [List.forall_mem_cons] at hpoint
      rw [childPoint_cons, List.forall_mem_cons]
      exact ⟨halfCoordinate_mem_Icc hpoint.1, ih (child / 2) hpoint.2⟩

theorem childPoint_injective (child : ℕ) :
    Function.Injective (childPoint child : List K → List K) := by
  intro point point' heq
  have hlength : point.length = point'.length := by
    simpa using congrArg List.length heq
  induction point generalizing child point' with
  | nil =>
      exact (List.length_eq_zero_iff.mp hlength.symm).symm
  | cons x xs ih =>
      cases point' with
      | nil =>
          simp at hlength
      | cons y ys =>
          rw [childPoint_cons, childPoint_cons, List.cons.injEq] at heq
          rw [halfCoordinate_injective _ heq.1, ih _ heq.2 (Nat.succ.inj hlength)]

theorem exists_childPoint_eq (hpoint : ∀ x ∈ point, x ∈ Set.Icc 0 1) :
    ∃ child < 2 ^ point.length, ∃ preimage : List K,
      (∀ x ∈ preimage, x ∈ Set.Icc 0 1) ∧ childPoint child preimage = point := by
  induction point with
  | nil =>
      exact ⟨0, Nat.one_pos, [], by simp, rfl⟩
  | cons x xs ih =>
      rw [List.forall_mem_cons] at hpoint
      rcases exists_halfCoordinate_eq hpoint.1 with ⟨bit, y, hy, hx⟩
      rcases ih hpoint.2 with ⟨rest, hrest, ys, hys, hxs⟩
      -- The bit of the first axis is the lowest of the child.
      have hbit : Fin.ofNat 2 (bit + 2 * rest) = bit := by
        ext
        simp [Fin.ofNat, Nat.mod_eq_of_lt bit.isLt]
      have hhalf : (bit + 2 * rest) / 2 = rest := by
        omega
      refine ⟨bit + 2 * rest, ?_, y :: ys, List.forall_mem_cons.mpr ⟨hy, hys⟩, ?_⟩
      · rw [List.length_cons, Nat.pow_succ]
        omega
      · rw [childPoint_cons, hbit, hhalf, hx, hxs]

theorem child_eq_of_childPoint_eq
    (hchild : child < 2 ^ point.length) (hchild' : child' < 2 ^ point.length)
    (hpoint : ∀ x ∈ point, x ∈ Set.Icc 0 1) (hpoint' : ∀ x ∈ point', x ∈ Set.Icc 0 1)
    (heq : childPoint child point = childPoint child' point')
    (hmiddle : ∀ x ∈ childPoint child point, x ≠ 1 / 2) : child = child' := by
  induction point generalizing child child' point' with
  | nil =>
      rw [List.length_nil, Nat.pow_zero] at hchild hchild'
      omega
  | cons x xs ih =>
      cases point' with
      | nil =>
          simp [childPoint] at heq
      | cons y ys =>
          rw [List.forall_mem_cons] at hpoint hpoint'
          rw [childPoint_cons, childPoint_cons, List.cons.injEq] at heq
          rw [childPoint_cons, List.forall_mem_cons] at hmiddle
          rw [List.length_cons, Nat.pow_succ] at hchild hchild'
          have hbit : Fin.ofNat 2 child = Fin.ofNat 2 child' := by
            have hone := bit_eq_one_iff hpoint.1 hmiddle.1
            have hone' := bit_eq_one_iff hpoint'.1 (heq.1 ▸ hmiddle.1)
            rw [← heq.1, ← hone] at hone'
            omega
          have hrest : child / 2 = child' / 2 :=
            ih (by omega) (by omega) hpoint.2 hpoint'.2 heq.2 hmiddle.2
          have hmod : child % 2 = child' % 2 := congrArg Fin.val hbit
          omega

theorem childPoint_map_bitScalar (child dim : ℕ) :
    childPoint child ((List.range dim).map (bitScalar child) : List K) =
      (List.range dim).map (bitScalar child) := by
  apply List.ext_getElem
  · simp
  · intro axis _ _
    simp [childPoint]

/-! ## The children of a cell -/

variable (K) in
/-- The points of a cell of the given dimension. -/
def unitCube (dim : ℕ) : Set (List K) :=
  {point | point.length = dim ∧ ∀ x ∈ point, x ∈ Set.Icc 0 1}

namespace Cell

theorem childCount_eq (cell : Cell) : cell.childCount = 2 ^ cell.dim := rfl

omit [LinearOrder K] [IsStrictOrderedRing K] in
theorem childToCell_eq_ok_iff (cell : Cell) {image : List K} :
    cell.childToCell child point = .ok image ↔
      (child < 2 ^ cell.dim ∧ point.length = cell.dim) ∧ childPoint child point = image := by
  rw [childToCell, childCount_eq]
  split_ifs with hchild hlength
  · simp [hchild]
  · simp [hlength]
  · simp [not_le.mp hchild, not_not.mp hlength]

variable (K) in
/-- Every point of the cell lies in a child, and in only one if none of its
coordinates is in the middle.  Children are asked for by number first, then by the
number of coordinates, and child `c` keeps vertex `c` where it is. -/
structure TiledByChildren (cell : Cell) : Prop where
  ok_iff : ∀ child (point : List K),
    (∃ image, cell.childToCell child point = .ok image) ↔
      child < 2 ^ cell.dim ∧ point.length = cell.dim
  child_first : ∀ child (point : List K), 2 ^ cell.dim ≤ child →
    cell.childToCell child point = .error (.indexOutOfRange .child child (2 ^ cell.dim))
  then_coordinates : ∀ child (point : List K), child < 2 ^ cell.dim →
    point.length ≠ cell.dim →
    cell.childToCell child point = .error (.dimensionMismatch cell.dim point.length)
  inside : ∀ child, ∀ point ∈ unitCube K cell.dim, ∀ image,
    cell.childToCell child point = .ok image → image ∈ unitCube K cell.dim
  injective : ∀ child (point point' image : List K),
    cell.childToCell child point = .ok image → cell.childToCell child point' = .ok image →
    point = point'
  covers : ∀ image ∈ unitCube K cell.dim, ∃ child < 2 ^ cell.dim,
    ∃ point ∈ unitCube K cell.dim, cell.childToCell child point = .ok image
  unique : ∀ image ∈ unitCube K cell.dim, (∀ x ∈ image, x ≠ 1 / 2) →
    ∃! child, ∃ point ∈ unitCube K cell.dim, cell.childToCell child point = .ok image
  vertex : ∀ child < 2 ^ cell.dim, ∃ vertex : List K,
    cell.vertices[child]? = some vertex ∧ cell.childToCell child vertex = .ok vertex

omit [LinearOrder K] [IsStrictOrderedRing K] in
theorem childToCell_eq_ok
    {cell : Cell} (hchild : child < 2 ^ cell.dim) (hpoint : point.length = cell.dim) :
    cell.childToCell child point = .ok (childPoint child point) :=
  cell.childToCell_eq_ok_iff.mpr ⟨⟨hchild, hpoint⟩, rfl⟩

theorem exists_childToCell_eq_ok (cell : Cell) (hpoint : point ∈ unitCube K cell.dim) :
    ∃ child < 2 ^ cell.dim, ∃ preimage ∈ unitCube K cell.dim,
      cell.childToCell child preimage = .ok point := by
  rcases hpoint with ⟨hlength, hcoordinates⟩
  rcases exists_childPoint_eq hcoordinates with ⟨child, hchild, preimage, hpreimage, rfl⟩
  rw [length_childPoint] at hlength
  rw [length_childPoint, hlength] at hchild
  exact ⟨child, hchild, preimage, ⟨hlength, hpreimage⟩, childToCell_eq_ok hchild hlength⟩

theorem child_eq_of_childToCell_eq_ok
    (cell : Cell) (hpoint : point ∈ unitCube K cell.dim) (hpoint' : point' ∈ unitCube K cell.dim)
    {image : List K} (himage : cell.childToCell child point = .ok image)
    (himage' : cell.childToCell child' point' = .ok image)
    (hmiddle : ∀ x ∈ image, x ≠ 1 / 2) : child = child' := by
  rcases cell.childToCell_eq_ok_iff.mp himage with ⟨⟨hchild, hlength⟩, rfl⟩
  rcases cell.childToCell_eq_ok_iff.mp himage' with ⟨⟨hchild', -⟩, heq⟩
  rw [← hlength] at hchild hchild'
  exact child_eq_of_childPoint_eq hchild hchild' hpoint.2 hpoint'.2 heq.symm hmiddle

theorem children_tile (cell : Cell) : cell.TiledByChildren K where
  ok_iff := by
    intro child point
    simp [childToCell_eq_ok_iff]
  child_first := by
    intro child point hchild
    rw [childToCell, childCount_eq, if_pos hchild]
  then_coordinates := by
    intro child point hchild hpoint
    rw [childToCell, childCount_eq, if_neg (not_le.mpr hchild), if_pos hpoint]
  inside := by
    intro child point hpoint image himage
    rcases cell.childToCell_eq_ok_iff.mp himage with ⟨⟨-, hlength⟩, rfl⟩
    exact ⟨by rw [length_childPoint, hlength], childPoint_mem_Icc child hpoint.2⟩
  injective := by
    intro child point point' image himage himage'
    rcases cell.childToCell_eq_ok_iff.mp himage with ⟨-, rfl⟩
    rcases cell.childToCell_eq_ok_iff.mp himage' with ⟨-, heq⟩
    exact childPoint_injective child heq.symm
  covers := fun _ himage => cell.exists_childToCell_eq_ok himage
  unique := by
    intro image himage hmiddle
    rcases cell.exists_childToCell_eq_ok himage with ⟨child, -, point, hpoint, heq⟩
    refine ⟨child, ⟨point, hpoint, heq⟩, ?_⟩
    rintro child' ⟨point', hpoint', heq'⟩
    exact cell.child_eq_of_childToCell_eq_ok hpoint' hpoint heq' heq hmiddle
  vertex := by
    intro child hchild
    have hvertex : (cell.vertices : List (List K))[child]? =
        some ((List.range cell.dim).map (bitScalar child)) := by
      rw [vertices, childCount_eq, List.getElem?_map, List.getElem?_range hchild, Option.map_some]
    refine ⟨_, hvertex, ?_⟩
    rw [childToCell_eq_ok hchild (by simp), childPoint_map_bitScalar]

/-- The children of a cube, and the one child in which a point off the middle lies. -/
theorem children_tile_hexahedron :
    hexahedron.TiledByChildren ℚ ∧ [1 / 3, 3 / 4, 1] ∈ unitCube ℚ 3 ∧
      ∃! child, ∃ point ∈ unitCube ℚ 3,
        hexahedron.childToCell child point = .ok [1 / 3, 3 / 4, 1] := by
  have htiled := children_tile (K := ℚ) hexahedron
  have hmem : [1 / 3, 3 / 4, 1] ∈ unitCube ℚ 3 := by
    constructor
    · rfl
    · norm_num
  have hmiddle : ∀ x ∈ [1 / 3, 3 / 4, 1], x ≠ (1 / 2 : ℚ) := by
    norm_num
  exact ⟨htiled, hmem, htiled.unique _ hmem hmiddle⟩

end Cell

end FacetElements
