import FacetElements.Proofs.ChildTiling

/-!
# Faces parametrise the boundary

A face puts one coordinate, its side, between those of its points and keeps their order.
Taking that coordinate out again gives the point back.  So a face reaches each point on
its side of the cell once, and no other point, and the points of a cell with a coordinate
at an end of its axis are those that some face reaches.
-/

namespace FacetElements

/-! ## Coordinates read one after the other -/

theorem run_mapM_cons
    {σ α β : Type} {f : α → StateM σ β} {x : α} {xs : List α} {y : β} {ys : List β}
    {s s' s'' : σ} (hhead : (f x).run s = (y, s')) (htail : (xs.mapM f).run s' = (ys, s'')) :
    ((x :: xs).mapM f).run s = (y :: ys, s'') := by
  rw [List.mapM_cons, StateT.run_bind, hhead]
  change (xs.mapM f >>= fun ys => pure (y :: ys)).run s' = (y :: ys, s'')
  rw [StateT.run_bind, htail]
  rfl

variable {K : Type}

/-- A coordinate of the cell, read from the coordinates of the face that are left: the
side along the normal axis, and along another axis the next of them.  If none is left, a
filler takes its place. -/
def nextCoordinate (normal : ℕ) (side filler : K) (axis : ℕ) : StateM (List K) K := fun rest =>
  if axis = normal then (side, rest) else (rest.headD filler, rest.tail)

section Reading

variable {normal first : ℕ} {side filler : K} {rest : List K}

/-- Behind the normal axis nothing but the coordinates of the face is read. -/
theorem run_mapM_nextCoordinate_of_lt (hfirst : normal < first) :
    ((List.range' first rest.length).mapM (nextCoordinate normal side filler)).run rest =
      (rest, []) := by
  induction rest generalizing first with
  | nil =>
      rfl
  | cons x rest ih =>
      exact run_mapM_cons (if_neg hfirst.ne') (ih (Nat.lt_succ_of_lt hfirst))

/-- Every coordinate of the face is read once and none is missing, so the filler is not
used. -/
theorem run_mapM_nextCoordinate {offset : ℕ} (hoffset : offset ≤ rest.length) :
    ((List.range' first (rest.length + 1)).mapM
        (nextCoordinate (first + offset) side filler)).run rest =
      (rest.insertIdx offset side, []) := by
  induction offset generalizing first rest with
  | zero =>
      exact run_mapM_cons (if_pos rfl) (run_mapM_nextCoordinate_of_lt (Nat.lt_succ_self first))
  | succ offset ih =>
      cases rest with
      | nil =>
          exact absurd hoffset (Nat.not_succ_le_zero offset)
      | cons x rest =>
          have haxis : first ≠ first + 1 + offset := by
            omega
          rw [Nat.add_comm offset, ← Nat.add_assoc, Nat.add_comm 1 offset]
          exact run_mapM_cons (if_neg haxis) (ih (Nat.le_of_succ_le_succ hoffset))

end Reading

/-! ## Points of a face -/

section Points

variable [Zero K] [One K] {face : ℕ} {point image : List K}

theorem eraseIdx_facePoint (face : ℕ) (point : List K) :
    (facePoint face point).eraseIdx (face / 2) = point :=
  List.eraseIdx_insertIdx_self _

theorem facePoint_injective (face : ℕ) :
    Function.Injective (facePoint face : List K → List K) := by
  have hinverse : Function.LeftInverse (fun image : List K => image.eraseIdx (face / 2))
      (facePoint face) := eraseIdx_facePoint face
  exact hinverse.injective

/-- A point on the side of a face is the one the face makes of its other coordinates. -/
theorem facePoint_eraseIdx (hside : image[face / 2]? = some (bitScalar face 0)) :
    facePoint face (image.eraseIdx (face / 2)) = image := by
  rcases List.getElem?_eq_some_iff.mp hside with ⟨haxis, hentry⟩
  rw [facePoint, ← hentry]
  exact List.insertIdx_eraseIdx_getElem haxis

theorem getElem?_facePoint_normal (hnormal : face / 2 ≤ point.length) :
    (facePoint face point)[face / 2]? = some (bitScalar face 0) := by
  rw [facePoint, List.getElem?_insertIdx_self, if_pos hnormal]

theorem mem_facePoint_iff (hnormal : face / 2 ≤ point.length) {x : K} :
    x ∈ facePoint face point ↔ x = bitScalar face 0 ∨ x ∈ point :=
  List.mem_insertIdx hnormal

theorem bitScalar_low_eq (face : ℕ) :
    (bitScalar face 0 : K) = 0 ∨ (bitScalar face 0 : K) = 1 := by
  by_cases hbit : face.testBit 0
  · exact Or.inr (if_pos hbit)
  · exact Or.inl (if_neg hbit)

/-- Along the axis of a coordinate at an end there is a face with this coordinate as its
side. -/
theorem exists_face_of_coordinate
    {axis : ℕ} {x : K} (haxis : image[axis]? = some x) (hx : x = 0 ∨ x = 1) :
    ∃ face, face / 2 = axis ∧ image[face / 2]? = some (bitScalar face 0) := by
  rcases hx with rfl | rfl
  · refine ⟨2 * axis, by omega, ?_⟩
    simpa [bitScalar, Nat.testBit_zero] using haxis
  · refine ⟨2 * axis + 1, by omega, ?_⟩
    have hhalf : (2 * axis + 1) / 2 = axis := by
      omega
    simpa [bitScalar, Nat.testBit_zero, Nat.mul_add_mod, hhalf] using haxis

end Points

/-- The side of a face is the number of the face, modulo two. -/
theorem bitScalar_low_eq_cast [Field K] (face : ℕ) :
    (bitScalar face 0 : K) = ((face % 2 : ℕ) : K) := by
  rcases Nat.mod_two_eq_zero_or_one face with hface | hface
  · simp [bitScalar, Nat.testBit_zero, hface]
  · simp [bitScalar, Nat.testBit_zero, hface]

/-! ## The faces of a cell -/

namespace Cell

theorem faceCount_eq (cell : Cell) : cell.faceCount = 2 * cell.dim := rfl

section Requests

variable [Zero K] [One K] (cell : Cell) {face : ℕ} {point image : List K}

theorem faceToCell_eq_ok_iff :
    cell.faceToCell face point = .ok image ↔
      (face < 2 * cell.dim ∧ point.length + 1 = cell.dim) ∧ facePoint face point = image := by
  rw [faceToCell, faceCount_eq]
  split_ifs with hface hlength
  · simp [hface]
  · simp [hlength]
  · simp [not_le.mp hface, not_not.mp hlength]

theorem faceToCell_eq_indexOutOfRange_iff :
    cell.faceToCell face point = .error (.indexOutOfRange .face face (2 * cell.dim)) ↔
      2 * cell.dim ≤ face := by
  rw [faceToCell, faceCount_eq]
  split_ifs with hface hlength
  · simp [hface]
  · simp [hface]
  · simp [hface]

theorem faceToCell_eq_dimensionMismatch_iff (hface : face < 2 * cell.dim) :
    cell.faceToCell face point = .error (.dimensionMismatch (cell.dim - 1) point.length) ↔
      point.length ≠ cell.dim - 1 := by
  have hdim : point.length + 1 ≠ cell.dim ↔ point.length ≠ cell.dim - 1 := by
    omega
  rw [faceToCell, faceCount_eq, if_neg (not_le.mpr hface), ← hdim]
  split_ifs with hlength
  · simp [hlength]
  · simp [hlength]

end Requests

variable [Field K] [LinearOrder K]

variable (K) in
/-- Every face reaches exactly the points of a cell whose coordinate along its normal
axis is its side, each of them from the other coordinates, and the faces together reach
the boundary.  Faces are asked for by number first, then by the number of coordinates,
which is one less than the dimension. -/
structure BoundedByFaces (cell : Cell) : Prop where
  refuses_face_iff : ∀ face (point : List K),
    cell.faceToCell face point = .error (.indexOutOfRange .face face (2 * cell.dim)) ↔
      2 * cell.dim ≤ face
  refuses_coordinates_iff : ∀ face (point : List K), face < 2 * cell.dim →
    (cell.faceToCell face point = .error (.dimensionMismatch (cell.dim - 1) point.length) ↔
      point.length ≠ cell.dim - 1)
  ok_iff : ∀ face (point : List K), (∃ image, cell.faceToCell face point = .ok image) ↔
    face < 2 * cell.dim ∧ point.length = cell.dim - 1
  dim_pos : ∀ face < 2 * cell.dim, 1 ≤ cell.dim
  no_face : cell.dim = 0 → ∀ face (point : List K),
    cell.faceToCell face point = .error (.indexOutOfRange .face face 0)
  read_once : ∀ face (point image : List K), cell.faceToCell face point = .ok image →
    ∀ filler, ((List.range cell.dim).mapM
      (nextCoordinate (face / 2) ((face % 2 : ℕ) : K) filler)).run point = (image, [])
  removed : ∀ face (point image : List K), cell.faceToCell face point = .ok image →
    image.eraseIdx (face / 2) = point
  injective : ∀ face (point point' image : List K),
    cell.faceToCell face point = .ok image → cell.faceToCell face point' = .ok image →
    point = point'
  image_iff : ∀ face < 2 * cell.dim, ∀ image : List K,
    (∃ point, cell.faceToCell face point = .ok image) ↔
      image.length = cell.dim ∧ image[face / 2]? = some ((face % 2 : ℕ) : K)
  boundary_iff : ∀ image ∈ unitCube K cell.dim,
    (∃ face, ∃ point ∈ unitCube K (cell.dim - 1), cell.faceToCell face point = .ok image) ↔
      ∃ x ∈ image, x = 0 ∨ x = 1

variable {face : ℕ} {point image : List K}

omit [LinearOrder K] in
theorem exists_faceToCell_eq_ok_iff (cell : Cell) (hface : face < 2 * cell.dim) :
    (∃ point, cell.faceToCell face point = .ok image) ↔
      image.length = cell.dim ∧ image[face / 2]? = some (bitScalar face 0) := by
  constructor
  · rintro ⟨point, himage⟩
    rcases cell.faceToCell_eq_ok_iff.mp himage with ⟨⟨-, hlength⟩, rfl⟩
    exact ⟨length_facePoint hface hlength, getElem?_facePoint_normal (by omega)⟩
  · rintro ⟨hlength, hside⟩
    have herased := List.length_eraseIdx_of_lt (l := image) (i := face / 2) (by omega)
    refine ⟨image.eraseIdx (face / 2), cell.faceToCell_eq_ok_iff.mpr ⟨⟨hface, ?_⟩, ?_⟩⟩
    · omega
    · exact facePoint_eraseIdx hside

theorem exists_face_reaching_iff (cell : Cell) (himage : image ∈ unitCube K cell.dim) :
    (∃ face, ∃ point ∈ unitCube K (cell.dim - 1), cell.faceToCell face point = .ok image) ↔
      ∃ x ∈ image, x = 0 ∨ x = 1 := by
  rcases himage with ⟨hlength, hcoordinates⟩
  constructor
  · rintro ⟨face, point, -, hok⟩
    rcases cell.faceToCell_eq_ok_iff.mp hok with ⟨⟨hface, hpoint⟩, rfl⟩
    have hnormal : face / 2 ≤ point.length := by
      omega
    exact ⟨_, (mem_facePoint_iff hnormal).mpr (Or.inl rfl), bitScalar_low_eq face⟩
  · rintro ⟨x, hmem, hx⟩
    rcases List.mem_iff_getElem?.mp hmem with ⟨axis, haxis⟩
    have haxis_lt := (List.getElem?_eq_some_iff.mp haxis).1
    rcases exists_face_of_coordinate haxis hx with ⟨face, rfl, hside⟩
    have hface : face < 2 * cell.dim := by
      omega
    rcases (cell.exists_faceToCell_eq_ok_iff hface).mpr ⟨hlength, hside⟩ with ⟨point, hok⟩
    rcases cell.faceToCell_eq_ok_iff.mp hok with ⟨⟨-, hpoint⟩, rfl⟩
    refine ⟨face, point, ⟨by omega, ?_⟩, hok⟩
    intro y hy
    exact hcoordinates y ((mem_facePoint_iff (by omega)).mpr (Or.inr hy))

theorem faces_bound (cell : Cell) : cell.BoundedByFaces K where
  refuses_face_iff := fun _ _ => cell.faceToCell_eq_indexOutOfRange_iff
  refuses_coordinates_iff := fun _ _ => cell.faceToCell_eq_dimensionMismatch_iff
  ok_iff := by
    intro face point
    simp only [faceToCell_eq_ok_iff, exists_and_left, exists_eq', and_true]
    omega
  dim_pos := by
    intro face hface
    omega
  no_face := by
    intro hdim face point
    have hface : 2 * cell.dim ≤ face := by
      omega
    have hrefused : cell.faceToCell face point =
        .error (.indexOutOfRange .face face (2 * cell.dim)) :=
      cell.faceToCell_eq_indexOutOfRange_iff.mpr hface
    rwa [hdim] at hrefused
  read_once := by
    intro face point image himage filler
    rcases cell.faceToCell_eq_ok_iff.mp himage with ⟨⟨hface, hlength⟩, rfl⟩
    have hoffset : face / 2 ≤ point.length := by
      omega
    have hread : ((List.range' 0 (point.length + 1)).mapM
        (nextCoordinate (0 + face / 2) (bitScalar face 0 : K) filler)).run point =
          (facePoint face point, []) :=
      run_mapM_nextCoordinate hoffset
    rwa [Nat.zero_add, hlength, ← List.range_eq_range', bitScalar_low_eq_cast] at hread
  removed := by
    intro face point image himage
    rcases cell.faceToCell_eq_ok_iff.mp himage with ⟨-, rfl⟩
    exact eraseIdx_facePoint face point
  injective := by
    intro face point point' image himage himage'
    rcases cell.faceToCell_eq_ok_iff.mp himage with ⟨-, rfl⟩
    rcases cell.faceToCell_eq_ok_iff.mp himage' with ⟨-, heq⟩
    exact facePoint_injective face heq.symm
  image_iff := by
    intro face hface image
    rw [cell.exists_faceToCell_eq_ok_iff hface, bitScalar_low_eq_cast]
  boundary_iff := fun _ himage => cell.exists_face_reaching_iff himage

/-- A point of the cube on its upper side along the second axis is reached by a face, and
a vertex asks for a face of a point, which has none. -/
theorem faces_bound_hexahedron_point :
    hexahedron.BoundedByFaces ℚ ∧ [1 / 3, 1, 3 / 4] ∈ unitCube ℚ 3 ∧
      (∃ face, ∃ point ∈ unitCube ℚ 2,
        hexahedron.faceToCell face point = .ok [1 / 3, 1, 3 / 4]) ∧
      Cell.point.faceToCell 0 ([] : List ℚ) = .error (.indexOutOfRange .face 0 0) := by
  have hbound := faces_bound (K := ℚ) hexahedron
  have hmem : [1 / 3, 1, 3 / 4] ∈ unitCube ℚ 3 := by
    constructor
    · rfl
    · norm_num
  have hend : ∃ x ∈ ([1 / 3, 1, 3 / 4] : List ℚ), x = 0 ∨ x = 1 := ⟨1, by simp, Or.inr rfl⟩
  exact ⟨hbound, hmem, (hbound.boundary_iff _ hmem).mpr hend,
    ((faces_bound Cell.point).refuses_face_iff 0 []).mpr le_rfl⟩

end Cell

end FacetElements
