import FacetElements.Cell

/-!
# Embeddings into a cell

A face and a child of a cell are cubes themselves.  The maps below take their
coordinates to those of the cell.
-/

namespace FacetElements

variable {K : Type}

/-- The point with the given coordinates on a face: the coordinate along the
normal axis is put between them. -/
def facePoint [Zero K] [One K] (face : Nat) (point : List K) : List K :=
  point.insertIdx (face / 2) (bitScalar face 0)

/-- The point with the given coordinates in a child: they are halved, and moved
to the upper half along the axes of the child's bits. -/
def childPoint [Zero K] [One K] [OfNat K 2] [Add K] [Div K] (child : Nat) (point : List K) :
    List K :=
  point.mapIdx fun k x => (x + bitScalar child k) / 2

@[simp] theorem length_childPoint
    [Zero K] [One K] [OfNat K 2] [Add K] [Div K] (child : Nat) (point : List K) :
    (childPoint child point).length = point.length := by
  simp [childPoint]

theorem length_facePoint
    [Zero K] [One K] {face dim : Nat} {point : List K}
    (hface : face < 2 * dim) (hpoint : point.length + 1 = dim) :
    (facePoint face point).length = dim := by
  have haxis : face / 2 ≤ point.length := by
    omega
  rw [facePoint, List.length_insertIdx, if_pos haxis, hpoint]

namespace Cell

def faceToCell [Zero K] [One K] (cell : Cell) (face : Nat) (point : List K) :
    Except Error (List K) :=
  if cell.faceCount ≤ face then
    .error (.indexOutOfRange .face face cell.faceCount)
  else if point.length + 1 ≠ cell.dim then
    .error (.dimensionMismatch (cell.dim - 1) point.length)
  else
    .ok (facePoint face point)

def childToCell [Zero K] [One K] [OfNat K 2] [Add K] [Div K] (cell : Cell) (child : Nat)
    (point : List K) : Except Error (List K) :=
  if cell.childCount ≤ child then
    .error (.indexOutOfRange .child child cell.childCount)
  else if point.length ≠ cell.dim then
    .error (.dimensionMismatch cell.dim point.length)
  else
    .ok (childPoint child point)

end Cell

end FacetElements
