import FacetElements.Error
import FacetElements.Scalar

/-!
# Hypercube cells

The reference cells are the cubes `[0, 1] ^ d` for `d ≤ 3`.  Faces come in
pairs: face `f` is orthogonal to axis `f / 2` and lies at coordinate `f % 2`.
Vertices and children are numbered with the first coordinate varying fastest,
so that bit `k` of the number belongs to axis `k`.
-/

namespace FacetElements

inductive Cell where
  | point
  | interval
  | quadrilateral
  | hexahedron
  deriving DecidableEq, Repr

namespace Cell

def dim : Cell → Nat
  | .point => 0
  | .interval => 1
  | .quadrilateral => 2
  | .hexahedron => 3

/-- Cells are numbered by their dimension. -/
def number (cell : Cell) : Nat :=
  cell.dim

/-- The cube of a dimension below four. -/
def hypercube : Fin 4 → Cell
  | 0 => .point
  | 1 => .interval
  | 2 => .quadrilateral
  | 3 => .hexahedron

@[simp] theorem dim_hypercube (d : Fin 4) : (hypercube d).dim = d := by
  revert d
  decide

def ofDim (dim : Nat) : Except Error Cell :=
  if h : dim < 4 then .ok (hypercube ⟨dim, h⟩) else .error (.unsupportedDimension dim)

def facet? : Cell → Option Cell
  | .point => none
  | .interval => some .point
  | .quadrilateral => some .interval
  | .hexahedron => some .quadrilateral

def entityCounts : Cell → List Nat
  | .point => [1]
  | .interval => [2, 1]
  | .quadrilateral => [4, 4, 1]
  | .hexahedron => [8, 12, 6, 1]

def faceCount (cell : Cell) : Nat :=
  2 * cell.dim

/-- The number of children under isotropic refinement. -/
def childCount (cell : Cell) : Nat :=
  Nat.pow 2 cell.dim

variable {K : Type}

def vertices [Zero K] [One K] (cell : Cell) : List (List K) :=
  (List.range cell.childCount).map fun v => (List.range cell.dim).map (bitScalar v)

def midpoint [OfScientific K] (cell : Cell) : List K :=
  List.replicate cell.dim 0.5

end Cell

end FacetElements
