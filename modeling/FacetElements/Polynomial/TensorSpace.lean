import FacetElements.MachineWord
import FacetElements.Polynomial.Lagrange
import FacetElements.Polynomial.MultiIndex
import FacetElements.Table

/-!
# Tensor product spaces

Products of one-dimensional basis functions in several variables, numbered by
multi-indices.  A table of all functions at many points evaluates each
one-dimensional function once per coordinate and multiplies the stored values.

The number of functions is a power, whose exponent is narrower than a machine word.
Exponent and power are cut without notice, so a space may count fewer functions than
it has multi-indices.
-/

namespace FacetElements

structure TensorSpace (K : Type) where
  basis : LagrangeBasis K
  dim : Nat
  deriving BEq, DecidableEq

namespace TensorSpace

variable {K : Type}

def degree (space : TensorSpace K) : Nat :=
  space.basis.degree

/-- The number of functions as it is computed. -/
def size (space : TensorSpace K) : Nat :=
  wordPow space.basis.size space.dim

def checkNumber (space : TensorSpace K) (i : Nat) : Except Error Unit :=
  if i < space.size then .ok () else .error (.indexOutOfRange .basisFunction i space.size)

def checkCoordinates (space : TensorSpace K) (count : Nat) : Except Error Unit :=
  if count = space.dim then .ok () else .error (.dimensionMismatch space.dim count)

/-- The one-dimensional functions whose product is basis function `i`. -/
def indices (space : TensorSpace K) (i : Nat) : Except Error (MultiIndex space.basis.size) := do
  space.checkNumber i
  MultiIndex.ofNumber space.basis.size space.dim i

def allIndices (space : TensorSpace K) : List (MultiIndex space.basis.size) :=
  MultiIndex.all space.basis.size space.dim

@[simp] theorem length_allIndices (space : TensorSpace K) :
    space.allIndices.length = space.basis.size.pow space.dim :=
  MultiIndex.length_all _ _

/-- The point at which the functions of a multi-index are one. -/
def gridPoint (space : TensorSpace K) (ix : MultiIndex space.basis.size) : List K :=
  ix.map space.basis.node

@[simp] theorem length_gridPoint (space : TensorSpace K) (ix : MultiIndex space.basis.size) :
    (space.gridPoint ix).length = ix.length :=
  List.length_map _

section Evaluation

variable [One K] [Sub K] [Mul K] [Div K]

/-- The product of the one-dimensional functions of a multi-index at a point. -/
def basisValue (space : TensorSpace K) (ix : MultiIndex space.basis.size) (point : List K) : K :=
  prodLeft (List.zipWith space.basis.basisValue ix point)

/-- The derivative of that product along axis `d`. -/
def basisPartial [Zero K] [Add K] (space : TensorSpace K) (ix : MultiIndex space.basis.size)
    (point : List K) (d : Nat) : K :=
  prodLeft ((ix.zip point).mapIdx fun e factor =>
    if e = d then space.basis.basisDerivative factor.1 factor.2
    else space.basis.basisValue factor.1 factor.2)

def value (space : TensorSpace K) (i : Nat) (point : List K) : Except Error K := do
  space.checkNumber i
  space.checkCoordinates point.length
  let ix ← MultiIndex.ofNumber space.basis.size space.dim i
  return space.basisValue ix point

def gradient [Zero K] [Add K] (space : TensorSpace K) (i : Nat) (point : List K) :
    Except Error (List K) := do
  space.checkNumber i
  space.checkCoordinates point.length
  let ix ← MultiIndex.ofNumber space.basis.size space.dim i
  return (List.range space.dim).map (space.basisPartial ix point)

/-- Every basis function at every point of a table, from the values of the
one-dimensional functions at each coordinate.  A number without a multi-index
has the entry zero, a multi-index without a number none. -/
def valueTable [Zero K] (space : TensorSpace K) (points : Table K) : Table K :=
  let grid := space.allIndices.toArray
  let stored := Vector.ofFn fun p : Fin points.rows =>
    (points.row p).map space.basis.basisValues
  Table.ofFn points.rows space.size fun p i =>
    match grid[i.val]? with
    | some ix => prodLeft (List.zipWith (fun k values => values[k]) ix stored[p])
    | none => 0

/-- The table of all basis functions, made from a list of all multi-indices.  No list
has more entries than a machine word counts. -/
def tabulate [Zero K] (space : TensorSpace K) (points : Table K) : Except Error (Table K) := do
  space.checkCoordinates points.cols
  if powFits space.basis.size space.dim then
    return space.valueTable points
  else
    throw .capacityOverflow

end Evaluation

end TensorSpace

end FacetElements
