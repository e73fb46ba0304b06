import FacetElements.Cell
import FacetElements.Name

/-!
# The element without degrees of freedom

It stands on cells where nothing is computed.
-/

namespace FacetElements

/-- The element without dofs on a cell of the given dimension. -/
structure NothingElement where
  dim : Nat
  one_le_dim : 1 ≤ dim
  dim_le_three : dim ≤ 3
  deriving DecidableEq

namespace NothingElement

def create (dim : Nat) : Except Error NothingElement :=
  if h : 1 ≤ dim ∧ dim ≤ 3 then .ok ⟨dim, h.1, h.2⟩ else .error (.unsupportedDimension dim)

def name (e : NothingElement) : ElementName :=
  .nothing e.dim

def cell (e : NothingElement) : Cell :=
  Cell.hypercube ⟨e.dim, Nat.lt_succ_of_le e.dim_le_three⟩

def dofsPerObject (e : NothingElement) : List Nat :=
  List.replicate (e.dim + 1) 0

end NothingElement

end FacetElements
