import FacetElements.Polynomial.TensorSpace

/-!
# Requests step by step

Behind the checks of its number and its coordinates a request to a tensor product space
divides by the size of the one-dimensional basis, finds nodes and stored values by their
positions, lists all choices of one-dimensional functions and writes into a table.  Here
each of these steps can fail.
-/

namespace FacetElements

variable {K α : Type}

/-! ## Steps that can fail -/

/-- Remainder and quotient.  By zero there is neither. -/
def divide (a n : Nat) : Except Error (Nat × Nat) :=
  if n = 0 then .error .emptyBasis else .ok (a % n, a / n)

/-- The one-dimensional function at the position of a node that has to exist. -/
def LagrangeBasis.functionAt (basis : LagrangeBasis K) (k : Nat) : Except Error (Fin basis.size) :=
  if h : k < basis.size then .ok ⟨k, h⟩ else .error .entryOutOfRange

namespace TensorSpace

variable (space : TensorSpace K)

/-- A factor for each variable, given by the number of the variable, a one-dimensional
function and a coordinate. -/
def factors (f : Nat → Fin space.basis.size → K → K) (ks : List Nat) (point : List K) :
    Except Error (List K) :=
  (ks.zip point).zipIdx.mapM fun choice =>
    (space.basis.functionAt choice.1.1).map fun k => f choice.2 k choice.1.2

/-! ## Requests -/

variable [One K] [Sub K] [Mul K] [Div K]

end TensorSpace

end FacetElements
