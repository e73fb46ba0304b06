import FacetElements.Scalar

/-!
# Tolerances

Rounding grows with the degree and the number of variables.  A tolerance is a
factor by which both are multiplied.
-/

namespace FacetElements

/-- The rounding that a constraint matrix may show. -/
structure Tolerance (K : Type) where
  factor : K
  deriving BEq, DecidableEq

namespace Tolerance

variable {K : Type}

def standard [OfScientific K] : Tolerance K :=
  ⟨2e-13⟩

/-- The greatest difference that counts as none, for a target element of the
given degree on a cell of the given dimension. -/
def epsilon [NatCast K] [Mul K] (tolerance : Tolerance K) (degree dim : Nat) : K :=
  tolerance.factor * (degree : K) * ((dim - 1 : Nat) : K)

end Tolerance

end FacetElements
