import FacetElements.Error
import FacetElements.Scalar

/-!
# Lagrange bases

The Lagrange basis through a list of nodes has one function per node, which is
one there and zero at every other node.  Each function is a product of ratios,
so that these values are exact whenever the nodes differ.
-/

namespace FacetElements

structure LagrangeBasis (K : Type) where
  nodes : List K
  deriving BEq, DecidableEq

namespace LagrangeBasis

variable {K : Type}

def size (basis : LagrangeBasis K) : Nat :=
  basis.nodes.length

def isEmpty (basis : LagrangeBasis K) : Bool :=
  basis.nodes.isEmpty

def degree (basis : LagrangeBasis K) : Nat :=
  basis.size - 1

def node (basis : LagrangeBasis K) (i : Fin basis.size) : K :=
  basis.nodes.get i

/-- The nodes at which basis function `i` vanishes, in their order. -/
def zerosOf (basis : LagrangeBasis K) (i : Fin basis.size) : List K :=
  basis.nodes.eraseIdx i

section Evaluation

variable [One K] [Sub K] [Mul K] [Div K]

/-- The factors of basis function `i` at `x` that vanish at the given nodes. -/
def ratios (basis : LagrangeBasis K) (i : Fin basis.size) (x : K) (zeros : List K) : List K :=
  zeros.map fun y => (x - y) / (basis.node i - y)

/-- Basis function `i` at `x`. -/
def basisValue (basis : LagrangeBasis K) (i : Fin basis.size) (x : K) : K :=
  prodLeft (basis.ratios i x (basis.zerosOf i))

/-- The derivative of basis function `i` at `x`, by the product rule: each term
differentiates one factor and keeps the others. -/
def basisDerivative [Zero K] [Add K] (basis : LagrangeBasis K) (i : Fin basis.size) (x : K) :
    K :=
  let zeros := basis.zerosOf i
  sumLeft ((List.finRange zeros.length).map fun k : Fin zeros.length =>
    (basis.ratios i x (zeros.eraseIdx k)).foldl (· * ·) (1 / (basis.node i - zeros[k])))

def basisValues (basis : LagrangeBasis K) (x : K) : Vector K basis.size :=
  Vector.ofFn fun i => basis.basisValue i x

end Evaluation

def index (basis : LagrangeBasis K) (i : Nat) : Except Error (Fin basis.size) :=
  if h : i < basis.size then .ok ⟨i, h⟩
  else .error (.indexOutOfRange .basisFunction i basis.size)

def value [One K] [Sub K] [Mul K] [Div K] (basis : LagrangeBasis K) (i : Nat) (x : K) :
    Except Error K :=
  (basis.index i).map (basis.basisValue · x)

def derivative [Zero K] [One K] [Add K] [Sub K] [Mul K] [Div K] (basis : LagrangeBasis K)
    (i : Nat) (x : K) : Except Error K :=
  (basis.index i).map (basis.basisDerivative · x)

end LagrangeBasis

end FacetElements
