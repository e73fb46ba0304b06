/-!
# Quadrature rules

A rule approximates the integral over a cell by a weighted sum of values.
-/

namespace FacetElements

/-- A quadrature rule on a reference cell of dimension `dim`, exact for
polynomials up to degree `order`. -/
structure QuadratureRule (K : Type) where
  dim : Nat
  order : Nat
  npoints : Nat
  weights : List K
  /-- The coordinates, point by point. -/
  points : List K
  deriving BEq, DecidableEq

def QuadratureRule.point? {K : Type} (rule : QuadratureRule K) (index : Nat) :
    Option (List K) :=
  if index < rule.npoints then some ((rule.points.drop (index * rule.dim)).take rule.dim)
  else none

end FacetElements
