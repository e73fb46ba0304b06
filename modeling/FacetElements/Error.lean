/-!
# Refusals

The causes for which an operation of this library gives no answer, and the
text of each.  Elements and scalars appear by their text only, so that one type
of causes serves every scalar type and every family of elements.
-/

namespace FacetElements

inductive Indexed where
  | basisFunction
  | shapeFunction
  | face
  | child
  | subface
  deriving DecidableEq, Repr

def Indexed.text : Indexed → String
  | .basisFunction => "Basis function"
  | .shapeFunction => "Shape function"
  | .face => "Face"
  | .child => "Child"
  | .subface => "Subface"

inductive Error where
  /-- No face matrix exists from an element of this family. -/
  | unsupportedSource (source : String)
  /-- Two dimensions that have to agree do not. -/
  | dimensionMismatch (expected actual : Nat)
  /-- Only an element with at least as many face dofs can be constrained. -/
  | wrongDirection (source target : String)
  /-- No subface matrix exists from an element of this family. -/
  | noSubfaceMatrix (source target : String)
  /-- A row of a constraint matrix does not sum to one. -/
  | rowSum (row : Nat) (element sum : String)
  /-- Domination is not defined for this pair of elements. -/
  | incomparable (this other : String)
  /-- An element of a foreign family gives no answer. -/
  | notImplemented (what : String)
  /-- No cell or element of this dimension exists. -/
  | unsupportedDimension (dim : Nat)
  | indexOutOfRange (what : Indexed) (index count : Nat)
  | invalidName (name : String)
  /-- A Gauss-Lobatto rule contains both endpoints. -/
  | tooFewPoints (count : Nat)
  /-- A table has no such entry. -/
  | entryOutOfRange
  /-- No list or table has so many entries. -/
  | capacityOverflow
  /-- An index is to be written in the digits of a basis without functions. -/
  | emptyBasis
  deriving DecidableEq, Repr

def Error.message : Error → String
  | .unsupportedSource source => s!"Cannot interpolate from element {source}"
  | .dimensionMismatch expected actual =>
      s!"Dimension mismatch: expected {expected}, found {actual}"
  | .wrongDirection source target =>
      s!"Interpolation not implemented: cannot constrain {source} to {target}"
  | .noSubfaceMatrix source target =>
      s!"Interpolation not implemented: subface interpolation from {source} to {target}"
  | .rowSum row element sum =>
      s!"Internal consistency error: row {row} of the interpolation matrix for {element} " ++
        s!"sums to {sum}"
  | .incomparable this other =>
      s!"Not implemented: face domination between {this} and {other}"
  | .notImplemented what => s!"Not implemented: {what}"
  | .unsupportedDimension dim => s!"Unsupported spatial dimension: {dim}"
  | .indexOutOfRange what index count =>
      s!"{what.text} index {index} out of range (count {count})"
  | .invalidName name => s!"Invalid element name: {name}"
  | .tooFewPoints count =>
      s!"Invalid quadrature: a Gauss-Lobatto rule needs at least two points, {count} requested"
  | .entryOutOfRange => "Index out of range"
  | .capacityOverflow => "capacity overflow"
  | .emptyBasis => "attempt to calculate the remainder with a divisor of zero"

end FacetElements
