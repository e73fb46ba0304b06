import FacetElements.Constraint.Tolerance
import FacetElements.Element

/-!
# Constraint matrices

On a face shared by elements of different degree, the dofs of the element of
higher degree (the source) are constrained to those of the other (the target).
The matrix has one row per source dof and one column per target dof; entry
`(i, j)` is target function `j` at the support point of source dof `i`.  Values
near one and zero become exact, and every row has to sum to one.
-/

namespace FacetElements

namespace Constraint

variable {K F : Type}

/-! ## Points of the source -/

/-- The support points of a face element that lives on one child of a face, in
the coordinates of that face. -/
def childSupportPoints [Zero K] [One K] [OfNat K 2] [Add K] [Div K] (source : FaceElement K)
    (child : Nat) : Table K :=
  Table.ofRows (source.dim - 1) (source.faceSupportPoints.rowList.map (childPoint child))
    fun r h => by
      obtain ⟨point, hpoint, rfl⟩ := List.mem_map.1 h
      simpa using Table.length_of_mem_rowList hpoint

/-- The source has the dimension of the target, and no fewer dofs on a face. -/
def checkPair (target source : FaceElement K) : Except Error Unit :=
  if source.dim ≠ target.dim then
    .error (.dimensionMismatch target.dim source.dim)
  else if source.dofsPerFace < target.dofsPerFace then
    .error (.wrongDirection source.name.text target.name.text)
  else
    .ok ()

/-! ## Rounding -/

section Rounding

variable [Zero K] [One K] [Neg K] [Sub K] [LT K] [DecidableLT K] [LE K] [DecidableLE K]

/-- A value near one is one, another value near zero is zero. -/
def snap (eps x : K) : K :=
  if Near eps x 1 then 1 else if Near eps x 0 then 0 else x

/-- The first row whose sum is not near one, with its sum. -/
def firstBadRow? [Add K] (eps : K) (matrix : Table K) : Option (K × Nat) :=
  matrix.rowSums.zipIdx.find? fun row => ¬ Near eps row.1 1

end Rounding

/-! ## Matrices -/

section Matrices

variable [Zero K] [One K] [OfNat K 2] [NatCast K] [Neg K] [Add K] [Sub K] [Mul K] [Div K]
variable [LT K] [DecidableLT K] [LE K] [DecidableLE K] [ScalarText K] [ElementFamily F]

/-- The face functions of the target at the given points. -/
def ofPoints (tolerance : Tolerance K) (target : FaceElement K) (points : Table K) :
    Except Error (Table K) :=
  let eps := tolerance.epsilon target.degree target.dim
  let matrix := (target.space.valueTable points).map (snap eps)
  match firstBadRow? eps matrix with
  | none => .ok matrix
  | some (sum, i) => .error (.rowSum i target.name.text (ScalarText.text sum))

/-- The constraints on a whole face. -/
def faceMatrix (tolerance : Tolerance K) (target : FaceElement K) :
    Element K F → Except Error (Table K)
  | .face source => do
      checkPair target source
      ofPoints tolerance target source.faceSupportPoints
  | source => .error (.unsupportedSource source.name)

/-- The constraints on one child of a refined face of the target, on which the
source lives. -/
def subfaceMatrix (tolerance : Tolerance K) (target : FaceElement K) (source : Element K F)
    (subface : Nat) : Except Error (Table K) :=
  if target.faceCell.childCount ≤ subface then
    .error (.indexOutOfRange .subface subface target.faceCell.childCount)
  else
    match source with
    | .face source => do
        checkPair target source
        ofPoints tolerance target (childSupportPoints source subface)
    | .nothing source =>
        if source.dim = target.dim then .ok (Table.zeros 0 target.dofsPerFace)
        else .error (.dimensionMismatch target.dim source.dim)
    | .foreign source =>
        .error (.noSubfaceMatrix (ElementFamily.name source) target.name.text)

end Matrices

end Constraint

end FacetElements
