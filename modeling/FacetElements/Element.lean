import FacetElements.Domination
import FacetElements.Element.Face
import FacetElements.Element.Nothing
import FacetElements.Name.Parser

/-!
# Elements

An element is a face element, the element without dofs, or one of a foreign
family `F`, which describes itself and decides its own comparisons.  Between
face elements the one of lower degree dominates.
-/

namespace FacetElements

/-- An element whose foreign kinds are the values of `F`. -/
inductive Element (K F : Type) where
  | face (e : FaceElement K)
  | nothing (e : NothingElement)
  | foreign (e : F)

/-- What an element of a foreign family says about itself. -/
class ElementFamily (F : Type) where
  name : F → String
  dim : F → Nat
  cell : F → Cell
  degree : F → Nat
  valueSize : F → Nat
  dofsPerFace : F → Nat
  dofsPerCell : F → Nat
  dofsPerObject : F → List Nat
  hasSupportOnFace : F → (shape face : Nat) → Bool
  hpConstraintsImplemented : F → Bool

/-- How elements of a foreign family compare to all elements on a common face. -/
class FaceComparison (K F : Type) where
  compare : F → Element K F → Except Error Domination

/-- The family without elements, for programs that need no foreign ones. -/
instance : ElementFamily Empty where
  name := nofun
  dim := nofun
  cell := nofun
  degree := nofun
  valueSize := nofun
  dofsPerFace := nofun
  dofsPerCell := nofun
  dofsPerObject := nofun
  hasSupportOnFace := nofun
  hpConstraintsImplemented := nofun

instance (K : Type) : FaceComparison K Empty where
  compare := nofun

/-- The lower degree dominates. -/
def Domination.ofDegrees (this other : Nat) : Domination :=
  if this < other then .this else if this = other then .either else .other

def ElementName.create {K F : Type} [Zero K] [One K] [OfNat K 2] [NatCast K] [Add K] [Sub K]
    [Mul K] [Div K] [Neg K] [OfScientific K] [LT K] [DecidableLT K] [Cosine K] :
    ElementName → Except Error (Element K F)
  | .faceLagrange dim degree => (FaceElement.create dim degree).map .face
  | .nothing dim => (NothingElement.create dim).map .nothing

namespace Element

variable {K F : Type}

def ofText [Zero K] [One K] [OfNat K 2] [NatCast K] [Add K] [Sub K] [Mul K] [Div K] [Neg K]
    [OfScientific K] [LT K] [DecidableLT K] [Cosine K] (s : String) :
    Except Error (Element K F) := do
  let name ← ElementName.parse s
  name.create

variable [ElementFamily F]

def name : Element K F → String
  | .face e => e.name.text
  | .nothing e => e.name.text
  | .foreign e => ElementFamily.name e

def dim : Element K F → Nat
  | .face e => e.dim
  | .nothing e => e.dim
  | .foreign e => ElementFamily.dim e

def cell : Element K F → Cell
  | .face e => e.cell
  | .nothing e => e.cell
  | .foreign e => ElementFamily.cell e

def degree : Element K F → Nat
  | .face e => e.degree
  | .nothing _ => 0
  | .foreign e => ElementFamily.degree e

def valueSize : Element K F → Nat
  | .face _ => 1
  | .nothing _ => 1
  | .foreign e => ElementFamily.valueSize e

def dofsPerFace : Element K F → Nat
  | .face e => e.dofsPerFace
  | .nothing _ => 0
  | .foreign e => ElementFamily.dofsPerFace e

def dofsPerCell : Element K F → Nat
  | .face e => e.dofsPerCell
  | .nothing _ => 0
  | .foreign e => ElementFamily.dofsPerCell e

def dofsPerObject : Element K F → List Nat
  | .face e => FaceElement.dofsPerObject e.dim e.degree
  | .nothing e => e.dofsPerObject
  | .foreign e => ElementFamily.dofsPerObject e

/-- The shape function does not vanish on the face. -/
def hasSupportOnFace (shape face : Nat) : Element K F → Bool
  | .face e => e.hasSupportOnFace shape face
  | .nothing _ => false
  | .foreign e => ElementFamily.hasSupportOnFace e shape face

/-- Elements of different degrees of this kind can be constrained. -/
def hpConstraintsImplemented : Element K F → Bool
  | .face _ => true
  | .nothing _ => true
  | .foreign e => ElementFamily.hpConstraintsImplemented e

/-- Which of two elements dominates on a common face.  The element without dofs
asks for nothing, whatever its partner; a face element compares itself only to
elements of its own dimension. -/
def compare [FaceComparison K F] (this other : Element K F) : Except Error Domination :=
  match this, other with
  | .face e, .face f =>
      if f.dim = e.dim then .ok (.ofDegrees e.degree f.degree)
      else .error (.incomparable this.name other.name)
  | .face e, .nothing f =>
      if f.dim = e.dim then .ok .noRequirements
      else .error (.incomparable this.name other.name)
  | .face _, .foreign _ => .error (.incomparable this.name other.name)
  | .nothing _, _ => .ok .noRequirements
  | .foreign e, _ => FaceComparison.compare e other

end Element

end FacetElements
