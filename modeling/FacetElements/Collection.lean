import FacetElements.Constraint.Matrix

/-!
# Collections

An hp method assigns one element of a collection to each cell.  On a face the
dominating element is looked up, and the others are constrained to it by the
face matrices of the collection.
-/

namespace FacetElements

/-- Elements, numbered in the order in which they were added. -/
structure Collection (K F : Type) where
  elements : Array (Element K F)

namespace Collection

variable {K F : Type}

def empty : Collection K F := ⟨#[]⟩

def size (c : Collection K F) : Nat :=
  c.elements.size

def isEmpty (c : Collection K F) : Bool :=
  c.elements.isEmpty

def get? (c : Collection K F) (i : Nat) : Option (Element K F) :=
  c.elements[i]?

/-- Adds an element.  Its number is the former size. -/
def push (c : Collection K F) (e : Element K F) : Collection K F :=
  ⟨c.elements.push e⟩

def names [ElementFamily F] (c : Collection K F) : List String :=
  c.elements.toList.map Element.name

section Domination

variable [ElementFamily F] [FaceComparison K F]

def compare? (c : Collection K F) (i j : Nat) : Option (Except Error Domination) := do
  return (← c.get? i).compare (← c.get? j)

/-- The first element may be taken to dominate the second. -/
def MayDominate (c : Collection K F) (i j : Nat) : Prop :=
  match c.compare? i j with
  | some (.ok d) => d.Admits
  | _ => False

instance (c : Collection K F) (i j : Nat) : Decidable (c.MayDominate i j) := by
  unfold MayDominate
  split <;> infer_instance

/-- The first listed element that may dominate every other listed one, provided
that all of them exist. -/
def dominating? (c : Collection K F) (indices : List Nat) : Option Nat :=
  if indices.all (· < c.size) then
    indices.find? fun i => indices.all fun j => j = i ∨ c.MayDominate i j
  else
    none

end Domination

/-! ## Face matrices -/

def faceElements (c : Collection K F) : List (Nat × FaceElement K) :=
  c.elements.toList.zipIdx.filterMap fun
    | (.face e, i) => some (i, e)
    | _ => none

/-- A target and a source, both with their numbers. -/
abbrev Pair (K : Type) := (Nat × FaceElement K) × (Nat × FaceElement K)

/-- The pairs of face elements of one dimension in which the target has no more
dofs on a face than the source, by target and then by source. -/
def pairs (c : Collection K F) : List (Pair K) :=
  c.faceElements.flatMap fun target =>
    (c.faceElements.filter fun source =>
      target.2.dim = source.2.dim ∧ target.2.dofsPerFace ≤ source.2.dofsPerFace).map
        fun source => (target, source)

/-- The face matrix of every pair, found by the numbers of target and source. -/
def faceMatrices [Zero K] [One K] [OfNat K 2] [NatCast K] [Neg K] [Add K] [Sub K] [Mul K]
    [Div K] [LT K] [DecidableLT K] [LE K] [DecidableLE K] [ScalarText K] [ElementFamily F]
    (tolerance : Tolerance K) (c : Collection K F) :
    Except Error (List ((Nat × Nat) × Table K)) :=
  c.pairs.mapM fun pair => do
    let source : Element K F := .face pair.2.2
    let matrix ← Constraint.faceMatrix tolerance pair.1.2 source
    return ((pair.1.1, pair.2.1), matrix)

end Collection

end FacetElements
