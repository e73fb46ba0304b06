/-!
# Scalars

The numeric part of this library is written once, over any type with the
operations a definition uses.  Binary64 numbers give the running program, an
ordered field gives its exact meaning.  No law is assumed here: sums and
products are folds from the left, so their value is fixed also where addition
and multiplication do not associate.
-/

namespace FacetElements

variable {K : Type}

/-- The circle constant and the cosine, used for the first guess at an
abscissa. -/
class Cosine (K : Type) where
  pi : K
  cos : K → K

/-- The decimal text of a scalar, as it stands in messages. -/
class ScalarText (K : Type) where
  text : K → String

/-- The sum from zero, added from left to right. -/
def sumLeft [Zero K] [Add K] (xs : List K) : K :=
  xs.foldl (· + ·) 0

/-- The product from one, multiplied from left to right. -/
def prodLeft [One K] [Mul K] (xs : List K) : K :=
  xs.foldl (· * ·) 1

@[simp] theorem sumLeft_nil [Zero K] [Add K] : sumLeft ([] : List K) = 0 := rfl

@[simp] theorem prodLeft_nil [One K] [Mul K] : prodLeft ([] : List K) = 1 := rfl

def magnitude [Zero K] [Neg K] [LT K] [DecidableLT K] (x : K) : K :=
  if x < 0 then -x else x

/-- Two scalars differ by no more than `eps`.  Nothing is near a value that
compares with no other, and nothing is near anything for a negative `eps`. -/
def Near [Zero K] [Neg K] [Sub K] [LT K] [DecidableLT K] [LE K] (eps a b : K) : Prop :=
  magnitude (a - b) ≤ eps

instance [Zero K] [Neg K] [Sub K] [LT K] [DecidableLT K] [LE K] [DecidableLE K]
    (eps a b : K) : Decidable (Near eps a b) :=
  inferInstanceAs (Decidable (_ ≤ _))

/-- One bit of a number as a scalar. -/
def bitScalar [Zero K] [One K] (n k : Nat) : K :=
  if n.testBit k then 1 else 0

instance natCastFloat : NatCast Float := ⟨Float.ofNat⟩

instance : Cosine Float where
  pi := 3.141592653589793
  cos := Float.cos

end FacetElements
