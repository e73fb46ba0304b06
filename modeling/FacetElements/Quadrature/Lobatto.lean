import FacetElements.Error
import FacetElements.Polynomial.Legendre
import FacetElements.Quadrature.Rule

/-!
# Gauss-Lobatto rules

The rule with `n + 1` points uses the ends of the interval and the roots of the
derivative of the Legendre polynomial of degree `n`.  The roots below the
middle are found by Newton's method on `[-1, 1]`; the rest of the rule on
`[0, 1]` is their reflection about `1 / 2`, so it is symmetric whatever the
iteration returns.

A rule is asked for by a number of points, nodes by a degree.  The degree is a
machine word and so is its successor, so the largest degree asks for no points.
-/

namespace FacetElements

namespace Lobatto

variable {K : Type} [Zero K] [One K] [OfNat K 2] [NatCast K] [Add K] [Sub K] [Mul K] [Div K]
variable [Neg K] [OfScientific K] [LT K] [DecidableLT K]

def maxSteps : Nat := 100

/-- The number by which values are scaled.  No machine word holds it from the degree
`2 ^ 32` on, but with so many abscissae to find no rule is ever finished. -/
def scale (n : Nat) : K :=
  ((n * (n + 1) : Nat) : K)

/-- What Newton's method adds to `x` on its way to a root of
`(1 - x ^ 2) P' n`. -/
def newtonUpdate (n : Nat) (x : K) : K :=
  let (value, slope) := legendre n x
  (1 - x * x) * slope / (scale n * value)

/-- Newton's method from `x`: it ends after a step of no significant size. -/
def newton (n : Nat) : (steps : Nat) → K → K
  | 0, x => x
  | steps + 1, x =>
      let update := newtonUpdate n x
      if magnitude update < 1e-15 then x + update else newton n steps (x + update)

/-- The abscissa with number `j` on `[-1, 1]`, from the left. -/
def abscissa [Cosine K] (n j : Nat) : K :=
  if j = 0 then -1
  else newton n maxSteps (-(Cosine.cos (Cosine.pi * (j : K) / (n : K))))

def weightAt (n : Nat) (x : K) : K :=
  let value := (legendre n x).1
  1 / (scale n * value * value)

def toUnit (x : K) : K :=
  (x + 1) / 2

/-- The abscissae below the middle of a rule with `npoints` points. -/
def leftAbscissae [Cosine K] (npoints : Nat) : List K :=
  (List.range (npoints / 2)).map (abscissa (npoints - 1))

/-- The points on `[0, 1]`; a single point is the middle. -/
def points [Cosine K] (npoints : Nat) : List K :=
  let left := (leftAbscissae npoints).map toUnit
  let middle := if npoints % 2 = 1 then [0.5] else []
  left ++ middle ++ (left.map (1 - ·)).reverse

def weights [Cosine K] (npoints : Nat) : List K :=
  let left := (leftAbscissae npoints).map (weightAt (npoints - 1))
  let middle := if npoints % 2 = 1 then [weightAt (npoints - 1) (0 : K)] else []
  left ++ middle ++ left.reverse

def rule [Cosine K] (npoints : Nat) : Except Error (QuadratureRule K) :=
  if npoints < 2 then .error (.tooFewPoints npoints)
  else
    .ok
      { dim := 1
        order := 2 * npoints - 3
        npoints := npoints
        weights := weights npoints
        points := points npoints }

/-- The nodes on `[0, 1]` for polynomials of a degree: the middle for the degree zero,
otherwise the points of the rule with one point more than the degree. -/
def requestNodes [Cosine K] (degree : Nat) : Except Error (List K) :=
  if degree = 0 then .ok [0.5] else (rule (word (degree + 1))).map (·.points)

/-- The nodes that a request returns, if it returns any. -/
def nodes [Cosine K] (degree : Nat) : List K :=
  points (degree + 1)

@[simp] theorem length_points [Cosine K] (npoints : Nat) :
    (points npoints : List K).length = npoints := by
  by_cases h : npoints % 2 = 1 <;> simp [points, leftAbscissae, h] <;> omega

@[simp] theorem length_weights [Cosine K] (npoints : Nat) :
    (weights npoints : List K).length = npoints := by
  by_cases h : npoints % 2 = 1 <;> simp [weights, leftAbscissae, h] <;> omega

@[simp] theorem length_nodes [Cosine K] (degree : Nat) :
    (nodes degree : List K).length = degree + 1 :=
  length_points (degree + 1)

theorem requestNodes_eq
    [Cosine K] {degree : Nat} (hdegree : degree + 1 < wordBound) :
    (requestNodes degree : Except Error (List K)) = .ok (nodes degree) := by
  unfold requestNodes
  by_cases hzero : degree = 0
  · rw [if_pos hzero, hzero]
    rfl
  · have hpoints : ¬ degree + 1 < 2 := by
      omega
    rw [if_neg hzero, word_of_lt hdegree, rule, if_neg hpoints]
    rfl

theorem length_of_requestNodes
    [Cosine K] {degree : Nat} {xs : List K}
    (hrequest : requestNodes degree = .ok xs) (hdegree : degree + 1 < wordBound) :
    xs.length = degree + 1 := by
  rw [requestNodes_eq hdegree] at hrequest
  cases hrequest
  exact length_nodes degree

/-- The successor of the largest degree is zero as a machine word. -/
theorem requestNodes_eq_error
    [Cosine K] {degree : Nat} (hdegree : degree + 1 = wordBound) :
    (requestNodes degree : Except Error (List K)) = .error (.tooFewPoints 0) := by
  have hnonzero : degree ≠ 0 := by
    rintro rfl
    exact absurd hdegree (by decide)
  have hword : word (degree + 1) = 0 := by
    rw [hdegree]
    exact Nat.mod_self wordBound
  rw [requestNodes, if_neg hnonzero, hword]
  rfl

end Lobatto

end FacetElements
