import FacetElements.MachineWord
import FacetElements.Scalar

/-!
# Legendre polynomials

Values come from the recurrence
`(k + 1) P (k + 1) = (2 k + 1) x P k - k P (k - 1)`, slopes from
`(x ^ 2 - 1) P' n = n (x P n - P (n - 1))`, and at the ends of `[-1, 1]` from
the known slope `± n (n + 1) / 2`, whose product is a machine word.
-/

namespace FacetElements

variable {K : Type} [One K] [OfNat K 2] [NatCast K] [Add K] [Sub K] [Mul K] [Div K]

/-- The Legendre polynomial of degree `k + 1` at `x`, from those of degree
`k - 1` and `k`. -/
def legendreNext (x : K) (k : Nat) (before value : K) : K :=
  ((2 * (k : K) + 1) * x * value - (k : K) * before) / ((k : K) + 1)

/-- The Legendre polynomials of degree `n` and `n + 1` at `x`. -/
def legendrePair (x : K) (n : Nat) : K × K :=
  n.fold (fun m _ pair => (pair.2, legendreNext x (m + 1) pair.1 pair.2)) (1, x)

@[simp] theorem legendrePair_zero (x : K) : legendrePair x 0 = (1, x) := rfl

theorem legendrePair_succ (x : K) (n : Nat) :
    legendrePair x (n + 1) =
      ((legendrePair x n).2,
        legendreNext x (n + 1) (legendrePair x n).1 (legendrePair x n).2) := by
  simp [legendrePair, Nat.fold_succ]

variable [Zero K] [Neg K] [OfScientific K] [LT K] [DecidableLT K]

/-- The Legendre polynomial of degree `n` at `x`, and its derivative there. -/
def legendre (n : Nat) (x : K) : K × K :=
  match n with
  | 0 => (1, 0)
  | m + 1 =>
      let pair := legendrePair x m
      let slope :=
        if magnitude (1 - x * x) < 1e-14 then
          let sign : K := if 0 < x ∨ n % 2 = 1 then 1 else -1
          sign * (word (n * (n + 1)) : K) / 2
        else
          (n : K) * (x * pair.2 - pair.1) / (x * x - 1)
      (pair.2, slope)

end FacetElements
