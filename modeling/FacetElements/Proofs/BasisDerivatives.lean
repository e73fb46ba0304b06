import FacetElements.Proofs.Interpolation

/-!
# Derivatives of basis functions

The derivative of a product of ratios is found by the product rule, one factor
at a time.  It is the derivative of the basis polynomial, so the derivatives of
the basis functions add up as the functions do: weighted by the values of a
polynomial of small degree at the nodes, to the derivative of that polynomial.
-/

namespace FacetElements

open Polynomial

/-! ## Products -/

theorem foldl_mul_eq_mul_prod {M : Type} [Monoid M] (c : M) (xs : List M) :
    xs.foldl (· * ·) c = c * xs.prod := by
  induction xs generalizing c with
  | nil =>
      simp
  | cons x xs ih =>
      rw [List.foldl_cons, ih, List.prod_cons, mul_assoc]

variable {K : Type} [Field K]

theorem derivative_prod_map {α : Type} (factor : α → K[X]) (zeros : List α) :
    derivative (zeros.map factor).prod =
      ((List.finRange zeros.length).map fun k : Fin zeros.length =>
        ((zeros.eraseIdx k).map factor).prod * derivative (factor zeros[k])).sum := by
  induction zeros with
  | nil =>
      simp
  | cons y rest ih =>
      have hsplit : List.finRange (y :: rest).length =
          (0 : Fin (rest.length + 1)) :: (List.finRange rest.length).map Fin.succ :=
        List.finRange_succ
      rw [List.map_cons, List.prod_cons, derivative_mul, ih, hsplit, List.map_cons,
        List.sum_cons, List.map_map, ← List.sum_map_mul_left]
      apply congrArg₂ (· + ·)
      · simp [mul_comm]
      · apply congrArg List.sum
        apply List.map_congr_left
        intro k _
        simp [mul_assoc]

namespace LagrangeBasis

theorem eval_derivative_basisPolynomial
    (basis : LagrangeBasis K) (i : Fin basis.size) (x : K) :
    (Polynomial.derivative (basis.basisPolynomial i)).eval x = basis.basisDerivative i x := by
  rw [basisPolynomial, derivative_prod_map, eval_listSum, List.map_map, basisDerivative,
    sumLeft_eq_sum]
  congr 1
  apply List.map_congr_left
  intro k _
  have hratios : (((basis.zerosOf i).eraseIdx k).map fun y =>
      (X - C y) * C (basis.node i - y)⁻¹).map (eval x) =
        basis.ratios i x ((basis.zerosOf i).eraseIdx k) := by
    simp [ratios, div_eq_mul_inv, Function.comp_def]
  rw [Function.comp_apply, eval_mul, eval_list_prod, hratios, foldl_mul_eq_mul_prod, mul_comm]
  simp [div_eq_mul_inv]

/-- The derivatives of the basis functions, weighted by the values of a
polynomial of small degree, add up to its derivative. -/
theorem sum_eval_node_mul_basisDerivative
    (basis : LagrangeBasis K) (hnodes : basis.nodes.Nodup)
    {p : K[X]} (hp : p.degree < basis.size) (x : K) :
    ∑ k, p.eval (basis.node k) * basis.basisDerivative k x = (Polynomial.derivative p).eval x := by
  have hsum := congrArg (fun q => (Polynomial.derivative q).eval x)
    (basis.sum_eval_node_smul_basisPolynomial hnodes hp)
  simpa [derivative_sum, eval_finsetSum, eval_derivative_basisPolynomial] using hsum

theorem sum_basisDerivative
    {basis : LagrangeBasis K} (hnodes : basis.nodes.Nodup) (hsize : 0 < basis.size) (x : K) :
    ∑ k, basis.basisDerivative k x = 0 := by
  have hone : (1 : K[X]).degree < basis.size := by
    rw [degree_one]
    exact_mod_cast hsize
  simpa using basis.sum_eval_node_mul_basisDerivative hnodes hone x

end LagrangeBasis
end FacetElements
