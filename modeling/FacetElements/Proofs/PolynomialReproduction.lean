import FacetElements.Proofs.BasisNumbering
import FacetElements.Proofs.Interpolation
import FacetElements.Proofs.Traversal
import Mathlib.Algebra.MvPolynomial.Degrees
import Mathlib.Algebra.MvPolynomial.Polynomial

/-!
# Polynomials reproduced by interpolation

The interpolant of a function in several variables combines the basis functions
with the values of the function at the grid points, number by number.  On a line
along an axis a polynomial in several variables is one in the coordinate, of the
degree it has in that variable.  So every polynomial whose degree in each variable
is below the number of nodes is its own interpolant.
-/

namespace FacetElements

variable {K : Type}

/-! ## Polynomials in several variables -/

section Polynomials

variable [Field K] {N dim : ℕ}

/-- A polynomial at a point.  Coordinates that the point lacks are zero. -/
noncomputable def pointValue (q : MvPolynomial (Fin dim) K) (point : List K) : K :=
  MvPolynomial.eval (fun k : Fin dim => point.getD k 0) q

open Polynomial in
/-- A polynomial on the line through a point along an axis. -/
noncomputable def lineValue
    (q : MvPolynomial (Fin dim) K) (point : List K) (axis : Fin dim) : K[X] :=
  q.eval₂ C fun k => if k = axis then X else C (point.getD k 0)

theorem getD_set_eq_ite
    {point : List K} (hpoint : point.length = dim) (axis k : Fin dim) (t : K) :
    (point.set axis t).getD k 0 = if k = axis then t else point.getD k 0 := by
  have haxis : axis < point.length := by
    rw [hpoint]
    exact axis.isLt
  by_cases hk : k = axis
  · rw [if_pos hk, hk, List.getD_eq_getElem?_getD, List.getElem?_set_self haxis]
    rfl
  · have hne : (axis : ℕ) ≠ k := fun heq => hk (Fin.ext heq.symm)
    rw [if_neg hk, List.getD_eq_getElem?_getD, List.getElem?_set_ne hne,
      List.getD_eq_getElem?_getD]

theorem eval_lineValue
    (q : MvPolynomial (Fin dim) K) {point : List K} (hpoint : point.length = dim)
    (axis : Fin dim) (t : K) :
    (lineValue q point axis).eval t = pointValue q (point.set axis t) := by
  have hconst : (Polynomial.evalRingHom t).comp Polynomial.C = RingHom.id K := by
    ext a
    simp
  have hcoordinate : ∀ k : Fin dim,
      (if k = axis then Polynomial.X else Polynomial.C (point.getD k 0)).eval t =
        (point.set axis t).getD k 0 := by
    intro k
    rw [getD_set_eq_ite hpoint, apply_ite (Polynomial.eval t), Polynomial.eval_X,
      Polynomial.eval_C]
  rw [lineValue, MvPolynomial.polynomial_eval_eval₂, hconst]
  simp only [hcoordinate]
  rfl

open Polynomial in
theorem natDegree_lineValue_le
    (q : MvPolynomial (Fin dim) K) (point : List K) (axis : Fin dim) :
    (lineValue q point axis).natDegree ≤ q.degreeOf axis := by
  -- Only the variable of the axis is left, the others have become constants.
  have hfactor : ∀ k : Fin dim,
      (if k = axis then X else C (point.getD k 0)).natDegree ≤ if k = axis then 1 else 0 := by
    intro k
    by_cases hk : k = axis
    · simp [hk]
    · simp [hk]
  rw [lineValue, MvPolynomial.eval₂_eq']
  apply natDegree_sum_le_of_forall_le
  intro m hm
  calc (C (q.coeff m) * ∏ k, (if k = axis then X else C (point.getD k 0)) ^ m k).natDegree
    _ ≤ (∏ k, (if k = axis then X else C (point.getD k 0)) ^ m k).natDegree :=
        natDegree_C_mul_le _ _
    _ ≤ ∑ k, ((if k = axis then X else C (point.getD k 0)) ^ m k).natDegree :=
        natDegree_prod_le _ _
    _ ≤ ∑ k, m k * if k = axis then 1 else 0 :=
        Finset.sum_le_sum fun k _ =>
          natDegree_pow_le.trans (Nat.mul_le_mul_left (m k) (hfactor k))
    _ = m axis := by simp
    _ ≤ q.degreeOf axis := MvPolynomial.monomial_le_degreeOf axis hm

theorem degreeBelow_pointValue
    {q : MvPolynomial (Fin dim) K} (hq : ∀ axis, q.degreeOf axis < N) :
    DegreeBelow N dim (pointValue q) := by
  intro point hpoint axis haxis
  have hdegree := natDegree_lineValue_le q point ⟨axis, haxis⟩
  refine ⟨lineValue q point ⟨axis, haxis⟩, ?_, ?_⟩
  · exact Polynomial.degree_le_natDegree.trans_lt
      (Nat.cast_lt.mpr (hdegree.trans_lt (hq ⟨axis, haxis⟩)))
  · intro t
    exact (eval_lineValue q hpoint ⟨axis, haxis⟩ t).symm

end Polynomials

/-! ## Interpolants -/

namespace TensorSpace

open MultiIndex

/-- The sum of all basis functions at a point, each with the value of a function at
its grid point. -/
def interpolate
    [Zero K] [One K] [Add K] [Sub K] [Mul K] [Div K]
    (space : TensorSpace K) (f : List K → K) (point : List K) : Except Error K := do
  let terms ← (List.range (space.basis.size ^ space.dim)).mapM fun i => do
    return f (space.gridPoint (← space.indices i)) * (← space.value i point)
  return sumLeft terms

section Field

variable [Field K]

/-- What a function of a space contributes to its interpolant. -/
theorem interpolate_term
    (space : TensorSpace K) (hpos : 0 < space.basis.size) (f : List K → K)
    {point : List K} (hpoint : point.length = space.dim) {i : ℕ} (hi : i < space.size) :
    (do return f (space.gridPoint (← space.indices i)) * (← space.value i point)) =
      Except.ok (f (space.gridPoint (digits hpos space.dim i)) *
        space.basisValue (digits hpos space.dim i) point) := by
  rw [space.indices_eq hpos hi, space.value_eq hpos hi hpoint]
  rfl

theorem interpolate_eq
    (space : TensorSpace K) (hpos : 0 < space.basis.size)
    (hfits : space.basis.size ^ space.dim < 2 ^ 64) (f : List K → K)
    {point : List K} (hpoint : point.length = space.dim) :
    space.interpolate f point =
      .ok ((space.allIndices.map fun ix =>
        f (space.gridPoint ix) * space.basisValue ix point).sum) := by
  have hterms : ∀ i ∈ List.range (space.basis.size ^ space.dim),
      (do return f (space.gridPoint (← space.indices i)) * (← space.value i point)) =
        Except.ok (f (space.gridPoint (digits hpos space.dim i)) *
          space.basisValue (digits hpos space.dim i) point) := by
    intro i hi
    apply space.interpolate_term hpos f hpoint
    rw [space.size_eq_of_fits hpos hfits]
    exact List.mem_range.mp hi
  have hall : space.allIndices =
      (List.range (space.basis.size ^ space.dim)).map (digits hpos space.dim) :=
    all_eq_map_digits hpos space.dim
  unfold interpolate
  rw [mapM_eq_ok hterms, hall, List.map_map, ← sumLeft_eq_sum]
  rfl

/-- With more products than a machine word counts, the space counts some of them only, and
the first that it does not count is refused. -/
theorem interpolate_eq_error
    (space : TensorSpace K) (hpos : 0 < space.basis.size)
    (hlarge : 2 ^ 64 ≤ space.basis.size ^ space.dim) (f : List K → K)
    {point : List K} (hpoint : point.length = space.dim) :
    space.interpolate f point =
      .error (.indexOutOfRange .basisFunction space.size space.size) := by
  have hcounted : space.size < space.basis.size ^ space.dim := (word_lt _).trans_le hlarge
  obtain ⟨later, hnumbers⟩ : ∃ later,
      List.range (space.basis.size ^ space.dim) = List.range space.size ++ space.size :: later := by
    obtain ⟨rest, hrest⟩ := Nat.exists_eq_add_of_lt hcounted
    rw [hrest, Nat.add_assoc, List.range_add, List.range_succ_eq_map, List.map_cons, Nat.add_zero]
    exact ⟨_, rfl⟩
  have hterms : ∀ i ∈ List.range space.size, ∃ term,
      (do return f (space.gridPoint (← space.indices i)) * (← space.value i point)) =
        Except.ok term := by
    intro i hi
    exact ⟨_, space.interpolate_term hpos f hpoint (List.mem_range.mp hi)⟩
  have hfirst : (do
      return f (space.gridPoint (← space.indices space.size)) *
        (← space.value space.size point)) =
      Except.error (.indexOutOfRange .basisFunction space.size space.size) := by
    rw [space.indices_eq_error le_rfl]
    rfl
  unfold interpolate
  rw [hnumbers, mapM_eq_error hterms hfirst]
  rfl

/-- A polynomial whose degree in each variable is below the number of nodes is the
sum of the basis functions weighted by its values at the grid points, as long as a machine
word counts these functions.  Otherwise some of them cannot be asked for. -/
theorem interpolate_polynomial
    (space : TensorSpace K)
    (hnonempty : space.basis.nodes ≠ []) (hnodes : space.basis.nodes.Nodup)
    {q : MvPolynomial (Fin space.dim) K} (hq : ∀ axis, q.degreeOf axis < space.basis.size)
    {point : List K} (hpoint : point.length = space.dim) :
    (space.basis.size ^ space.dim < 2 ^ 64 →
      space.interpolate (pointValue q) point = .ok (pointValue q point)) ∧
    (2 ^ 64 ≤ space.basis.size ^ space.dim →
      space.interpolate (pointValue q) point =
        .error (.indexOutOfRange .basisFunction space.size space.size)) := by
  have hpos : 0 < space.basis.size := List.length_pos_iff.mpr hnonempty
  refine ⟨?_, fun hlarge => space.interpolate_eq_error hpos hlarge _ hpoint⟩
  intro hfits
  have hsum := space.sum_gridPoint_mul_basisValue hnodes (degreeBelow_pointValue hq) hpoint
  rw [space.interpolate_eq hpos hfits _ hpoint]
  exact congrArg Except.ok hsum

end Field

theorem interpolate_polynomial_quadratic :
    ∃ q : MvPolynomial (Fin 2) ℚ,
      q = MvPolynomial.X 0 ^ 2 * MvPolynomial.X 1 ∧
      [(0 : ℚ), 1 / 5, 1] ≠ [] ∧ [(0 : ℚ), 1 / 5, 1].Nodup ∧ 3 ^ 2 < 2 ^ 64 ∧
      (∀ axis, q.degreeOf axis < 3) ∧
      (⟨⟨[0, 1 / 5, 1]⟩, 2⟩ : TensorSpace ℚ).interpolate (pointValue q) [1 / 3, 7] =
        .ok (pointValue q [1 / 3, 7]) ∧
      pointValue q [1 / 3, 7] = 7 / 9 := by
  let q : MvPolynomial (Fin 2) ℚ := MvPolynomial.X 0 ^ 2 * MvPolynomial.X 1
  have hnonempty : [(0 : ℚ), 1 / 5, 1] ≠ [] := List.cons_ne_nil _ _
  have hnodes : [(0 : ℚ), 1 / 5, 1].Nodup := by
    norm_num
  have hfits : 3 ^ 2 < 2 ^ 64 := by
    norm_num
  have hq : ∀ axis, q.degreeOf axis < 3 := by
    intro axis
    have hproduct : q.degreeOf axis ≤ (MvPolynomial.X 0 ^ 2 : MvPolynomial (Fin 2) ℚ).degreeOf
        axis + (MvPolynomial.X 1 : MvPolynomial (Fin 2) ℚ).degreeOf axis :=
      MvPolynomial.degreeOf_mul_le axis _ _
    have hsquare := MvPolynomial.degreeOf_pow_le axis (MvPolynomial.X 0 : MvPolynomial (Fin 2) ℚ) 2
    rw [MvPolynomial.degreeOf_X] at hproduct hsquare
    split_ifs at hproduct hsquare <;> omega
  refine ⟨q, rfl, hnonempty, hnodes, hfits, hq, ?_, ?_⟩
  · exact (interpolate_polynomial ⟨⟨[0, 1 / 5, 1]⟩, 2⟩ hnonempty hnodes hq rfl).1 hfits
  · norm_num [q, pointValue]

/-- Two nodes in so many variables that the exponent is cut to zero. -/
def miscountedSpace : TensorSpace ℚ := ⟨⟨[0, 1]⟩, 4294967296⟩

/-- Of the functions of this space one is counted, and the constant function one is not
interpolated. -/
theorem miscountedSpace_does_not_interpolate :
    miscountedSpace.basis.nodes ≠ [] ∧ miscountedSpace.basis.nodes.Nodup ∧
    (∀ axis, (1 : MvPolynomial (Fin 4294967296) ℚ).degreeOf axis < miscountedSpace.basis.size) ∧
    (List.replicate 4294967296 (0 : ℚ)).length = miscountedSpace.dim ∧
    miscountedSpace.interpolate (pointValue (1 : MvPolynomial (Fin 4294967296) ℚ))
        (List.replicate 4294967296 0) =
      .error (.indexOutOfRange .basisFunction 1 1) := by
  have hnodes : miscountedSpace.basis.nodes = [0, 1] := rfl
  have hsize : miscountedSpace.basis.size = 2 := rfl
  have hcounted : miscountedSpace.size = 1 := rfl
  have hdim : 64 ≤ miscountedSpace.dim := by
    change 64 ≤ 4294967296
    norm_num
  have hlarge : 2 ^ 64 ≤ miscountedSpace.basis.size ^ miscountedSpace.dim := by
    rw [hsize]
    exact Nat.pow_le_pow_right Nat.two_pos hdim
  have hpoint : (List.replicate 4294967296 (0 : ℚ)).length = miscountedSpace.dim :=
    List.length_replicate
  refine ⟨List.cons_ne_nil _ _, by norm_num [hnodes], ?_, hpoint, ?_⟩
  · intro axis
    rw [← MvPolynomial.C_1, MvPolynomial.degreeOf_C]
    exact Nat.two_pos
  · have hrefused := miscountedSpace.interpolate_eq_error Nat.two_pos hlarge
      (pointValue (1 : MvPolynomial (Fin 4294967296) ℚ)) hpoint
    rwa [hcounted] at hrefused

end TensorSpace
end FacetElements
