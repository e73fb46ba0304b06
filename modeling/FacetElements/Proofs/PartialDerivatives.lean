import FacetElements.Proofs.BasisDerivatives
import FacetElements.Proofs.FaceTabulation
import FacetElements.Proofs.RationalElements
import Mathlib.Algebra.Field.ZMod
import Mathlib.Algebra.Polynomial.Taylor

/-!
# Gradients are derivatives of values

On the line through a point along an axis, a basis function is a polynomial in the
shift, of degree below the number of nodes.  So many nodes determine it, and its linear
coefficient is the derivative.  In a product along the axes one factor depends on the
shift, and it is the one that the gradient differentiates.
-/

namespace FacetElements

open Polynomial

variable {K : Type} [Field K]

/-! ## Expansions in a shift -/

/-- The answers for all shifts are the values of a polynomial of degree below `N`. -/
structure Expands (N : ℕ) (answer : K → Except Error K) (p : K[X]) : Prop where
  degree_lt : p.degree < N
  eval_eq : ∀ h, answer h = .ok (p.eval h)

/-- One polynomial of degree below `N`, and no other, gives the answers for all shifts, and
this is its linear coefficient. -/
def IsSlope (N : ℕ) (answer : K → Except Error K) (slope : K) : Prop :=
  ∃ p, Expands N answer p ∧ (∀ q, Expands N answer q → q = p) ∧ p.coeff 1 = slope

/-- Along every axis the function has the given component as its slope at the point. -/
structure IsGradient
    (N : ℕ) (f : List K → Except Error K) (point components : List K) : Prop where
  length_eq : components.length = point.length
  isSlope : ∀ axis < point.length, ∃ slope, components[axis]? = some slope ∧
    IsSlope N (fun h => f (point.modify axis (· + h))) slope

namespace LagrangeBasis

/-- A polynomial of degree below the number of nodes is determined by its values: by
those at the nodes, or by all if there are infinitely many. -/
theorem eq_of_eval_eq
    {basis : LagrangeBasis K} (hnodes : basis.nodes.Nodup ∨ Infinite K) {p q : K[X]}
    (hp : p.degree < basis.size) (hq : q.degree < basis.size)
    (heval : ∀ x, p.eval x = q.eval x) : p = q := by
  rcases hnodes with hdistinct | hinfinite
  · rw [← basis.sum_eval_node_smul_basisPolynomial hdistinct hp,
      ← basis.sum_eval_node_smul_basisPolynomial hdistinct hq]
    simp only [heval]
  · exact Polynomial.funext heval

theorem isSlope_coeff_one
    {basis : LagrangeBasis K} (hnodes : basis.nodes.Nodup ∨ Infinite K)
    {answer : K → Except Error K} {p : K[X]} (hp : p.degree < basis.size)
    (heval : ∀ h, answer h = .ok (p.eval h)) : IsSlope basis.size answer (p.coeff 1) := by
  refine ⟨p, ⟨hp, heval⟩, ?_, rfl⟩
  rintro q ⟨hq, hvalues⟩
  apply eq_of_eval_eq hnodes hq hp
  intro h
  have hsame := (hvalues h).symm.trans (heval h)
  exact Except.ok.inj hsame

/-- A basis function around `x`, as a polynomial in the shift. -/
noncomputable def expansion (basis : LagrangeBasis K) (i : Fin basis.size) (x : K) : K[X] :=
  taylor x (basis.basisPolynomial i)

theorem degree_expansion_lt (basis : LagrangeBasis K) (i : Fin basis.size) (x : K) :
    (basis.expansion i x).degree < basis.size := by
  rw [expansion, degree_taylor]
  exact basis.degree_basisPolynomial_lt i

theorem eval_expansion (basis : LagrangeBasis K) (i : Fin basis.size) (x h : K) :
    (basis.expansion i x).eval h = basis.basisValue i (x + h) := by
  rw [expansion, taylor_eval, eval_basisPolynomial, add_comm]

theorem coeff_one_expansion (basis : LagrangeBasis K) (i : Fin basis.size) (x : K) :
    (basis.expansion i x).coeff 1 = basis.basisDerivative i x := by
  rw [expansion, taylor_coeff_one, eval_derivative_basisPolynomial]

theorem exists_isSlope_derivative
    (basis : LagrangeBasis K) (hnodes : basis.nodes.Nodup ∨ Infinite K) {i : ℕ}
    (hi : i < basis.size) (x : K) :
    ∃ slope, basis.derivative i x = .ok slope ∧
      IsSlope basis.size (fun h => basis.value i (x + h)) slope := by
  have hindex : basis.index i = .ok ⟨i, hi⟩ := dif_pos hi
  refine ⟨basis.basisDerivative ⟨i, hi⟩ x, ?_, ?_⟩
  · rw [derivative, hindex]
    rfl
  · rw [← coeff_one_expansion]
    apply isSlope_coeff_one hnodes (basis.degree_expansion_lt _ x)
    intro h
    rw [value, hindex, eval_expansion]
    rfl

end LagrangeBasis

/-! ## Products -/

namespace TensorSpace

open MultiIndex

theorem basisPartial_cons_zero
    (space : TensorSpace K) (k : Fin space.basis.size) (ix : MultiIndex space.basis.size)
    (x : K) (xs : List K) :
    space.basisPartial (k :: ix) (x :: xs) 0 =
      space.basis.basisDerivative k x * space.basisValue ix xs := by
  have hothers : ((ix.zip xs).mapIdx fun _ factor => space.basis.basisValue factor.1 factor.2) =
      List.zipWith space.basis.basisValue ix xs := by
    apply List.ext_getElem
    · simp
    · simp
  simp [basisPartial, basisValue, prodLeft_eq_prod, List.mapIdx_cons, hothers]

theorem basisPartial_cons_succ
    (space : TensorSpace K) (k : Fin space.basis.size) (ix : MultiIndex space.basis.size)
    (x : K) (xs : List K) (axis : ℕ) :
    space.basisPartial (k :: ix) (x :: xs) (axis + 1) =
      space.basis.basisValue k x * space.basisPartial ix xs axis := by
  simp [basisPartial, prodLeft_eq_prod, List.mapIdx_cons]

theorem exists_expansion
    (space : TensorSpace K) {ix : MultiIndex space.basis.size} {point : List K}
    (hlength : ix.length = point.length) {axis : ℕ} (haxis : axis < point.length) :
    ∃ p : K[X], p.degree < space.basis.size ∧
      (∀ h, space.basisValue ix (point.modify axis (· + h)) = p.eval h) ∧
      p.coeff 1 = space.basisPartial ix point axis := by
  induction ix generalizing point axis with
  | nil =>
      rw [← hlength] at haxis
      exact absurd haxis (Nat.not_lt_zero axis)
  | cons k ix ih =>
      cases point with
      | nil =>
          exact absurd haxis (Nat.not_lt_zero axis)
      | cons x xs =>
          have hrest : ix.length = xs.length := Nat.succ.inj hlength
          cases axis with
          | zero =>
              refine ⟨space.basisValue ix xs • space.basis.expansion k x, ?_, ?_, ?_⟩
              · exact (degree_smul_le _ _).trans_lt (space.basis.degree_expansion_lt k x)
              · intro h
                rw [List.modify_zero_cons, basisValue_cons, eval_smul, smul_eq_mul,
                  LagrangeBasis.eval_expansion, mul_comm]
              · rw [coeff_smul, smul_eq_mul, LagrangeBasis.coeff_one_expansion,
                  basisPartial_cons_zero, mul_comm]
          | succ axis =>
              rcases ih hrest (Nat.lt_of_succ_lt_succ haxis) with ⟨p, hp, heval, hcoeff⟩
              refine ⟨space.basis.basisValue k x • p, ?_, ?_, ?_⟩
              · exact (degree_smul_le _ _).trans_lt hp
              · intro h
                rw [List.modify_succ_cons, basisValue_cons, heval, eval_smul, smul_eq_mul]
              · rw [coeff_smul, smul_eq_mul, hcoeff, basisPartial_cons_succ]

theorem isGradient_basisPartial
    (space : TensorSpace K) (hnodes : space.basis.nodes.Nodup ∨ Infinite K)
    {f : List K → Except Error K} {ix : MultiIndex space.basis.size} {point : List K}
    (hlength : ix.length = point.length)
    (hf : ∀ x : List K, x.length = point.length → f x = .ok (space.basisValue ix x)) :
    IsGradient space.basis.size f point
      ((List.range point.length).map (space.basisPartial ix point)) where
  length_eq := by
    simp
  isSlope := by
    intro axis haxis
    rcases space.exists_expansion hlength haxis with ⟨p, hp, heval, hcoeff⟩
    refine ⟨space.basisPartial ix point axis, by simp [haxis], ?_⟩
    rw [← hcoeff]
    apply LagrangeBasis.isSlope_coeff_one hnodes hp
    intro h
    rw [hf _ (List.length_modify _ _ _), heval]

theorem exists_isGradient
    (space : TensorSpace K) (hnodes : space.basis.nodes.Nodup ∨ Infinite K)
    (hdim : space.basis.nodes = [] → space.dim < 2 ^ 32) {i : ℕ} (hi : i < space.size)
    {point : List K} (hpoint : point.length = space.dim) :
    ∃ components, space.gradient i point = .ok components ∧
      IsGradient space.basis.size (space.value i) point components := by
  rcases space.exists_index hdim with ⟨index, hindex⟩
  rcases hindex i hi with ⟨hmem, hnumber⟩
  have hlength : (index i).length = point.length := by
    rw [hpoint]
    exact length_of_mem_all (List.mem_of_getElem? hmem)
  refine ⟨_, space.gradient_eq_of_index hi hnumber hpoint, ?_⟩
  rw [← hpoint]
  apply space.isGradient_basisPartial hnodes hlength
  intro x hx
  exact space.value_eq_of_index hi hnumber (hx.trans hpoint)

omit [Field K] in
theorem ofNumber_of_nodes_eq_nil
    {space : TensorSpace K} (hempty : space.basis.nodes = []) (hdim : 0 < space.dim) (i : ℕ) :
    ofNumber space.basis.size space.dim i = .error .emptyBasis :=
  ofNumber_eq_error_iff.mpr ⟨List.length_eq_zero_iff.mpr hempty, hdim.ne', rfl⟩

theorem value_gradient_of_nodes_eq_nil
    {space : TensorSpace K} (hempty : space.basis.nodes = []) (hdim : 0 < space.dim)
    {i : ℕ} (hi : i < space.size) {point : List K} (hpoint : point.length = space.dim) :
    space.value i point = .error .emptyBasis ∧ space.gradient i point = .error .emptyBasis := by
  unfold value gradient
  rw [ofNumber_of_nodes_eq_nil hempty hdim]
  simp only [checkNumber, hi, checkCoordinates, hpoint, if_true]
  exact ⟨rfl, rfl⟩

end TensorSpace

/-! ## Faces -/

namespace FaceElement

theorem exists_isGradient_faceShape
    (e : FaceElement K) (hnodes : e.nodes.Nodup ∨ Infinite K) {shape face : ℕ}
    (hshape : shape < e.dofsPerCell) (hface : face < 2 * e.dim)
    {point : List K} (hpoint : point.length = e.dim - 1) :
    ∃ components, e.faceShapeGradient shape face point = .ok components ∧
      IsGradient (e.degree + 1) (e.faceShapeValue shape face) point components := by
  have hvalue : ∀ x : List K, x.length = point.length →
      e.faceShapeValue shape face x = .ok (e.shapeFunction face shape x) := by
    intro x hx
    exact e.faceShapeValue_eq_shapeFunction hshape hface (hx.trans hpoint)
  refine ⟨_, e.faceShapeGradient_eq hshape hface hpoint, ?_⟩
  rw [← hpoint, ← e.size_basis_space]
  by_cases hsupport : face = shape / e.dofsPerFace
  · have hown : e.shapePartial face shape point =
        e.space.basisPartial (e.faceIndex (shape % e.dofsPerFace)) point :=
      funext fun _ => if_pos hsupport
    rw [hown]
    apply e.space.isGradient_basisPartial hnodes
    · rw [length_faceIndex, hpoint]
    · intro x hx
      rw [hvalue x hx, shapeFunction, if_pos hsupport]
      rfl
  · -- On the other faces the shape function is the zero polynomial.
    refine ⟨by simp, fun axis haxis => ⟨0, ?_, ?_⟩⟩
    · simp [haxis, shapePartial, hsupport]
    · rw [← coeff_zero 1]
      apply LagrangeBasis.isSlope_coeff_one hnodes (p := 0)
      · simp
      · intro h
        rw [hvalue _ (List.length_modify _ _ _), shapeFunction, if_neg hsupport, eval_zero]

end FaceElement

/-! ## Summary -/

/-- The derivative of a basis function, the gradient of a product of them and that of a
shape function on any face are the linear coefficients of their values in the shift.  A
basis without nodes has one product in no variables, and one by count where the exponent
is cut to none, which has neither value nor gradient. -/
theorem gradients_are_derivatives :
    (∀ basis : LagrangeBasis K, basis.nodes.Nodup ∨ Infinite K →
      ∀ i < basis.size, ∀ x, ∃ slope, basis.derivative i x = .ok slope ∧
        IsSlope basis.size (fun h => basis.value i (x + h)) slope) ∧
    (∀ space : TensorSpace K, space.basis.nodes.Nodup ∨ Infinite K →
      ∀ i < space.size, ∀ point : List K, point.length = space.dim →
        ((space.basis.nodes = [] → space.dim < 2 ^ 32) →
          ∃ components, space.gradient i point = .ok components ∧
            IsGradient space.basis.size (space.value i) point components) ∧
        (space.basis.nodes = [] → 2 ^ 32 ≤ space.dim →
          space.value i point = .error .emptyBasis ∧
            space.gradient i point = .error .emptyBasis)) ∧
    ∀ e : FaceElement K, e.nodes.Nodup ∨ Infinite K →
      ∀ shape < e.dofsPerCell, ∀ face < 2 * e.dim, ∀ point : List K, point.length = e.dim - 1 →
        ∃ components, e.faceShapeGradient shape face point = .ok components ∧
          IsGradient (e.degree + 1) (e.faceShapeValue shape face) point components := by
  refine ⟨?_, ?_, ?_⟩
  · intro basis hnodes i hi x
    exact basis.exists_isSlope_derivative hnodes hi x
  · intro space hnodes i hi point hpoint
    refine ⟨fun hdim => space.exists_isGradient hnodes hdim hi hpoint, ?_⟩
    intro hempty hdim
    exact TensorSpace.value_gradient_of_nodes_eq_nil hempty (by omega) hi hpoint
  · intro e hnodes shape hshape face hface point hpoint
    exact e.exists_isGradient_faceShape hnodes hshape hface hpoint

/-- Over three elements three nodes still determine a quadratic polynomial.  Dof 41 of
a cube belongs to face 4 and is zero on face 0. -/
theorem gradients_are_derivatives_quadratic :
    ([0, 1, 2] : List (ZMod 3)).Nodup ∧
    (∃ components, (⟨⟨[0, 1, 2]⟩, 2⟩ : TensorSpace (ZMod 3)).gradient 5 [1, 2] = .ok components ∧
      IsGradient 3 ((⟨⟨[0, 1, 2]⟩, 2⟩ : TensorSpace (ZMod 3)).value 5) [1, 2] components) ∧
    FaceElement.create 3 2 = .ok (rationalFace 2) ∧ (rationalFace 2).nodes.Nodup ∧
    ∀ face ∈ [0, 4], ∃ components,
      (rationalFace 2).faceShapeGradient 41 face [1 / 3, 7] = .ok components ∧
      IsGradient 3 ((rationalFace 2).faceShapeValue 41 face) [1 / 3, 7] components := by
  have hthree : ([0, 1, 2] : List (ZMod 3)).Nodup := by
    decide
  have hnodes := nodup_nodes_rationalFace 2
  rcases gradients_are_derivatives (K := ZMod 3) with ⟨-, hproduct, -⟩
  rcases gradients_are_derivatives (K := ℚ) with ⟨-, -, hface⟩
  refine ⟨hthree, ?_, create_rationalFace 2, hnodes, ?_⟩
  · exact (hproduct ⟨⟨[0, 1, 2]⟩, 2⟩ (.inl hthree) 5 (by decide) [1, 2] rfl).1 (by decide)
  · intro face hmem
    have hlt : face < 2 * (rationalFace 2).dim := by
      revert face
      decide
    exact hface (rationalFace 2) (.inl hnodes) 41 (by decide) face hlt [1 / 3, 7] rfl

/-- Of a basis without nodes in `2 ^ 32` variables one function is counted, which has neither
a value nor a gradient. -/
theorem emptySpace_has_no_gradient :
    TensorSpace.emptySpace.basis.nodes.Nodup ∧ 0 < TensorSpace.emptySpace.size ∧
    (List.replicate (2 ^ 32) (0 : ℚ)).length = TensorSpace.emptySpace.dim ∧
    TensorSpace.emptySpace.value 0 (List.replicate (2 ^ 32) 0) = .error .emptyBasis ∧
    TensorSpace.emptySpace.gradient 0 (List.replicate (2 ^ 32) 0) = .error .emptyBasis := by
  have hnumber : 0 < TensorSpace.emptySpace.size := by
    decide
  have hdim : 0 < TensorSpace.emptySpace.dim := by
    decide
  have hpoint : (List.replicate (2 ^ 32) (0 : ℚ)).length = TensorSpace.emptySpace.dim :=
    List.length_replicate
  exact ⟨List.nodup_nil, hnumber, hpoint,
    TensorSpace.value_gradient_of_nodes_eq_nil rfl hdim hnumber hpoint⟩

end FacetElements
