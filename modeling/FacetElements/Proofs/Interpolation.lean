import FacetElements.Proofs.ExactScalar
import FacetElements.Proofs.NodalBasis
import Mathlib.LinearAlgebra.Lagrange
import Mathlib.Tactic

/-!
# Interpolation by tensor products

Over a field each function of a Lagrange basis is a polynomial of degree below
the number of nodes.  A polynomial of such a degree is determined by its values
at the nodes, so the basis functions with these values as coefficients add up
to it.  The same holds in several variables, one variable at a time, for every
function whose degree in each variable is below the number of nodes.
-/

namespace FacetElements

open Polynomial

variable {K : Type} [Field K]

/-! ## One variable -/

namespace LagrangeBasis

noncomputable def basisPolynomial
    (basis : LagrangeBasis K) (i : Fin basis.size) : K[X] :=
  ((basis.zerosOf i).map fun y =>
    (X - C y) * C (basis.node i - y)⁻¹).prod

theorem eval_basisPolynomial
    (basis : LagrangeBasis K) (i : Fin basis.size) (x : K) :
    (basis.basisPolynomial i).eval x = basis.basisValue i x := by
  rw [basisPolynomial, basisValue, prodLeft_eq_prod, eval_list_prod, ratios,
    List.map_map]
  congr 1
  apply List.map_congr_left
  intro y _
  simp [div_eq_mul_inv]

theorem natDegree_ratio_le (a y : K) :
    ((X - C y) * C a).natDegree ≤ 1 :=
  calc ((X - C y) * C a).natDegree
    _ ≤ (X - C y).natDegree := natDegree_mul_C_le _ _
    _ ≤ 1 := natDegree_X_sub_C_le y

theorem degree_basisPolynomial_lt
    (basis : LagrangeBasis K) (i : Fin basis.size) :
    (basis.basisPolynomial i).degree < basis.size := by
  have hsum :
      (((basis.zerosOf i).map fun y =>
        (X - C y) * C (basis.node i - y)⁻¹).map natDegree).sum ≤
          basis.size - 1 := by
    rw [← length_zerosOf basis i]
    refine (List.sum_le_card_nsmul _ 1 ?_).trans (by simp)
    intro d hd
    simp only [List.map_map, List.mem_map, Function.comp_apply] at hd
    obtain ⟨y, -, rfl⟩ := hd
    exact natDegree_ratio_le _ y
  have hnat : (basis.basisPolynomial i).natDegree ≤ basis.size - 1 :=
    (natDegree_list_prod_le _).trans hsum
  have hlt : (basis.basisPolynomial i).natDegree < basis.size := by
    have hpos := Nat.zero_lt_of_lt i.isLt
    omega
  exact degree_le_natDegree.trans_lt (Nat.cast_lt.mpr hlt)

theorem degree_sum_smul_basisPolynomial_lt
    (basis : LagrangeBasis K) (values : Fin basis.size → K) :
    (∑ k, values k • basis.basisPolynomial k).degree < basis.size := by
  rw [← mem_degreeLT]
  apply Submodule.sum_smul_mem
  intro k _
  exact mem_degreeLT.mpr (basis.degree_basisPolynomial_lt k)

theorem eval_sum_smul_basisPolynomial
    (basis : LagrangeBasis K) (values : Fin basis.size → K) (x : K) :
    (∑ k, values k • basis.basisPolynomial k).eval x =
      ∑ k, values k * basis.basisValue k x := by
  rw [eval_finsetSum]
  apply Finset.sum_congr rfl
  intro k _
  rw [eval_smul, smul_eq_mul, eval_basisPolynomial]

theorem sum_mul_basisValue_node
    (basis : LagrangeBasis K) (hnodes : basis.nodes.Nodup)
    (values : Fin basis.size → K) (i : Fin basis.size) :
    ∑ k, values k * basis.basisValue k (basis.node i) = values i := by
  rw [Finset.sum_eq_single i]
  · rw [basisValue_node_self basis hnodes, mul_one]
  · intro k _ hki
    rw [basisValue_node_of_ne basis hnodes hki, mul_zero]
  · intro hi
    exact absurd (Finset.mem_univ i) hi

theorem sum_eval_node_smul_basisPolynomial
    (basis : LagrangeBasis K) (hnodes : basis.nodes.Nodup)
    {p : K[X]} (hp : p.degree < basis.size) :
    ∑ k, p.eval (basis.node k) • basis.basisPolynomial k = p := by
  have hinj : Set.InjOn basis.node (Finset.univ : Finset (Fin basis.size)) := by
    intro i _ k _ hik
    exact (node_inj hnodes).mp hik
  have hcard : (Finset.univ : Finset (Fin basis.size)).card = basis.size := by
    simp
  apply eq_of_degrees_lt_of_eval_index_eq Finset.univ hinj
  · rw [hcard]
    exact basis.degree_sum_smul_basisPolynomial_lt _
  · rw [hcard]
    exact hp
  · intro i _
    rw [eval_sum_smul_basisPolynomial]
    exact basis.sum_mul_basisValue_node hnodes _ i

/-- A polynomial of degree below the number of nodes is the sum of the basis
functions weighted by its values at the nodes. -/
theorem sum_eval_node_mul_basisValue
    (basis : LagrangeBasis K) (hnodes : basis.nodes.Nodup)
    {p : K[X]} (hp : p.degree < basis.size) (x : K) :
    ∑ k, p.eval (basis.node k) * basis.basisValue k x = p.eval x := by
  rw [← basis.eval_sum_smul_basisPolynomial, basis.sum_eval_node_smul_basisPolynomial hnodes hp]

end LagrangeBasis

/-! ## Several variables -/

/-- Along every axis the function is a polynomial of degree below `N` in the
coordinate, whatever the other coordinates are. -/
def DegreeBelow (N dim : ℕ) (f : List K → K) : Prop :=
  ∀ point : List K, point.length = dim → ∀ axis < dim,
    ∃ p : K[X], p.degree < N ∧ ∀ t, f (point.set axis t) = p.eval t

namespace DegreeBelow

variable {N dim : ℕ} {f : List K → K}

theorem mono {M : ℕ} (hf : DegreeBelow N dim f) (hNM : N ≤ M) :
    DegreeBelow M dim f := by
  intro point hpoint axis haxis
  obtain ⟨p, hp, heval⟩ := hf point hpoint axis haxis
  exact ⟨p, hp.trans_le (Nat.cast_le.mpr hNM), heval⟩

theorem const (hN : 0 < N) (c : K) : DegreeBelow N dim fun _ => c := by
  intro point _ axis _
  refine ⟨C c, degree_C_le.trans_lt ?_, ?_⟩
  · exact Nat.cast_pos.mpr hN
  · intro t
    rw [eval_C]

theorem head
    (hf : DegreeBelow N (dim + 1) f) {rest : List K} (hrest : rest.length = dim) :
    ∃ p : K[X], p.degree < N ∧ ∀ t, f (t :: rest) = p.eval t := by
  have hlength : (0 :: rest : List K).length = dim + 1 := by
    rw [List.length_cons, hrest]
  exact hf (0 :: rest) hlength 0 (Nat.succ_pos dim)

theorem tail (hf : DegreeBelow N (dim + 1) f) (x : K) :
    DegreeBelow N dim fun rest => f (x :: rest) := by
  intro point hpoint axis haxis
  have hlength : (x :: point).length = dim + 1 := by
    rw [List.length_cons, hpoint]
  exact hf (x :: point) hlength (axis + 1) (Nat.succ_lt_succ haxis)

end DegreeBelow

namespace MultiIndex

theorem sum_map_all_succ {N : ℕ} (dim : ℕ) (g : MultiIndex N → K) :
    ((all N (dim + 1)).map g).sum =
      ((all N dim).map fun rest => ∑ k, g (k :: rest)).sum := by
  rw [all]
  induction all N dim with
  | nil =>
      rfl
  | cons rest others ih =>
      rw [List.flatMap_cons, List.map_append, List.sum_append, ih, List.map_cons,
        List.sum_cons, List.map_map, Fin.sum_univ_def]
      rfl

end MultiIndex

namespace TensorSpace

open MultiIndex

theorem basisValue_cons
    (space : TensorSpace K) (k : Fin space.basis.size)
    (rest : MultiIndex space.basis.size) (x : K) (xs : List K) :
    space.basisValue (k :: rest) (x :: xs) =
      space.basis.basisValue k x * space.basisValue rest xs := by
  simp only [basisValue, prodLeft_eq_prod, List.zipWith_cons_cons, List.prod_cons]

theorem degreeBelow_basisValue
    (space : TensorSpace K) (ix : MultiIndex space.basis.size) :
    DegreeBelow space.basis.size ix.length (space.basisValue ix) := by
  induction ix with
  | nil =>
      intro point _ axis haxis
      exact absurd haxis (Nat.not_lt_zero axis)
  | cons k rest ih =>
      intro point hpoint axis haxis
      cases point with
      | nil =>
          simp at hpoint
      | cons x xs =>
          have hxs : xs.length = rest.length := by
            simpa using hpoint
          cases axis with
          | zero =>
              refine ⟨space.basisValue rest xs • space.basis.basisPolynomial k, ?_, ?_⟩
              · exact (degree_smul_le _ _).trans_lt
                  (space.basis.degree_basisPolynomial_lt k)
              · intro t
                rw [List.set_cons_zero, basisValue_cons, eval_smul, smul_eq_mul,
                  LagrangeBasis.eval_basisPolynomial, mul_comm]
          | succ axis =>
              have haxis' : axis < rest.length := by
                simpa using haxis
              obtain ⟨p, hp, heval⟩ := ih xs hxs axis haxis'
              refine ⟨space.basis.basisValue k x • p, ?_, ?_⟩
              · exact (degree_smul_le _ _).trans_lt hp
              · intro t
                rw [List.set_cons_succ, basisValue_cons, heval, eval_smul, smul_eq_mul]

/-- A function whose degree in each variable is below the number of nodes is
the sum of the tensor products weighted by its values at the grid points. -/
theorem sum_gridPoint_mul_basisValue
    (space : TensorSpace K) (hnodes : space.basis.nodes.Nodup)
    {dim : ℕ} {f : List K → K} (hf : DegreeBelow space.basis.size dim f)
    {point : List K} (hpoint : point.length = dim) :
    ((all space.basis.size dim).map fun ix =>
      f (space.gridPoint ix) * space.basisValue ix point).sum = f point := by
  induction dim generalizing f point with
  | zero =>
      have hnil : point = [] := List.length_eq_zero_iff.mp hpoint
      subst hnil
      simp [all, gridPoint, basisValue]
  | succ dim ih =>
      cases point with
      | nil =>
          simp at hpoint
      | cons x xs =>
          have hxs : xs.length = dim := by
            simpa using hpoint
          -- The first variable is summed out at every grid point of the others.
          have hfirst : ∀ rest ∈ all space.basis.size dim,
              ∑ k, f (space.gridPoint (k :: rest)) *
                  space.basisValue (k :: rest) (x :: xs) =
                f (x :: space.gridPoint rest) * space.basisValue rest xs := by
            intro rest hrest
            have hlength : (space.gridPoint rest).length = dim := by
              rw [length_gridPoint]
              exact length_of_mem_all hrest
            obtain ⟨p, hp, heval⟩ := hf.head hlength
            rw [heval, ← space.basis.sum_eval_node_mul_basisValue hnodes hp x,
              Finset.sum_mul]
            apply Finset.sum_congr rfl
            intro k _
            have hnode : f (space.gridPoint (k :: rest)) = p.eval (space.basis.node k) :=
              heval (space.basis.node k)
            rw [hnode, basisValue_cons, mul_assoc]
          rw [sum_map_all_succ, List.map_congr_left hfirst]
          exact ih (hf.tail x) hxs

end TensorSpace

end FacetElements
