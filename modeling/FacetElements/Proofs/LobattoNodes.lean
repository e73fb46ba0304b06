import FacetElements.Proofs.FaceFunctions
import Mathlib.Tactic

/-!
# Nodes of created elements

The nodes of a created element are Gauss-Lobatto points.  Whatever the search
for the inner ones returns, the first node is the lower end of the unit interval
and the last one the upper end, and in exact arithmetic the nodes are their own
reflection about the middle.
-/

namespace FacetElements

variable {K : Type}

/-! ## Ends -/

/-- The laws under which both ends of the unit interval are exact, and the
middle is reached from either side. -/
class EndpointScalar (K : Type) [Zero K] [One K] [OfNat K 2] [Neg K] [Add K] [Sub K]
    [Div K] : Prop where
  one_sub_zero : (1 : K) - 0 = 1
  neg_one_add_one_div_two : (-1 + 1 : K) / 2 = 0
  one_add_zero_div_two : (1 + 0 : K) / 2 = (0 + 1) / 2

instance [Field K] : EndpointScalar K where
  one_sub_zero := sub_zero 1
  neg_one_add_one_div_two := by
    rw [neg_add_cancel, zero_div]
  one_add_zero_div_two := by
    rw [add_comm]

namespace Lobatto

variable [Zero K] [One K] [OfNat K 2] [NatCast K] [Add K] [Sub K] [Mul K] [Div K]
variable [Neg K] [OfScientific K] [LT K] [DecidableLT K] [Cosine K]

theorem leftAbscissae_eq_cons {npoints : ℕ} (hpoints : 2 ≤ npoints) :
    ∃ inner, (leftAbscissae npoints : List K) = -1 :: inner := by
  obtain ⟨half, hhalf⟩ : ∃ half, npoints / 2 = half + 1 :=
    ⟨npoints / 2 - 1, by omega⟩
  refine ⟨(List.range half).map fun j => abscissa (npoints - 1) (j + 1), ?_⟩
  rw [leftAbscissae, hhalf, List.range_succ_eq_map, List.map_cons, List.map_map]
  rfl

theorem nodes_eq_zero_cons_append_one
    [EndpointScalar K] {degree : ℕ} (hdegree : 1 ≤ degree) :
    ∃ inner, (nodes degree : List K) = 0 :: inner ++ [1] := by
  obtain ⟨left, hleft⟩ :=
    leftAbscissae_eq_cons (K := K) (Nat.succ_le_succ hdegree)
  have hlower : toUnit (-1 : K) = 0 := EndpointScalar.neg_one_add_one_div_two
  have hupper : (1 - 0 : K) = 1 := EndpointScalar.one_sub_zero
  rw [nodes, points, hleft, List.map_cons, hlower, List.map_cons, hupper,
    List.reverse_cons, ← List.append_assoc]
  exact ⟨_, rfl⟩

end Lobatto

/-! ## Reflection -/

namespace LagrangeBasis

theorem getElem?_nodes (basis : LagrangeBasis K) (k : Fin basis.size) :
    basis.nodes[k.val]? = some (basis.node k) :=
  List.getElem?_eq_getElem k.isLt

/-- The nodes are their own reflection about the middle of the interval. -/
def Mirrored [One K] [Sub K] (basis : LagrangeBasis K) : Prop :=
  basis.nodes.reverse = basis.nodes.map (1 - ·)

end LagrangeBasis

theorem Lobatto.reverse_points
    [Field K] [LinearOrder K] [IsStrictOrderedRing K] [Cosine K] (npoints : ℕ) :
    (points npoints : List K).reverse = (points npoints).map (1 - ·) := by
  have hmiddle : (1 - 0.5 : K) = 0.5 := by
    norm_num
  unfold points
  by_cases hodd : npoints % 2 = 1
  · simp [hodd, hmiddle, Function.comp_def]
  · simp [hodd, Function.comp_def]

/-! ## Created elements -/

namespace FaceElement

section Created

variable [Zero K] [One K] [OfNat K 2] [NatCast K] [Add K] [Sub K] [Mul K] [Div K]
variable [Neg K] [OfScientific K] [LT K] [DecidableLT K] [Cosine K]

variable [EndpointScalar K] {dim degree : ℕ} {e : FaceElement K}

theorem nodes_of_create
    (hcreate : create dim degree = .ok e) (hdegree : 1 ≤ degree) :
    ∃ inner, e.nodes = 0 :: inner ++ [1] := by
  obtain ⟨-, -, hnodes⟩ := create_eq_ok_iff.mp hcreate
  rw [hnodes]
  exact Lobatto.nodes_eq_zero_cons_append_one hdegree

theorem node_first
    (hcreate : create dim degree = .ok e) (hdegree : 1 ≤ degree)
    {k : Fin e.space.basis.size} (hk : k.val = 0) :
    e.space.basis.node k = 0 := by
  obtain ⟨inner, hinner⟩ := nodes_of_create hcreate hdegree
  have hget : e.nodes[k.val]? = some (e.space.basis.node k) :=
    e.space.basis.getElem?_nodes k
  rw [hinner, hk] at hget
  exact (Option.some.inj hget).symm

theorem node_last
    (hcreate : create dim degree = .ok e) (hdegree : 1 ≤ degree)
    {k : Fin e.space.basis.size} (hk : k.val = degree) :
    e.space.basis.node k = 1 := by
  obtain ⟨inner, hinner⟩ := nodes_of_create hcreate hdegree
  obtain ⟨-, hsame, -⟩ := create_eq_ok_iff.mp hcreate
  have hlength : (0 :: inner).length = degree := by
    have htotal := e.length_nodes
    rw [hinner, hsame, List.length_append, List.length_singleton] at htotal
    exact Nat.succ.inj htotal
  have hget : e.nodes[k.val]? = some (e.space.basis.node k) :=
    e.space.basis.getElem?_nodes k
  rw [hinner, hk, ← hlength, List.getElem?_concat_length] at hget
  exact (Option.some.inj hget).symm

end Created

theorem mirrored_of_create
    [Field K] [LinearOrder K] [IsStrictOrderedRing K] [Cosine K]
    {dim degree : ℕ} {e : FaceElement K} (hcreate : create dim degree = .ok e) :
    e.space.basis.Mirrored := by
  obtain ⟨-, -, hnodes⟩ := create_eq_ok_iff.mp hcreate
  have hbasis : e.space.basis.nodes = Lobatto.nodes degree := hnodes
  rw [LagrangeBasis.Mirrored, hbasis]
  exact Lobatto.reverse_points (degree + 1)

end FaceElement
end FacetElements
