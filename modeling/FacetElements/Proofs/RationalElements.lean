import FacetElements.Element.Face
import Mathlib.Tactic

/-!
# Rational face elements

Up to degree two the nodes of a face element are rational and no search takes
part, so these elements show statements about exact arithmetic at work.
-/

namespace FacetElements

instance : ScalarText ℚ where
  text := toString

/-- The first terms of the series.  They only start the search for an abscissa,
of which elements up to degree two have none. -/
instance : Cosine ℚ where
  pi := 355 / 113
  cos x := 1 - x ^ 2 / 2 + x ^ 4 / 24

theorem dofCount_lt_of_le_two :
    ∀ degree : Fin 3, FaceElement.dofCount 3 degree < wordBound := by
  decide

def rationalFace (degree : Fin 3) : FaceElement ℚ where
  dim := 3
  degree := degree
  nodes := Lobatto.nodes degree
  two_le_dim := by omega
  dim_le_three := le_refl 3
  length_nodes := Lobatto.length_nodes degree
  dofs_fit := dofCount_lt_of_le_two degree

theorem create_rationalFace (degree : Fin 3) :
    FaceElement.create 3 degree = .ok (rationalFace degree) :=
  FaceElement.create_eq_ok_iff.mpr ⟨rfl, rfl, rfl⟩

theorem nodes_rationalFace_zero : (rationalFace 0).nodes = [1 / 2] := by
  norm_num [rationalFace, Lobatto.nodes, Lobatto.points, Lobatto.leftAbscissae]

theorem nodes_rationalFace_one : (rationalFace 1).nodes = [0, 1] := by
  norm_num [rationalFace, Lobatto.nodes, Lobatto.points, Lobatto.leftAbscissae,
    Lobatto.abscissa, Lobatto.toUnit]

theorem nodes_rationalFace_two : (rationalFace 2).nodes = [0, 1 / 2, 1] := by
  norm_num [rationalFace, Lobatto.nodes, Lobatto.points, Lobatto.leftAbscissae,
    Lobatto.abscissa, Lobatto.toUnit]

theorem nodup_nodes_rationalFace (degree : Fin 3) :
    (rationalFace degree).nodes.Nodup := by
  match degree with
  | 0 =>
      rw [nodes_rationalFace_zero]
      norm_num
  | 1 =>
      rw [nodes_rationalFace_one]
      norm_num
  | 2 =>
      rw [nodes_rationalFace_two]
      norm_num

end FacetElements
