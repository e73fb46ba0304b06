import FacetElements.Cell.Embedding
import FacetElements.Proofs.Interpolation
import FacetElements.Proofs.Traversal

/-!
# Interpolation on a face

A function on a face whose degree in each coordinate is at most the degree of
an element is the combination of the face functions with its values at the
support points as coefficients.  Constants are such functions, so are the face
functions of elements of lower degree, and so are these functions seen from a
child of the face.
-/

namespace FacetElements

open Polynomial

variable {K : Type}

/-! ## Degrees -/

section Field

variable [Field K]

theorem childPoint_set (child : ℕ) (point : List K) (axis : ℕ) (t : K) :
    childPoint child (point.set axis t) =
      (childPoint child point).set axis ((t + bitScalar child axis) / 2) := by
  rw [childPoint, List.mapIdx_set]
  rfl

theorem DegreeBelow.comp_childPoint
    {N dim : ℕ} {f : List K → K} (hf : DegreeBelow N dim f) (child : ℕ) :
    DegreeBelow N dim fun point => f (childPoint child point) := by
  intro point hpoint axis haxis
  have hlength : (childPoint child point).length = dim := by
    rw [length_childPoint, hpoint]
  obtain ⟨p, hp, heval⟩ := hf (childPoint child point) hlength axis haxis
  let half : K[X] := (X - C (-bitScalar child axis)) * C 2⁻¹
  have hhalf : half.natDegree ≤ 1 := LagrangeBasis.natDegree_ratio_le _ _
  refine ⟨p.comp half, ?_, ?_⟩
  · by_cases hzero : p = 0
    · rw [hzero, zero_comp]
      rw [hzero] at hp
      exact hp
    · have hnat : p.natDegree < N := (natDegree_lt_iff_degree_lt hzero).mpr hp
      have hcomp : (p.comp half).natDegree ≤ p.natDegree :=
        calc (p.comp half).natDegree
          _ ≤ p.natDegree * half.natDegree := natDegree_comp_le
          _ ≤ p.natDegree * 1 := Nat.mul_le_mul_left _ hhalf
          _ = p.natDegree := Nat.mul_one _
      exact degree_le_natDegree.trans_lt
        (Nat.cast_lt.mpr (hcomp.trans_lt hnat))
  · intro t
    have hpointwise : half.eval t = (t + bitScalar child axis) / 2 := by
      simp [half, div_eq_mul_inv]
    change f (childPoint child (point.set axis t)) = _
    rw [childPoint_set, heval, eval_comp, hpointwise]

namespace FaceElement

theorem degreeBelow_faceFunction (e : FaceElement K) (dof : ℕ) :
    DegreeBelow (e.degree + 1) (e.dim - 1) (e.faceFunction dof) := by
  rw [← size_basis_space e, ← length_faceIndex e dof]
  exact e.space.degreeBelow_basisValue (e.faceIndex dof)

theorem degreeBelow_faceFunction_of_le
    {target source : FaceElement K} (hdim : source.dim = target.dim)
    (hdegree : target.degree ≤ source.degree) (dof : ℕ) :
    DegreeBelow (source.degree + 1) (source.dim - 1) (target.faceFunction dof) := by
  rw [hdim]
  exact (target.degreeBelow_faceFunction dof).mono (Nat.succ_le_succ hdegree)

/-! ## Combinations of face functions -/

/-- A function of small degree is the combination of the face functions whose
coefficients are its values at the support points. -/
theorem sum_faceNode_mul_faceFunction
    (e : FaceElement K) (hnodes : e.nodes.Nodup) {f : List K → K}
    (hf : DegreeBelow (e.degree + 1) (e.dim - 1) f)
    {point : List K} (hpoint : point.length = e.dim - 1) :
    ((List.range e.dofsPerFace).map fun dof =>
      f (e.faceNode dof) * e.faceFunction dof point).sum = f point := by
  rw [← size_basis_space] at hf
  have hsum := e.space.sum_gridPoint_mul_basisValue hnodes hf hpoint
  have hall : MultiIndex.all e.space.basis.size (e.dim - 1) =
      (List.range e.dofsPerFace).map e.faceIndex := e.allIndices_space
  rw [hall, List.map_map] at hsum
  exact hsum

theorem sum_faceFunction
    (e : FaceElement K) (hnodes : e.nodes.Nodup)
    {point : List K} (hpoint : point.length = e.dim - 1) :
    ((List.range e.dofsPerFace).map fun dof => e.faceFunction dof point).sum =
      1 := by
  have hconst : DegreeBelow (e.degree + 1) (e.dim - 1) fun _ => (1 : K) :=
    DegreeBelow.const (Nat.succ_pos e.degree) 1
  have hsum := e.sum_faceNode_mul_faceFunction hnodes hconst hpoint
  simpa only [one_mul] using hsum

end FaceElement

end Field

/-! ## Columns of a table -/

namespace FaceElement

/-- The function on a face whose dofs are the entries of one column of a
table, at a point of the face. -/
def columnValue
    [Zero K] [One K] [Add K] [Sub K] [Mul K] [Div K]
    (e : FaceElement K) (table : Table K) (column : ℕ) (point : List K) :
    Except Error K := do
  let terms ← (List.range e.dofsPerFace).mapM fun dof => do
    return (← table.read dof column) * (← e.space.value dof point)
  return sumLeft terms

theorem columnValue_generate
    [Zero K] [One K] [Add K] [Sub K] [Mul K] [Div K]
    (e : FaceElement K) {cols column : ℕ} (f : ℕ → ℕ → K)
    (hcolumn : column < cols) {point : List K}
    (hpoint : point.length = e.dim - 1) :
    e.columnValue (Table.generate e.dofsPerFace cols f) column point =
      .ok (sumLeft ((List.range e.dofsPerFace).map fun dof =>
        f dof column * e.faceFunction dof point)) := by
  have hterms : ∀ dof ∈ List.range e.dofsPerFace,
      (do return (← (Table.generate e.dofsPerFace cols f).read dof column) *
        (← e.space.value dof point)) =
      Except.ok (f dof column * e.faceFunction dof point) := by
    intro dof hdof
    have hlt : dof < e.dofsPerFace := List.mem_range.mp hdof
    rw [Table.read_generate f hlt hcolumn, e.space_value_eq hlt hpoint]
    rfl
  unfold columnValue
  rw [mapM_eq_ok hterms]
  rfl

theorem columnValue_of_degreeBelow
    [Field K] (e : FaceElement K) (hnodes : e.nodes.Nodup)
    {cols column : ℕ} (hcolumn : column < cols) {f : ℕ → List K → K}
    (hf : DegreeBelow (e.degree + 1) (e.dim - 1) (f column))
    {point : List K} (hpoint : point.length = e.dim - 1) :
    e.columnValue
        (Table.generate e.dofsPerFace cols fun i j => f j (e.faceNode i))
        column point =
      .ok (f column point) := by
  rw [e.columnValue_generate _ hcolumn hpoint, sumLeft_eq_sum,
    e.sum_faceNode_mul_faceFunction hnodes hf hpoint]

end FaceElement
end FacetElements
