import FacetElements.Polynomial.TensorSpace
import FacetElements.Proofs.Numbering
import FacetElements.Proofs.TableEntries
import Mathlib.Tactic

/-!
# Tables of tensor product functions

A table multiplies stored values of the one-dimensional functions, picked by
the list of all multi-indices; a single value takes its multi-index from the
digits of its number.  Both multiply the same factors in the same order, so
they agree without any law of the scalars.
-/

namespace FacetElements
namespace TensorSpace

open MultiIndex

variable {K : Type}

theorem size_le_length_allIndices
    (space : TensorSpace K) (hpos : 0 < space.basis.size) :
    space.size ≤ space.basis.size.pow space.dim :=
  (word_le _).trans (Nat.pow_le_pow_right hpos (Nat.mod_le _ _))

/-- If so few products exist that a machine word counts them, a basis without functions is
the only one that may have another size. -/
theorem size_eq_pow
    {space : TensorSpace K} (hempty : space.basis.size = 0 → space.dim < 2 ^ 32)
    (hfits : space.basis.size ^ space.dim < 2 ^ 64) :
    space.size = space.basis.size ^ space.dim :=
  wordPow_eq hempty hfits

/-- The number of products of at least one function is right if a machine word holds it. -/
theorem size_eq_of_fits
    (space : TensorSpace K) (hpos : 0 < space.basis.size)
    (hfits : space.basis.size ^ space.dim < 2 ^ 64) :
    space.size = space.basis.size ^ space.dim :=
  size_eq_pow (fun hzero => absurd hzero hpos.ne') hfits

/-- No node in so many variables that the exponent of the size is cut to zero. -/
def emptySpace : TensorSpace ℚ := ⟨⟨[]⟩, 2 ^ 32⟩

theorem indices_eq
    (space : TensorSpace K) (hpos : 0 < space.basis.size)
    {i : ℕ} (hi : i < space.size) :
    space.indices i = .ok (digits hpos space.dim i) := by
  unfold indices
  rw [ofNumber_eq_digits hpos]
  simp only [checkNumber, hi, if_true]
  rfl

/-- Division and the list of all multi-indices name the same choice for every number
of a function.  A basis without functions has such numbers in no variables only,
unless the exponent is cut. -/
theorem exists_index
    (space : TensorSpace K) (hdim : space.basis.nodes = [] → space.dim < 2 ^ 32) :
    ∃ index : ℕ → MultiIndex space.basis.size, ∀ i < space.size,
      space.allIndices[i]? = some (index i) ∧
        ofNumber space.basis.size space.dim i = .ok (index i) := by
  by_cases hpos : 0 < space.basis.size
  · refine ⟨digits hpos space.dim, ?_⟩
    intro i hi
    exact ⟨getElem?_all hpos (hi.trans_le (space.size_le_length_allIndices hpos)),
      ofNumber_eq_digits hpos space.dim i⟩
  · -- Only the empty product, of number zero, can be without factors.
    have hempty : space.basis.nodes = [] :=
      List.eq_nil_of_length_eq_zero (Nat.eq_zero_of_not_pos hpos)
    have hzero : space.basis.size = 0 := Nat.eq_zero_of_not_pos hpos
    have hfits : space.basis.size ^ space.dim < 2 ^ 64 := by
      rw [hzero]
      exact (zero_pow_le_one _).trans_lt (by norm_num)
    have hsize := size_eq_pow (fun _ => hdim hempty) hfits
    refine ⟨fun _ => [], ?_⟩
    intro i hi
    rw [hsize, hzero] at hi
    rcases Nat.eq_zero_or_pos space.dim with hnone | hsome
    · rw [hnone, Nat.pow_zero, Nat.lt_one_iff] at hi
      rw [allIndices, hnone, hi]
      exact ⟨rfl, rfl⟩
    · rw [Nat.zero_pow hsome] at hi
      exact absurd hi (Nat.not_lt_zero i)

section Evaluation

variable [One K] [Sub K] [Mul K] [Div K]

theorem value_eq_of_index
    (space : TensorSpace K) {i : ℕ} (hi : i < space.size)
    {ix : MultiIndex space.basis.size}
    (hindex : ofNumber space.basis.size space.dim i = .ok ix)
    {point : List K} (hpoint : point.length = space.dim) :
    space.value i point = .ok (space.basisValue ix point) := by
  unfold value
  rw [hindex]
  simp only [checkNumber, hi, checkCoordinates, hpoint, if_true]
  rfl

theorem value_eq
    (space : TensorSpace K) (hpos : 0 < space.basis.size)
    {i : ℕ} (hi : i < space.size)
    {point : List K} (hpoint : point.length = space.dim) :
    space.value i point =
      .ok (space.basisValue (digits hpos space.dim i) point) :=
  space.value_eq_of_index hi (ofNumber_eq_digits hpos space.dim i) hpoint

theorem valueTable_eq_generate_of_index
    [Zero K] (space : TensorSpace K) {index : ℕ → MultiIndex space.basis.size}
    (hindex : ∀ i < space.size, space.allIndices[i]? = some (index i))
    (points : Table K) :
    space.valueTable points =
      Table.generate points.rows space.size fun p i =>
        space.basisValue (index i) (points.row p) := by
  unfold valueTable
  apply Table.ofFn_eq_generate
  intro p i
  have hgrid : space.allIndices[i.val]? = some (index i) := hindex i i.isLt
  simp only [List.getElem?_toArray, hgrid, Fin.getElem_fin, Vector.getElem_ofFn]
  rw [List.zipWith_map_right]
  simp only [LagrangeBasis.basisValues, Vector.getElem_ofFn]
  rfl

theorem valueTable_eq_generate
    [Zero K] (space : TensorSpace K) (hpos : 0 < space.basis.size)
    (points : Table K) :
    space.valueTable points =
      Table.generate points.rows space.size fun p i =>
        space.basisValue (digits hpos space.dim i) (points.row p) := by
  apply space.valueTable_eq_generate_of_index
  intro i hi
  exact getElem?_all hpos (hi.trans_le (space.size_le_length_allIndices hpos))

theorem tabulate_eq
    [Zero K] (space : TensorSpace K) {points : Table K} (hcols : points.cols = space.dim)
    (hfits : space.basis.size ^ space.dim < 2 ^ 64) :
    space.tabulate points = .ok (space.valueTable points) := by
  rw [tabulate, checkCoordinates, if_pos hcols, if_pos ((powFits_iff _ _).mpr hfits)]
  rfl

theorem tabulate_of_cols_ne
    [Zero K] (space : TensorSpace K) {points : Table K} (hcols : points.cols ≠ space.dim) :
    space.tabulate points = .error (.dimensionMismatch space.dim points.cols) := by
  rw [tabulate, checkCoordinates, if_neg hcols]
  rfl

end Evaluation

end TensorSpace
end FacetElements
