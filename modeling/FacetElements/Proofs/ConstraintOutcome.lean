import FacetElements.Constraint.Matrix
import FacetElements.Proofs.FaceFunctions
import Mathlib.Tactic

/-!
# Outcomes of constraint matrices

A request for a constraint matrix between elements that fit has one of two
outcomes: the table of the rounded target functions at the points of the source
dofs, or the first of its rows that does not sum to one.  The two operations
differ in the points only.  No law of the scalars takes part, so the statements
hold of binary numbers, whatever the tolerance.
-/

namespace FacetElements
namespace Constraint

variable {K F : Type}

/-! ## Pairs of elements -/

theorem dofsPerFace_lt_iff
    {target source : FaceElement K} (hdim : source.dim = target.dim) :
    source.dofsPerFace < target.dofsPerFace ↔ source.degree < target.degree := by
  have hexponent : target.dim - 1 ≠ 0 := by
    have htwo := target.two_le_dim
    omega
  unfold FaceElement.dofsPerFace
  rw [hdim, Nat.pow_eq, Nat.pow_eq, Nat.pow_lt_pow_iff_left hexponent]
  omega

theorem checkPair_of_dim_ne
    {target source : FaceElement K} (hdim : source.dim ≠ target.dim) :
    checkPair target source = .error (.dimensionMismatch target.dim source.dim) := by
  rw [checkPair, if_pos hdim]

theorem checkPair_of_degree_lt
    {target source : FaceElement K} (hdim : source.dim = target.dim)
    (hdegree : source.degree < target.degree) :
    checkPair target source =
      .error (.wrongDirection source.name.text target.name.text) := by
  rw [checkPair, if_neg (not_not.mpr hdim),
    if_pos ((dofsPerFace_lt_iff hdim).mpr hdegree)]

theorem checkPair_eq_ok
    {target source : FaceElement K}
    (hdim : source.dim = target.dim) (hdegree : target.degree ≤ source.degree) :
    checkPair target source = .ok () := by
  have hdofs : ¬ source.dofsPerFace < target.dofsPerFace := by
    rw [dofsPerFace_lt_iff hdim]
    exact Nat.not_lt.mpr hdegree
  rw [checkPair, if_neg (not_not.mpr hdim), if_neg hdofs]

theorem checkPair_eq_ok_iff {target source : FaceElement K} :
    checkPair target source = .ok () ↔
      source.dim = target.dim ∧ target.degree ≤ source.degree := by
  constructor
  · intro hpair
    by_cases hdim : source.dim = target.dim
    · refine ⟨hdim, Nat.le_of_not_lt ?_⟩
      intro hdegree
      rw [checkPair_of_degree_lt hdim hdegree] at hpair
      cases hpair
    · rw [checkPair_of_dim_ne hdim] at hpair
      cases hpair
  · rintro ⟨hdim, hdegree⟩
    exact checkPair_eq_ok hdim hdegree

theorem bind_checkPair_eq_ok_iff
    {α : Type} {target source : FaceElement K} {next : Except Error α} {value : α} :
    ((checkPair target source).bind fun _ => next) = .ok value ↔
      checkPair target source = .ok () ∧ next = .ok value := by
  cases hpair : checkPair target source with
  | error error =>
      simp [Except.bind]
  | ok checked =>
      simp [Except.bind]

/-! ## Points of a child -/

theorem childCount_faceCell (e : FaceElement K) :
    e.faceCell.childCount = 2 ^ (e.dim - 1) := by
  rw [Cell.childCount, FaceElement.dim_faceCell]
  rfl

theorem not_childCount_faceCell_le
    (e : FaceElement K) {child : ℕ} (hchild : child < 2 ^ (e.dim - 1)) :
    ¬ e.faceCell.childCount ≤ child := by
  rw [childCount_faceCell]
  exact Nat.not_le.mpr hchild

theorem childToCell_faceCell
    [Zero K] [One K] [OfNat K 2] [Add K] [Div K]
    (e : FaceElement K) {child : ℕ} (hchild : child < 2 ^ (e.dim - 1))
    {point : List K} (hpoint : point.length = e.dim - 1) :
    e.faceCell.childToCell child point = .ok (childPoint child point) := by
  have hdim : ¬ point.length ≠ e.faceCell.dim := by
    rw [FaceElement.dim_faceCell]
    exact not_not.mpr hpoint
  rw [Cell.childToCell, if_neg (not_childCount_faceCell_le e hchild), if_neg hdim]

theorem rowList_childSupportPoints
    [Zero K] [One K] [OfNat K 2] [Add K] [Div K]
    (source : FaceElement K) (child : ℕ) :
    (childSupportPoints source child).rowList =
      (List.range source.dofsPerFace).map fun dof =>
        childPoint child (source.faceNode dof) := by
  rw [childSupportPoints, Table.rowList_ofRows,
    FaceElement.rowList_faceSupportPoints, List.map_map]
  rfl

/-! ## Rounded rows -/

theorem zipIdx_map_range {α : Type} (f : ℕ → α) (n : ℕ) :
    ((List.range n).map f).zipIdx = (List.range n).map fun i => (f i, i) := by
  apply List.ext_getElem
  · simp
  · intro i hi hi'
    simp

theorem exists_first_not {p : ℕ → Prop} {n : ℕ} (h : ¬ ∀ i < n, p i) :
    ∃ i < n, ¬ p i ∧ ∀ k < i, p k := by
  classical
  have hbad : ∃ i, i < n ∧ ¬ p i := by
    simpa using h
  obtain ⟨hlt, hnot⟩ := Nat.find_spec hbad
  refine ⟨Nat.find hbad, hlt, hnot, ?_⟩
  intro k hk
  by_contra hpk
  exact Nat.find_min hbad hk ⟨hk.trans hlt, hpk⟩

section Rounding

variable [Zero K] [One K] [NatCast K] [Neg K] [Sub K] [Mul K] [Div K]
variable [LT K] [DecidableLT K] [LE K] [DecidableLE K]

/-- A face function of the target at a point, as it stands in a matrix. -/
def roundedFunction (tolerance : Tolerance K) (target : FaceElement K) (point : List K)
    (dof : ℕ) : K :=
  snap (tolerance.epsilon target.degree target.dim) (target.faceFunction dof point)

/-- The rounded functions at points, one row for each. -/
def roundedTable (tolerance : Tolerance K) (target : FaceElement K) (rows : ℕ)
    (point : ℕ → List K) : Table K :=
  Table.generate rows target.dofsPerFace fun i =>
    roundedFunction tolerance target (point i)

theorem row?_roundedTable
    (tolerance : Tolerance K) (target : FaceElement K) {rows : ℕ}
    (point : ℕ → List K) {i : ℕ} (hi : i < rows) :
    (roundedTable tolerance target rows point).row? i =
      some ((List.range target.dofsPerFace).map
        (roundedFunction tolerance target (point i))) :=
  Table.row?_generate _ hi

theorem valueTable_map_snap
    (tolerance : Tolerance K) (target : FaceElement K)
    {points : Table K} {rows : ℕ} {point : ℕ → List K}
    (hpoints : points.rowList = (List.range rows).map point) :
    (target.space.valueTable points).map
        (snap (tolerance.epsilon target.degree target.dim)) =
      roundedTable tolerance target rows point := by
  rw [FaceElement.valueTable_space, Table.map_generate,
    Table.rows_eq_of_rowList hpoints]
  apply Table.generate_congr
  intro i hi j _
  rw [Table.row_eq_of_rowList hpoints hi]
  rfl

variable [Add K]

def rowTotal (tolerance : Tolerance K) (target : FaceElement K) (point : List K) : K :=
  sumLeft ((List.range target.dofsPerFace).map (roundedFunction tolerance target point))

/-- The row of a point sums to one. -/
def RowPasses (tolerance : Tolerance K) (target : FaceElement K) (point : List K) : Prop :=
  Near (tolerance.epsilon target.degree target.dim) (rowTotal tolerance target point) 1

instance (tolerance : Tolerance K) (target : FaceElement K) (point : List K) :
    Decidable (RowPasses tolerance target point) :=
  inferInstanceAs (Decidable (Near _ _ _))

theorem firstBadRow?_roundedTable
    (tolerance : Tolerance K) (target : FaceElement K) (rows : ℕ)
    (point : ℕ → List K) :
    firstBadRow? (tolerance.epsilon target.degree target.dim)
        (roundedTable tolerance target rows point) =
      ((List.range rows).find? fun i =>
        ¬ RowPasses tolerance target (point i)).map fun i =>
          (rowTotal tolerance target (point i), i) := by
  have hsums :
      (roundedTable tolerance target rows point).rowSums =
        (List.range rows).map fun i => rowTotal tolerance target (point i) := by
    rw [Table.rowSums, roundedTable, Table.rowList_generate, List.map_map]
    rfl
  rw [firstBadRow?, hsums, zipIdx_map_range, List.find?_map]
  rfl

end Rounding

/-! ## Outcomes -/

section Outcomes

variable [Zero K] [One K] [NatCast K] [Neg K] [Add K] [Sub K] [Mul K] [Div K]
variable [LT K] [DecidableLT K] [LE K] [DecidableLE K] [ScalarText K]

variable {tolerance : Tolerance K} {target : FaceElement K}
variable {points : Table K} {rows : ℕ} {point : ℕ → List K}

theorem ofPoints_eq_ok
    (hpoints : points.rowList = (List.range rows).map point)
    (hrows : ∀ i < rows, RowPasses tolerance target (point i)) :
    ofPoints tolerance target points =
      .ok (roundedTable tolerance target rows point) := by
  have hfind :
      ((List.range rows).find? fun i => ¬ RowPasses tolerance target (point i)) =
        none := by
    rw [List.find?_range_eq_none]
    intro i hi
    simpa using hrows i hi
  have hbad :
      firstBadRow? (tolerance.epsilon target.degree target.dim)
        (roundedTable tolerance target rows point) = none := by
    rw [firstBadRow?_roundedTable, hfind]
    rfl
  unfold ofPoints
  simp only [valueTable_map_snap tolerance target hpoints, hbad]

theorem ofPoints_eq_rowSum
    (hpoints : points.rowList = (List.range rows).map point)
    {i : ℕ} (hi : i < rows) (hrow : ¬ RowPasses tolerance target (point i))
    (hbefore : ∀ k < i, RowPasses tolerance target (point k)) :
    ofPoints tolerance target points =
      .error (.rowSum i target.name.text
        (ScalarText.text (rowTotal tolerance target (point i)))) := by
  have hfind :
      ((List.range rows).find? fun i => ¬ RowPasses tolerance target (point i)) =
        some i := by
    rw [List.find?_range_eq_some]
    refine ⟨by simpa using hrow, List.mem_range.mpr hi, ?_⟩
    intro k hk
    simpa using hbefore k hk
  have hbad :
      firstBadRow? (tolerance.epsilon target.degree target.dim)
          (roundedTable tolerance target rows point) =
        some (rowTotal tolerance target (point i), i) := by
    rw [firstBadRow?_roundedTable, hfind]
    rfl
  unfold ofPoints
  simp only [valueTable_map_snap tolerance target hpoints, hbad]

theorem ofPoints_eq_ok_iff
    (hpoints : points.rowList = (List.range rows).map point) {matrix : Table K} :
    ofPoints tolerance target points = .ok matrix ↔
      (∀ i < rows, RowPasses tolerance target (point i)) ∧
        matrix = roundedTable tolerance target rows point := by
  by_cases hrows : ∀ i < rows, RowPasses tolerance target (point i)
  · rw [ofPoints_eq_ok hpoints hrows, Except.ok.injEq]
    constructor
    · intro heq
      exact ⟨hrows, heq.symm⟩
    · rintro ⟨-, heq⟩
      exact heq.symm
  · obtain ⟨i, hi, hrow, hbefore⟩ := exists_first_not hrows
    rw [ofPoints_eq_rowSum hpoints hi hrow hbefore]
    constructor
    · intro heq
      cases heq
    · rintro ⟨hall, -⟩
      exact absurd hall hrows

/-! ## Requests with a face element as source -/

variable [ElementFamily F]

theorem faceMatrix_face (source : FaceElement K) :
    faceMatrix tolerance target (.face source : Element K F) =
      (checkPair target source).bind fun _ =>
        ofPoints tolerance target source.faceSupportPoints := rfl

theorem faceMatrix_eq_ok_iff {source : FaceElement K} {matrix : Table K} :
    faceMatrix tolerance target (.face source : Element K F) = .ok matrix ↔
      checkPair target source = .ok () ∧
        (∀ i < source.dofsPerFace, RowPasses tolerance target (source.faceNode i)) ∧
        matrix = roundedTable tolerance target source.dofsPerFace source.faceNode := by
  rw [faceMatrix_face, bind_checkPair_eq_ok_iff,
    ofPoints_eq_ok_iff source.rowList_faceSupportPoints]

variable [OfNat K 2]

theorem subfaceMatrix_of_le
    (tolerance : Tolerance K) (target : FaceElement K) (source : Element K F)
    {subface : ℕ} (hsubface : 2 ^ (target.dim - 1) ≤ subface) :
    subfaceMatrix tolerance target source subface =
      .error (.indexOutOfRange .subface subface (2 ^ (target.dim - 1))) := by
  have hchild : target.faceCell.childCount ≤ subface := by
    rw [childCount_faceCell]
    exact hsubface
  unfold subfaceMatrix
  rw [if_pos hchild, childCount_faceCell]

theorem subfaceMatrix_face
    (source : FaceElement K)
    {subface : ℕ} (hsubface : subface < 2 ^ (target.dim - 1)) :
    subfaceMatrix tolerance target (.face source : Element K F) subface =
      (checkPair target source).bind fun _ =>
        ofPoints tolerance target (childSupportPoints source subface) := by
  unfold subfaceMatrix
  rw [if_neg (not_childCount_faceCell_le target hsubface)]
  rfl

theorem subfaceMatrix_eq_ok_iff
    {source : FaceElement K} {subface : ℕ} {matrix : Table K} :
    subfaceMatrix tolerance target (.face source : Element K F) subface =
        .ok matrix ↔
      subface < 2 ^ (target.dim - 1) ∧ checkPair target source = .ok () ∧
        (∀ i < source.dofsPerFace,
          RowPasses tolerance target (childPoint subface (source.faceNode i))) ∧
        matrix = roundedTable tolerance target source.dofsPerFace fun i =>
          childPoint subface (source.faceNode i) := by
  by_cases hsubface : subface < 2 ^ (target.dim - 1)
  · rw [subfaceMatrix_face source hsubface, bind_checkPair_eq_ok_iff,
      ofPoints_eq_ok_iff (rowList_childSupportPoints source subface)]
    simp only [hsubface, true_and]
  · rw [subfaceMatrix_of_le tolerance target _ (Nat.le_of_not_lt hsubface)]
    simp only [hsubface, false_and, reduceCtorEq]

theorem subfaceMatrix_returns_iff
    {source : FaceElement K} {subface : ℕ} (hsubface : subface < 2 ^ (target.dim - 1)) :
    (∃ matrix, subfaceMatrix tolerance target (.face source : Element K F) subface =
        .ok matrix) ↔
      checkPair target source = .ok () ∧
        ∀ i < source.dofsPerFace,
          RowPasses tolerance target (childPoint subface (source.faceNode i)) := by
  simp only [subfaceMatrix_eq_ok_iff, hsubface, true_and, exists_and_left, exists_eq,
    and_true]

end Outcomes

end Constraint
end FacetElements
