import FacetElements.Decimal.Positional
import FacetElements.Proofs.ConstraintOutcome

/-!
# Entries of a constraint matrix

A constraint matrix is computed from a table of stored one-dimensional values
and rounded in place.  Entry by entry it is what a single evaluation of a target
function gives, rounded by itself, and it is returned exactly if every row of
these entries, added from the left, comes near one.  Nothing is asked of the
tolerance: with one that compares with no number, nothing is near anything.
-/

namespace FacetElements
namespace Constraint

variable {K F : Type}

section Rounding

variable [Zero K] [One K] [Neg K] [Sub K] [LT K] [DecidableLT K] [LE K]

/-- A value as it stands in a matrix.  Nearness to one goes before nearness to
zero, and a value near neither is kept. -/
structure IsRounded (eps value entry : K) : Prop where
  near_one : Near eps value 1 → entry = 1
  near_zero : ¬ Near eps value 1 → Near eps value 0 → entry = 0
  far : ¬ Near eps value 1 → ¬ Near eps value 0 → entry = value

theorem isRounded_snap [DecidableLE K] (eps value : K) :
    IsRounded eps value (snap eps value) where
  near_one := by
    intro hone
    rw [snap, if_pos hone]
  near_zero := by
    intro hone hzero
    rw [snap, if_neg hone, if_pos hzero]
  far := by
    intro hone hzero
    rw [snap, if_neg hone, if_neg hzero]

end Rounding

section Answers

variable [Zero K] [One K] [NatCast K] [Neg K] [Add K] [Sub K] [Mul K] [Div K]
variable [LT K] [DecidableLT K] [LE K] [DecidableLE K] [ScalarText K]

/-- What a request for a matrix answers whose rows belong to given points: the
rounded values of the target functions there, or the first row of them that does
not sum to one. -/
structure IsAnswer (tolerance : Tolerance K) (target : FaceElement K) (rows : ℕ)
    (point : ℕ → List K) (entry : ℕ → ℕ → K) (answer : Except Error (Table K)) : Prop where
  isRounded : ∀ i < rows, ∀ j < target.dofsPerFace, ∃ value,
    target.space.value j (point i) = .ok value ∧
      IsRounded (tolerance.epsilon target.degree target.dim) value (entry i j)
  returns_iff : (∃ matrix, answer = .ok matrix) ↔
    ∀ i < rows, Near (tolerance.epsilon target.degree target.dim)
      (sumLeft ((List.range target.dofsPerFace).map (entry i))) 1
  entries : ∀ matrix, answer = .ok matrix →
    matrix.rows = rows ∧ matrix.cols = target.dofsPerFace ∧
      ∀ i < rows, ∀ j < target.dofsPerFace, matrix.read i j = .ok (entry i j)
  first_failure : ∀ i < rows,
    ¬ Near (tolerance.epsilon target.degree target.dim)
      (sumLeft ((List.range target.dofsPerFace).map (entry i))) 1 →
    (∀ k < i, Near (tolerance.epsilon target.degree target.dim)
      (sumLeft ((List.range target.dofsPerFace).map (entry k))) 1) →
    answer = .error (.rowSum i target.name.text (ScalarText.text
      (sumLeft ((List.range target.dofsPerFace).map (entry i)))))

theorem isAnswer_ofPoints
    (tolerance : Tolerance K) (target : FaceElement K)
    {points : Table K} {rows : ℕ} {point : ℕ → List K}
    (hpoints : points.rowList = (List.range rows).map point)
    (hlength : ∀ i, (point i).length = target.dim - 1) :
    IsAnswer tolerance target rows point
      (fun i => roundedFunction tolerance target (point i))
      (ofPoints tolerance target points) where
  isRounded := by
    intro i _ j hj
    exact ⟨target.faceFunction j (point i), target.space_value_eq hj (hlength i),
      isRounded_snap _ _⟩
  returns_iff := by
    constructor
    · rintro ⟨matrix, hmatrix⟩
      exact ((ofPoints_eq_ok_iff hpoints).mp hmatrix).1
    · intro hrows
      exact ⟨_, ofPoints_eq_ok hpoints hrows⟩
  entries := by
    intro matrix hmatrix
    obtain ⟨-, rfl⟩ := (ofPoints_eq_ok_iff hpoints).mp hmatrix
    refine ⟨rfl, rfl, ?_⟩
    intro i hi j hj
    exact Table.read_generate _ hi hj
  first_failure := by
    intro i hi hrow hbefore
    exact ofPoints_eq_rowSum hpoints hi hrow hbefore

variable [OfNat K 2] [ElementFamily F]

/-- Both operations answer with the rounded values at the support points of the
source, on the whole face as they are, on a child at their images in the face. -/
theorem constraint_matrix_entries
    (tolerance : Tolerance K) {target source : FaceElement K}
    (hpair : checkPair target source = .ok ()) :
    ∃ node : ℕ → List K,
      (∀ i < source.dofsPerFace, source.faceSupportPoints.row? i = some (node i)) ∧
      (∃ entry, IsAnswer tolerance target source.dofsPerFace node entry
        (faceMatrix tolerance target (.face source : Element K F))) ∧
      ∀ subface < 2 ^ (target.dim - 1), ∃ image : ℕ → List K,
        (∀ i < source.dofsPerFace,
          target.faceCell.childToCell subface (node i) = .ok (image i)) ∧
        ∃ entry, IsAnswer tolerance target source.dofsPerFace image entry
          (subfaceMatrix tolerance target (.face source : Element K F) subface) := by
  obtain ⟨hdim, -⟩ := checkPair_eq_ok_iff.mp hpair
  have hnode : ∀ i, (source.faceNode i).length = target.dim - 1 := by
    intro i
    rw [FaceElement.length_faceNode, hdim]
  refine ⟨source.faceNode, ?_, ?_, ?_⟩
  · intro i hi
    exact source.row?_faceSupportPoints hi
  · rw [faceMatrix_face, hpair]
    exact ⟨_, isAnswer_ofPoints tolerance target source.rowList_faceSupportPoints hnode⟩
  · intro subface hsubface
    have himage : ∀ i, (childPoint subface (source.faceNode i)).length =
        target.dim - 1 := by
      intro i
      rw [length_childPoint, hnode]
    refine ⟨fun i => childPoint subface (source.faceNode i), ?_, ?_⟩
    · intro i _
      exact childToCell_faceCell target hsubface (hnode i)
    · rw [subfaceMatrix_face source hsubface, hpair]
      exact ⟨_, isAnswer_ofPoints tolerance target
        (rowList_childSupportPoints source subface) himage⟩

end Answers

/-- The tolerance may be `0 / 0`, which compares with no number. -/
theorem constraint_matrix_entries_undefined_tolerance :
    ∃ target source : FaceElement Float,
      FaceElement.create 3 2 = .ok target ∧
      FaceElement.create 3 4 = .ok source ∧
      checkPair target source = .ok () ∧
      ∃ node : ℕ → List Float,
        (∀ i < source.dofsPerFace, source.faceSupportPoints.row? i = some (node i)) ∧
        (∃ entry, IsAnswer ⟨0 / 0⟩ target source.dofsPerFace node entry
          (faceMatrix ⟨0 / 0⟩ target (.face source : Element Float Empty))) ∧
        ∀ subface < 2 ^ (target.dim - 1), ∃ image : ℕ → List Float,
          (∀ i < source.dofsPerFace,
            target.faceCell.childToCell subface (node i) = .ok (image i)) ∧
          ∃ entry, IsAnswer ⟨0 / 0⟩ target source.dofsPerFace image entry
            (subfaceMatrix ⟨0 / 0⟩ target (.face source : Element Float Empty)
              subface) := by
  have hcreate : ∀ degree, FaceElement.dofCount 3 degree < wordBound →
      ∃ e : FaceElement Float,
        FaceElement.create 3 degree = .ok e ∧ e.dim = 3 ∧ e.degree = degree := by
    intro degree hfits
    exact ⟨_, FaceElement.create_of_fits ⟨by omega, le_rfl⟩ hfits, rfl, rfl⟩
  obtain ⟨target, htarget, hdim, hdegree⟩ := hcreate 2 (by decide)
  obtain ⟨source, hsource, hdim', hdegree'⟩ := hcreate 4 (by decide)
  have hpair : checkPair target source = .ok () := by
    apply checkPair_eq_ok
    · rw [hdim, hdim']
    · rw [hdegree, hdegree']
      omega
  exact ⟨target, source, htarget, hsource, hpair,
    constraint_matrix_entries ⟨0 / 0⟩ hpair⟩

end Constraint
end FacetElements
