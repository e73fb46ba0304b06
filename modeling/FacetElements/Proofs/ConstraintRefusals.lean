import FacetElements.Proofs.ConstraintOutcome
import FacetElements.Proofs.FaceTabulation
import FacetElements.Proofs.RationalElements

/-!
# Refusals of constraint matrices

A request for a constraint matrix is refused for the first of its faults, in a
fixed order, and a request without fault is refused only for a row that does not
sum to one.  The guards of the operations that a request goes through, on the
points of a child and on the width of a table of points, never take part: every
point that reaches them has the dimension of the face.
-/

namespace FacetElements
namespace Constraint

variable {K F : Type}

/-! ## Guards on the way -/

section Guards

variable [Zero K] [One K] [Sub K] [Mul K] [Div K]

variable [OfNat K 2] [Add K]

/-- The guarded operations that a request with this pair goes through give their
results at every point and for every table of points. -/
structure GuardsPass (target source : FaceElement K) (subface : ℕ) : Prop where
  tabulate_face : target.space.tabulate source.faceSupportPoints =
    .ok (target.space.valueTable source.faceSupportPoints)
  childToCell : ∀ point ∈ source.faceSupportPoints.rowList,
    target.faceCell.childToCell subface point = .ok (childPoint subface point)
  tabulate_child : target.space.tabulate (childSupportPoints source subface) =
    .ok (target.space.valueTable (childSupportPoints source subface))

theorem guardsPass
    {target source : FaceElement K} (hdim : source.dim = target.dim)
    {subface : ℕ} (hsubface : subface < 2 ^ (target.dim - 1)) :
    GuardsPass target source subface where
  tabulate_face := by
    apply target.tabulate_space
    rw [FaceElement.cols_faceSupportPoints, hdim]
  childToCell := by
    intro point hpoint
    apply childToCell_faceCell target hsubface
    rw [Table.length_of_mem_rowList hpoint, FaceElement.cols_faceSupportPoints, hdim]
  tabulate_child := by
    apply target.tabulate_space
    rw [← hdim]
    rfl

end Guards

/-! ## Answers -/

section Answers

variable [Zero K] [One K] [NatCast K] [Neg K] [Add K] [Sub K] [Mul K] [Div K]
variable [LT K] [DecidableLT K] [LE K] [DecidableLE K] [ScalarText K]

/-- What a request answers whose source is a face element, on the whole face or
on a child of it. -/
structure AnswersFaceSource (target source : FaceElement K)
    (answer : Except Error (Table K)) : Prop where
  other_dim : source.dim ≠ target.dim →
    answer = .error (.dimensionMismatch target.dim source.dim)
  wrong_direction : source.dim = target.dim →
    (answer = .error (.wrongDirection source.name.text target.name.text) ↔
      source.degree < target.degree)
  admitted : source.dim = target.dim → target.degree ≤ source.degree →
    (∃ matrix, answer = .ok matrix) ∨
      ∃ row sum, answer = .error (.rowSum row target.name.text sum)

theorem ofPoints_returns_or_rowSum
    (tolerance : Tolerance K) (target : FaceElement K)
    {points : Table K} {rows : ℕ} {point : ℕ → List K}
    (hpoints : points.rowList = (List.range rows).map point) :
    (∃ matrix, ofPoints tolerance target points = .ok matrix) ∨
      ∃ row sum, ofPoints tolerance target points =
        .error (.rowSum row target.name.text sum) := by
  by_cases hrows : ∀ i < rows, RowPasses tolerance target (point i)
  · left
    exact ⟨_, ofPoints_eq_ok hpoints hrows⟩
  · right
    obtain ⟨i, hi, hrow, hbefore⟩ := exists_first_not hrows
    exact ⟨i, _, ofPoints_eq_rowSum hpoints hi hrow hbefore⟩

theorem answersFaceSource_ofPoints
    (tolerance : Tolerance K) (target source : FaceElement K)
    {points : Table K} {rows : ℕ} {point : ℕ → List K}
    (hpoints : points.rowList = (List.range rows).map point) :
    AnswersFaceSource target source
      ((checkPair target source).bind fun _ => ofPoints tolerance target points) where
  other_dim := by
    intro hdim
    rw [checkPair_of_dim_ne hdim]
    rfl
  wrong_direction := by
    intro hdim
    by_cases hdegree : source.degree < target.degree
    · rw [checkPair_of_degree_lt hdim hdegree]
      exact iff_of_true rfl hdegree
    · rw [checkPair_eq_ok hdim (Nat.le_of_not_lt hdegree)]
      refine iff_of_false ?_ hdegree
      intro hanswer
      change ofPoints tolerance target points = _ at hanswer
      obtain ⟨_, hok⟩ | ⟨_, _, hrow⟩ :=
        ofPoints_returns_or_rowSum tolerance target hpoints
      · rw [hok] at hanswer
        cases hanswer
      · rw [hrow] at hanswer
        cases hanswer
  admitted := by
    intro hdim hdegree
    rw [checkPair_eq_ok hdim hdegree]
    exact ofPoints_returns_or_rowSum tolerance target hpoints

variable [OfNat K 2] [ElementFamily F]

/-- The kind of the source is looked at first on a whole face, the number of the
child first on a child.  Dimensions go before degrees, and nothing else but a
row can be refused. -/
theorem constraint_matrix_refusals
    (tolerance : Tolerance K) (target : FaceElement K) (source : Element K F)
    (subface : ℕ) :
    ((∀ e, source ≠ .face e) →
      faceMatrix tolerance target source = .error (.unsupportedSource source.name)) ∧
    (∀ e, source = .face e →
      AnswersFaceSource target e (faceMatrix tolerance target source)) ∧
    (2 ^ (target.dim - 1) ≤ subface →
      subfaceMatrix tolerance target source subface =
        .error (.indexOutOfRange .subface subface (2 ^ (target.dim - 1)))) ∧
    (subface < 2 ^ (target.dim - 1) →
      (∀ e, source = .foreign e →
        subfaceMatrix tolerance target source subface =
          .error (.noSubfaceMatrix source.name target.name.text)) ∧
      (∀ e, source = .nothing e → e.dim ≠ target.dim →
        subfaceMatrix tolerance target source subface =
          .error (.dimensionMismatch target.dim e.dim)) ∧
      (∀ e, source = .nothing e → e.dim = target.dim →
        ∃ matrix, subfaceMatrix tolerance target source subface = .ok matrix ∧
          matrix.rows = 0 ∧ matrix.cols = target.dofsPerFace) ∧
      (∀ e, source = .face e →
        AnswersFaceSource target e (subfaceMatrix tolerance target source subface)) ∧
      ∀ e, source = .face e → e.dim = target.dim → GuardsPass target e subface) := by
  refine ⟨?_, ?_, subfaceMatrix_of_le tolerance target source, ?_⟩
  · intro hface
    cases source with
    | face e =>
        exact absurd rfl (hface e)
    | nothing e =>
        rfl
    | foreign e =>
        rfl
  · rintro e rfl
    rw [faceMatrix_face]
    exact answersFaceSource_ofPoints tolerance target e e.rowList_faceSupportPoints
  · intro hsubface
    have hchild := not_childCount_faceCell_le target hsubface
    refine ⟨?_, ?_, ?_, ?_, ?_⟩
    · rintro e rfl
      rw [subfaceMatrix, if_neg hchild]
      rfl
    · rintro e rfl hdim
      rw [subfaceMatrix, if_neg hchild]
      exact if_neg hdim
    · rintro e rfl hdim
      refine ⟨Table.zeros 0 target.dofsPerFace, ?_, rfl, rfl⟩
      rw [subfaceMatrix, if_neg hchild]
      exact if_pos hdim
    · rintro e rfl
      rw [subfaceMatrix_face e hsubface]
      exact answersFaceSource_ofPoints tolerance target e
        (rowList_childSupportPoints e subface)
    · rintro e rfl hdim
      exact guardsPass hdim hsubface

/-- Nine dofs cannot be constrained by four, and a face has the children 0 to 3. -/
theorem constraint_matrix_refusals_quadratic_target :
    faceMatrix ⟨1⟩ (rationalFace 2) (.face (rationalFace 1) : Element ℚ Empty) =
      .error (.wrongDirection (rationalFace 1).name.text (rationalFace 2).name.text) ∧
    subfaceMatrix ⟨1⟩ (rationalFace 2) (.face (rationalFace 1) : Element ℚ Empty) 3 =
      .error (.wrongDirection (rationalFace 1).name.text (rationalFace 2).name.text) ∧
    subfaceMatrix ⟨1⟩ (rationalFace 2) (.face (rationalFace 1) : Element ℚ Empty) 4 =
      .error (.indexOutOfRange .subface 4 (2 ^ ((rationalFace 2).dim - 1))) := by
  have hdim : (rationalFace 1).dim = (rationalFace 2).dim := rfl
  have hdegree : (rationalFace 1).degree < (rationalFace 2).degree := by
    decide
  have hlast : 3 < 2 ^ ((rationalFace 2).dim - 1) := by
    decide
  have hpast : 2 ^ ((rationalFace 2).dim - 1) ≤ 4 := by
    decide
  obtain ⟨-, hface, -, hsubface⟩ :=
    constraint_matrix_refusals ⟨1⟩ (rationalFace 2)
      (.face (rationalFace 1) : Element ℚ Empty) 3
  obtain ⟨-, -, hrange, -⟩ :=
    constraint_matrix_refusals ⟨1⟩ (rationalFace 2)
      (.face (rationalFace 1) : Element ℚ Empty) 4
  obtain ⟨-, -, -, hchild, -⟩ := hsubface hlast
  exact ⟨((hface _ rfl).wrong_direction hdim).mpr hdegree,
    ((hchild _ rfl).wrong_direction hdim).mpr hdegree, hrange hpast⟩

end Answers

end Constraint
end FacetElements
