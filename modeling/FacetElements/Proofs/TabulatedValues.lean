import FacetElements.Proofs.FaceTabulation

/-!
# Tables against single values

A table of basis functions multiplies stored values, a table of shape functions
copies the functions of one face into their block of columns.  Both hold exactly
what single evaluations give at the rows of the table of points.  A request is
refused for the first of its parts that does not fit, and only then.  No law of the
scalars takes part: nodes and points may be undefined numbers, and nodes may be
repeated or missing.
-/

namespace FacetElements

variable {K α : Type}

/-- One row for each point of a table, and in it the values that single evaluations
of the functions below `count` give at this point. -/
structure Table.HoldsValues
    (evaluate : ℕ → List K → Except Error K) (count : ℕ) (points table : Table K) : Prop where
  rows_eq : table.rows = points.rows
  cols_eq : table.cols = count
  agrees : ∀ p < points.rows, ∀ i < count, ∃ point value,
    points.row? p = some point ∧ evaluate i point = .ok value ∧ table.read p i = .ok value

theorem Table.holdsValues_generate
    {evaluate : ℕ → List K → Except Error K} {count : ℕ} {points : Table K}
    {f : ℕ → List K → K}
    (hvalue : ∀ i < count, ∀ point : List K, point.length = points.cols →
      evaluate i point = .ok (f i point)) :
    Table.HoldsValues evaluate count points
      (Table.generate points.rows count fun p i => f i (points.row p)) where
  rows_eq := rfl
  cols_eq := rfl
  agrees := by
    intro p hp i hi
    have hrow : points.row? p = some (points.row p) := if_pos hp
    exact ⟨points.row p, f i (points.row p), hrow, hvalue i hi _ (points.length_row hp),
      Table.read_generate _ hp hi⟩

/-! ## Basis functions -/

namespace TensorSpace

section Evaluation

variable [Zero K] [One K] [Sub K] [Mul K] [Div K]

end Evaluation

end TensorSpace

/-! ## Shape functions -/

namespace FaceElement

/-- An answer is given exactly if dof, face and number of coordinates fit the element;
otherwise the first of them that does not is named. -/
structure NamesFirstMisfit
    (e : FaceElement K) (shape face coordinates : ℕ) (answer : Except Error α) : Prop where
  ok_iff : (∃ value, answer = .ok value) ↔
    shape < e.dofsPerCell ∧ face < 2 * e.dim ∧ coordinates = e.dim - 1
  shape_first : e.dofsPerCell ≤ shape →
    answer = .error (.indexOutOfRange .shapeFunction shape e.dofsPerCell)
  then_face : shape < e.dofsPerCell → 2 * e.dim ≤ face →
    answer = .error (.indexOutOfRange .face face (2 * e.dim))
  then_coordinates : shape < e.dofsPerCell → face < 2 * e.dim → coordinates ≠ e.dim - 1 →
    answer = .error (.dimensionMismatch (e.dim - 1) coordinates)

variable {e : FaceElement K} {shape face coordinates : ℕ}

/-- An answer behind the checks of dof, face and number of coordinates. -/
def afterChecks
    (e : FaceElement K) (shape face coordinates : ℕ) (answer : Except Error α) :
    Except Error α := do
  e.checkShapeAndFace shape face
  e.checkFaceCoordinates coordinates
  answer

section Checks

variable {answer : Except Error α}

theorem afterChecks_of_shape_le (hshape : e.dofsPerCell ≤ shape) :
    e.afterChecks shape face coordinates answer =
      .error (.indexOutOfRange .shapeFunction shape e.dofsPerCell) := by
  unfold afterChecks
  rw [e.checkShapeAndFace_of_shape_le hshape]
  rfl

theorem afterChecks_of_face_le (hshape : shape < e.dofsPerCell) (hface : 2 * e.dim ≤ face) :
    e.afterChecks shape face coordinates answer =
      .error (.indexOutOfRange .face face (2 * e.dim)) := by
  unfold afterChecks
  rw [e.checkShapeAndFace_of_face_le hshape hface]
  rfl

theorem afterChecks_of_coordinates_ne
    (hshape : shape < e.dofsPerCell) (hface : face < 2 * e.dim)
    (hcoordinates : coordinates ≠ e.dim - 1) :
    e.afterChecks shape face coordinates answer =
      .error (.dimensionMismatch (e.dim - 1) coordinates) := by
  unfold afterChecks
  rw [e.checkShapeAndFace_eq_ok hshape hface, checkFaceCoordinates, if_neg hcoordinates]
  rfl

theorem afterChecks_eq
    (hshape : shape < e.dofsPerCell) (hface : face < 2 * e.dim)
    (hcoordinates : coordinates = e.dim - 1) :
    e.afterChecks shape face coordinates answer = answer := by
  unfold afterChecks
  rw [e.checkShapeAndFace_eq_ok hshape hface, checkFaceCoordinates, if_pos hcoordinates]
  rfl

theorem namesFirstMisfit_afterChecks
    (hanswer : shape < e.dofsPerCell → face < 2 * e.dim → coordinates = e.dim - 1 →
      ∃ value, answer = .ok value) :
    NamesFirstMisfit e shape face coordinates
      (e.afterChecks shape face coordinates answer) where
  ok_iff := by
    constructor
    · rintro ⟨value, hvalue⟩
      have hshape : shape < e.dofsPerCell := by
        by_contra hle
        rw [afterChecks_of_shape_le (Nat.le_of_not_lt hle)] at hvalue
        cases hvalue
      have hface : face < 2 * e.dim := by
        by_contra hle
        rw [afterChecks_of_face_le hshape (Nat.le_of_not_lt hle)] at hvalue
        cases hvalue
      refine ⟨hshape, hface, ?_⟩
      by_contra hne
      rw [afterChecks_of_coordinates_ne hshape hface hne] at hvalue
      cases hvalue
    · rintro ⟨hshape, hface, hcoordinates⟩
      rw [afterChecks_eq hshape hface hcoordinates]
      exact hanswer hshape hface hcoordinates
  shape_first := afterChecks_of_shape_le
  then_face := afterChecks_of_face_le
  then_coordinates := afterChecks_of_coordinates_ne

end Checks

section Evaluation

variable [Zero K] [One K] [Sub K] [Mul K] [Div K]

theorem namesFirstMisfit_faceShapeValue
    (e : FaceElement K) (shape face : ℕ) (point : List K) :
    NamesFirstMisfit e shape face point.length (e.faceShapeValue shape face point) := by
  apply namesFirstMisfit_afterChecks
  intro hshape hface hpoint
  rw [e.space_value_eq (e.mod_dofsPerFace_lt shape) hpoint]
  by_cases hsupport : e.hasSupportOnFace shape face = true
  · exact ⟨_, if_pos hsupport⟩
  · exact ⟨_, if_neg hsupport⟩

theorem namesFirstMisfit_faceShapeGradient
    [Add K] (e : FaceElement K) (shape face : ℕ) (point : List K) :
    NamesFirstMisfit e shape face point.length (e.faceShapeGradient shape face point) := by
  apply namesFirstMisfit_afterChecks
  intro hshape hface hpoint
  rw [e.space_gradient_eq (e.mod_dofsPerFace_lt shape) hpoint]
  by_cases hsupport : e.hasSupportOnFace shape face = true
  · exact ⟨_, if_pos hsupport⟩
  · exact ⟨_, if_neg hsupport⟩

theorem shapeFunction_eq_zero
    (e : FaceElement K) (hsupport : e.hasSupportOnFace shape face = false) (point : List K) :
    e.shapeFunction face shape point = 0 := by
  have hface : ¬ face = shape / e.dofsPerFace := by
    simpa [hasSupportOnFace] using hsupport
  rw [shapeFunction, if_neg hface]

/-- The table of all shape functions on a face holds their single values, among them
zero for every dof of another face.  It is refused for its face first and then for
its width, and single values and gradients are refused likewise. -/
theorem tabulateFace_agrees [Add K] (e : FaceElement K) :
    (∀ (face : ℕ) (points : Table K),
      (2 * e.dim ≤ face →
        e.tabulateFace face points = .error (.indexOutOfRange .face face (2 * e.dim))) ∧
      (face < 2 * e.dim → points.cols ≠ e.dim - 1 →
        e.tabulateFace face points = .error (.dimensionMismatch (e.dim - 1) points.cols)) ∧
      (face < 2 * e.dim → points.cols = e.dim - 1 →
        ∃ table, e.tabulateFace face points = .ok table ∧
          Table.HoldsValues (fun shape => e.faceShapeValue shape face) e.dofsPerCell points
            table ∧
          ∀ p < points.rows, ∀ shape < e.dofsPerCell,
            e.hasSupportOnFace shape face = false → table.read p shape = .ok 0)) ∧
    ∀ (shape face : ℕ) (point : List K),
      NamesFirstMisfit e shape face point.length (e.faceShapeValue shape face point) ∧
      NamesFirstMisfit e shape face point.length (e.faceShapeGradient shape face point) := by
  refine ⟨?_, ?_⟩
  · intro face points
    refine ⟨fun hface => e.tabulateFace_of_face_le hface points,
      fun hface hcols => e.tabulateFace_of_cols_ne hface hcols, ?_⟩
    intro hface hcols
    refine ⟨_, e.tabulateFace_eq hface hcols, ?_, ?_⟩
    · apply Table.holdsValues_generate
      intro shape hshape point hpoint
      exact e.faceShapeValue_eq_shapeFunction hshape hface (hpoint.trans hcols)
    · intro p hp shape hshape hsupport
      rw [Table.read_generate _ hp hshape, e.shapeFunction_eq_zero hsupport]
  · intro shape face point
    exact ⟨e.namesFirstMisfit_faceShapeValue shape face point,
      e.namesFirstMisfit_faceShapeGradient shape face point⟩

end Evaluation

end FaceElement

end FacetElements
