import FacetElements.Proofs.CollectionMatrices

/-!
# Domination and constraints

Three operations order face elements: the comparison on a common face by degree,
the request for one matrix and the matrices of a collection by dofs.  All of
them agree, so the winner among listed elements can constrain every other
listed face element.

Seen from the other element a comparison is reversed, up to one case.  The
element without dofs answers every partner, while a face element refuses an
element without dofs of another dimension.
-/

namespace FacetElements

variable {K F : Type}

/-! ## Comparison of degrees -/

namespace Domination

theorem ofDegrees_dominates_iff {m n : ℕ} :
    ofDegrees m n = .this ∨ ofDegrees m n = .either ↔ m ≤ n := by
  unfold ofDegrees
  split_ifs with hlt heq <;> simp <;> omega

theorem admits_ofDegrees_iff {m n : ℕ} : (ofDegrees m n).Admits ↔ m ≤ n := by
  unfold ofDegrees
  split_ifs with hlt heq <;> simp [Admits] <;> omega

theorem reversed_ofDegrees (m n : ℕ) : (ofDegrees m n).reversed = ofDegrees n m := by
  obtain hlt | rfl | hgt := Nat.lt_trichotomy m n
  · simp [ofDegrees, reversed, hlt, hlt.not_gt, hlt.ne']
  · simp [ofDegrees, reversed]
  · simp [ofDegrees, reversed, hgt, hgt.not_gt, hgt.ne']

end Domination

/-! ## Comparison of elements -/

namespace Element

variable [ElementFamily F] [FaceComparison K F]

theorem compare_face_of_dim_eq
    {e f : FaceElement K} (hdim : f.dim = e.dim) :
    (.face e : Element K F).compare (.face f) = .ok (.ofDegrees e.degree f.degree) :=
  if_pos hdim

theorem compare_face_of_dim_ne
    {e f : FaceElement K} (hdim : f.dim ≠ e.dim) :
    (.face e : Element K F).compare (.face f) =
      .error (.incomparable e.name.text f.name.text) :=
  if_neg hdim

theorem compare_face_eq_ok_iff {e f : FaceElement K} {d : Domination} :
    (.face e : Element K F).compare (.face f) = .ok d ↔
      f.dim = e.dim ∧ d = .ofDegrees e.degree f.degree := by
  by_cases hdim : f.dim = e.dim
  · simp [compare_face_of_dim_eq hdim, hdim, eq_comm]
  · simp [compare_face_of_dim_ne hdim, hdim]

theorem compare_face_dominates_iff {e f : FaceElement K} :
    (.face e : Element K F).compare (.face f) = .ok .this ∨
        (.face e : Element K F).compare (.face f) = .ok .either ↔
      f.dim = e.dim ∧ e.degree ≤ f.degree := by
  simp only [compare_face_eq_ok_iff, ← Domination.ofDegrees_dominates_iff, and_or_left,
    @eq_comm _ _ (Domination.ofDegrees _ _)]

theorem compare_face_admits_iff {e f : FaceElement K} :
    (∃ d, (.face e : Element K F).compare (.face f) = .ok d ∧ d.Admits) ↔
      f.dim = e.dim ∧ e.degree ≤ f.degree := by
  simp only [compare_face_eq_ok_iff, ← Domination.admits_ofDegrees_iff, and_assoc,
    exists_and_left, exists_eq_left]

theorem compare_nothing (e : NothingElement) (b : Element K F) :
    (.nothing e : Element K F).compare b = .ok .noRequirements := rfl

theorem compare_face_nothing_eq_ok_iff
    {e : FaceElement K} {f : NothingElement} {d : Domination} :
    (.face e : Element K F).compare (.nothing f) = .ok d ↔
      f.dim = e.dim ∧ d = .noRequirements := by
  unfold compare
  by_cases hdim : f.dim = e.dim
  · simp [hdim, eq_comm]
  · simp [hdim]

/-- A comparison is reversed when the other element makes it, except when the
first has no dofs and the other is a face element of another dimension. -/
theorem compare_reversed_iff
    {a b : Element K F} (ha : ∀ x, a ≠ .foreign x) (hb : ∀ x, b ≠ .foreign x) :
    (∀ d, a.compare b = .ok d → b.compare a = .ok d.reversed) ↔
      ∀ e f, a = .nothing e → b = .face f → e.dim = f.dim := by
  cases a with
  | face e =>
      have hright : ∀ g f, (.face e : Element K F) = .nothing g → b = .face f →
          g.dim = f.dim := by
        simp
      refine iff_of_true ?_ hright
      -- A face element answers within its own dimension only, and all answer back.
      intro d hd
      cases b with
      | face f =>
          obtain ⟨hdim, rfl⟩ := compare_face_eq_ok_iff.mp hd
          rw [compare_face_of_dim_eq hdim.symm, Domination.reversed_ofDegrees]
      | nothing f =>
          obtain ⟨-, rfl⟩ := compare_face_nothing_eq_ok_iff.mp hd
          exact compare_nothing f _
      | foreign f =>
          exact absurd rfl (hb f)
  | nothing e =>
      cases b with
      | face f =>
          simp [compare_nothing, compare_face_nothing_eq_ok_iff, Domination.reversed]
      | nothing f =>
          simp [compare_nothing, Domination.reversed]
      | foreign f =>
          exact absurd rfl (hb f)
  | foreign e =>
      exact absurd rfl (ha e)

theorem compare_reversed_iff_same_dim :
    (∀ x, (.nothing ⟨3, by decide, by decide⟩ : Element ℚ Empty) ≠ .foreign x) ∧
    (∀ x, (.face (rationalFace 1) : Element ℚ Empty) ≠ .foreign x) ∧
    ∀ d, (.nothing ⟨3, by decide, by decide⟩ : Element ℚ Empty).compare
        (.face (rationalFace 1)) = .ok d →
      (.face (rationalFace 1) : Element ℚ Empty).compare
        (.nothing ⟨3, by decide, by decide⟩) = .ok d.reversed := by
  have hnothing : ∀ x, (.nothing ⟨3, by decide, by decide⟩ : Element ℚ Empty) ≠ .foreign x := by
    simp
  have hface : ∀ x, (.face (rationalFace 1) : Element ℚ Empty) ≠ .foreign x := by
    simp
  refine ⟨hnothing, hface, (compare_reversed_iff hnothing hface).mpr ?_⟩
  intro e f he hf
  cases he
  cases hf
  rfl

/-- The element without dofs on a square answers a face element of a cube, which
does not answer it. -/
theorem compare_not_reversed :
    ∃ a b : Element ℚ Empty,
      (ElementName.nothing 2).create = .ok a ∧
      (ElementName.faceLagrange 3 1).create = .ok b ∧
      a.compare b = .ok .noRequirements ∧
      b.compare a = .error (.incomparable b.name a.name) :=
  ⟨.nothing ⟨2, by decide, by decide⟩, .face (rationalFace 1), rfl, rfl, rfl, rfl⟩

end Element

/-! ## The winner among listed elements -/

/-- The entry has the property, and no entry before its first occurrence has. -/
def IsFirst {α : Type} (p : α → Prop) (xs : List α) (x : α) : Prop :=
  p x ∧ ∃ before after, xs = before ++ x :: after ∧ ∀ y ∈ before, ¬ p y

theorem isFirst_iff_find?_eq_some
    {α : Type} {p : α → Prop} [DecidablePred p] {xs : List α} {x : α} :
    IsFirst p xs x ↔ xs.find? (fun y => p y) = some x := by
  simp [List.find?_eq_some_iff_append, IsFirst]

namespace Collection

section Winner

variable [ElementFamily F] [FaceComparison K F]

theorem mayDominate_iff {c : Collection K F} {i j : ℕ} :
    c.MayDominate i j ↔ ∃ d, c.compare? i j = some (.ok d) ∧ d.Admits := by
  unfold MayDominate
  cases hcompare : c.compare? i j with
  | none =>
      simp
  | some answer =>
      cases answer with
      | error error =>
          simp
      | ok d =>
          simp

theorem compare?_eq_some
    {c : Collection K F} {i j : ℕ} {a b : Element K F}
    (ha : c.get? i = some a) (hb : c.get? j = some b) :
    c.compare? i j = some (a.compare b) := by
  simp [compare?, ha, hb]

/-- The element of this number may be taken to dominate every other listed one. -/
def Leads (c : Collection K F) (indices : List ℕ) (w : ℕ) : Prop :=
  ∀ j ∈ indices, j = w ∨ c.MayDominate w j

instance (c : Collection K F) (indices : List ℕ) : DecidablePred (c.Leads indices) :=
  fun _ => List.decidableBAll _ indices

theorem dominating?_eq_some_iff {c : Collection K F} {indices : List ℕ} {w : ℕ} :
    c.dominating? indices = some w ↔
      (∀ i ∈ indices, i < c.size) ∧ IsFirst (c.Leads indices) indices w := by
  have hsearch :
      (indices.find? fun i => indices.all fun j => j = i ∨ c.MayDominate i j) =
        indices.find? fun i => c.Leads indices i := by
    apply List.find?_congr
    intro i _
    rw [Bool.eq_iff_iff, List.all_eq_true, decide_eq_true_eq]
    simp only [decide_eq_true_eq, Leads]
  rw [dominating?, hsearch, isFirst_iff_find?_eq_some, Option.ite_none_right_eq_some]
  simp only [List.all_eq_true, decide_eq_true_eq]

theorem dominating?_eq_some
    {c : Collection K F} {indices : List ℕ} {w : ℕ}
    (hw : c.dominating? indices = some w) :
    w ∈ indices ∧ c.Leads indices w := by
  obtain ⟨-, hleads, before, after, rfl, -⟩ := dominating?_eq_some_iff.mp hw
  exact ⟨List.mem_append_right before List.mem_cons_self, hleads⟩

theorem dominating?_face
    {c : Collection K F} {indices : List ℕ} {w o : ℕ} {target source : FaceElement K}
    (hw : c.dominating? indices = some w) (htarget : c.get? w = some (.face target))
    (ho : o ∈ indices) (hsource : c.get? o = some (.face source)) :
    source.dim = target.dim ∧ target.degree ≤ source.degree := by
  obtain ⟨-, hall⟩ := dominating?_eq_some hw
  obtain rfl | hdominates := hall o ho
  · have heq : target = source := by
      simpa [htarget] using hsource
    simp [heq]
  · rw [mayDominate_iff, compare?_eq_some htarget hsource] at hdominates
    simp only [Option.some.injEq] at hdominates
    exact Element.compare_face_admits_iff.mp hdominates

end Winner

end Collection

/-! ## Constraints -/

/-- Constraints between two elements are refused for their dimensions, or are
not implemented in this direction or on a child. -/
def Error.RefusesPair : Error → Prop
  | .dimensionMismatch .. | .wrongDirection .. | .noSubfaceMatrix .. => True
  | _ => False

section Constraints

variable [Zero K] [One K] [NatCast K] [Neg K] [Add K] [Sub K] [Mul K] [Div K]
variable [LT K] [DecidableLT K] [LE K] [DecidableLE K] [ScalarText K] [ElementFamily F]
variable {tolerance : Tolerance K}

theorem Constraint.faceMatrix_not_refused_iff {target source : FaceElement K} :
    (∀ error, faceMatrix tolerance target (.face source : Element K F) = .error error →
        ¬ error.RefusesPair) ↔
      source.dim = target.dim ∧ target.degree ≤ source.degree := by
  have hanswers :=
    Collection.answersFaceSource_faceMatrix (F := F) tolerance target source
  constructor
  · intro hnot
    by_cases hdim : source.dim = target.dim
    · refine ⟨hdim, Nat.le_of_not_lt ?_⟩
      intro hdegree
      exact hnot _ ((hanswers.wrong_direction hdim).mpr hdegree) trivial
    · exact absurd trivial (hnot _ (hanswers.other_dim hdim))
  · rintro ⟨hdim, hdegree⟩ error herror hrefuses
    obtain ⟨matrix, hok⟩ | ⟨row, sum, hrow⟩ := hanswers.admitted hdim hdegree
    · simp [hok] at herror
    · rw [hrow] at herror
      cases herror
      exact hrefuses

variable [OfNat K 2] [FaceComparison K F]

theorem Collection.mem_keys_of_dominating
    {c : Collection K F} {matrices : List ((ℕ × ℕ) × Table K)}
    (hmatrices : c.faceMatrices tolerance = .ok matrices)
    {indices : List ℕ} {w o : ℕ} {target source : FaceElement K}
    (hw : c.dominating? indices = some w) (htarget : c.get? w = some (.face target))
    (ho : o ∈ indices) (hsource : c.get? o = some (.face source)) :
    (w, o) ∈ matrices.map Prod.fst := by
  obtain ⟨hdim, hdegree⟩ := dominating?_face hw htarget ho hsource
  exact (mem_keys_iff_degree_le hmatrices htarget hsource hdim.symm).mpr hdegree

/-- An element dominates another exactly when the dofs of the other can be
constrained to it, and a collection has the matrices from every listed face
element to the winner. -/
theorem dominating_constrains (tolerance : Tolerance K) :
    (∀ a b : FaceElement K,
      ((.face a : Element K F).compare (.face b) = .ok .this ∨
        (.face a : Element K F).compare (.face b) = .ok .either) ↔
      ∀ error, Constraint.faceMatrix tolerance a (.face b : Element K F) = .error error →
        ¬ error.RefusesPair) ∧
    ∀ (c : Collection K F) (indices : List ℕ) (w : ℕ) (target : FaceElement K),
      c.dominating? indices = some w → c.get? w = some (.face target) →
      ∀ matrices, c.faceMatrices tolerance = .ok matrices →
      ∀ o ∈ indices, ∀ source, c.get? o = some (.face source) →
        (w, o) ∈ matrices.map Prod.fst := by
  constructor
  · intro a b
    rw [Element.compare_face_dominates_iff, Constraint.faceMatrix_not_refused_iff]
  · intro c indices w target hw htarget matrices hmatrices o ho source hsource
    exact c.mem_keys_of_dominating hmatrices hw htarget ho hsource

end Constraints

/-- The linear element wins over the quadratic one, and constrains it. -/
theorem dominating_constrains_rationalCollection :
    rationalCollection.dominating? [0, 2, 1, 0] = some 2 ∧
    ∃ matrices, rationalCollection.faceMatrices ⟨0⟩ = .ok matrices ∧
      (2, 0) ∈ matrices.map Prod.fst ∧ (2, 2) ∈ matrices.map Prod.fst := by
  have hw : rationalCollection.dominating? [0, 2, 1, 0] = some 2 := by
    decide
  have hquadratic : rationalCollection.get? 0 = some (.face (rationalFace 2)) := rfl
  have hlinear : rationalCollection.get? 2 = some (.face (rationalFace 1)) := rfl
  obtain ⟨matrices, hmatrices⟩ := exists_faceMatrices_rationalCollection
  obtain ⟨-, hconstrains⟩ := dominating_constrains (K := ℚ) (F := Empty) ⟨0⟩
  have hkeys := hconstrains _ _ _ _ hw hlinear matrices hmatrices
  exact ⟨hw, matrices, hmatrices, hkeys 0 (by simp) _ hquadratic,
    hkeys 2 (by simp) _ hlinear⟩

end FacetElements
