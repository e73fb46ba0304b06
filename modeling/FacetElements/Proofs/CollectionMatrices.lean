import FacetElements.Collection
import FacetElements.Proofs.ConstraintRefusals
import FacetElements.Proofs.ExactConstraints
import Mathlib.Data.List.Sigma

/-!
# Face matrices of a collection

A collection may hold elements of all kinds and dimensions, and one element many
times.  The face matrices that it computes at once are those of its pairs: one
for each target and source, numbered as in the collection, and equal to the
matrix of the two elements alone.  They are refused exactly when the matrix of
some pair is, and a pair is refused only for a row that does not sum to one.
-/

namespace FacetElements

variable {K F : Type}

namespace Collection

/-! ## Numbered face elements -/

theorem mem_faceElements_iff {c : Collection K F} {i : ℕ} {e : FaceElement K} :
    (i, e) ∈ c.faceElements ↔ c.get? i = some (.face e) := by
  unfold faceElements get?
  rw [List.mem_filterMap]
  constructor
  · rintro ⟨⟨element, number⟩, hnumbered, hface⟩
    have hget := List.mem_zipIdx_iff_getElem?.mp hnumbered
    cases element with
    | face f =>
        cases hface
        rwa [Array.getElem?_toList] at hget
    | nothing f =>
        cases hface
    | foreign f =>
        cases hface
  · intro hget
    refine ⟨(.face e, i), ?_, rfl⟩
    rw [List.mem_zipIdx_iff_getElem?, Array.getElem?_toList]
    exact hget

theorem pairwise_faceElements (c : Collection K F) :
    c.faceElements.Pairwise fun a b => a.1 ≠ b.1 := by
  have hnumbers : c.elements.toList.zipIdx.Pairwise fun a b => a.2 ≠ b.2 :=
    List.pairwise_map.mp (List.nodup_zipIdx_map_snd c.elements.toList)
  refine hnumbers.filterMap _ ?_
  rintro ⟨element, i⟩ ⟨other, j⟩ hne ⟨i', e⟩ he ⟨j', f⟩ hf
  cases element with
  | face e' =>
      cases he
      cases other with
      | face f' =>
          cases hf
          exact hne
      | nothing f' =>
          cases hf
      | foreign f' =>
          cases hf
  | nothing e' =>
      cases he
  | foreign e' =>
      cases he

/-! ## Pairs -/

/-- The elements with these numbers are face elements of one dimension, and the
target has no more dofs on a face than the source. -/
structure IsPair (c : Collection K F) (i j : ℕ) (target source : FaceElement K) : Prop where
  get_target : c.get? i = some (.face target)
  get_source : c.get? j = some (.face source)
  dim_eq : target.dim = source.dim
  dofs_le : target.dofsPerFace ≤ source.dofsPerFace

theorem mem_pairs_iff
    {c : Collection K F} {i j : ℕ} {target source : FaceElement K} :
    ((i, target), (j, source)) ∈ c.pairs ↔ c.IsPair i j target source := by
  unfold pairs
  simp only [List.mem_flatMap, List.mem_map, List.mem_filter, decide_eq_true_eq,
    Prod.exists, Prod.mk.injEq, mem_faceElements_iff]
  constructor
  · rintro ⟨_, _, htarget, _, _, ⟨hsource, hdim, hdofs⟩, ⟨rfl, rfl⟩, ⟨rfl, rfl⟩⟩
    exact ⟨htarget, hsource, hdim, hdofs⟩
  · rintro ⟨htarget, hsource, hdim, hdofs⟩
    exact ⟨i, target, htarget, j, source, ⟨hsource, hdim, hdofs⟩, ⟨rfl, rfl⟩, rfl, rfl⟩

def Pair.key (pair : Pair K) : ℕ × ℕ :=
  (pair.1.1, pair.2.1)

theorem nodup_keys_pairs (c : Collection K F) : (c.pairs.map Pair.key).Nodup := by
  rw [List.Nodup, List.pairwise_map, pairs, List.pairwise_flatMap]
  constructor
  · intro target _
    rw [List.pairwise_map]
    refine (c.pairwise_faceElements.filter _).imp ?_
    intro source other hne hkey
    exact hne (Prod.ext_iff.mp hkey).2
  · refine c.pairwise_faceElements.imp ?_
    intro target other hne pair hpair pair' hpair' hkey
    obtain ⟨source, -, rfl⟩ := List.mem_map.mp hpair
    obtain ⟨source', -, rfl⟩ := List.mem_map.mp hpair'
    exact hne (Prod.ext_iff.mp hkey).1

theorem IsPair.degree_le
    {c : Collection K F} {i j : ℕ} {target source : FaceElement K}
    (hpair : c.IsPair i j target source) : target.degree ≤ source.degree := by
  have hdofs := Constraint.dofsPerFace_lt_iff hpair.dim_eq.symm
  exact Nat.le_of_not_lt fun hdegree => absurd (hdofs.mpr hdegree) hpair.dofs_le.not_gt

theorem exists_isPair_iff
    {c : Collection K F} {i j : ℕ} {a b : FaceElement K}
    (ha : c.get? i = some (.face a)) (hb : c.get? j = some (.face b))
    (hdim : a.dim = b.dim) :
    (∃ target source, c.IsPair i j target source) ↔ a.degree ≤ b.degree := by
  constructor
  · rintro ⟨target, source, hpair⟩
    have htarget : a = target := by
      simpa [ha] using hpair.get_target
    have hsource : b = source := by
      simpa [hb] using hpair.get_source
    subst htarget hsource
    exact hpair.degree_le
  · intro hdegree
    refine ⟨a, b, ha, hb, hdim, Nat.le_of_not_lt ?_⟩
    rw [Constraint.dofsPerFace_lt_iff hdim.symm]
    exact hdegree.not_gt

/-! ## Matrices of the pairs -/

section Matrices

variable [Zero K] [One K] [NatCast K] [Neg K] [Add K] [Sub K] [Mul K] [Div K]
variable [LT K] [DecidableLT K] [LE K] [DecidableLE K] [ScalarText K] [ElementFamily F]
variable {tolerance : Tolerance K}

theorem answersFaceSource_faceMatrix
    (tolerance : Tolerance K) (target source : FaceElement K) :
    Constraint.AnswersFaceSource target source
      (Constraint.faceMatrix tolerance target (.face source : Element K F)) :=
  Constraint.answersFaceSource_ofPoints tolerance target source
    source.rowList_faceSupportPoints

theorem IsPair.error_eq_rowSum
    {c : Collection K F} {i j : ℕ} {target source : FaceElement K} {error : Error}
    (hpair : c.IsPair i j target source)
    (herror : Constraint.faceMatrix tolerance target (.face source : Element K F) =
      .error error) :
    ∃ row sum, error = .rowSum row target.name.text sum := by
  have hanswers := answersFaceSource_faceMatrix (F := F) tolerance target source
  rw [herror] at hanswers
  simpa using hanswers.admitted hpair.dim_eq.symm hpair.degree_le

variable [OfNat K 2]

theorem faceMatrices_eq_mapM (tolerance : Tolerance K) (c : Collection K F) :
    c.faceMatrices tolerance = c.pairs.mapM fun pair =>
      (Constraint.faceMatrix tolerance pair.1.2 (.face pair.2.2 : Element K F)).map
        fun matrix => (pair.key, matrix) := rfl

theorem keys_of_faceMatrices_eq_ok
    {c : Collection K F} {matrices : List ((ℕ × ℕ) × Table K)}
    (hmatrices : c.faceMatrices tolerance = .ok matrices) :
    matrices.map Prod.fst = c.pairs.map Pair.key := by
  have hall := mapM_eq_ok_iff.mp hmatrices
  have hkeys :
      List.Forall₂ (· = ·) (c.pairs.map Pair.key) (matrices.map Prod.fst) := by
    rw [List.forall₂_map_left_iff, List.forall₂_map_right_iff]
    refine hall.imp ?_
    intro pair entry hentry
    obtain ⟨matrix, -, rfl⟩ := exceptMap_eq_ok_iff.mp hentry
    rfl
  rw [List.forall₂_eq_eq_eq] at hkeys
  exact hkeys.symm

theorem mem_of_faceMatrices_eq_ok_iff
    {c : Collection K F} {matrices : List ((ℕ × ℕ) × Table K)}
    (hmatrices : c.faceMatrices tolerance = .ok matrices)
    {i j : ℕ} {matrix : Table K} :
    ((i, j), matrix) ∈ matrices ↔ ∃ target source, c.IsPair i j target source ∧
      Constraint.faceMatrix tolerance target (.face source : Element K F) = .ok matrix := by
  rw [faceMatrices_eq_mapM] at hmatrices
  rw [mem_of_mapM_eq_ok_iff hmatrices]
  constructor
  · rintro ⟨⟨⟨i', target⟩, j', source⟩, hpair, hentry⟩
    obtain ⟨_, hmatrix, heq⟩ := exceptMap_eq_ok_iff.mp hentry
    cases heq
    exact ⟨target, source, mem_pairs_iff.mp hpair, hmatrix⟩
  · rintro ⟨target, source, hpair, hmatrix⟩
    exact ⟨((i, target), (j, source)), mem_pairs_iff.mpr hpair,
      exceptMap_eq_ok_iff.mpr ⟨matrix, hmatrix, rfl⟩⟩

theorem exists_of_faceMatrices_eq_error
    {c : Collection K F} {error : Error}
    (herror : c.faceMatrices tolerance = .error error) :
    ∃ i j target source, c.IsPair i j target source ∧
      Constraint.faceMatrix tolerance target (.face source : Element K F) =
        .error error := by
  obtain ⟨⟨⟨i, target⟩, j, source⟩, hpair, hentry⟩ := exists_of_mapM_eq_error herror
  exact ⟨i, j, target, source, mem_pairs_iff.mp hpair, exceptMap_eq_error_iff.mp hentry⟩

theorem exists_faceMatrices_eq_error_iff {c : Collection K F} :
    (∃ error, c.faceMatrices tolerance = .error error) ↔
      ∃ i j target source error, c.IsPair i j target source ∧
        Constraint.faceMatrix tolerance target (.face source : Element K F) =
          .error error := by
  constructor
  · rintro ⟨error, herror⟩
    obtain ⟨i, j, target, source, hpair, hmatrix⟩ :=
      exists_of_faceMatrices_eq_error herror
    exact ⟨i, j, target, source, error, hpair, hmatrix⟩
  · rintro ⟨i, j, target, source, error, hpair, hmatrix⟩
    cases hall : c.faceMatrices tolerance with
    | error first =>
        exact ⟨first, rfl⟩
    | ok matrices =>
        obtain ⟨entry, hentry⟩ := exists_of_mapM_eq_ok hall (mem_pairs_iff.mpr hpair)
        obtain ⟨matrix, hok, -⟩ := exceptMap_eq_ok_iff.mp hentry
        rw [hmatrix] at hok
        cases hok

theorem mem_keys_of_faceMatrices_eq_ok_iff
    {c : Collection K F} {matrices : List ((ℕ × ℕ) × Table K)}
    (hmatrices : c.faceMatrices tolerance = .ok matrices) {i j : ℕ} :
    (i, j) ∈ matrices.map Prod.fst ↔ ∃ target source, c.IsPair i j target source := by
  rw [keys_of_faceMatrices_eq_ok hmatrices, List.mem_map]
  constructor
  · rintro ⟨⟨⟨i', target⟩, j', source⟩, hpair, hkey⟩
    cases hkey
    exact ⟨target, source, mem_pairs_iff.mp hpair⟩
  · rintro ⟨target, source, hpair⟩
    exact ⟨((i, target), (j, source)), mem_pairs_iff.mpr hpair, rfl⟩

theorem mem_keys_iff_degree_le
    {c : Collection K F} {matrices : List ((ℕ × ℕ) × Table K)}
    (hmatrices : c.faceMatrices tolerance = .ok matrices)
    {i j : ℕ} {a b : FaceElement K}
    (ha : c.get? i = some (.face a)) (hb : c.get? j = some (.face b))
    (hdim : a.dim = b.dim) :
    (i, j) ∈ matrices.map Prod.fst ↔ a.degree ≤ b.degree := by
  rw [mem_keys_of_faceMatrices_eq_ok_iff hmatrices, exists_isPair_iff ha hb hdim]

/-- The matrices of a collection as a map from numbers: it has a key for each
pair, and under the key the matrix of the two elements. -/
structure HoldsMatrices (tolerance : Tolerance K) (c : Collection K F)
    (matrices : List ((ℕ × ℕ) × Table K)) : Prop where
  nodup_keys : (matrices.map Prod.fst).Nodup
  mem_keys_iff : ∀ i j, (i, j) ∈ matrices.map Prod.fst ↔
    ∃ target source, c.IsPair i j target source
  mem_iff : ∀ i j matrix, ((i, j), matrix) ∈ matrices ↔
    ∃ target source, c.IsPair i j target source ∧
      Constraint.faceMatrix tolerance target (.face source : Element K F) = .ok matrix
  one_direction : ∀ i j a b, c.get? i = some (.face a) → c.get? j = some (.face b) →
    a.dim = b.dim → (i, j) ∈ matrices.map Prod.fst ∨ (j, i) ∈ matrices.map Prod.fst
  both_directions : ∀ i j a b, c.get? i = some (.face a) → c.get? j = some (.face b) →
    a.dim = b.dim →
      ((i, j) ∈ matrices.map Prod.fst ∧ (j, i) ∈ matrices.map Prod.fst ↔
        a.degree = b.degree)

theorem holdsMatrices
    {c : Collection K F} {matrices : List ((ℕ × ℕ) × Table K)}
    (hmatrices : c.faceMatrices tolerance = .ok matrices) :
    HoldsMatrices tolerance c matrices where
  nodup_keys := by
    rw [keys_of_faceMatrices_eq_ok hmatrices]
    exact c.nodup_keys_pairs
  mem_keys_iff := by
    intro i j
    exact mem_keys_of_faceMatrices_eq_ok_iff hmatrices
  mem_iff := by
    intro i j matrix
    exact mem_of_faceMatrices_eq_ok_iff hmatrices
  one_direction := by
    intro i j a b ha hb hdim
    rw [mem_keys_iff_degree_le hmatrices ha hb hdim,
      mem_keys_iff_degree_le hmatrices hb ha hdim.symm]
    exact Nat.le_total a.degree b.degree
  both_directions := by
    intro i j a b ha hb hdim
    rw [mem_keys_iff_degree_le hmatrices ha hb hdim,
      mem_keys_iff_degree_le hmatrices hb ha hdim.symm]
    exact Nat.le_antisymm_iff.symm

/-- Computing the matrices of a collection at once is computing those of its
pairs, whatever else the collection holds. -/
theorem faceMatrices_complete (tolerance : Tolerance K) (c : Collection K F) :
    (∀ matrices, c.faceMatrices tolerance = .ok matrices →
      HoldsMatrices tolerance c matrices) ∧
    ((∃ error, c.faceMatrices tolerance = .error error) ↔
      ∃ i j target source error, c.IsPair i j target source ∧
        Constraint.faceMatrix tolerance target (.face source : Element K F) =
          .error error) ∧
    ∀ error, c.faceMatrices tolerance = .error error →
      ∃ i j target source row sum, c.IsPair i j target source ∧
        Constraint.faceMatrix tolerance target (.face source : Element K F) =
          .error error ∧
        error = .rowSum row target.name.text sum := by
  refine ⟨fun _ => holdsMatrices, exists_faceMatrices_eq_error_iff, ?_⟩
  intro error herror
  obtain ⟨i, j, target, source, hpair, hmatrix⟩ := exists_of_faceMatrices_eq_error herror
  obtain ⟨row, sum, hrow⟩ := hpair.error_eq_rowSum hmatrix
  exact ⟨i, j, target, source, row, sum, hpair, hmatrix, hrow⟩

end Matrices

/-! ## Exact arithmetic -/

section Exact

variable [Field K] [LinearOrder K] [IsStrictOrderedRing K] [ScalarText K]
variable [ElementFamily F]

theorem exists_faceMatrices_exact
    {c : Collection K F}
    (hnodes : ∀ i e, c.get? i = some (.face e) → e.nodes.Nodup) :
    ∃ matrices, c.faceMatrices ⟨0⟩ = .ok matrices := by
  cases hmatrices : c.faceMatrices ⟨0⟩ with
  | ok matrices =>
      exact ⟨matrices, rfl⟩
  | error error =>
      obtain ⟨i, j, target, source, hpair, herror⟩ :=
        exists_of_faceMatrices_eq_error hmatrices
      rw [Constraint.faceMatrix_exact hpair.dim_eq.symm hpair.degree_le
        (hnodes i target hpair.get_target)] at herror
      cases herror

end Exact

end Collection

/-- A quadratic element, the element without dofs, a linear element and the
quadratic one again. -/
def rationalCollection : Collection ℚ Empty :=
  ⟨#[.face (rationalFace 2), .nothing ⟨3, by decide, by decide⟩, .face (rationalFace 1),
    .face (rationalFace 2)]⟩

theorem exists_faceMatrices_rationalCollection :
    ∃ matrices, rationalCollection.faceMatrices ⟨0⟩ = .ok matrices := by
  apply Collection.exists_faceMatrices_exact
  intro i e hget
  match i with
  | 0 | 3 =>
      cases hget
      exact nodup_nodes_rationalFace 2
  | 1 =>
      cases hget
  | 2 =>
      cases hget
      exact nodup_nodes_rationalFace _
  | i + 4 =>
      cases hget

/-- The dofs of the quadratic elements are constrained to those of the linear
one, not the other way, and to those of each other. -/
theorem faceMatrices_complete_rationalCollection :
    ∃ matrices, rationalCollection.faceMatrices ⟨0⟩ = .ok matrices ∧
      (2, 0) ∈ matrices.map Prod.fst ∧ (0, 2) ∉ matrices.map Prod.fst ∧
      ((0, 3) ∈ matrices.map Prod.fst ∧ (3, 0) ∈ matrices.map Prod.fst) ∧
      (1, 0) ∉ matrices.map Prod.fst := by
  obtain ⟨matrices, hmatrices⟩ := exists_faceMatrices_rationalCollection
  obtain ⟨hholds, -, -⟩ := Collection.faceMatrices_complete ⟨0⟩ rationalCollection
  have hmap := hholds matrices hmatrices
  have hquadratic : rationalCollection.get? 0 = some (.face (rationalFace 2)) := rfl
  have hlinear : rationalCollection.get? 2 = some (.face (rationalFace 1)) := rfl
  have hagain : rationalCollection.get? 3 = some (.face (rationalFace 2)) := rfl
  have hdofs : (rationalFace 1).dofsPerFace ≤ (rationalFace 2).dofsPerFace := by
    decide
  have hkey : (2, 0) ∈ matrices.map Prod.fst :=
    (hmap.mem_keys_iff 2 0).mpr ⟨_, _, hlinear, hquadratic, rfl, hdofs⟩
  refine ⟨matrices, hmatrices, hkey, ?_, ?_, ?_⟩
  · intro hreverse
    have hdegree :=
      (hmap.both_directions 2 0 _ _ hlinear hquadratic rfl).mp ⟨hkey, hreverse⟩
    exact absurd hdegree (by decide)
  · exact (hmap.both_directions 0 3 _ _ hquadratic hagain rfl).mpr rfl
  · intro hnothing
    obtain ⟨target, source, hpair⟩ := (hmap.mem_keys_iff 1 0).mp hnothing
    cases hpair.get_target

end FacetElements
