import FacetElements.Proofs.FaceDomination

/-!
# Growing collections

A collection grows at its end only, so every element keeps its number.  What a
collection answers about its first elements is decided by these alone: the
winner among them stays the winner, and the face matrices between them are the
same in the grown collection, whatever elements are added.  The price is that
one refused pair among them refuses the matrices of every larger collection.
-/

namespace FacetElements
namespace Collection

variable {K F : Type} {c d : Collection K F}

/-! ## Extensions -/

/-- The second collection begins with the elements of the first. -/
structure Extends (c d : Collection K F) : Prop where
  size_le : c.size ≤ d.size
  get?_eq : ∀ i < c.size, d.get? i = c.get? i

def pushAll (c : Collection K F) (added : List (Element K F)) : Collection K F :=
  added.foldl push c

theorem extends_refl (c : Collection K F) : c.Extends c where
  size_le := le_refl c.size
  get?_eq := fun _ _ => rfl

theorem Extends.trans {b : Collection K F} (hbc : b.Extends c) (hcd : c.Extends d) :
    b.Extends d where
  size_le := hbc.size_le.trans hcd.size_le
  get?_eq := by
    intro i hi
    rw [hcd.get?_eq i (hi.trans_le hbc.size_le), hbc.get?_eq i hi]

theorem extends_push (c : Collection K F) (e : Element K F) : c.Extends (c.push e) where
  size_le := by
    simp [size, push]
  get?_eq := by
    intro i hi
    have hne : i ≠ c.elements.size := hi.ne
    simp [get?, push, Array.getElem?_push, hne]

theorem extends_pushAll (c : Collection K F) (added : List (Element K F)) :
    c.Extends (c.pushAll added) := by
  induction added generalizing c with
  | nil =>
      exact extends_refl c
  | cons e rest ih =>
      exact (extends_push c e).trans (ih (c.push e))

/-! ## The winner -/

section Winner

variable [ElementFamily F] [FaceComparison K F]

theorem Extends.compare?_eq (h : c.Extends d) {i j : ℕ} (hi : i < c.size) (hj : j < c.size) :
    d.compare? i j = c.compare? i j := by
  rw [compare?, compare?, h.get?_eq i hi, h.get?_eq j hj]

theorem Extends.mayDominate_iff
    (h : c.Extends d) {i j : ℕ} (hi : i < c.size) (hj : j < c.size) :
    d.MayDominate i j ↔ c.MayDominate i j := by
  rw [MayDominate, MayDominate, h.compare?_eq hi hj]

theorem Extends.dominating?_eq
    (h : c.Extends d) {indices : List ℕ} (hindices : ∀ i ∈ indices, i < c.size) :
    d.dominating? indices = c.dominating? indices := by
  have hold : indices.all (· < c.size) = true := by
    simpa using hindices
  have hnew : indices.all (· < d.size) = true := by
    simpa using fun i hi => (hindices i hi).trans_le h.size_le
  rw [dominating?, dominating?, if_pos hold, if_pos hnew]
  apply List.find?_congr
  intro i hi
  rw [Bool.eq_iff_iff, List.all_eq_true, List.all_eq_true]
  refine forall₂_congr fun j hj => ?_
  rw [decide_eq_true_eq, decide_eq_true_eq,
    h.mayDominate_iff (hindices i hi) (hindices j hj)]

end Winner

/-! ## Pairs -/

theorem lt_size_of_get?_eq_some {i : ℕ} {e : Element K F} (hget : c.get? i = some e) :
    i < c.size :=
  (Array.getElem?_eq_some_iff.mp hget).1

theorem Extends.get?_eq_some
    (h : c.Extends d) {i : ℕ} {e : Element K F} (hget : c.get? i = some e) :
    d.get? i = some e := by
  rw [h.get?_eq i (lt_size_of_get?_eq_some hget), hget]

theorem Extends.isPair_iff
    (h : c.Extends d) {i j : ℕ} {target source : FaceElement K} :
    c.IsPair i j target source ↔
      d.IsPair i j target source ∧ i < c.size ∧ j < c.size := by
  constructor
  · intro hpair
    exact ⟨⟨h.get?_eq_some hpair.get_target, h.get?_eq_some hpair.get_source,
      hpair.dim_eq, hpair.dofs_le⟩, lt_size_of_get?_eq_some hpair.get_target,
      lt_size_of_get?_eq_some hpair.get_source⟩
  · rintro ⟨hpair, hi, hj⟩
    exact ⟨(h.get?_eq i hi).symm.trans hpair.get_target,
      (h.get?_eq j hj).symm.trans hpair.get_source, hpair.dim_eq, hpair.dofs_le⟩

/-! ## Matrices -/

theorem lookup_eq_some_iff_mem
    {α β : Type} [BEq α] [LawfulBEq α] {entries : List (α × β)}
    (hkeys : (entries.map Prod.fst).Nodup) {key : α} {value : β} :
    entries.lookup key = some value ↔ (key, value) ∈ entries := by
  induction entries with
  | nil =>
      simp
  | cons entry rest ih =>
      obtain ⟨first, other⟩ := entry
      rw [List.map_cons, List.nodup_cons] at hkeys
      by_cases hkey : key = first
      · subst hkey
        have hrest : (key, value) ∉ rest := by
          intro hmem
          exact hkeys.1 (List.mem_map.mpr ⟨(key, value), hmem, rfl⟩)
        simp [hrest, eq_comm]
      · have hbeq : (key == first) = false := by
          simpa using hkey
        simp [List.lookup_cons, hbeq, hkey, ih hkeys.2]

section Matrices

variable [Zero K] [One K] [OfNat K 2] [NatCast K] [Neg K] [Add K] [Sub K] [Mul K] [Div K]
variable [LT K] [DecidableLT K] [LE K] [DecidableLE K] [ScalarText K] [ElementFamily F]
variable {tolerance : Tolerance K}

theorem lookup_of_faceMatrices_eq_ok_iff
    {matrices : List ((ℕ × ℕ) × Table K)}
    (hmatrices : c.faceMatrices tolerance = .ok matrices) {i j : ℕ} {matrix : Table K} :
    matrices.lookup (i, j) = some matrix ↔ ∃ target source, c.IsPair i j target source ∧
      Constraint.faceMatrix tolerance target (.face source : Element K F) = .ok matrix := by
  have hkeys : (matrices.map Prod.fst).Nodup := by
    rw [keys_of_faceMatrices_eq_ok hmatrices]
    exact c.nodup_keys_pairs
  rw [lookup_eq_some_iff_mem hkeys, mem_of_faceMatrices_eq_ok_iff hmatrices]

theorem Extends.exists_faceMatrices_eq_error
    (h : c.Extends d) (hold : ∃ error, c.faceMatrices tolerance = .error error) :
    ∃ error, d.faceMatrices tolerance = .error error := by
  rw [exists_faceMatrices_eq_error_iff] at hold ⊢
  obtain ⟨i, j, target, source, error, hpair, herror⟩ := hold
  exact ⟨i, j, target, source, error, (h.isPair_iff.mp hpair).1, herror⟩

theorem Extends.exists_faceMatrices_eq_ok
    (h : c.Extends d) {new : List ((ℕ × ℕ) × Table K)}
    (hnew : d.faceMatrices tolerance = .ok new) :
    ∃ old, c.faceMatrices tolerance = .ok old := by
  cases hold : c.faceMatrices tolerance with
  | ok old =>
      exact ⟨old, rfl⟩
  | error error =>
      obtain ⟨later, hlater⟩ := h.exists_faceMatrices_eq_error ⟨error, hold⟩
      rw [hnew] at hlater
      cases hlater

theorem Extends.lookup_faceMatrices_iff
    (h : c.Extends d) {old new : List ((ℕ × ℕ) × Table K)}
    (hold : c.faceMatrices tolerance = .ok old) (hnew : d.faceMatrices tolerance = .ok new)
    {i j : ℕ} {matrix : Table K} :
    old.lookup (i, j) = some matrix ↔
      new.lookup (i, j) = some matrix ∧ i < c.size ∧ j < c.size := by
  rw [lookup_of_faceMatrices_eq_ok_iff hold, lookup_of_faceMatrices_eq_ok_iff hnew]
  constructor
  · rintro ⟨target, source, hpair, hmatrix⟩
    obtain ⟨hpair', hsize⟩ := h.isPair_iff.mp hpair
    exact ⟨⟨target, source, hpair', hmatrix⟩, hsize⟩
  · rintro ⟨⟨target, source, hpair, hmatrix⟩, hsize⟩
    exact ⟨target, source, h.isPair_iff.mpr ⟨hpair, hsize⟩, hmatrix⟩

theorem Extends.mem_keys_faceMatrices_iff
    (h : c.Extends d) {old new : List ((ℕ × ℕ) × Table K)}
    (hold : c.faceMatrices tolerance = .ok old) (hnew : d.faceMatrices tolerance = .ok new)
    {i j : ℕ} :
    (i, j) ∈ old.map Prod.fst ↔
      (i, j) ∈ new.map Prod.fst ∧ i < c.size ∧ j < c.size := by
  rw [mem_keys_of_faceMatrices_eq_ok_iff hold, mem_keys_of_faceMatrices_eq_ok_iff hnew]
  simp only [h.isPair_iff, exists_and_right]

variable [FaceComparison K F]

/-- Adding elements changes no answer about the elements that were there: not
the winner among them, and no matrix between them.  Matrices that were refused
stay refused. -/
theorem pushAll_conservative
    (tolerance : Tolerance K) (c : Collection K F) (added : List (Element K F)) :
    (∀ indices : List ℕ, (∀ i ∈ indices, i < c.size) →
      (c.pushAll added).dominating? indices = c.dominating? indices) ∧
    (∀ new, (c.pushAll added).faceMatrices tolerance = .ok new →
      ∃ old, c.faceMatrices tolerance = .ok old ∧
        ∀ i j,
          ((i, j) ∈ old.map Prod.fst ↔
            (i, j) ∈ new.map Prod.fst ∧ i < c.size ∧ j < c.size) ∧
          ∀ matrix, old.lookup (i, j) = some matrix ↔
            new.lookup (i, j) = some matrix ∧ i < c.size ∧ j < c.size) ∧
    ∀ error, c.faceMatrices tolerance = .error error →
      ∃ later, (c.pushAll added).faceMatrices tolerance = .error later := by
  have hextends := c.extends_pushAll added
  refine ⟨fun indices => hextends.dominating?_eq, ?_, ?_⟩
  · intro new hnew
    obtain ⟨old, hold⟩ := hextends.exists_faceMatrices_eq_ok hnew
    refine ⟨old, hold, fun i j => ⟨?_, fun matrix => ?_⟩⟩
    · exact hextends.mem_keys_faceMatrices_iff hold hnew
    · exact hextends.lookup_faceMatrices_iff hold hnew
  · intro error herror
    exact hextends.exists_faceMatrices_eq_error ⟨error, herror⟩

end Matrices

end Collection

/-- The first collection with a constant and a linear element behind it. -/
def grownCollection : Collection ℚ Empty :=
  rationalCollection.pushAll
    ((List.finRange 2).map fun degree => .face (rationalFace degree.castSucc))

theorem exists_faceMatrices_grownCollection :
    ∃ matrices, grownCollection.faceMatrices ⟨0⟩ = .ok matrices := by
  apply Collection.exists_faceMatrices_exact
  intro i e hget
  match i with
  | 0 | 3 =>
      cases hget
      exact nodup_nodes_rationalFace 2
  | 2 | 5 =>
      cases hget
      exact nodup_nodes_rationalFace _
  | 4 =>
      cases hget
      exact nodup_nodes_rationalFace _
  | 1 =>
      cases hget
  | i + 6 =>
      cases hget

/-- The constant element wins over all others that join it, and constrains them,
but the winner among the first ones and the matrix between them stay. -/
theorem pushAll_conservative_grownCollection :
    grownCollection.dominating? [0, 4, 2] = some 4 ∧
    grownCollection.dominating? [0, 2] = rationalCollection.dominating? [0, 2] ∧
    ∃ old new, rationalCollection.faceMatrices ⟨0⟩ = .ok old ∧
      grownCollection.faceMatrices ⟨0⟩ = .ok new ∧
      (4, 0) ∈ new.map Prod.fst ∧ (4, 0) ∉ old.map Prod.fst ∧
      ∃ matrix, old.lookup (2, 0) = some matrix ∧ new.lookup (2, 0) = some matrix := by
  obtain ⟨hwinner, hmatrices, -⟩ :=
    Collection.pushAll_conservative (K := ℚ) (F := Empty) ⟨0⟩ rationalCollection
      [.face (rationalFace 0), .face (rationalFace 1)]
  obtain ⟨new, hnew⟩ := exists_faceMatrices_grownCollection
  obtain ⟨old, hold, hsame⟩ := hmatrices new hnew
  have hconstant : grownCollection.get? 4 = some (.face (rationalFace 0)) := rfl
  have hquadratic : grownCollection.get? 0 = some (.face (rationalFace 2)) := rfl
  have hfirst : rationalCollection.get? 0 = some (.face (rationalFace 2)) := rfl
  have hlinear : rationalCollection.get? 2 = some (.face (rationalFace 1)) := rfl
  have hkey : (4, 0) ∈ new.map Prod.fst := by
    rw [Collection.mem_keys_iff_degree_le hnew hconstant hquadratic rfl]
    exact Nat.zero_le 2
  have hmatrix : old.lookup (2, 0) = some _ :=
    (Collection.lookup_of_faceMatrices_eq_ok_iff hold).mpr
      ⟨_, _, ⟨hlinear, hfirst, rfl, by decide⟩,
        Constraint.faceMatrix_exact rfl (by decide) (nodup_nodes_rationalFace _)⟩
  refine ⟨by decide, hwinner [0, 2] (by decide), old, new, hold, hnew, hkey, ?_, _, hmatrix, ?_⟩
  · intro hmem
    exact absurd ((hsame 4 0).1.mp hmem).2.1 (by decide)
  · exact (((hsame 2 0).2 _).mp hmatrix).1

end FacetElements
