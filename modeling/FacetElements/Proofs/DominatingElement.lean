import FacetElements.Proofs.CollectionGrowth
import FacetElements.Proofs.LobattoNodes

/-!
# The dominating element of a set

The search for a dominating element runs through a list of numbers in which an
element may stand many times and at any place.  Whether it ends with an answer
depends on the set of these numbers only, however the elements compare.  Two
answers for one set may each be taken to dominate the other, and if both are
created face elements they are the same element.
-/

namespace FacetElements

variable {K F : Type}

theorem exists_isFirst_iff {α : Type} {p : α → Prop} {xs : List α} :
    (∃ x, IsFirst p xs x) ↔ ∃ x ∈ xs, p x := by
  classical
  simp only [isFirst_iff_find?_eq_some, ← Option.isSome_iff_exists, List.find?_isSome,
    decide_eq_true_eq]

/-! ## Elements that may dominate -/

namespace Element

variable [ElementFamily F] [FaceComparison K F]

/-- The comparison allows the first element as the dominating one. -/
def MayDominate (a b : Element K F) : Prop :=
  a.compare b = .ok .this ∨ a.compare b = .ok .either ∨ a.compare b = .ok .noRequirements

theorem mayDominate_iff_admits {a b : Element K F} :
    a.MayDominate b ↔ ∃ d, a.compare b = .ok d ∧ d.Admits := by
  constructor
  · rintro (h | h | h) <;> exact ⟨_, h, trivial⟩
  · rintro ⟨d, hd, hadmits⟩
    cases d with
    | this =>
        exact .inl hd
    | other =>
        exact hadmits.elim
    | either =>
        exact .inr (.inl hd)
    | neither =>
        exact hadmits.elim
    | noRequirements =>
        exact .inr (.inr hd)

end Element

theorem FaceElement.eq_of_create
    [Zero K] [One K] [OfNat K 2] [NatCast K] [Add K] [Sub K] [Mul K] [Div K] [Neg K]
    [OfScientific K] [LT K] [DecidableLT K] [Cosine K]
    {p p' q q' : ℕ} {a b : FaceElement K} (ha : create p q = .ok a) (hb : create p' q' = .ok b)
    (hdim : a.dim = b.dim) (hdegree : a.degree = b.degree) : a = b := by
  obtain ⟨rfl, rfl, -⟩ := create_eq_ok_iff.mp ha
  obtain ⟨rfl, rfl, -⟩ := create_eq_ok_iff.mp hb
  rw [hdim, hdegree, hb] at ha
  exact (Except.ok.inj ha).symm

/-! ## Lists with the same members -/

namespace Collection

variable {c : Collection K F} {indices xs ys : List ℕ} {i j v w : ℕ}

theorem exists_get?_eq_some (hi : i < c.size) : ∃ a, c.get? i = some a :=
  ⟨c.elements[i], Array.getElem?_eq_getElem hi⟩

section Winner

variable [ElementFamily F] [FaceComparison K F]

theorem mayDominate_iff_of_get?
    {a b : Element K F} (ha : c.get? i = some a) (hb : c.get? j = some b) :
    c.MayDominate i j ↔ a.MayDominate b := by
  rw [mayDominate_iff, compare?_eq_some ha hb, Element.mayDominate_iff_admits]
  simp only [Option.some.injEq]

theorem exists_dominating?_eq_some_iff :
    (∃ w, c.dominating? indices = some w) ↔
      (∀ i ∈ indices, i < c.size) ∧ ∃ w ∈ indices, c.Leads indices w := by
  simp only [dominating?_eq_some_iff, exists_and_left, exists_isFirst_iff]

theorem leads_congr (hmembers : ∀ i, i ∈ xs ↔ i ∈ ys) : c.Leads xs w ↔ c.Leads ys w :=
  forall_congr' fun j => imp_congr_left (hmembers j)

theorem exists_dominating?_congr (hmembers : ∀ i, i ∈ xs ↔ i ∈ ys) :
    (∃ v, c.dominating? xs = some v) ↔ ∃ w, c.dominating? ys = some w := by
  simp only [exists_dominating?_eq_some_iff, hmembers, leads_congr hmembers]

/-- A winner may dominate every listed element with another number. -/
theorem exists_mayDominate_of_dominating?
    (hw : c.dominating? indices = some w) (hj : j ∈ indices) (hne : w ≠ j) :
    ∃ a b, c.get? w = some a ∧ c.get? j = some b ∧ a.MayDominate b := by
  obtain ⟨hwmem, hleads⟩ := dominating?_eq_some hw
  obtain ⟨hsize, -⟩ := dominating?_eq_some_iff.mp hw
  obtain ⟨a, ha⟩ := exists_get?_eq_some (hsize w hwmem)
  obtain ⟨b, hb⟩ := exists_get?_eq_some (hsize j hj)
  have hdominates := (hleads j hj).resolve_left hne.symm
  exact ⟨a, b, ha, hb, (mayDominate_iff_of_get? ha hb).mp hdominates⟩

theorem exists_mutual_of_dominating?
    (hmembers : ∀ i, i ∈ xs ↔ i ∈ ys) (hv : c.dominating? xs = some v)
    (hw : c.dominating? ys = some w) (hne : v ≠ w) :
    ∃ a b, c.get? v = some a ∧ c.get? w = some b ∧ a.MayDominate b ∧ b.MayDominate a := by
  have hwmem : w ∈ xs := (hmembers w).mpr (dominating?_eq_some hw).1
  have hvmem : v ∈ ys := (hmembers v).mp (dominating?_eq_some hv).1
  obtain ⟨a, b, ha, hb, hab⟩ := exists_mayDominate_of_dominating? hv hwmem hne
  obtain ⟨b', a', hb', ha', hba⟩ := exists_mayDominate_of_dominating? hw hvmem hne.symm
  rw [hb, Option.some.injEq] at hb'
  rw [ha, Option.some.injEq] at ha'
  subst hb' ha'
  exact ⟨a, b, ha, hb, hab, hba⟩

/-- Two winners of one set are of one dimension and one degree, if both are face
elements. -/
theorem dim_degree_eq_of_dominating?
    (hmembers : ∀ i, i ∈ xs ↔ i ∈ ys) (hv : c.dominating? xs = some v)
    (hw : c.dominating? ys = some w) {a b : FaceElement K}
    (ha : c.get? v = some (.face a)) (hb : c.get? w = some (.face b)) :
    a.dim = b.dim ∧ a.degree = b.degree := by
  have hwmem : w ∈ xs := (hmembers w).mpr (dominating?_eq_some hw).1
  have hvmem : v ∈ ys := (hmembers v).mp (dominating?_eq_some hv).1
  obtain ⟨hdim, hle⟩ := dominating?_face hv ha hwmem hb
  obtain ⟨-, hge⟩ := dominating?_face hw hb hvmem ha
  exact ⟨hdim.symm, hle.antisymm hge⟩

end Winner

section Constraints

variable [Zero K] [One K] [OfNat K 2] [NatCast K] [Neg K] [Add K] [Sub K] [Mul K] [Div K]
variable [OfScientific K] [LT K] [DecidableLT K] [LE K] [DecidableLE K] [Cosine K] [ScalarText K]
variable [ElementFamily F] [FaceComparison K F]

/-- Order and repetitions decide neither whether listed elements have a dominating
one, nor, up to elements that may dominate each other, which one it is.  Created
face elements that win for one set give the same constraints. -/
theorem dominating_same_members
    (c : Collection K F) {xs ys : List ℕ} (hmembers : ∀ i, i ∈ xs ↔ i ∈ ys) :
    ((∃ v, c.dominating? xs = some v) ↔ ∃ w, c.dominating? ys = some w) ∧
    ∀ v w, c.dominating? xs = some v → c.dominating? ys = some w →
      (v ≠ w → ∃ a b, c.get? v = some a ∧ c.get? w = some b ∧
        a.MayDominate b ∧ b.MayDominate a) ∧
      ∀ a b, c.get? v = some (.face a) → c.get? w = some (.face b) →
        (∃ dim degree, FaceElement.create dim degree = .ok a) →
        (∃ dim degree, FaceElement.create dim degree = .ok b) →
          a = b ∧ ∀ (tolerance : Tolerance K) (source : Element K F),
            Constraint.faceMatrix tolerance a source =
              Constraint.faceMatrix tolerance b source ∧
            ∀ subface, Constraint.subfaceMatrix tolerance a source subface =
              Constraint.subfaceMatrix tolerance b source subface := by
  refine ⟨exists_dominating?_congr hmembers, ?_⟩
  intro v w hv hw
  refine ⟨exists_mutual_of_dominating? hmembers hv hw, ?_⟩
  rintro a b ha hb ⟨p, q, hcreate⟩ ⟨p', q', hcreate'⟩
  obtain ⟨hdim, hdegree⟩ := dim_degree_eq_of_dominating? hmembers hv hw ha hb
  obtain rfl := FaceElement.eq_of_create hcreate hcreate' hdim hdegree
  exact ⟨rfl, fun _ _ => ⟨rfl, fun _ => rfl⟩⟩

end Constraints

end Collection

/-- The quadratic element stands twice in the collection.  The order decides which
of the two wins, but both are the same element. -/
theorem dominating_same_members_repeated :
    (∀ i, i ∈ [3, 1, 0, 3] ↔ i ∈ [0, 0, 3, 1]) ∧
    rationalCollection.dominating? [3, 1, 0, 3] = some 3 ∧
    rationalCollection.dominating? [0, 0, 3, 1] = some 0 ∧
    (∃ a b, rationalCollection.get? 3 = some a ∧ rationalCollection.get? 0 = some b ∧
      a.MayDominate b ∧ b.MayDominate a) ∧
    ∃ a b, rationalCollection.get? 3 = some (.face a) ∧
      rationalCollection.get? 0 = some (.face b) ∧ a = b := by
  have hmembers : ∀ i, i ∈ [3, 1, 0, 3] ↔ i ∈ [0, 0, 3, 1] := by
    intro i
    simp only [List.mem_cons, List.not_mem_nil, or_false]
    omega
  have hfirst : rationalCollection.dominating? [3, 1, 0, 3] = some 3 := by
    decide
  have hsecond : rationalCollection.dominating? [0, 0, 3, 1] = some 0 := by
    decide
  have hthree : rationalCollection.get? 3 = some (.face (rationalFace 2)) := rfl
  have hzero : rationalCollection.get? 0 = some (.face (rationalFace 2)) := rfl
  have hcreate : ∃ dim degree, FaceElement.create dim degree = .ok (rationalFace 2) :=
    ⟨3, 2, create_rationalFace 2⟩
  obtain ⟨-, hwinners⟩ := Collection.dominating_same_members rationalCollection hmembers
  obtain ⟨hmutual, hequal⟩ := hwinners 3 0 hfirst hsecond
  exact ⟨hmembers, hfirst, hsecond, hmutual (by decide), _, _, hthree, hzero,
    (hequal _ _ hthree hzero hcreate hcreate).1⟩

end FacetElements
