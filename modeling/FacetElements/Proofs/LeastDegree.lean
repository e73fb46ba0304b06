import FacetElements.Proofs.DominatingElement

/-!
# Dominating elements of least degree

Among face elements and elements without dofs the dominating element is the first
one that prevails: it has no dofs, or it is a face element and every other listed
element yields to it.  Degrees are ordered linearly, so listed elements of one
dimension always have one that prevails.  If all of them are face elements, it is
the first of least degree.
-/

namespace FacetElements

variable {K F : Type}

theorem isFirst_congr
    {α : Type} {p q : α → Prop} {xs : List α} {x : α} (h : ∀ y ∈ xs, (p y ↔ q y)) :
    IsFirst p xs x ↔ IsFirst q xs x := by
  classical
  rw [isFirst_iff_find?_eq_some, isFirst_iff_find?_eq_some, List.find?_congr]
  intro y hy
  rw [decide_eq_decide]
  exact h y hy

namespace Element

variable [ElementFamily F] [FaceComparison K F]

theorem face_mayDominate_face_iff {e f : FaceElement K} :
    (.face e : Element K F).MayDominate (.face f) ↔ f.dim = e.dim ∧ e.degree ≤ f.degree := by
  rw [mayDominate_iff_admits, compare_face_admits_iff]

theorem face_mayDominate_nothing_iff {e : FaceElement K} {f : NothingElement} :
    (.face e : Element K F).MayDominate (.nothing f) ↔ f.dim = e.dim := by
  simp [MayDominate, compare_face_nothing_eq_ok_iff]

theorem nothing_mayDominate (e : NothingElement) (b : Element K F) :
    (.nothing e : Element K F).MayDominate b :=
  .inr (.inr (compare_nothing e b))

end Element

namespace Collection

variable {c : Collection K F} {indices : List ℕ} {d j w : ℕ} {e : FaceElement K}

/-! ## Prevailing elements -/

/-- The element of this number is of the dimension of the face element, and has no
dofs or no lower degree. -/
def YieldsTo (c : Collection K F) (j : ℕ) (e : FaceElement K) : Prop :=
  (∃ f, c.get? j = some (.nothing f) ∧ f.dim = e.dim) ∨
  ∃ f, c.get? j = some (.face f) ∧ f.dim = e.dim ∧ e.degree ≤ f.degree

/-- The element has no dofs, or every listed element with another number yields to
it. -/
def Prevails (c : Collection K F) (indices : List ℕ) (w : ℕ) : Prop :=
  (∃ e, c.get? w = some (.nothing e)) ∨
  ∃ e, c.get? w = some (.face e) ∧ ∀ j ∈ indices, j ≠ w → c.YieldsTo j e

/-- No listed face element is of lower degree than the one of this number. -/
def HasLeastDegree (c : Collection K F) (indices : List ℕ) (w : ℕ) : Prop :=
  ∃ e, c.get? w = some (.face e) ∧
    ∀ j ∈ indices, ∀ f, c.get? j = some (.face f) → e.degree ≤ f.degree

theorem prevails_face_iff (hget : c.get? w = some (.face e)) :
    c.Prevails indices w ↔ ∀ j ∈ indices, j ≠ w → c.YieldsTo j e := by
  simp [Prevails, hget]

theorem hasLeastDegree_iff (hget : c.get? w = some (.face e)) :
    c.HasLeastDegree indices w ↔
      ∀ j ∈ indices, ∀ f, c.get? j = some (.face f) → e.degree ≤ f.degree := by
  simp [HasLeastDegree, hget]

theorem yieldsTo_face_iff {f : FaceElement K} (hget : c.get? j = some (.face f)) :
    c.YieldsTo j e ↔ f.dim = e.dim ∧ e.degree ≤ f.degree := by
  simp [YieldsTo, hget]

theorem yieldsTo_nothing_iff {f : NothingElement} (hget : c.get? j = some (.nothing f)) :
    c.YieldsTo j e ↔ f.dim = e.dim := by
  simp [YieldsTo, hget]

section Winner

variable [ElementFamily F] [FaceComparison K F]

theorem mayDominate_face_iff
    (hw : c.get? w = some (.face e)) {b : Element K F} (hj : c.get? j = some b)
    (hown : ∀ x, b ≠ .foreign x) : c.MayDominate w j ↔ c.YieldsTo j e := by
  rw [mayDominate_iff_of_get? hw hj]
  cases b with
  | face f =>
      rw [yieldsTo_face_iff hj, Element.face_mayDominate_face_iff]
  | nothing f =>
      rw [yieldsTo_nothing_iff hj, Element.face_mayDominate_nothing_iff]
  | foreign x =>
      exact absurd rfl (hown x)

theorem leads_iff_prevails
    (hvalid : ∀ i ∈ indices, i < c.size)
    (hown : ∀ i ∈ indices, ∀ x, c.get? i ≠ some (.foreign x)) (hw : w ∈ indices) :
    c.Leads indices w ↔ c.Prevails indices w := by
  obtain ⟨a, ha⟩ := exists_get?_eq_some (hvalid w hw)
  cases a with
  | face e =>
      rw [prevails_face_iff ha]
      refine forall₂_congr fun j hj => ?_
      obtain ⟨b, hb⟩ := exists_get?_eq_some (hvalid j hj)
      have hknown : ∀ x, b ≠ .foreign x := by
        rintro x rfl
        exact hown j hj x hb
      rw [mayDominate_face_iff ha hb hknown, or_iff_not_imp_left]
  | nothing e =>
      refine iff_of_true ?_ (.inl ⟨e, ha⟩)
      intro j hj
      obtain ⟨b, hb⟩ := exists_get?_eq_some (hvalid j hj)
      exact .inr ((mayDominate_iff_of_get? ha hb).mpr (Element.nothing_mayDominate e b))
  | foreign x =>
      exact absurd ha (hown w hw x)

theorem dominating?_eq_some_iff_prevails
    (hvalid : ∀ i ∈ indices, i < c.size)
    (hown : ∀ i ∈ indices, ∀ x, c.get? i ≠ some (.foreign x)) :
    c.dominating? indices = some w ↔ IsFirst (c.Prevails indices) indices w := by
  rw [dominating?_eq_some_iff, isFirst_congr fun i => leads_iff_prevails hvalid hown]
  exact and_iff_right hvalid

theorem exists_dominating?_iff_prevails
    (hvalid : ∀ i ∈ indices, i < c.size)
    (hown : ∀ i ∈ indices, ∀ x, c.get? i ≠ some (.foreign x)) :
    (∃ w, c.dominating? indices = some w) ↔ ∃ w ∈ indices, c.Prevails indices w := by
  simp only [dominating?_eq_some_iff_prevails hvalid hown, exists_isFirst_iff]

theorem dominating?_eq_none_of_size_le
    (hinvalid : ∃ i ∈ indices, c.size ≤ i) : c.dominating? indices = none := by
  obtain ⟨i, hi, hsize⟩ := hinvalid
  rw [Option.eq_none_iff_forall_ne_some]
  intro w hw
  exact hsize.not_gt ((dominating?_eq_some_iff.mp hw).1 i hi)

end Winner

/-! ## Least degrees -/

section Degrees

variable [ElementFamily F]

/-- The degree of the element of this number, and zero where there is none. -/
def degreeAt (c : Collection K F) (i : ℕ) : ℕ :=
  (c.get? i).elim 0 Element.degree

theorem degreeAt_eq {i : ℕ} {a : Element K F} (hget : c.get? i = some a) :
    c.degreeAt i = a.degree := by
  rw [degreeAt, hget, Option.elim_some]

theorem exists_degreeAt_le (hne : indices ≠ []) :
    ∃ w ∈ indices, ∀ j ∈ indices, c.degreeAt w ≤ c.degreeAt j := by
  have hnonempty : indices.toFinset.Nonempty :=
    (List.toFinset_nonempty_iff indices).mpr hne
  simpa only [List.mem_toFinset] using
    indices.toFinset.exists_min_image c.degreeAt hnonempty

theorem lt_size_of_dim
    (hdim : ∀ i ∈ indices, ∃ a, c.get? i = some a ∧ a.dim = d) :
    ∀ i ∈ indices, i < c.size := by
  intro i hi
  obtain ⟨a, ha, -⟩ := hdim i hi
  exact lt_size_of_get?_eq_some ha

theorem exists_prevails
    (hne : indices ≠ []) (hdim : ∀ i ∈ indices, ∃ a, c.get? i = some a ∧ a.dim = d)
    (hown : ∀ i ∈ indices, ∀ x, c.get? i ≠ some (.foreign x)) :
    ∃ w ∈ indices, c.Prevails indices w := by
  -- An element without dofs has degree zero, so it may be least among face elements.
  obtain ⟨w, hw, hleast⟩ := exists_degreeAt_le (c := c) hne
  refine ⟨w, hw, ?_⟩
  obtain ⟨a, ha, hd⟩ := hdim w hw
  cases a with
  | face e =>
      rw [prevails_face_iff ha]
      intro j hj _
      obtain ⟨b, hb, hbd⟩ := hdim j hj
      have hdims : b.dim = e.dim := hbd.trans hd.symm
      have hdegree := hleast j hj
      rw [degreeAt_eq ha, degreeAt_eq hb] at hdegree
      cases b with
      | face f =>
          exact (yieldsTo_face_iff hb).mpr ⟨hdims, hdegree⟩
      | nothing f =>
          exact (yieldsTo_nothing_iff hb).mpr hdims
      | foreign x =>
          exact absurd hb (hown j hj x)
  | nothing e =>
      exact .inl ⟨e, ha⟩
  | foreign x =>
      exact absurd ha (hown w hw x)

end Degrees

theorem prevails_iff_hasLeastDegree
    (hfaces : ∀ i ∈ indices, ∃ e, c.get? i = some (.face e) ∧ e.dim = d) (hw : w ∈ indices) :
    c.Prevails indices w ↔ c.HasLeastDegree indices w := by
  obtain ⟨e, he, hd⟩ := hfaces w hw
  rw [prevails_face_iff he, hasLeastDegree_iff he]
  constructor
  · intro hyields j hj f hf
    by_cases hjw : j = w
    · subst hjw
      rw [he] at hf
      cases hf
      exact le_refl e.degree
    · exact ((yieldsTo_face_iff hf).mp (hyields j hj hjw)).2
  · intro hleast j hj _
    obtain ⟨f, hf, hfd⟩ := hfaces j hj
    exact (yieldsTo_face_iff hf).mpr ⟨hfd.trans hd.symm, hleast j hj f hf⟩

section Winner

variable [ElementFamily F] [FaceComparison K F]

theorem exists_dominating?_of_dim
    (hne : indices ≠ []) (hdim : ∀ i ∈ indices, ∃ a, c.get? i = some a ∧ a.dim = d)
    (hown : ∀ i ∈ indices, ∀ x, c.get? i ≠ some (.foreign x)) :
    ∃ w, c.dominating? indices = some w :=
  (exists_dominating?_iff_prevails (lt_size_of_dim hdim) hown).mpr
    (exists_prevails hne hdim hown)

/-- Among elements that are not foreign a list with an invalid number has no
dominating element, and any other list the first that prevails.  Listed elements of
one dimension always have one, and listed face elements of one dimension the first
of least degree. -/
theorem dominating_first_prevailing
    (c : Collection K F) (indices : List ℕ)
    (hown : ∀ i ∈ indices, ∀ x, c.get? i ≠ some (.foreign x)) :
    ((∃ i ∈ indices, c.size ≤ i) → c.dominating? indices = none) ∧
    ((∀ i ∈ indices, i < c.size) →
      (∀ w, c.dominating? indices = some w ↔ IsFirst (c.Prevails indices) indices w) ∧
      (c.dominating? indices = none ↔ ∀ i ∈ indices, ¬ c.Prevails indices i)) ∧
    (indices ≠ [] → ∀ d,
      ((∀ i ∈ indices, ∃ a, c.get? i = some a ∧ a.dim = d) →
        ∃ w, c.dominating? indices = some w) ∧
      ((∀ i ∈ indices, ∃ e, c.get? i = some (.face e) ∧ e.dim = d) →
        ∃ w, c.dominating? indices = some w ∧
          IsFirst (c.HasLeastDegree indices) indices w)) := by
  refine ⟨dominating?_eq_none_of_size_le, ?_, ?_⟩
  · intro hvalid
    refine ⟨fun w => dominating?_eq_some_iff_prevails hvalid hown, ?_⟩
    have hnone := not_congr (exists_dominating?_iff_prevails hvalid hown)
    rw [Option.eq_none_iff_forall_ne_some]
    simpa only [not_exists, not_and] using hnone
  · intro hne d
    refine ⟨fun hdim => exists_dominating?_of_dim hne hdim hown, ?_⟩
    intro hfaces
    have hdim : ∀ i ∈ indices, ∃ a, c.get? i = some a ∧ a.dim = d := by
      intro i hi
      obtain ⟨e, he, hd⟩ := hfaces i hi
      exact ⟨.face e, he, hd⟩
    obtain ⟨w, hw⟩ := exists_dominating?_of_dim hne hdim hown
    refine ⟨w, hw, ?_⟩
    rw [← isFirst_congr fun i => prevails_iff_hasLeastDegree hfaces]
    exact (dominating?_eq_some_iff_prevails (lt_size_of_dim hdim) hown).mp hw

end Winner

end Collection

/-- The linear element is listed last, and wins over the quadratic ones.  Among a
quadratic element and the element without dofs the first wins, and an invalid number
leaves no winner. -/
theorem dominating_first_prevailing_last :
    (∀ i ∈ [3, 0, 3, 2], ∀ x, rationalCollection.get? i ≠ some (.foreign x)) ∧
    (∀ i ∈ [3, 0, 3, 2], ∃ e, rationalCollection.get? i = some (.face e) ∧ e.dim = 3) ∧
    rationalCollection.dominating? [3, 0, 3, 2] = some 2 ∧
    IsFirst (rationalCollection.HasLeastDegree [3, 0, 3, 2]) [3, 0, 3, 2] 2 ∧
    IsFirst (rationalCollection.Prevails [3, 1, 0]) [3, 1, 0] 3 ∧
    rationalCollection.dominating? [2, 4] = none := by
  have hown : ∀ indices : List ℕ, ∀ i ∈ indices, ∀ x,
      rationalCollection.get? i ≠ some (.foreign x) :=
    fun _ _ _ x => x.elim
  have hfaces : ∀ i ∈ [3, 0, 3, 2], ∃ e, rationalCollection.get? i = some (.face e) ∧
      e.dim = 3 := by
    simp only [List.forall_mem_cons, List.not_mem_nil, false_imp_iff, implies_true, and_true]
    exact ⟨⟨_, rfl, rfl⟩, ⟨_, rfl, rfl⟩, ⟨_, rfl, rfl⟩, ⟨_, rfl, rfl⟩⟩
  have hwinner : rationalCollection.dominating? [3, 0, 3, 2] = some 2 := by
    decide
  obtain ⟨-, -, hdim⟩ := Collection.dominating_first_prevailing rationalCollection _ (hown _)
  obtain ⟨w, hw, hfirst⟩ := (hdim (List.cons_ne_nil _ _) 3).2 hfaces
  obtain rfl := Option.some.inj (hwinner.symm.trans hw)
  obtain ⟨-, hmixed, -⟩ :=
    Collection.dominating_first_prevailing rationalCollection [3, 1, 0] (hown _)
  obtain ⟨hinvalid, -, -⟩ :=
    Collection.dominating_first_prevailing rationalCollection [2, 4] (hown _)
  exact ⟨hown _, hfaces, hwinner, hfirst, ((hmixed (by decide)).1 3).mp (by decide),
    hinvalid ⟨4, by decide, by decide⟩⟩

end FacetElements
