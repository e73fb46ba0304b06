import FacetElements.Element
import FacetElements.Proofs.LobattoNodes
import FacetElements.Proofs.NameGrammar
import FacetElements.Proofs.RationalElements
import FacetElements.Proofs.Traversal

/-!
# Elements from their names

An element is stored as the text of its name and built again from it.  The text is
read first, then the constructor of the family runs on the numbers that were read,
and either may refuse.  What is built from a text has this text for its name, and the
name of every element that a constructor gives builds the same element again.
-/

namespace FacetElements

variable {K F : Type}

theorem NothingElement.dim_of_create
    {dim : ℕ} {e : NothingElement} (hcreate : create dim = .ok e) : e.dim = dim := by
  unfold create at hcreate
  split at hcreate
  · cases hcreate
    rfl
  · cases hcreate

namespace ElementName

/-- The dimension of the cell on which the element stands. -/
def dim : ElementName → ℕ
  | .faceLagrange dim _ => dim
  | .nothing dim => dim

/-- The family has elements of this dimension. -/
def Supported : ElementName → Prop
  | .faceLagrange dim _ => dim = 2 ∨ dim = 3
  | .nothing dim => dim = 1 ∨ dim = 2 ∨ dim = 3

/-- The degree is small enough for a machine word to count the dofs. -/
def DofsFit : ElementName → Prop
  | .faceLagrange dim degree => 2 * dim * (degree + 1) ^ (dim - 1) < 2 ^ 64
  | .nothing _ => True

theorem supported_faceLagrange_iff {dim degree : ℕ} :
    (faceLagrange dim degree).Supported ↔ 2 ≤ dim ∧ dim ≤ 3 := by
  unfold Supported
  omega

theorem supported_nothing_iff {dim : ℕ} : (nothing dim).Supported ↔ 1 ≤ dim ∧ dim ≤ 3 := by
  unfold Supported
  omega

section Construction

variable [Zero K] [One K] [OfNat K 2] [NatCast K] [Add K] [Sub K] [Mul K] [Div K] [Neg K]
variable [OfScientific K] [LT K] [DecidableLT K] [Cosine K]
variable {name : ElementName} {e : Element K F}

/-! ## Construction -/

/-- The constructor of the family gives this element for the numbers of the name. -/
inductive Builds : ElementName → Element K F → Prop
  | faceLagrange {dim degree : ℕ} {e : FaceElement K}
      (hcreate : FaceElement.create dim degree = .ok e) :
      Builds (.faceLagrange dim degree) (.face e)
  | nothing {dim : ℕ} {e : NothingElement} (hcreate : NothingElement.create dim = .ok e) :
      Builds (.nothing dim) (.nothing e)

theorem create_eq_ok_iff : name.create = .ok e ↔ Builds name e := by
  constructor
  · intro hcreate
    cases name with
    | faceLagrange dim degree =>
        obtain ⟨f, hf, rfl⟩ := exceptMap_eq_ok_iff.mp hcreate
        exact .faceLagrange hf
    | nothing dim =>
        obtain ⟨f, hf, rfl⟩ := exceptMap_eq_ok_iff.mp hcreate
        exact .nothing hf
  · intro hbuilds
    cases hbuilds with
    | faceLagrange hf =>
        exact exceptMap_eq_ok_iff.mpr ⟨_, hf, rfl⟩
    | nothing hf =>
        exact exceptMap_eq_ok_iff.mpr ⟨_, hf, rfl⟩

theorem exists_builds (hsupported : name.Supported) (hdofs : name.DofsFit) :
    ∃ e : Element K F, Builds name e := by
  cases name with
  | faceLagrange dim degree =>
      have hdim := supported_faceLagrange_iff.mp hsupported
      exact ⟨_, .faceLagrange (FaceElement.create_of_fits hdim hdofs)⟩
  | nothing dim =>
      exact ⟨_, .nothing (dif_pos (supported_nothing_iff.mp hsupported))⟩

theorem create_eq_error (hsupported : ¬ name.Supported) :
    (name.create : Except Error (Element K F)) = .error (.unsupportedDimension name.dim) := by
  cases name with
  | faceLagrange dim degree =>
      rw [supported_faceLagrange_iff] at hsupported
      exact exceptMap_eq_error_iff.mpr (FaceElement.create_of_dim_ne hsupported degree)
  | nothing dim =>
      rw [supported_nothing_iff] at hsupported
      exact exceptMap_eq_error_iff.mpr (dif_neg hsupported)

theorem Builds.supported (hbuilds : Builds name e) : name.Supported := by
  by_contra hsupported
  rw [← create_eq_ok_iff, create_eq_error hsupported] at hbuilds
  cases hbuilds

theorem Builds.dofsFit (hbuilds : Builds name e) : name.DofsFit := by
  cases hbuilds with
  | @faceLagrange dim degree e hcreate =>
      rcases FaceElement.create_eq_ok_iff.mp hcreate with ⟨rfl, rfl, -⟩
      exact e.dofs_fit
  | nothing hcreate =>
      exact trivial

theorem Builds.name_eq [ElementFamily F] (hbuilds : Builds name e) : e.name = name.text := by
  cases hbuilds with
  | @faceLagrange dim degree e hcreate =>
      obtain ⟨hdim, hdegree, -⟩ := FaceElement.create_eq_ok_iff.mp hcreate
      change (ElementName.faceLagrange e.dim e.degree).text = _
      rw [hdim, hdegree]
  | @nothing dim e hcreate =>
      change (ElementName.nothing e.dim).text = _
      rw [NothingElement.dim_of_create hcreate]

end Construction

end ElementName

/-! ## Rebuilding -/

namespace Element

open ElementName

variable [Zero K] [One K] [OfNat K 2] [NatCast K] [Add K] [Sub K] [Mul K] [Div K] [Neg K]
variable [OfScientific K] [LT K] [DecidableLT K] [Cosine K]
variable {s : String} {name : ElementName} {e : Element K F}

theorem ofText_eq_bind (s : String) :
    (ofText s : Except Error (Element K F)) = (parse s).bind ElementName.create := rfl

theorem ofText_text (hfits : name.Fits) :
    (ofText name.text : Except Error (Element K F)) = name.create := by
  rw [ofText_eq_bind, parse_eq_ok_iff.mpr ⟨rfl, hfits⟩]
  rfl

theorem ofText_eq_ok_iff :
    ofText s = .ok e ↔ ∃ name : ElementName, name.Fits ∧ s = name.text ∧ Builds name e := by
  constructor
  · intro hbuilt
    rw [ofText_eq_bind] at hbuilt
    cases hparse : parse s with
    | error error =>
        rw [hparse] at hbuilt
        cases hbuilt
    | ok name =>
        rw [hparse] at hbuilt
        obtain ⟨htext, hfits⟩ := parse_eq_ok_iff.mp hparse
        exact ⟨name, hfits, htext, create_eq_ok_iff.mp hbuilt⟩
  · rintro ⟨name, hfits, rfl, hbuilds⟩
    rw [ofText_text hfits]
    exact create_eq_ok_iff.mpr hbuilds

theorem exists_ofText_eq_ok_iff :
    (∃ e : Element K F, ofText s = .ok e) ↔
      ∃ name : ElementName, name.Fits ∧ name.Supported ∧ name.DofsFit ∧ s = name.text := by
  constructor
  · rintro ⟨e, hbuilt⟩
    rcases ofText_eq_ok_iff.mp hbuilt with ⟨name, hfits, htext, hbuilds⟩
    exact ⟨name, hfits, hbuilds.supported, hbuilds.dofsFit, htext⟩
  · rintro ⟨name, hfits, hsupported, hdofs, htext⟩
    rcases exists_builds (K := K) (F := F) hsupported hdofs with ⟨e, hbuilds⟩
    exact ⟨e, ofText_eq_ok_iff.mpr ⟨name, hfits, htext, hbuilds⟩⟩

theorem ofText_of_not_derivable (hnot : ¬ Derivable s.toList) :
    (ofText s : Except Error (Element K F)) = .error (.invalidName s) := by
  have hread : parse s = .error (.invalidName s) := by
    apply parse_eq_error
    intro name hname
    exact hnot (derivable_iff.mpr ⟨name, hname⟩)
  rw [ofText_eq_bind, hread]
  rfl

variable [ElementFamily F]

/-- A text builds an element exactly if it is the name of a supported one of small enough
degree.  This is the element that the constructor gives, and the text is its name.  A name
of another dimension is refused for the dimension, and a text that is no name comes back,
as does one with a number that no integer holds.  So the name of every element that a
constructor gives builds this element. -/
theorem ofText_rebuilds :
    (∀ s, (∃ e : Element K F, ofText s = .ok e) ↔
      ∃ name : ElementName,
        name.Fits ∧ name.Supported ∧ name.DofsFit ∧ s = name.text) ∧
    (∀ s (e : Element K F), ofText s = .ok e → e.name = s) ∧
    (∀ name : ElementName, name.Fits → ∀ e : Element K F,
      ofText name.text = .ok e ↔ Builds name e) ∧
    (∀ name : ElementName, name.Fits → ¬ name.Supported →
      (ofText name.text : Except Error (Element K F)) =
        .error (.unsupportedDimension name.dim)) ∧
    (∀ s, ¬ Derivable s.toList →
      (ofText s : Except Error (Element K F)) = .error (.invalidName s)) ∧
    ∀ name : ElementName, name.Fits → ∀ e : Element K F, Builds name e →
      ofText e.name = .ok e := by
  refine ⟨fun s => exists_ofText_eq_ok_iff, ?_, ?_, ?_, fun s => ofText_of_not_derivable, ?_⟩
  · intro s e hbuilt
    obtain ⟨name, -, rfl, hbuilds⟩ := ofText_eq_ok_iff.mp hbuilt
    exact hbuilds.name_eq
  · intro name hfits e
    rw [ofText_text hfits, create_eq_ok_iff]
  · intro name hfits hsupported
    rw [ofText_text hfits, create_eq_error hsupported]
  · intro name hfits e hbuilds
    rw [hbuilds.name_eq, ofText_text hfits]
    exact create_eq_ok_iff.mpr hbuilds

/-- A name is built as it is written, and refused in a dimension without elements or
with a leading zero. -/
theorem ofText_rebuilds_cube :
    (ElementName.faceLagrange 3 2).Fits ∧
    Builds (.faceLagrange 3 2) (.face (rationalFace 2) : Element ℚ Empty) ∧
    (ofText "FaceLagrange<3>(2)" : Except Error (Element ℚ Empty)) =
      .ok (.face (rationalFace 2)) ∧
    (ofText "Nothing<4>()" : Except Error (Element ℚ Empty)) =
      .error (.unsupportedDimension 4) ∧
    (ofText "FaceLagrange<3>(02)" : Except Error (Element ℚ Empty)) =
      .error (.invalidName "FaceLagrange<3>(02)") := by
  have hfits : (ElementName.faceLagrange 3 2).Fits := by
    constructor <;> norm_num
  have hfits' : (ElementName.nothing 4).Fits := by
    change 4 < 2 ^ 64
    norm_num
  have hsupported : ¬ (ElementName.nothing 4).Supported := by
    unfold Supported
    omega
  have hbuilds : Builds (.faceLagrange 3 2) (.face (rationalFace 2) : Element ℚ Empty) :=
    .faceLagrange (create_rationalFace 2)
  have htext : "FaceLagrange<3>(2)" = (ElementName.faceLagrange 3 2).text := by
    decide +kernel
  have htext' : "Nothing<4>()" = (ElementName.nothing 4).text := by
    decide +kernel
  have hread : ¬ Derivable "FaceLagrange<3>(02)".toList := by
    have hnone : ofChars? "FaceLagrange<3>(02)".toList = none := by
      decide +kernel
    rw [derivable_iff]
    rintro ⟨name, hname⟩
    rw [parse, hnone] at hname
    cases hname
  obtain ⟨-, -, hbuilt, hdim, hinvalid, -⟩ := ofText_rebuilds (K := ℚ) (F := Empty)
  refine ⟨hfits, hbuilds, ?_, ?_, hinvalid _ hread⟩
  · rw [htext]
    exact (hbuilt _ hfits _).mpr hbuilds
  · rw [htext']
    exact hdim _ hfits' hsupported

end Element
end FacetElements
