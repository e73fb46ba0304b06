import FacetElements.Proofs.CanonicalIntegers

/-!
# The grammar of names

A name has one text, and reading accepts it.  The texts that reading accepts are
those of the grammar whose numbers are at most sixty-four bits wide.  Every other
text is refused, and comes back as it was.
-/

namespace FacetElements
namespace ElementName

/-- `name := family "<" integer ">" "(" args ")"`, where `args` is an integer for
`FaceLagrange` and empty for `Nothing`, with the name that the text denotes. -/
inductive Derives : List Char → ElementName → Prop
  | faceLagrange {dimText degreeText : List Char} {dim degree : ℕ}
      (hdim : IsInteger dimText dim) (hdegree : IsInteger degreeText degree) :
      Derives
        ("FaceLagrange".toList ++ '<' :: dimText ++ '>' :: '(' :: degreeText ++ [')'])
        (.faceLagrange dim degree)
  | nothing {dimText : List Char} {dim : ℕ} (hdim : IsInteger dimText dim) :
      Derives ("Nothing".toList ++ '<' :: dimText ++ ['>', '(', ')']) (.nothing dim)

/-- The numbers of the name are at most sixty-four bits wide. -/
def Fits : ElementName → Prop
  | .faceLagrange dim degree => dim < 2 ^ 64 ∧ degree < 2 ^ 64
  | .nothing dim => dim < 2 ^ 64

/-- A text of the grammar none of whose numbers is too large. -/
def Derivable (cs : List Char) : Prop :=
  ∃ name : ElementName, Derives cs name ∧ name.Fits

/-! ## Texts of names -/

theorem chars_faceLagrange (dim degree : ℕ) :
    (ElementName.faceLagrange dim degree).chars =
      "FaceLagrange".toList ++ '<' ::
        (decimal dim ++ '>' :: ('(' :: decimal degree ++ [')'])) := by
  unfold chars
  simp only [List.append_assoc, List.cons_append]

theorem chars_nothing (dim : ℕ) :
    (ElementName.nothing dim).chars =
      "Nothing".toList ++ '<' :: (decimal dim ++ '>' :: ('(' :: [] ++ [')'])) := by
  unfold chars
  simp only [List.append_assoc, List.cons_append, List.nil_append]

theorem derives_iff {cs : List Char} {name : ElementName} :
    Derives cs name ↔ cs = name.chars := by
  constructor
  · intro hderives
    cases hderives with
    | faceLagrange hdim hdegree =>
        rw [isInteger_iff.mp hdim, isInteger_iff.mp hdegree]
        rfl
    | nothing hdim =>
        rw [isInteger_iff.mp hdim]
        rfl
  · rintro rfl
    cases name with
    | faceLagrange dim degree =>
        exact .faceLagrange (isInteger_iff.mpr rfl) (isInteger_iff.mpr rfl)
    | nothing dim =>
        exact .nothing (isInteger_iff.mpr rfl)

/-! ## Parts of a text -/

theorem splitAtFirst_eq_some_iff {c : Char} {cs before after : List Char} :
    splitAtFirst c cs = some (before, after) ↔
      cs = before ++ c :: after ∧ c ∉ before := by
  induction cs generalizing before with
  | nil =>
      simp [splitAtFirst]
  | cons x cs ih =>
      by_cases hx : x = c
      · subst hx
        rw [splitAtFirst, if_pos rfl, Option.some.injEq, Prod.mk.injEq]
        constructor
        · rintro ⟨rfl, rfl⟩
          exact ⟨rfl, List.not_mem_nil⟩
        · rintro ⟨hcs, hbefore⟩
          cases before with
          | nil =>
              exact ⟨rfl, (List.cons.inj hcs).2⟩
          | cons y before =>
              obtain rfl := (List.cons.inj hcs).1
              exact absurd List.mem_cons_self hbefore
      · rw [splitAtFirst, if_neg hx, Option.map_eq_some_iff]
        constructor
        · rintro ⟨⟨front, back⟩, hfront, hparts⟩
          obtain ⟨rfl, rfl⟩ := Prod.mk.inj hparts
          obtain ⟨rfl, hnot⟩ := ih.mp hfront
          exact ⟨rfl, List.not_mem_cons_of_ne_of_not_mem (Ne.symm hx) hnot⟩
        · rintro ⟨hcs, hbefore⟩
          cases before with
          | nil =>
              exact absurd (List.cons.inj hcs).1 hx
          | cons y before =>
              obtain ⟨rfl, hrest⟩ := List.cons.inj hcs
              have hnot := List.not_mem_of_not_mem_cons hbefore
              exact ⟨(before, after), ih.mpr ⟨hrest, hnot⟩, rfl⟩

theorem insideParentheses_eq_some_iff {cs args : List Char} :
    insideParentheses cs = some args ↔ cs = '(' :: args ++ [')'] := by
  constructor
  · intro hinside
    unfold insideParentheses at hinside
    split at hinside
    next rest =>
      rw [Option.ite_none_right_eq_some] at hinside
      obtain ⟨hlast, hargs⟩ := hinside
      obtain rfl := Option.some.inj hargs
      rw [List.cons_append, List.dropLast_append_getLast? _ hlast]
    next => cases hinside
  · rintro rfl
    simp [insideParentheses]

theorem not_mem_decimal {n : ℕ} {c : Char} (hc : c.isDigit = false) : c ∉ decimal n := by
  intro hmem
  rw [isDigit_of_mem_decimal hmem] at hc
  cases hc

/-! ## Reading -/

theorem chars_of_ofChars? {cs : List Char} {name : ElementName}
    (hread : ofChars? cs = some name) : cs = name.chars ∧ name.Fits := by
  simp only [ofChars?, Option.bind_eq_bind, Option.bind_eq_some_iff] at hread
  obtain ⟨⟨family, rest⟩, hfamily, ⟨dimText, rest'⟩, hdim, args, hargs, dim, hdimText,
    hname⟩ := hread
  obtain ⟨rfl, -⟩ := splitAtFirst_eq_some_iff.mp hfamily
  obtain ⟨rfl, -⟩ := splitAtFirst_eq_some_iff.mp hdim
  obtain rfl := insideParentheses_eq_some_iff.mp hargs
  obtain ⟨rfl, hdimFits⟩ := readInteger_eq_some_iff.mp hdimText
  by_cases hface : family = "FaceLagrange".toList
  · rw [if_pos hface, Option.bind_eq_some_iff] at hname
    obtain ⟨degree, hdegree, hsome⟩ := hname
    obtain ⟨rfl, hdegreeFits⟩ := readInteger_eq_some_iff.mp hdegree
    obtain rfl := Option.some.inj hsome
    rw [chars_faceLagrange, hface]
    exact ⟨rfl, hdimFits, hdegreeFits⟩
  · rw [if_neg hface, Option.ite_none_right_eq_some] at hname
    obtain ⟨⟨hnothing, rfl⟩, hsome⟩ := hname
    obtain rfl := Option.some.inj hsome
    change family = "Nothing".toList at hnothing
    rw [chars_nothing, hnothing]
    exact ⟨rfl, hdimFits⟩

theorem ofChars?_chars {name : ElementName} (hfits : name.Fits) :
    ofChars? name.chars = some name := by
  simp only [ofChars?, Option.bind_eq_bind, Option.bind_eq_some_iff]
  have hdigits : ∀ n, '>' ∉ decimal n := fun n => not_mem_decimal rfl
  cases name with
  | faceLagrange dim degree =>
      obtain ⟨hdim, hdegree⟩ := hfits
      have hfamily : '<' ∉ "FaceLagrange".toList := by simp
      refine ⟨(_, _), splitAtFirst_eq_some_iff.mpr ⟨chars_faceLagrange dim degree, hfamily⟩,
        (_, _), splitAtFirst_eq_some_iff.mpr ⟨rfl, hdigits dim⟩,
        decimal degree, insideParentheses_eq_some_iff.mpr rfl,
        dim, readInteger_decimal hdim, ?_⟩
      rw [readInteger_decimal hdegree]
      exact if_pos rfl
  | nothing dim =>
      have hfamily : '<' ∉ "Nothing".toList := by simp
      have hother : "Nothing".toList ≠ "FaceLagrange".toList := by simp
      refine ⟨(_, _), splitAtFirst_eq_some_iff.mpr ⟨chars_nothing dim, hfamily⟩,
        (_, _), splitAtFirst_eq_some_iff.mpr ⟨rfl, hdigits dim⟩,
        [], insideParentheses_eq_some_iff.mpr rfl,
        dim, readInteger_decimal hfits, ?_⟩
      exact (if_neg hother).trans (if_pos ⟨rfl, rfl⟩)

theorem parse_eq_ok_iff {s : String} {name : ElementName} :
    parse s = .ok name ↔ s = name.text ∧ name.Fits := by
  have hread : parse s = .ok name ↔ ofChars? s.toList = some name := by
    unfold parse
    cases ofChars? s.toList with
    | none =>
        simp
    | some found =>
        simp
  have htext : s = name.text ↔ s.toList = name.chars := by
    rw [← String.toList_inj, toList_text]
  rw [hread, htext]
  constructor
  · exact chars_of_ofChars?
  · rintro ⟨hchars, hfits⟩
    rw [hchars]
    exact ofChars?_chars hfits

theorem parse_eq_error {s : String} (hread : ∀ name, parse s ≠ .ok name) :
    parse s = .error (.invalidName s) := by
  unfold parse at hread ⊢
  cases hname : ofChars? s.toList with
  | none =>
      rfl
  | some name =>
      rw [hname] at hread
      exact absurd rfl (hread name)

theorem derivable_iff {s : String} :
    Derivable s.toList ↔ ∃ name, parse s = .ok name := by
  unfold Derivable
  simp only [derives_iff, parse_eq_ok_iff, ← toList_text, String.toList_inj]

/-- A name is read from its text and from no other, the texts that are read are
those of the grammar, and a text that is refused comes back unchanged. -/
theorem parse_accepts_grammar (s : String) :
    (∀ name : ElementName, name.Fits → (parse s = .ok name ↔ s = name.text)) ∧
    ((∃ name, parse s = .ok name) ↔ Derivable s.toList) ∧
    (¬ Derivable s.toList → parse s = .error (.invalidName s)) := by
  refine ⟨?_, derivable_iff.symm, ?_⟩
  · intro name hfits
    rw [parse_eq_ok_iff]
    exact and_iff_left hfits
  · intro hnot
    apply parse_eq_error
    intro name hread
    exact hnot (derivable_iff.mpr ⟨name, hread⟩)

/-- The widest degree is read. -/
theorem parse_accepts_grammar_widest :
    (ElementName.faceLagrange 3 (2 ^ 64 - 1)).Fits ∧
    parse "FaceLagrange<3>(18446744073709551615)" =
      .ok (.faceLagrange 3 (2 ^ 64 - 1)) := by
  have hfits : (ElementName.faceLagrange 3 (2 ^ 64 - 1)).Fits := by
    constructor <;> norm_num
  have htext : "FaceLagrange<3>(18446744073709551615)" =
      (ElementName.faceLagrange 3 (2 ^ 64 - 1)).text := by
    decide +kernel
  obtain ⟨hread, -, -⟩ := parse_accepts_grammar "FaceLagrange<3>(18446744073709551615)"
  exact ⟨hfits, (hread _ hfits).mpr htext⟩

example : parse "FaceLagrange<3>(18446744073709551616)" =
    .error (.invalidName "FaceLagrange<3>(18446744073709551616)") := by
  decide +kernel

end ElementName
end FacetElements
