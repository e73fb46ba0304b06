import FacetElements.Name.Parser
import Mathlib.Tactic

/-!
# Integers of the name grammar

An integer of the grammar is a zero, or a digit other than zero with any digits
after it.  Every number has one such text, the one that writing it produces.
Reading accepts these texts and no others, up to the width of an integer.
-/

namespace FacetElements
namespace ElementName

/-! ## Grammar -/

/-- The character stands for a number below ten. -/
def IsDigit (c : Char) (d : ℕ) : Prop :=
  d < 10 ∧ c.toNat = '0'.toNat + d

/-- `nonzero-digit digit*`, with the number that it denotes. -/
inductive IsPositiveInteger : List Char → ℕ → Prop
  | first {c : Char} {d : ℕ} (hdigit : IsDigit c d) (hd : d ≠ 0) :
      IsPositiveInteger [c] d
  | next {cs : List Char} {n : ℕ} {c : Char} {d : ℕ}
      (hcs : IsPositiveInteger cs n) (hdigit : IsDigit c d) :
      IsPositiveInteger (cs ++ [c]) (10 * n + d)

/-- `integer := "0" | nonzero-digit digit*`, with the number that it denotes. -/
inductive IsInteger : List Char → ℕ → Prop
  | zero : IsInteger ['0'] 0
  | positive {cs : List Char} {n : ℕ} (hcs : IsPositiveInteger cs n) : IsInteger cs n

theorem isDigit_digitChar {d : ℕ} (hd : d < 10) : IsDigit (Nat.digitChar d) d :=
  ⟨hd, Nat.toNat_digitChar_of_lt_ten hd⟩

theorem IsDigit.eq_digitChar {c : Char} {d : ℕ} (hdigit : IsDigit c d) :
    c = Nat.digitChar d := by
  apply Char.toNat_inj.mp
  rw [hdigit.2, Nat.toNat_digitChar_of_lt_ten hdigit.1]
  rfl

theorem isDigit_of_isDigit {c : Char} (hc : c.isDigit = true) :
    IsDigit c (c.toNat - '0'.toNat) := by
  have hbounds : 48 ≤ c.toNat ∧ c.toNat ≤ 57 := by
    simpa [Char.isDigit, UInt32.le_iff_toNat_le] using hc
  have hzero : '0'.toNat = 48 := rfl
  refine ⟨?_, ?_⟩ <;> omega

/-! ## One text for each number -/

theorem IsPositiveInteger.pos {cs : List Char} {n : ℕ} (hcs : IsPositiveInteger cs n) :
    0 < n := by
  induction hcs with
  | first hdigit hd =>
      exact Nat.pos_of_ne_zero hd
  | next hcs hdigit ih =>
      omega

theorem IsPositiveInteger.eq_decimal
    {cs : List Char} {n : ℕ} (hcs : IsPositiveInteger cs n) : cs = decimal n := by
  induction hcs with
  | first hdigit hd =>
      rw [decimal, Nat.toDigits_of_lt_base hdigit.1, hdigit.eq_digitChar]
  | @next cs n c d hcs hdigit ih =>
      have hlast : Nat.toDigits 10 d = [c] := by
        rw [Nat.toDigits_of_lt_base hdigit.1, hdigit.eq_digitChar]
      rw [ih, decimal, decimal,
        ← Nat.toDigits_append_toDigits (by omega) hcs.pos hdigit.1, hlast]

theorem isPositiveInteger_decimal {n : ℕ} (hn : 0 < n) :
    IsPositiveInteger (decimal n) n := by
  induction n using Nat.strongRecOn with
  | ind n ih =>
      by_cases hlt : n < 10
      · rw [decimal, Nat.toDigits_of_lt_base hlt]
        exact .first (isDigit_digitChar hlt) hn.ne'
      · have hfront := ih (n / 10) (by omega) (by omega)
        have hlast : IsDigit (Nat.digitChar (n % 10)) (n % 10) :=
          isDigit_digitChar (by omega)
        have hnext := hfront.next hlast
        rw [Nat.div_add_mod] at hnext
        rw [decimal, Nat.toDigits_of_base_le (by omega) (Nat.le_of_not_lt hlt)]
        exact hnext

theorem isInteger_iff {cs : List Char} {n : ℕ} : IsInteger cs n ↔ cs = decimal n := by
  constructor
  · intro hinteger
    cases hinteger with
    | zero =>
        rfl
    | positive hcs =>
        exact hcs.eq_decimal
  · rintro rfl
    cases n with
    | zero =>
        exact .zero
    | succ n =>
        exact .positive (isPositiveInteger_decimal n.succ_pos)

/-! ## Reading -/

theorem isDigit_of_mem_decimal {n : ℕ} {c : Char} (hc : c ∈ decimal n) :
    c.isDigit = true :=
  Nat.isDigit_of_mem_toDigits (by omega) (le_refl 10) hc

theorem IsPositiveInteger.head?_ne_zero
    {cs : List Char} {n : ℕ} (hcs : IsPositiveInteger cs n) : cs.head? ≠ some '0' := by
  induction hcs with
  | first hdigit hd =>
      intro hhead
      obtain rfl := Option.some.inj hhead
      exact hd (Nat.add_left_cancel hdigit.2.symm)
  | @next cs n c d hcs hdigit ih =>
      have hne : cs ≠ [] := by
        rw [hcs.eq_decimal]
        exact Nat.toDigits_ne_nil
      rw [List.head?_append_of_ne_nil cs hne]
      exact ih

theorem isCanonicalInteger_decimal (n : ℕ) : IsCanonicalInteger (decimal n) := by
  refine ⟨Nat.toDigits_ne_nil, ?_, fun c hc => isDigit_of_mem_decimal hc⟩
  obtain rfl | hn := Nat.eq_zero_or_pos n
  · exact .inl rfl
  · exact .inr (isPositiveInteger_decimal hn).head?_ne_zero

theorem isPositiveInteger_ofDigitChars
    {cs : List Char} (hne : cs ≠ []) (hhead : cs.head? ≠ some '0')
    (hdigits : ∀ c ∈ cs, c.isDigit = true) :
    IsPositiveInteger cs (Nat.ofDigitChars 10 cs 0) := by
  induction cs using List.reverseRecOn with
  | nil =>
      exact absurd rfl hne
  | append_singleton cs c ih =>
      have hlast := isDigit_of_isDigit (hdigits c (by simp))
      rw [Nat.ofDigitChars_append, Nat.ofDigitChars_cons, Nat.ofDigitChars_nil]
      cases cs with
      | nil =>
          rw [Nat.ofDigitChars_nil, Nat.mul_zero, Nat.zero_add]
          refine .first hlast fun hzero => hhead ?_
          rw [hlast.eq_digitChar, hzero]
          rfl
      | cons first rest =>
          refine .next (ih (List.cons_ne_nil first rest) hhead ?_) hlast
          intro d hd
          exact hdigits d (List.mem_append_left [c] hd)

theorem IsCanonicalInteger.eq_decimal
    {cs : List Char} (hcs : IsCanonicalInteger cs) :
    cs = decimal (Nat.ofDigitChars 10 cs 0) := by
  obtain ⟨hne, rfl | hhead, hdigits⟩ := hcs
  · rfl
  · exact (isPositiveInteger_ofDigitChars hne hhead hdigits).eq_decimal

theorem readInteger_decimal {n : ℕ} (hn : n < 2 ^ 64) :
    readInteger (decimal n) = some n := by
  have hvalue : Nat.ofDigitChars 10 (decimal n) 0 = n := Nat.ofDigitChars_ten_toDigits
  have hbound : n < wordBound := hn
  rw [readInteger, if_pos (isCanonicalInteger_decimal n), hvalue, if_pos hbound]

theorem readInteger_eq_some_iff {cs : List Char} {n : ℕ} :
    readInteger cs = some n ↔ cs = decimal n ∧ n < 2 ^ 64 := by
  constructor
  · intro hread
    unfold readInteger at hread
    by_cases hcanonical : IsCanonicalInteger cs
    · rw [if_pos hcanonical, Option.ite_none_right_eq_some] at hread
      obtain ⟨hlt, hvalue⟩ := hread
      obtain rfl := Option.some.inj hvalue
      exact ⟨hcanonical.eq_decimal, hlt⟩
    · rw [if_neg hcanonical] at hread
      cases hread
  · rintro ⟨rfl, hlt⟩
    exact readInteger_decimal hlt

end ElementName
end FacetElements
