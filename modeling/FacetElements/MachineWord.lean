/-!
# Machine words

Counts and positions are machine words of sixty-four bits.  What does not fit is dropped
without notice, so a sum, a product or a power that no word holds comes out too small.
Here the exact number is taken first and then cut.  The exponent of a power is narrower
than a word and is cut on its own; `powFits` tells whether a word holds the exact power,
and never takes one that is far too large.
-/

namespace FacetElements

/-- The least number that no machine word holds. -/
def wordBound : Nat := Nat.pow 2 64

/-- What a machine word keeps of a number. -/
def word (n : Nat) : Nat :=
  n % wordBound

/-- Exponents are thirty-two bits wide. -/
def exponentBound : Nat := Nat.pow 2 32

/-- A power as it is computed. -/
def wordPow (base exponent : Nat) : Nat :=
  word (base.pow (exponent % exponentBound))

theorem wordBound_pos : 0 < wordBound :=
  Nat.two_pow_pos 64

theorem word_lt (n : Nat) : word n < wordBound :=
  Nat.mod_lt n wordBound_pos

theorem word_of_lt {n : Nat} (hn : n < wordBound) : word n = n :=
  Nat.mod_eq_of_lt hn

theorem word_eq_self_iff {n : Nat} : word n = n ↔ n < wordBound :=
  ⟨fun hword => hword ▸ word_lt n, word_of_lt⟩

theorem word_le (n : Nat) : word n ≤ n :=
  Nat.mod_le n wordBound

theorem succ_lt_of_mul_succ_lt {n : Nat} (hn : n * (n + 1) < wordBound) :
    n + 1 < wordBound := by
  rcases Nat.eq_zero_or_pos n with hzero | hpos
  · rw [hzero]
    decide
  · exact Nat.lt_of_le_of_lt (Nat.le_mul_of_pos_left (n + 1) hpos) hn

/-- A machine word holds the power.  To a base of two or more it holds none from the
exponent sixty-four on. -/
def powFits (base exponent : Nat) : Bool :=
  base ≤ 1 || (exponent < 64 && base.pow exponent < wordBound)

theorem powFits_iff (base exponent : Nat) :
    powFits base exponent = true ↔ base.pow exponent < wordBound := by
  rcases Nat.lt_or_ge 1 base with hlarge | hsmall
  · have hpow : 64 ≤ exponent → wordBound ≤ base.pow exponent := fun hexponent =>
      Nat.le_trans (Nat.pow_le_pow_right Nat.two_pos hexponent)
        (Nat.pow_le_pow_left hlarge exponent)
    have hnot : ¬ base ≤ 1 := Nat.not_le.mpr hlarge
    simp only [powFits, hnot, decide_false, Bool.false_or, Bool.and_eq_true, decide_eq_true_eq]
    constructor
    · intro hfits
      exact hfits.2
    · intro hlt
      refine ⟨?_, hlt⟩
      exact Nat.lt_of_not_le fun hexponent => Nat.not_le.mpr hlt (hpow hexponent)
  · have hone : base.pow exponent ≤ Nat.pow 1 exponent := Nat.pow_le_pow_left hsmall exponent
    have hlt : base.pow exponent < wordBound :=
      Nat.lt_of_le_of_lt hone (by rw [Nat.pow_eq, Nat.one_pow]; decide)
    simpa [powFits, hsmall] using hlt

/-- A power that a machine word holds is computed rightly.  Only to the base zero can its
exponent be too wide and the answer not be its own. -/
theorem wordPow_eq
    {base exponent : Nat} (hempty : base = 0 → exponent < exponentBound)
    (hfits : base.pow exponent < wordBound) :
    wordPow base exponent = base.pow exponent := by
  have huncut : exponent < exponentBound → wordPow base exponent = base.pow exponent := by
    intro hexponent
    rw [wordPow, Nat.mod_eq_of_lt hexponent]
    exact word_of_lt hfits
  rcases (by omega : base = 0 ∨ base = 1 ∨ 2 ≤ base) with hzero | hone | htwo
  · exact huncut (hempty hzero)
  · simp only [wordPow, hone, Nat.pow_eq, Nat.one_pow]
    decide
  · have hpow : Nat.pow 2 exponent < Nat.pow 2 64 :=
      Nat.lt_of_le_of_lt (Nat.pow_le_pow_left htwo exponent) hfits
    have hexponent : exponent < 64 := (Nat.pow_lt_pow_iff_right Nat.one_lt_two).mp hpow
    exact huncut (Nat.lt_trans hexponent (by decide))

end FacetElements
