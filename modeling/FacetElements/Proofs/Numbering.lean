import FacetElements.Polynomial.MultiIndex
import Mathlib.Tactic

/-!
# The numbering of multi-indices

The digits of a number and the list of all multi-indices enumerate the same
choices.  The entry of the list at position `i` holds the digits of `i`, so a
basis function found by division and one found by position are the same, and
numbers with equal digits are equal.  Every choice holds the digits of a number.
-/

namespace FacetElements
namespace MultiIndex

variable {N dim : ℕ}

theorem getElem?_flatMap_of_length
    {α β : Type} {f : α → List β} {n : ℕ} (hpos : 0 < n)
    (hlength : ∀ a, (f a).length = n) (xs : List α) (i : ℕ) :
    (xs.flatMap f)[i]? = xs[i / n]?.bind fun a => (f a)[i % n]? := by
  induction xs generalizing i with
  | nil =>
      simp
  | cons a xs ih =>
      rw [List.flatMap_cons]
      by_cases hi : i < n
      · have hleft : i < (f a).length := by
          rw [hlength a]
          exact hi
        rw [List.getElem?_append_left hleft, Nat.div_eq_of_lt hi,
          Nat.mod_eq_of_lt hi]
        rfl
      · have hni : n ≤ i := Nat.le_of_not_lt hi
        have hright : (f a).length ≤ i := by
          rw [hlength a]
          exact hni
        have hdiv : i / n = (i - n) / n + 1 :=
          Nat.div_eq_sub_div hpos hni
        have hmod : (i - n) % n = i % n :=
          (Nat.mod_eq_sub_mod hni).symm
        rw [List.getElem?_append_right hright, hlength a, ih, hdiv, hmod]
        rfl

theorem div_lt_pow {i : ℕ} (hi : i < N.pow (dim + 1)) : i / N < N.pow dim := by
  apply Nat.div_lt_of_lt_mul
  rw [Nat.mul_comm]
  exact hi

theorem getElem?_all
    (pos : 0 < N) {i : ℕ} (hi : i < N.pow dim) :
    (all N dim)[i]? = some (digits pos dim i) := by
  induction dim generalizing i with
  | zero =>
      have hzero : i = 0 := by
        simpa using hi
      subst hzero
      rfl
  | succ dim ih =>
      have hrest : (all N dim)[i / N]? = some (digits pos dim (i / N)) :=
        ih (div_lt_pow hi)
      have hmod : i % N < N := Nat.mod_lt i pos
      rw [all, getElem?_flatMap_of_length pos (by simp), hrest]
      simp [digits, hmod]

theorem all_eq_map_digits (pos : 0 < N) (dim : ℕ) :
    all N dim = (List.range (N.pow dim)).map (digits pos dim) := by
  apply List.ext_getElem?
  intro i
  by_cases hi : i < N.pow dim
  · rw [getElem?_all pos hi, List.getElem?_map, List.getElem?_range hi]
    rfl
  · have hlength : (all N dim).length ≤ i := by
      rw [length_all]
      exact Nat.le_of_not_lt hi
    rw [List.getElem?_eq_none hlength, List.getElem?_eq_none]
    simpa using Nat.le_of_not_lt hi

theorem digits_inj
    (pos : 0 < N) {i j : ℕ} (hi : i < N.pow dim) (hj : j < N.pow dim) :
    digits pos dim i = digits pos dim j ↔ i = j := by
  constructor
  · intro h
    induction dim generalizing i j with
    | zero =>
        have hi' : i = 0 := by simpa using hi
        have hj' : j = 0 := by simpa using hj
        rw [hi', hj']
    | succ dim ih =>
        simp only [digits, List.cons.injEq, Fin.mk.injEq] at h
        have hdiv : i / N = j / N := ih (div_lt_pow hi) (div_lt_pow hj) h.2
        rw [← Nat.div_add_mod i N, ← Nat.div_add_mod j N, hdiv, h.1]
  · rintro rfl
    rfl

theorem getElem?_digits (pos : 0 < N) (i : ℕ) {d : ℕ} (hd : d < dim) :
    (digits pos dim i)[d]? = some ⟨i / N ^ d % N, Nat.mod_lt _ pos⟩ := by
  induction dim generalizing i d with
  | zero =>
      exact absurd hd (Nat.not_lt_zero d)
  | succ dim ih =>
      cases d with
      | zero =>
          simp [digits]
      | succ d =>
          have hquotient : i / N / N ^ d = i / N ^ (d + 1) := by
            rw [Nat.div_div_eq_div_mul, Nat.pow_succ, Nat.mul_comm]
          rw [digits, List.getElem?_cons_succ, ih (i / N) (Nat.lt_of_succ_lt_succ hd)]
          simp only [hquotient]

/-- A number below `N ^ first` and a multiple of that power have their digits side by
side in the sum. -/
theorem digits_append
    (pos : 0 < N) (first second : ℕ) {i : ℕ} (hi : i < N ^ first) (j : ℕ) :
    digits pos (first + second) (i + N ^ first * j) =
      digits pos first i ++ digits pos second j := by
  induction first generalizing i with
  | zero =>
      have hzero : i = 0 := by
        simpa using hi
      rw [hzero, Nat.zero_add, Nat.zero_add, Nat.pow_zero, Nat.one_mul]
      rfl
  | succ first ih =>
      have hpow : N ^ (first + 1) * j = N * (N ^ first * j) := by
        rw [Nat.pow_succ, Nat.mul_comm (N ^ first) N, Nat.mul_assoc]
      have hmod : (i + N * (N ^ first * j)) % N = i % N := Nat.add_mul_mod_self_left i N _
      have hdiv : (i + N * (N ^ first * j)) / N = i / N + N ^ first * j :=
        Nat.add_mul_div_left i _ pos
      rw [Nat.succ_add, hpow]
      simp only [digits, hmod, hdiv, ih (div_lt_pow hi), List.cons_append]

/-- The number with given digits. -/
def number {N : ℕ} : MultiIndex N → ℕ
  | [] => 0
  | k :: rest => k + N * number rest

theorem number_lt (ix : MultiIndex N) : number ix < N.pow ix.length := by
  induction ix with
  | nil =>
      exact Nat.one_pos
  | cons k rest ih =>
      calc k + N * number rest
        _ < N + N * number rest := Nat.add_lt_add_right k.isLt _
        _ = N * (number rest + 1) := by rw [Nat.mul_succ, Nat.add_comm]
        _ ≤ N * N.pow rest.length := Nat.mul_le_mul_left N ih
        _ = N.pow (rest.length + 1) := by rw [Nat.mul_comm, Nat.pow_eq, Nat.pow_eq, Nat.pow_succ]

theorem digits_number (pos : 0 < N) (ix : MultiIndex N) :
    digits pos ix.length (number ix) = ix := by
  induction ix with
  | nil =>
      rfl
  | cons k rest ih =>
      have hmod : (k + N * number rest) % N = k := by
        rw [Nat.add_mul_mod_self_left, Nat.mod_eq_of_lt k.isLt]
      have hdiv : (k + N * number rest) / N = number rest := by
        rw [Nat.add_mul_div_left _ _ pos, Nat.div_eq_of_lt k.isLt, Nat.zero_add]
      simp only [List.length_cons, number, digits, hmod, hdiv, ih]

theorem ofNumber_eq_digits (pos : 0 < N) (dim i : ℕ) :
    ofNumber N dim i = .ok (digits pos dim i) := by
  cases dim with
  | zero =>
      rfl
  | succ dim =>
      cases N with
      | zero =>
          exact absurd pos (Nat.lt_irrefl 0)
      | succ N =>
          rfl

theorem ofNumber_eq_error_iff {i : ℕ} {error : Error} :
    ofNumber N dim i = .error error ↔ N = 0 ∧ dim ≠ 0 ∧ error = .emptyBasis := by
  cases dim with
  | zero =>
      simp [ofNumber]
  | succ dim =>
      cases N with
      | zero =>
          simp [ofNumber, eq_comm]
      | succ N =>
          simp [ofNumber]

end MultiIndex
end FacetElements
