import FacetElements.Error

/-!
# Multi-indices

A basis function in several variables is a choice of one function per variable.
Choices are numbered with the first variable varying fastest: their entries are
the digits of the number to the base `N`, the lowest first.  `digits` takes one
number apart, `all` lists the choices of every number in order.
-/

namespace FacetElements

/-- One number below `N` per variable. -/
abbrev MultiIndex (N : Nat) := List (Fin N)

/-- All choices of one entry from each list in lexicographic order, so that the choice
from the last list varies fastest.  From no list there is one choice, of nothing. -/
def lexProduct {α : Type} : List (List α) → List (List α)
  | [] => [[]]
  | xs :: rest => xs.flatMap fun x => (lexProduct rest).map (x :: ·)

namespace MultiIndex

/-- The lowest `dim` digits of `i` to the base `N`. -/
def digits {N : Nat} (pos : 0 < N) : (dim i : Nat) → MultiIndex N
  | 0, _ => []
  | dim + 1, i => ⟨i % N, Nat.mod_lt i pos⟩ :: digits pos dim (i / N)

/-- The multi-index with number `i`.  No number has a digit to the base zero. -/
def ofNumber : (N dim i : Nat) → Except Error (MultiIndex N)
  | _, 0, _ => .ok []
  | 0, _ + 1, _ => .error .emptyBasis
  | N + 1, dim + 1, i => .ok (digits N.succ_pos (dim + 1) i)

/-- All multi-indices, the first entry varying fastest. -/
def all (N : Nat) : (dim : Nat) → List (MultiIndex N)
  | 0 => [[]]
  | dim + 1 => (all N dim).flatMap fun rest => (List.finRange N).map (· :: rest)

@[simp] theorem length_digits
    {N : Nat} (pos : 0 < N) (dim i : Nat) :
    (digits pos dim i).length = dim := by
  induction dim generalizing i with
  | zero =>
      rfl
  | succ dim ih =>
      simp [digits, ih]

@[simp] theorem length_all (N dim : Nat) :
    (all N dim).length = N.pow dim := by
  induction dim with
  | zero =>
      rfl
  | succ dim ih =>
      simp [all, List.length_flatMap, List.map_const', ih, Nat.pow_succ]

theorem length_of_mem_all
    {N dim : Nat} {ix : MultiIndex N} (hix : ix ∈ all N dim) :
    ix.length = dim := by
  induction dim generalizing ix with
  | zero =>
      simp_all [all]
  | succ dim ih =>
      simp only [all, List.mem_flatMap, List.mem_map] at hix
      obtain ⟨rest, hrest, k, _, rfl⟩ := hix
      simp [ih hrest]

end MultiIndex

end FacetElements
