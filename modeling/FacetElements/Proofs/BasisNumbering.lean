import FacetElements.Proofs.Tabulation

/-!
# The numbering of basis functions

The functions of a tensor product space are numbered twice: by dividing a number by the
size of the one-dimensional basis, again and again, and by listing all choices of
one-dimensional functions in lexicographic order, read backwards.  Both give every choice
one number, the one whose digits to that base are the choice.
-/

namespace FacetElements

/-! ## Lexicographic products -/

section Products

variable {α β : Type}

theorem lexProduct_append_singleton (factors : List (List α)) (xs : List α) :
    lexProduct (factors ++ [xs]) =
      (lexProduct factors).flatMap fun choice => xs.map fun x => choice ++ [x] := by
  induction factors with
  | nil =>
      simp [lexProduct, List.map_eq_flatMap]
  | cons ys rest ih =>
      simp only [List.cons_append, lexProduct, ih, List.flatMap_assoc, List.map_flatMap,
        List.flatMap_map, List.map_map, Function.comp_def]

end Products

namespace MultiIndex

variable {N dim i : ℕ}

/-- The first variable is the last factor of the product, which varies fastest. -/
theorem all_eq_map_reverse (N dim : ℕ) :
    all N dim = (lexProduct (List.replicate dim (List.finRange N))).map List.reverse := by
  induction dim with
  | zero =>
      rfl
  | succ dim ih =>
      rw [all, ih, List.replicate_succ', lexProduct_append_singleton, List.map_flatMap,
        List.flatMap_map]
      congr 1
      funext choice
      rw [List.map_map]
      apply List.map_congr_left
      intro k _
      rw [Function.comp_apply, List.reverse_append, List.reverse_singleton,
        List.singleton_append]

/-! ## Digits and their number -/

theorem number_digits (pos : 0 < N) (hi : i < N ^ dim) : number (digits pos dim i) = i := by
  have hdigits := digits_number pos (digits pos dim i)
  have hlt := number_lt (digits pos dim i)
  rw [length_digits] at hdigits hlt
  exact (digits_inj pos hlt hi).mp hdigits

/-- Each digit counts as often as its place says. -/
theorem number_eq_sum (ix : MultiIndex N) :
    number ix = ∑ d : Fin ix.length, (ix.get d : ℕ) * N ^ (d : ℕ) := by
  induction ix with
  | nil =>
      rfl
  | cons k rest ih =>
      have hsum : N * number rest =
          ∑ d : Fin rest.length, (rest.get d : ℕ) * N ^ ((d : ℕ) + 1) := by
        rw [ih, Finset.mul_sum]
        apply Finset.sum_congr rfl
        intro d _
        rw [Nat.pow_succ]
        ring
      calc number (k :: rest)
        _ = (k : ℕ) * N ^ 0 + N * number rest := by
          rw [Nat.pow_zero, Nat.mul_one]
          rfl
        _ = (k : ℕ) * N ^ 0 +
            ∑ d : Fin rest.length, (rest.get d : ℕ) * N ^ ((d : ℕ) + 1) := by
          rw [hsum]
        _ = ∑ d : Fin (k :: rest).length, ((k :: rest).get d : ℕ) * N ^ (d : ℕ) :=
          (Fin.sum_univ_succ fun d : Fin (rest.length + 1) =>
            ((k :: rest).get d : ℕ) * N ^ (d : ℕ)).symm

/-- Numbers below the size of the basis are a multi-index. -/
theorem exists_map_val_eq {ks : List ℕ} (hks : ∀ k ∈ ks, k < N) :
    ∃ ix : MultiIndex N, ix.map Fin.val = ks := by
  induction ks with
  | nil =>
      exact ⟨[], rfl⟩
  | cons k ks ih =>
      rw [List.forall_mem_cons] at hks
      rcases ih hks.2 with ⟨ix, rfl⟩
      exact ⟨⟨k, hks.1⟩ :: ix, rfl⟩

end MultiIndex

namespace TensorSpace

open MultiIndex

variable {K : Type} (space : TensorSpace K) {i : ℕ} {ix : MultiIndex space.basis.size}

theorem indices_eq_error (hi : space.size ≤ i) :
    space.indices i = .error (.indexOutOfRange .basisFunction i space.size) := by
  rw [indices, checkNumber, if_neg (not_lt.mpr hi)]
  rfl

theorem indices_eq_ok_iff (hpos : 0 < space.basis.size) :
    space.indices i = .ok ix ↔ i < space.size ∧ digits hpos space.dim i = ix := by
  by_cases hi : i < space.size
  · rw [space.indices_eq hpos hi, Except.ok.injEq, and_iff_right hi]
  · rw [space.indices_eq_error (not_lt.mp hi)]
    simp [hi]

/-- The two numberings of the functions of a space are the same one-to-one correspondence
between the numbers below the size of the space and the choices of one-dimensional
functions. -/
structure NumbersFunctions (space : TensorSpace K) : Prop where
  size_eq : space.size = space.basis.size ^ space.dim
  listed : space.allIndices =
    (lexProduct (List.replicate space.dim (List.finRange space.basis.size))).map List.reverse
  length_listed : space.allIndices.length = space.size
  agree : ∀ i < space.size, ∃ ix,
    space.indices i = .ok ix ∧ space.allIndices[i]? = some ix
  ok_iff : ∀ i, (∃ ix, space.indices i = .ok ix) ↔ i < space.size
  length_eq : ∀ i ix, space.indices i = .ok ix → ix.length = space.dim
  below : ∀ i ix, space.indices i = .ok ix → ∀ k ∈ ix.map Fin.val, k < space.basis.size
  digit_eq : ∀ i ix, space.indices i = .ok ix → ∀ d < space.dim,
    (ix.map Fin.val)[d]? = some (i / space.basis.size ^ d % space.basis.size)
  sum_eq : ∀ i ix, space.indices i = .ok ix →
    ∑ d : Fin ix.length, (ix.get d : ℕ) * space.basis.size ^ (d : ℕ) = i
  one_number : ∀ ks : List ℕ, ks.length = space.dim → (∀ k ∈ ks, k < space.basis.size) →
    ∃! i, ∃ ix, space.indices i = .ok ix ∧ ix.map Fin.val = ks

theorem numberings_agree
    (hnodes : space.basis.nodes ≠ []) (hfits : space.basis.size ^ space.dim < 2 ^ 64) :
    NumbersFunctions space := by
  have hpos : 0 < space.basis.size := List.length_pos_of_ne_nil hnodes
  have hsize := space.size_eq_of_fits hpos hfits
  refine
    { size_eq := hsize
      listed := all_eq_map_reverse _ _
      length_listed := by rw [length_allIndices, hsize, Nat.pow_eq]
      agree := ?_
      ok_iff := ?_
      length_eq := ?_
      below := ?_
      digit_eq := ?_
      sum_eq := ?_
      one_number := ?_ }
  · intro i hi
    have hpow : i < space.basis.size.pow space.dim := by
      rwa [hsize] at hi
    exact ⟨_, space.indices_eq hpos hi, getElem?_all hpos hpow⟩
  · intro i
    simp only [space.indices_eq_ok_iff hpos, exists_and_left, exists_eq', and_true]
  · intro i ix hix
    rcases (space.indices_eq_ok_iff hpos).mp hix with ⟨-, rfl⟩
    exact length_digits hpos _ _
  · intro i ix _ k hk
    rcases List.mem_map.mp hk with ⟨digit, -, rfl⟩
    exact digit.isLt
  · intro i ix hix d hd
    rcases (space.indices_eq_ok_iff hpos).mp hix with ⟨-, rfl⟩
    rw [List.getElem?_map, getElem?_digits hpos i hd, Option.map_some]
  · intro i ix hix
    rcases (space.indices_eq_ok_iff hpos).mp hix with ⟨hi, rfl⟩
    rw [← number_eq_sum, number_digits hpos (hsize ▸ hi)]
  · intro ks hlength hks
    rcases exists_map_val_eq hks with ⟨ix, rfl⟩
    rw [List.length_map] at hlength
    refine ⟨number ix, ⟨ix, ?_, rfl⟩, ?_⟩
    · rw [space.indices_eq_ok_iff hpos, ← hlength, hsize, ← hlength]
      exact ⟨number_lt ix, digits_number hpos ix⟩
    · rintro i ⟨ix', hix', hval⟩
      have hsame : ix' = ix := Fin.val_injective.list_map hval
      rcases (space.indices_eq_ok_iff hpos).mp hix' with ⟨hi, hdigits⟩
      rw [← hsame, ← hdigits, number_digits hpos (hsize ▸ hi)]

/-- A single node in so many variables that the exponent of the size is cut. -/
def singleNodeSpace : TensorSpace ℚ := ⟨⟨[1 / 2]⟩, 2 ^ 32 + 1⟩

/-- Powers of one do not notice that the exponent is cut; three nodes have nine functions
in two variables. -/
theorem numberings_agree_singleNodeSpace :
    singleNodeSpace.basis.nodes ≠ [] ∧
    singleNodeSpace.basis.size ^ singleNodeSpace.dim < 2 ^ 64 ∧
    NumbersFunctions singleNodeSpace ∧
    ([0, 1 / 2, 1] : List ℚ) ≠ [] ∧ 3 ^ 2 < 2 ^ 64 ∧
    NumbersFunctions (⟨⟨[0, 1 / 2, 1]⟩, 2⟩ : TensorSpace ℚ) := by
  have hsize : singleNodeSpace.basis.size = 1 := rfl
  have hone : singleNodeSpace.basis.size ^ singleNodeSpace.dim < 2 ^ 64 := by
    rw [hsize, Nat.one_pow]
    norm_num
  have hthree : 3 ^ 2 < 2 ^ 64 := by
    norm_num
  exact ⟨List.cons_ne_nil _ _, hone, numberings_agree _ (List.cons_ne_nil _ _) hone,
    List.cons_ne_nil _ _, hthree, numberings_agree _ (List.cons_ne_nil _ _) hthree⟩

end TensorSpace

end FacetElements
