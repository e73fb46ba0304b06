import FacetElements.Proofs.Numbering
import Mathlib.Tactic

/-!
# Symmetries of a face

A face is an interval or a square.  Its symmetries are generated by the reversal
of one axis and the exchange of the two axes.  They act on every list that has
one entry per axis: on points, on the tensor indices of dofs, and on the bits of
children, and through tensor indices and bits on numbers, which they permute.
-/

namespace FacetElements

/-- A generator of the symmetries.  There is nothing to reverse at an axis that
the face does not have, and nothing to exchange on an interval. -/
inductive FaceMove where
  | reverse (axis : ℕ)
  | exchange

/-- Moves, to be made one after the other. -/
abbrev FaceSymmetry := List FaceMove

variable {α β γ : Type}

namespace FaceMove

/-- A move of a list with one entry per axis, where `flip` reverses an axis. -/
def act (flip : α → α) : FaceMove → List α → List α
  | .reverse axis, xs => xs.modify axis flip
  | .exchange, xs => xs.reverse

@[simp] theorem length_act (flip : α → α) (move : FaceMove) (xs : List α) :
    (move.act flip xs).length = xs.length := by
  cases move with
  | reverse axis =>
      exact List.length_modify flip xs axis
  | exchange =>
      exact List.length_reverse

theorem act_act {flip : α → α} (hflip : Function.Involutive flip) (move : FaceMove)
    (xs : List α) : move.act flip (move.act flip xs) = xs := by
  cases move with
  | reverse axis =>
      simp only [act, List.modify_modify_eq, hflip.comp_self, List.modify_id]
  | exchange =>
      exact List.reverse_reverse xs

theorem perm_act_id (move : FaceMove) (xs : List α) : (move.act id xs).Perm xs := by
  cases move with
  | reverse axis =>
      rw [act, List.modify_id]
  | exchange =>
      exact List.reverse_perm xs

theorem map_act
    {φ : α → β} {f : α → α} {h : β → β} (hφ : ∀ a, φ (f a) = h (φ a))
    (move : FaceMove) (xs : List α) :
    (move.act f xs).map φ = move.act h (xs.map φ) := by
  cases move with
  | reverse axis =>
      apply List.ext_getElem?
      intro k
      by_cases hk : axis = k <;>
        simp [act, hk, Option.map_map, Function.comp_def, hφ]
  | exchange =>
      exact List.map_reverse

theorem zipWith_act
    {φ : α → β → γ} {f : α → α} {g : β → β} {h : γ → γ}
    (hφ : ∀ a b, φ (f a) (g b) = h (φ a b))
    (move : FaceMove) {xs : List α} {ys : List β} (hlength : xs.length = ys.length) :
    List.zipWith φ (move.act f xs) (move.act g ys) =
      move.act h (List.zipWith φ xs ys) := by
  cases move with
  | reverse axis =>
      induction xs generalizing axis ys with
      | nil =>
          simp [act]
      | cons x xs ih =>
          cases ys with
          | nil =>
              simp at hlength
          | cons y ys =>
              cases axis with
              | zero =>
                  simp [act, hφ]
              | succ axis =>
                  have hrest := ih (by simpa using hlength) axis
                  simpa [act] using hrest
  | exchange =>
      exact (List.reverse_zipWith hlength).symm

end FaceMove

namespace FaceSymmetry

def act (flip : α → α) : FaceSymmetry → List α → List α
  | [], xs => xs
  | move :: rest, xs => act flip rest (move.act flip xs)

@[simp] theorem length_act (flip : α → α) (s : FaceSymmetry) (xs : List α) :
    (act flip s xs).length = xs.length := by
  induction s generalizing xs with
  | nil =>
      rfl
  | cons move rest ih =>
      rw [act, ih, FaceMove.length_act]

theorem act_injective {flip : α → α} (hflip : Function.Involutive flip)
    (s : FaceSymmetry) : Function.Injective (act flip s) := by
  induction s with
  | nil =>
      exact Function.injective_id
  | cons move rest ih =>
      intro xs ys heq
      have hmove : move.act flip xs = move.act flip ys := ih heq
      rw [← FaceMove.act_act hflip move xs, hmove, FaceMove.act_act hflip]

theorem perm_act_id (s : FaceSymmetry) (xs : List α) : (act id s xs).Perm xs := by
  induction s generalizing xs with
  | nil =>
      exact List.Perm.refl xs
  | cons move rest ih =>
      exact (ih (move.act id xs)).trans (move.perm_act_id xs)

theorem map_act
    {φ : α → β} {f : α → α} {h : β → β} (hφ : ∀ a, φ (f a) = h (φ a))
    (s : FaceSymmetry) (xs : List α) :
    (act f s xs).map φ = act h s (xs.map φ) := by
  induction s generalizing xs with
  | nil =>
      rfl
  | cons move rest ih =>
      rw [act, ih, FaceMove.map_act hφ, act]

/-- An operation on two lists commutes with a symmetry if it does so with the
reversal of single entries. -/
theorem zipWith_act
    {φ : α → β → γ} {f : α → α} {g : β → β} {h : γ → γ}
    (hφ : ∀ a b, φ (f a) (g b) = h (φ a b))
    (s : FaceSymmetry) {xs : List α} {ys : List β} (hlength : xs.length = ys.length) :
    List.zipWith φ (act f s xs) (act g s ys) = act h s (List.zipWith φ xs ys) := by
  induction s generalizing xs ys with
  | nil =>
      rfl
  | cons move rest ih =>
      have hmove : (move.act f xs).length = (move.act g ys).length := by
        rw [FaceMove.length_act, FaceMove.length_act, hlength]
      rw [act, act, ih hmove, FaceMove.zipWith_act hφ move hlength, act]

/-! ## Numbers -/

open MultiIndex

variable {N dim : ℕ}

/-- The number whose digits are the image of the lowest `dim` digits of `i`.
Where an axis is reversed, the digit `a` becomes `N - 1 - a`. -/
def image (s : FaceSymmetry) (pos : 0 < N) (dim i : ℕ) : ℕ :=
  number (act Fin.rev s (digits pos dim i))

theorem digits_image (s : FaceSymmetry) (pos : 0 < N) (dim i : ℕ) :
    digits pos dim (s.image pos dim i) = act Fin.rev s (digits pos dim i) := by
  have hdigits := digits_number pos (act Fin.rev s (digits pos dim i))
  rw [length_act, length_digits] at hdigits
  exact hdigits

theorem image_lt (s : FaceSymmetry) (pos : 0 < N) (dim i : ℕ) :
    s.image pos dim i < N.pow dim := by
  have hlt := number_lt (act Fin.rev s (digits pos dim i))
  rw [length_act, length_digits] at hlt
  exact hlt

theorem image_inj
    (s : FaceSymmetry) (pos : 0 < N) {i j : ℕ}
    (hi : i < N.pow dim) (hj : j < N.pow dim) :
    s.image pos dim i = s.image pos dim j ↔ i = j := by
  constructor
  · intro heq
    have hdigits := congrArg (digits pos dim) heq
    rw [digits_image, digits_image] at hdigits
    exact (digits_inj pos hi hj).mp (act_injective Fin.rev_involutive s hdigits)
  · rintro rfl
    rfl

/-- A symmetry permutes the numbers of `dim` digits. -/
theorem map_image_range_perm (s : FaceSymmetry) (pos : 0 < N) (dim : ℕ) :
    ((List.range (N.pow dim)).map (s.image pos dim)).Perm
      (List.range (N.pow dim)) := by
  have hnodup : ((List.range (N.pow dim)).map (s.image pos dim)).Nodup := by
    refine List.Nodup.map_on ?_ List.nodup_range
    intro i hi j hj heq
    exact (s.image_inj pos (List.mem_range.mp hi) (List.mem_range.mp hj)).mp heq
  have hsubset :
      (List.range (N.pow dim)).map (s.image pos dim) ⊆ List.range (N.pow dim) := by
    intro k hk
    obtain ⟨i, -, rfl⟩ := List.mem_map.mp hk
    exact List.mem_range.mpr (s.image_lt pos dim i)
  exact (List.Nodup.subperm hnodup hsubset).perm_of_length_le (by simp)

/-- The child in which a child of the face comes to lie.  Children are numbered
by their bits, one per axis. -/
def childImage (s : FaceSymmetry) (axes child : ℕ) : ℕ :=
  s.image Nat.two_pos axes child

end FaceSymmetry

end FacetElements
