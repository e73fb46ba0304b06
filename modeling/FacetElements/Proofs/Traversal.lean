import FacetElements.Error
import Mathlib.Tactic

/-!
# Traversals that can fail

A traversal of a list stops at the first element that is refused.  It gives a
list exactly if no element is refused, and then the results element by element.
-/

namespace FacetElements

variable {α β : Type}

section Traversals

variable {f : α → Except Error β} {xs : List α} {ys : List β}

theorem mapM_eq_ok {g : α → β} (h : ∀ x ∈ xs, f x = .ok (g x)) : xs.mapM f = .ok (xs.map g) := by
  induction xs with
  | nil =>
      rfl
  | cons x xs ih =>
      have hx := h x List.mem_cons_self
      have hrest := ih fun y hy => h y (List.mem_cons_of_mem x hy)
      rw [List.mapM_cons, hx, hrest]
      rfl

theorem mapM_eq_ok_iff :
    xs.mapM f = .ok ys ↔ List.Forall₂ (fun x y => f x = .ok y) xs ys := by
  induction xs generalizing ys with
  | nil =>
      rw [List.mapM_nil, List.forall₂_nil_left_iff]
      constructor
      · intro hys
        cases hys
        rfl
      · rintro rfl
        rfl
  | cons x xs ih =>
      rw [List.mapM_cons, List.forall₂_cons_left_iff]
      simp only [← ih]
      cases hx : f x with
      | error error =>
          simp [bind, Except.bind]
      | ok y =>
          cases hrest : xs.mapM f with
          | error error =>
              simp [bind, Except.bind]
          | ok rest =>
              simp [bind, Except.bind, pure, Except.pure, eq_comm]

theorem exists_of_mapM_eq_error
    {error : Error} (herror : xs.mapM f = .error error) : ∃ x ∈ xs, f x = .error error := by
  induction xs with
  | nil =>
      cases herror
  | cons x xs ih =>
      rw [List.mapM_cons] at herror
      cases hx : f x with
      | error first =>
          rw [hx] at herror
          cases herror
          exact ⟨x, List.mem_cons_self, hx⟩
      | ok y =>
          rw [hx] at herror
          cases hrest : xs.mapM f with
          | error later =>
              rw [hrest] at herror
              cases herror
              obtain ⟨z, hz, hfz⟩ := ih hrest
              exact ⟨z, List.mem_cons_of_mem x hz, hfz⟩
          | ok rest =>
              rw [hrest] at herror
              cases herror

/-- The first element that is refused ends the traversal. -/
theorem mapM_eq_error
    {before after : List α} {x : α} {error : Error} (hbefore : ∀ y ∈ before, ∃ z, f y = .ok z)
    (hx : f x = .error error) : (before ++ x :: after).mapM f = .error error := by
  induction before with
  | nil =>
      rw [List.nil_append, List.mapM_cons, hx]
      rfl
  | cons y before ih =>
      rw [List.forall_mem_cons] at hbefore
      rcases hbefore.1 with ⟨z, hz⟩
      rw [List.cons_append, List.mapM_cons, hz]
      exact congrArg (· >>= fun rest => pure (z :: rest)) (ih hbefore.2)

theorem mem_of_mapM_eq_ok_iff (hys : xs.mapM f = .ok ys) {y : β} :
    y ∈ ys ↔ ∃ x ∈ xs, f x = .ok y := by
  have hall := mapM_eq_ok_iff.mp hys
  clear hys
  induction hall with
  | nil =>
      simp
  | cons hhead _ ih =>
      simp only [List.mem_cons, exists_eq_or_imp, hhead, Except.ok.injEq, ih, @eq_comm _ y]

theorem exists_of_mapM_eq_ok (hys : xs.mapM f = .ok ys) {x : α} (hx : x ∈ xs) :
    ∃ y, f x = .ok y := by
  have hall := mapM_eq_ok_iff.mp hys
  clear hys
  induction hall with
  | nil =>
      cases hx
  | cons hhead _ ih =>
      obtain rfl | hrest := List.mem_cons.mp hx
      · exact ⟨_, hhead⟩
      · exact ih hrest

end Traversals

/-! ## Results mapped -/

variable {g : α → β} {x : Except Error α}

theorem exceptMap_eq_ok_iff {y : β} :
    x.map g = .ok y ↔ ∃ a, x = .ok a ∧ g a = y := by
  cases x with
  | error error =>
      simp [Except.map]
  | ok a =>
      simp [Except.map]

theorem exceptMap_eq_error_iff {error : Error} :
    x.map g = .error error ↔ x = .error error := by
  cases x with
  | error error =>
      simp [Except.map]
  | ok a =>
      simp [Except.map]

end FacetElements
