import FacetElements.Table
import Mathlib.Tactic

/-!
# Tables by their entries

A table can be given by a function of the numbers of row and column.  Reading,
rows, entrywise maps and products of such tables are again given by functions,
so that statements about matrices reduce to statements about entries.
-/

namespace FacetElements
namespace Table

variable {α β : Type} {rows cols : ℕ}

def generate (rows cols : ℕ) (f : ℕ → ℕ → α) : Table α :=
  ofFn rows cols fun i j => f i j

theorem entry_generate (f : ℕ → ℕ → α) (i : Fin rows) (j : Fin cols) :
    (generate rows cols f).entry i j = f i j :=
  entry_ofFn _ i j

theorem generate_congr
    {f g : ℕ → ℕ → α} (h : ∀ i < rows, ∀ j < cols, f i j = g i j) :
    generate rows cols f = generate rows cols g := by
  unfold generate
  congr 1
  funext i j
  exact h i i.isLt j j.isLt

theorem ofFn_eq_generate
    {g : Fin rows → Fin cols → α} {f : ℕ → ℕ → α}
    (h : ∀ i j, g i j = f i j) : ofFn rows cols g = generate rows cols f := by
  unfold generate
  congr 1
  funext i j
  exact h i j

theorem read_generate
    (f : ℕ → ℕ → α) {i j : ℕ} (hi : i < rows) (hj : j < cols) :
    (generate rows cols f).read i j = .ok (f i j) := by
  have hentry := entry_generate f ⟨i, hi⟩ ⟨j, hj⟩
  have hget : (generate rows cols f).get? i j = some (f i j) := by
    rw [get?, dif_pos ⟨hi, hj⟩]
    exact congrArg some hentry
  rw [read, hget]

theorem row_generate (f : ℕ → ℕ → α) {i : ℕ} (hi : i < rows) :
    (generate rows cols f).row i = (List.range cols).map (f i) := by
  have hlength : ((generate rows cols f).row i).length = cols :=
    length_row (generate rows cols f) hi
  apply List.ext_getElem?
  intro j
  by_cases hj : j < cols
  · have hentry := entry_generate f ⟨i, hi⟩ ⟨j, hj⟩
    have hread : ((generate rows cols f).row i)[j]? = some (f i j) :=
      (row_getElem? (generate rows cols f) ⟨i, hi⟩ ⟨j, hj⟩).trans
        (congrArg some hentry)
    rw [hread, List.getElem?_map, List.getElem?_range hj]
    rfl
  · have hle : cols ≤ j := Nat.le_of_not_lt hj
    rw [List.getElem?_eq_none (by rw [hlength]; exact hle),
      List.getElem?_eq_none (by simpa using hle)]

theorem row?_generate (f : ℕ → ℕ → α) {i : ℕ} (hi : i < rows) :
    (generate rows cols f).row? i = some ((List.range cols).map (f i)) := by
  rw [← row_generate f hi]
  exact if_pos hi

theorem rowList_generate (f : ℕ → ℕ → α) :
    (generate rows cols f).rowList =
      (List.range rows).map fun i => (List.range cols).map (f i) := by
  unfold rowList
  apply List.map_congr_left
  intro i hi
  exact row_generate f (List.mem_range.mp hi)

theorem rows_eq_of_rowList
    {t : Table α} {n : ℕ} {f : ℕ → List α}
    (h : t.rowList = (List.range n).map f) : t.rows = n := by
  simpa using congrArg List.length h

theorem row_eq_of_rowList
    {t : Table α} {n : ℕ} {f : ℕ → List α}
    (h : t.rowList = (List.range n).map f) {i : ℕ} (hi : i < n) :
    t.row i = f i := by
  have hrows : i < t.rows := by
    rw [rows_eq_of_rowList h]
    exact hi
  have hlist := congrArg (fun rows => rows[i]?) h
  simpa [rowList, hrows, hi] using hlist

theorem get?_eq_getElem?_row
    (t : Table α) {i j : ℕ} (hi : i < t.rows) (hj : j < t.cols) :
    t.get? i j = (t.row i)[j]? := by
  have hentry := row_getElem? t ⟨i, hi⟩ ⟨j, hj⟩
  rw [hentry, get?, dif_pos ⟨hi, hj⟩]

theorem map_generate (h : α → β) (f : ℕ → ℕ → α) :
    (generate rows cols f).map h = generate rows cols fun i j => h (f i j) := by
  apply ext_rowList
  · rfl
  · rw [rowList_map, rowList_generate, rowList_generate, List.map_map]
    apply List.map_congr_left
    intro i _
    simp

theorem padColumns_generate [Zero α] (f : ℕ → ℕ → α) (before after : ℕ) :
    (generate rows cols f).padColumns before after =
      generate rows (before + cols + after) fun i j =>
        if before ≤ j ∧ j - before < cols then f i (j - before) else 0 := by
  apply ofFn_eq_generate
  intro i j
  by_cases hblock : before ≤ j ∧ j - before < cols
  · rw [if_pos hblock]
    exact (dif_pos hblock).trans (entry_generate f i ⟨j - before, hblock.2⟩)
  · rw [if_neg hblock]
    exact dif_neg hblock

/-- The matrix product, if the columns of the first table are the rows of the
second. -/
def product? [Zero α] [Add α] [Mul α] (a b : Table α) : Option (Table α) :=
  if h : a.cols = b.rows then
    some (ofFn a.rows b.cols fun i j =>
      sumLeft ((List.finRange a.cols).map fun k =>
        a.entry i k * b.entry (Fin.cast h k) j))
  else
    none

theorem product?_generate
    [Zero α] [Add α] [Mul α] {inner : ℕ} (f g : ℕ → ℕ → α) :
    (generate rows inner f).product? (generate inner cols g) =
      some (generate rows cols fun i j =>
        sumLeft ((List.range inner).map fun k => f i k * g k j)) := by
  have hinner : (generate rows inner f).cols = (generate inner cols g).rows := rfl
  unfold product?
  rw [dif_pos hinner]
  apply congrArg some
  apply ofFn_eq_generate
  intro i j
  rw [← List.map_coe_finRange_eq_range, List.map_map]
  congr 1
  apply List.map_congr_left
  intro k _
  exact congrArg₂ (· * ·) (entry_generate f i k) (entry_generate g k j)

end Table
end FacetElements
