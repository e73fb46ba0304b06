import Mathlib.Data.List.Perm.Basic
import Mathlib.Tactic

/-!
# Lists filled from both ends

A loop that goes from both ends of a list to its middle writes two entries in each turn,
and an odd size leaves the middle to be written last.  Every position is written once, for
either parity, so nothing is left of what the list held before.
-/

namespace FacetElements

variable {α β : Type}

/-! ## Symmetric lists -/

theorem exists_getElem?_mirror
    {xs : List α} {f : α → α} (hxs : xs.reverse = xs.map f) {j : ℕ} (hj : j < xs.length) :
    ∃ x, xs[j]? = some x ∧ xs[xs.length - 1 - j]? = some (f x) := by
  have hreverse := List.getElem?_reverse (l := xs) hj
  rw [hxs, List.getElem?_map, List.getElem?_eq_getElem hj] at hreverse
  exact ⟨_, List.getElem?_eq_getElem hj, hreverse.symm⟩

/-! ## Lists given from both ends -/

/-- A list by its left half from the left, its middle if there is one, and its right half
from the right. -/
def fromEnds (size : ℕ) (left right : ℕ → α) (middle : α) : List α :=
  (List.range (size / 2)).map left ++
    ((if size % 2 = 1 then [middle] else []) ++ ((List.range (size / 2)).map right).reverse)

section FromEnds

variable {size : ℕ} {left right : ℕ → α} {middle : α}

@[simp] theorem length_fromEnds : (fromEnds size left right middle).length = size := by
  by_cases hodd : size % 2 = 1 <;> simp [fromEnds, hodd] <;> omega

theorem map_fromEnds (f : α → β) :
    (fromEnds size left right middle).map f =
      fromEnds size (fun j => f (left j)) (fun j => f (right j)) (f middle) := by
  by_cases hodd : size % 2 = 1 <;> simp [fromEnds, hodd, Function.comp_def]

theorem reverse_fromEnds :
    (fromEnds size left right middle).reverse = fromEnds size right left middle := by
  by_cases hodd : size % 2 = 1 <;> simp [fromEnds, hodd]

theorem getElem?_fromEnds_left {j : ℕ} (hj : j < size / 2) :
    (fromEnds size left right middle)[j]? = some (left j) := by
  rw [fromEnds, List.getElem?_append_left (by simpa using hj)]
  simp [hj]

theorem getElem?_fromEnds_right {j : ℕ} (hj : j < size / 2) :
    (fromEnds size left right middle)[size - 1 - j]? = some (right j) := by
  have hreverse := List.getElem?_reverse (l := fromEnds size left right middle) (i := j)
    (by rw [length_fromEnds]; omega)
  rw [length_fromEnds, reverse_fromEnds, getElem?_fromEnds_left hj] at hreverse
  exact hreverse.symm

theorem getElem?_fromEnds_middle (hodd : size % 2 = 1) :
    (fromEnds size left right middle)[size / 2]? = some middle := by
  rw [fromEnds, List.getElem?_append_right (by simp)]
  simp [hodd]

theorem eq_fromEnds
    {xs : List α} (hlength : xs.length = size)
    (hleft : ∀ j < size / 2, xs[j]? = some (left j))
    (hright : ∀ j < size / 2, xs[size - 1 - j]? = some (right j))
    (hmiddle : size % 2 = 1 → xs[size / 2]? = some middle) :
    xs = fromEnds size left right middle := by
  apply List.ext_getElem?
  intro k
  by_cases hk : k < size
  · rcases (by omega : k < size / 2 ∨ size - 1 - k < size / 2 ∨ size % 2 = 1 ∧ k = size / 2) with
      hlow | hhigh | ⟨hodd, rfl⟩
    · rw [hleft k hlow, getElem?_fromEnds_left hlow]
    · have hmirror : size - 1 - (size - 1 - k) = k := by
        omega
      rw [← hmirror, hright _ hhigh, getElem?_fromEnds_right hhigh]
    · rw [hmiddle hodd, getElem?_fromEnds_middle hodd]
  · rw [List.getElem?_eq_none (by omega), List.getElem?_eq_none (by rw [length_fromEnds]; omega)]

theorem range_eq_fromEnds (size : ℕ) :
    List.range size = fromEnds size (fun j => j) (fun j => size - 1 - j) ((size - 1) / 2) := by
  apply eq_fromEnds List.length_range
  · intro j hj
    rw [List.getElem?_range (by omega)]
  · intro j hj
    rw [List.getElem?_range (by omega)]
  · intro hodd
    rw [List.getElem?_range (by omega)]
    congr 1
    omega

/-- The same entries in the order in which a loop from the ends to the middle meets them. -/
def inPairs (size : ℕ) (left right : ℕ → α) (middle : α) : List α :=
  ((List.range (size / 2)).flatMap fun j => [left j, right j]) ++
    if size % 2 = 1 then [middle] else []

theorem inPairs_perm_fromEnds :
    (inPairs size left right middle).Perm (fromEnds size left right middle) := by
  have hpairs := List.map_append_flatMap_perm (List.range (size / 2)) left fun j => [right j]
  rw [← List.map_eq_flatMap] at hpairs
  refine (hpairs.symm.append_right _).trans ?_
  rw [List.append_assoc]
  exact (List.perm_append_comm.trans ((List.reverse_perm _).symm.append_left _)).append_left _

end FromEnds

/-! ## Filling a list -/

/-- Entries written one after the other, each with its position. -/
def writeAll (writes : List (α × ℕ)) (xs : List α) : List α :=
  writes.foldl (fun ys write => ys.set write.2 write.1) xs

@[simp] theorem length_writeAll (writes : List (α × ℕ)) (xs : List α) :
    (writeAll writes xs).length = xs.length := by
  induction writes generalizing xs with
  | nil =>
      rfl
  | cons write rest ih =>
      exact (ih _).trans List.length_set

theorem getElem?_writeAll_of_forall_ne
    {writes : List (α × ℕ)} {k : ℕ} (hk : ∀ write ∈ writes, write.2 ≠ k) (xs : List α) :
    (writeAll writes xs)[k]? = xs[k]? := by
  induction writes generalizing xs with
  | nil =>
      rfl
  | cons write rest ih =>
      rw [List.forall_mem_cons] at hk
      exact (ih hk.2 _).trans (List.getElem?_set_ne hk.1)

/-- A position that is written once holds what was written there. -/
theorem getElem?_writeAll
    {writes : List (α × ℕ)} (honce : (writes.map Prod.snd).Nodup) {x : α} {k : ℕ}
    (hmem : (x, k) ∈ writes) {xs : List α} (hk : k < xs.length) :
    (writeAll writes xs)[k]? = some x := by
  induction writes generalizing xs with
  | nil =>
      cases hmem
  | cons write rest ih =>
      rw [List.map_cons, List.nodup_cons] at honce
      rcases List.mem_cons.mp hmem with rfl | hrest
      · have hlater : ∀ write ∈ rest, write.2 ≠ k := by
          rintro write hwrite rfl
          exact honce.1 (List.mem_map.mpr ⟨write, hwrite, rfl⟩)
        exact (getElem?_writeAll_of_forall_ne hlater _).trans (List.getElem?_set_self hk)
      · exact ih honce.2 hrest (by rwa [List.length_set])

/-- Writes of all entries of a list, in any order, leave nothing of the old entries. -/
theorem writeAll_eq_of_perm
    {writes : List (α × ℕ)} {xs ys : List α} (hperm : writes.Perm ys.zipIdx)
    (hlength : xs.length = ys.length) : writeAll writes xs = ys := by
  have honce : (writes.map Prod.snd).Nodup := by
    rw [(hperm.map Prod.snd).nodup_iff, List.zipIdx_map_snd]
    exact List.nodup_range'
  apply List.ext_getElem?
  intro k
  by_cases hk : k < ys.length
  · have hentry := List.getElem?_eq_getElem hk
    have hmem := hperm.mem_iff.mpr (List.mk_mem_zipIdx_iff_getElem?.mpr hentry)
    rw [hentry, getElem?_writeAll honce hmem (hlength ▸ hk)]
  · have hend : ys.length ≤ k := not_lt.mp hk
    rw [List.getElem?_eq_none hend, List.getElem?_eq_none (by rwa [length_writeAll, hlength])]

/-- The writes of a loop from both ends to the middle. -/
def writesFromEnds (size : ℕ) (left right : ℕ → α) (middle : α) : List (α × ℕ) :=
  inPairs size (fun j => (left j, j)) (fun j => (right j, size - 1 - j)) (middle, (size - 1) / 2)

theorem writesFromEnds_perm (size : ℕ) (left right : ℕ → α) (middle : α) :
    (writesFromEnds size left right middle).Perm (fromEnds size left right middle).zipIdx := by
  refine inPairs_perm_fromEnds.trans (List.Perm.of_eq ?_)
  rw [List.zipIdx_eq_zip_range', length_fromEnds, ← List.range_eq_range', range_eq_fromEnds]
  exact List.zip_of_prod (map_fromEnds Prod.fst) (map_fromEnds Prod.snd)

end FacetElements
