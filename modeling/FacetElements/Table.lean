import FacetElements.Error
import FacetElements.Scalar

/-!
# Tables

A table is a rectangle of entries, stored row by row.  Tables of points have
one row per point; constraint matrices have one row per constrained dof.  Every
table is determined by its list of rows (`ext_rowList`), which is the view in
which the operations below are described.
-/

namespace FacetElements

/-- A rectangle of entries; entry `(i, j)` stands at position `i * cols + j`. -/
structure Table (α : Type) where
  rows : Nat
  cols : Nat
  data : Array α
  size_data : data.size = rows * cols
  deriving DecidableEq

namespace Table

variable {α β : Type}

theorem position_lt
    {rows cols i j : Nat} (hi : i < rows) (hj : j < cols) :
    i * cols + j < rows * cols := by
  calc i * cols + j
    _ < i * cols + cols := Nat.add_lt_add_left hj _
    _ = (i + 1) * cols := (Nat.succ_mul i cols).symm
    _ ≤ rows * cols := Nat.mul_le_mul_right cols hi

/-- Two tables agree when shape and entries do, entries by their own
comparison. -/
instance [BEq α] : BEq (Table α) where
  beq a b := a.rows == b.rows && a.cols == b.cols && a.data == b.data

def zeros [Zero α] (rows cols : Nat) : Table α where
  rows := rows
  cols := cols
  data := Array.replicate (rows * cols) 0
  size_data := Array.size_replicate

def ofData? (rows cols : Nat) (data : Array α) : Option (Table α) :=
  if h : data.size = rows * cols then some ⟨rows, cols, data, h⟩ else none

def ofFn (rows cols : Nat) (f : Fin rows → Fin cols → α) : Table α where
  rows := rows
  cols := cols
  data := Array.ofFn fun k : Fin (rows * cols) =>
    have pos : 0 < cols := Nat.pos_of_mul_pos_left (Nat.zero_lt_of_lt k.isLt)
    f ⟨k / cols, (Nat.div_lt_iff_lt_mul pos).2 k.isLt⟩ ⟨k % cols, Nat.mod_lt _ pos⟩
  size_data := Array.size_ofFn

theorem length_flatten_of_length_eq
    {cols : Nat} {rows : List (List α)}
    (h : ∀ r ∈ rows, r.length = cols) :
    rows.flatten.length = rows.length * cols := by
  induction rows with
  | nil =>
      simp
  | cons r rest ih =>
      rw [List.forall_mem_cons] at h
      simp [h.1, ih h.2, Nat.succ_mul, Nat.add_comm]

/-- The table with the given rows, each of the given length. -/
def ofRows (cols : Nat) (rows : List (List α)) (h : ∀ r ∈ rows, r.length = cols) :
    Table α where
  rows := rows.length
  cols := cols
  data := rows.flatten.toArray
  size_data := by simpa using length_flatten_of_length_eq h

def map (f : α → β) (t : Table α) : Table β where
  rows := t.rows
  cols := t.cols
  data := t.data.map f
  size_data := by simpa using t.size_data

def isEmpty (t : Table α) : Bool :=
  t.data.isEmpty

/-! ## Entries -/

def entry (t : Table α) (i : Fin t.rows) (j : Fin t.cols) : α :=
  have bound : i * t.cols + j < t.data.size := t.size_data ▸ position_lt i.isLt j.isLt
  t.data[i * t.cols + j]

def get? (t : Table α) (i j : Nat) : Option α :=
  if h : i < t.rows ∧ j < t.cols then some (t.entry ⟨i, h.1⟩ ⟨j, h.2⟩) else none

/-- An entry that is required to exist. -/
def read (t : Table α) (i j : Nat) : Except Error α :=
  match t.get? i j with
  | some x => .ok x
  | none => .error .entryOutOfRange

/-- The table with one position of its data replaced, if it exists. -/
def setData? (t : Table α) (k : Nat) (x : α) : Option (Table α) :=
  if h : k < t.data.size then
    some { t with data := t.data.set k x, size_data := by simpa using t.size_data }
  else none

def set? (t : Table α) (i j : Nat) (x : α) : Option (Table α) :=
  if i < t.rows ∧ j < t.cols then t.setData? (i * t.cols + j) x else none

/-- The table with an entry replaced that is required to exist. -/
def write (t : Table α) (i j : Nat) (x : α) : Except Error (Table α) :=
  match t.set? i j x with
  | some u => .ok u
  | none => .error .entryOutOfRange

/-- Writes entries into a row, from column `j` to the right. -/
def writeRow (t : Table α) (i : Nat) : (j : Nat) → List α → Except Error (Table α)
  | _, [] => .ok t
  | j, x :: xs => do
      let u ← t.write i j x
      u.writeRow i (j + 1) xs

/-- Writes whole rows, from row `i` downwards. -/
def writeRows (t : Table α) : (i : Nat) → List (List α) → Except Error (Table α)
  | _, [] => .ok t
  | i, r :: rs => do
      let u ← t.writeRow i 0 r
      u.writeRows (i + 1) rs

/-! ## Rows -/

def row (t : Table α) (i : Nat) : List α :=
  (t.data.extract (i * t.cols) ((i + 1) * t.cols)).toList

def row? (t : Table α) (i : Nat) : Option (List α) :=
  if i < t.rows then some (t.row i) else none

def rowList (t : Table α) : List (List α) :=
  (List.range t.rows).map t.row

/-- The sum of each row, from the left. -/
def rowSums [Zero α] [Add α] (t : Table α) : List α :=
  t.rowList.map sumLeft

/-- The table with columns of zeros put in front of its own and behind them. -/
def padColumns [Zero α] (before after : Nat) (t : Table α) : Table α :=
  ofFn t.rows (before + t.cols + after) fun p j =>
    if h : before ≤ j ∧ j - before < t.cols then t.entry p ⟨j - before, h.2⟩ else 0

/-! ## The view by rows -/

@[simp] theorem length_rowList (t : Table α) :
    t.rowList.length = t.rows := by
  simp [rowList]

theorem length_row
    (t : Table α) {i : Nat} (hi : i < t.rows) :
    (t.row i).length = t.cols := by
  have hend : (i + 1) * t.cols ≤ t.rows * t.cols := Nat.mul_le_mul_right _ hi
  simp [row, t.size_data, Nat.succ_mul] at hend ⊢
  omega

theorem length_of_mem_rowList
    {t : Table α} {r : List α} (hr : r ∈ t.rowList) :
    r.length = t.cols := by
  simp only [rowList, List.mem_map, List.mem_range] at hr
  obtain ⟨i, hi, rfl⟩ := hr
  exact t.length_row hi

theorem row_getElem?
    (t : Table α) (i : Fin t.rows) (j : Fin t.cols) :
    (t.row i)[j.val]? = some (t.entry i j) := by
  have hposition : i * t.cols + j < t.data.size := t.size_data ▸ position_lt i.isLt j.isLt
  have hwidth : j.val < (i.val + 1) * t.cols - i.val * t.cols := by
    rw [Nat.succ_mul]
    omega
  simp [row, entry, hwidth, hposition]

theorem flatten_map_row_range (t : Table α) (n : Nat) :
    ((List.range n).map t.row).flatten = t.data.toList.take (n * t.cols) := by
  induction n with
  | zero =>
      simp
  | succ n ih =>
      rw [List.range_succ, List.map_append, List.flatten_append, ih]
      simp [row, Nat.succ_mul, List.take_add]

theorem flatten_rowList (t : Table α) :
    t.rowList.flatten = t.data.toList := by
  rw [rowList, flatten_map_row_range, ← t.size_data, ← Array.length_toList, List.take_length]

/-- A table is determined by the number of its columns and its rows. -/
theorem ext_rowList
    {t u : Table α} (hcols : t.cols = u.cols) (hlist : t.rowList = u.rowList) :
    t = u := by
  have hrows : t.rows = u.rows := by
    simpa using congrArg List.length hlist
  have hdata : t.data = u.data := by
    simpa [flatten_rowList] using congrArg List.flatten hlist
  cases t
  cases u
  simp_all

@[simp] theorem entry_ofFn
    {rows cols : Nat} (f : Fin rows → Fin cols → α) (i : Fin rows) (j : Fin cols) :
    (ofFn rows cols f).entry i j = f i j := by
  have hpos : 0 < cols := Nat.zero_lt_of_lt j.isLt
  have hdiv : (i * cols + j) / cols = i := by
    rw [Nat.mul_comm, Nat.mul_add_div hpos, Nat.div_eq_of_lt j.isLt, Nat.add_zero]
  have hmod : (i * cols + j) % cols = j := by
    rw [Nat.mul_comm, Nat.mul_add_mod, Nat.mod_eq_of_lt j.isLt]
  simp [entry, ofFn, hdiv, hmod]

@[simp] theorem rowList_map (f : α → β) (t : Table α) :
    (t.map f).rowList = t.rowList.map (List.map f) := by
  simp [rowList, row, map, List.map_take, List.map_drop]

theorem take_drop_flatten
    {cols : Nat} {rows : List (List α)}
    (h : ∀ r ∈ rows, r.length = cols) (i : Nat) :
    (rows.flatten.drop (i * cols)).take cols = rows[i]?.getD [] := by
  induction rows generalizing i with
  | nil =>
      simp
  | cons r rest ih =>
      rw [List.forall_mem_cons] at h
      cases i with
      | zero =>
          simp [← h.1]
      | succ i =>
          have hrest : (r ++ rest.flatten).drop cols = rest.flatten := by
            rw [← h.1, List.drop_left]
          rw [List.flatten_cons, Nat.succ_mul, Nat.add_comm, ← List.drop_drop, hrest, ih h.2]
          simp

@[simp] theorem rowList_ofRows
    {cols : Nat} {rows : List (List α)}
    (h : ∀ r ∈ rows, r.length = cols) :
    (ofRows cols rows h).rowList = rows := by
  apply List.ext_getElem
  · simp [rowList, ofRows]
  · intro i hi hi'
    have htaken := take_drop_flatten h i
    simp [hi'] at htaken
    simp [rowList, row, ofRows, Nat.succ_mul, htaken]

end Table

end FacetElements
