import FacetElements.Proofs.TableEntries

/-!
# Views of a table and writes into it

The data of a table, its rows and its entries are views of the same numbers.  Entry
`(i, j)` is found at position `i * cols + j` of the data, and entries of different row or
column are found at different positions as long as `j` is below the number of columns.
Whichever way a write names the entry it is for, it replaces this one in every view, or it
names none and changes nothing.  So after any writes an entry holds what was written to it
last.
-/

namespace FacetElements
namespace Table

variable {α : Type}

/-! ## Positions -/

theorem position_eq_iff {cols i j k : ℕ} (hj : j < cols) :
    i * cols + j = k ↔ k / cols = i ∧ k % cols = j := by
  rw [Nat.div_mod_unique (Nat.zero_lt_of_lt hj), and_iff_left hj, Nat.add_comm, Nat.mul_comm]

theorem position_lt_iff (rows cols k : ℕ) :
    k < rows * cols ↔ k / cols < rows ∧ k % cols < cols := by
  obtain rfl | hpos := Nat.eq_zero_or_pos cols
  · simp
  · rw [Nat.div_lt_iff_lt_mul hpos, and_iff_left (Nat.mod_lt k hpos)]

/-- The positions of a table that fits into the words of the machine: none of the numbers
on the way to an entry or to a row leaves the words, different entries have different
positions, and every position belongs to an entry. -/
structure RowMajor (rows cols : ℕ) : Prop where
  entry_fits : ∀ i < rows, ∀ j < cols, i * cols + j < 2 ^ 64
  row_fits : ∀ i < rows, i + 1 < 2 ^ 64 ∧ (i + 1) * cols < 2 ^ 64
  injective : ∀ i i' j j', j < cols → j' < cols →
    i * cols + j = i' * cols + j' → i = i' ∧ j = j'
  entry_of_position : ∀ k, k < rows * cols ↔ k / cols < rows ∧ k % cols < cols

theorem rowMajor
    {rows cols : ℕ} (hrows : rows < 2 ^ 64) (hfits : rows * cols < 2 ^ 64) :
    RowMajor rows cols where
  entry_fits := by
    intro i hi j hj
    exact (position_lt hi hj).trans hfits
  row_fits := by
    intro i hi
    exact ⟨hrows.trans_le' hi, hfits.trans_le' (Nat.mul_le_mul_right cols hi)⟩
  injective := by
    intro i i' j j' hj hj' hposition
    rw [position_eq_iff hj] at hposition
    rcases (position_eq_iff (i := i') hj').mp rfl with ⟨hdiv, hmod⟩
    exact ⟨hposition.1.symm.trans hdiv, hposition.2.symm.trans hmod⟩
  entry_of_position := position_lt_iff rows cols

/-! ## Views -/

section Views

variable (t : Table α) {i j : ℕ}

theorem get?_eq_getElem?_data (hi : i < t.rows) (hj : j < t.cols) :
    t.get? i j = t.data[i * t.cols + j]? := by
  have hposition : i * t.cols + j < t.data.size := by
    rw [t.size_data]
    exact position_lt hi hj
  rw [get?, dif_pos ⟨hi, hj⟩, Array.getElem?_eq_getElem hposition]
  rfl

theorem get?_eq_none (hout : ¬ (i < t.rows ∧ j < t.cols)) : t.get? i j = none :=
  dif_neg hout

theorem exists_get?_eq_some_iff (i j : ℕ) :
    (∃ x, t.get? i j = some x) ↔ i < t.rows ∧ j < t.cols := by
  unfold get?
  split_ifs with hrange
  · simp [hrange]
  · simp [hrange]

theorem getElem?_rowList (i : ℕ) : t.rowList[i]? = t.row? i := by
  by_cases hi : i < t.rows
  · rw [rowList, List.getElem?_map, List.getElem?_range hi, row?, if_pos hi]
    rfl
  · rw [row?, if_neg hi, List.getElem?_eq_none]
    rw [length_rowList]
    exact not_lt.mp hi

theorem exists_row?_eq_some_iff (i : ℕ) : (∃ row, t.row? i = some row) ↔ i < t.rows := by
  unfold row?
  split_ifs with hi
  · simp [hi]
  · simp [hi]

/-- A table of the given shape shows one and the same entry at `(i, j)` in every view if
row and column exist, and none otherwise. -/
structure ViewsAgree [Zero α] [Add α] (t : Table α) (rows cols : ℕ) : Prop where
  rows_eq : t.rows = rows
  cols_eq : t.cols = cols
  size_eq : t.data.size = rows * cols
  get?_iff : ∀ i j, (∃ x, t.get? i j = some x) ↔ i < rows ∧ j < cols
  entry : ∀ i < rows, ∀ j < cols, ∃ x row,
    t.get? i j = some x ∧ t.read i j = .ok x ∧
      t.row? i = some row ∧ row[j]? = some x ∧
      t.rowList[i]? = some row ∧ t.data[i * cols + j]? = some x
  no_entry : ∀ i j, ¬ (i < rows ∧ j < cols) → t.get? i j = none ∧
    ∃ refusal, t.read i j = .error refusal ∧ refusal.message = "Index out of range"
  row?_iff : ∀ i, (∃ row, t.row? i = some row) ↔ i < rows
  length_rowList : t.rowList.length = rows
  length_row : ∀ row ∈ t.rowList, row.length = cols
  length_rowSums : t.rowSums.length = rows
  rowSums : ∀ i row, t.row? i = some row → t.rowSums[i]? = some (row.foldl (· + ·) 0)

theorem viewsAgree [Zero α] [Add α] : ViewsAgree t t.rows t.cols where
  rows_eq := rfl
  cols_eq := rfl
  size_eq := t.size_data
  get?_iff := t.exists_get?_eq_some_iff
  entry := by
    intro i hi j hj
    rcases (t.exists_get?_eq_some_iff i j).mpr ⟨hi, hj⟩ with ⟨x, hx⟩
    have hrow : t.row? i = some (t.row i) := if_pos hi
    refine ⟨x, t.row i, hx, ?_, hrow, ?_, ?_, ?_⟩
    · rw [read, hx]
    · rw [← get?_eq_getElem?_row t hi hj, hx]
    · rw [getElem?_rowList, hrow]
    · rw [← get?_eq_getElem?_data t hi hj, hx]
  no_entry := by
    intro i j hout
    have hnone := t.get?_eq_none hout
    refine ⟨hnone, .entryOutOfRange, ?_, rfl⟩
    rw [read, hnone]
  row?_iff := t.exists_row?_eq_some_iff
  length_rowList := t.length_rowList
  length_row := fun _ hrow => length_of_mem_rowList hrow
  length_rowSums := by
    rw [Table.rowSums, List.length_map, Table.length_rowList]
  rowSums := by
    intro i row hrow
    rw [Table.rowSums, List.getElem?_map, getElem?_rowList, hrow]
    rfl

end Views

/-! ## One entry replaced -/

/-- The second table is the first one with the entry `(i, j)` replaced, in every view. -/
structure ReplacesEntry (t u : Table α) (i j : ℕ) (x : α) : Prop where
  rows_eq : u.rows = t.rows
  cols_eq : u.cols = t.cols
  get?_eq : ∀ i' j', u.get? i' j' = if i' = i ∧ j' = j then some x else t.get? i' j'
  read_eq : ∀ i' j', u.read i' j' = if i' = i ∧ j' = j then .ok x else t.read i' j'
  row?_eq : ∀ i', u.row? i' =
    (t.row? i').map fun row => if i' = i then row.set j x else row
  rowList_eq : ∀ i', u.rowList[i']? =
    (t.rowList[i']?).map fun row => if i' = i then row.set j x else row
  data_eq : ∀ k, u.data[k]? = if k = i * t.cols + j then some x else t.data[k]?

section Replacing

variable {t u : Table α} {i j : ℕ} {x : α}

theorem get?_of_data
    (hrows : u.rows = t.rows) (hcols : u.cols = t.cols) (hi : i < t.rows) (hj : j < t.cols)
    (hdata : ∀ k, u.data[k]? = if k = i * t.cols + j then some x else t.data[k]?)
    (i' j' : ℕ) : u.get? i' j' = if i' = i ∧ j' = j then some x else t.get? i' j' := by
  by_cases hrange : i' < t.rows ∧ j' < t.cols
  · have hsame : i' * t.cols + j' = i * t.cols + j ↔ i' = i ∧ j' = j := by
      rw [position_eq_iff hrange.2]
      rcases (position_eq_iff (i := i) hj).mp rfl with ⟨hdiv, hmod⟩
      rw [hdiv, hmod, eq_comm, @eq_comm _ j]
    rw [get?_eq_getElem?_data u (hrows ▸ hrange.1) (hcols ▸ hrange.2), hcols, hdata,
      get?_eq_getElem?_data t hrange.1 hrange.2]
    simp only [hsame]
  · have hother : ¬ (i' = i ∧ j' = j) := by
      rintro ⟨rfl, rfl⟩
      exact hrange ⟨hi, hj⟩
    rw [if_neg hother, get?_eq_none t hrange, get?_eq_none u (by rwa [hrows, hcols])]

theorem row_of_get?
    (hrows : u.rows = t.rows) (hcols : u.cols = t.cols) (hj : j < t.cols)
    (hget : ∀ i' j', u.get? i' j' = if i' = i ∧ j' = j then some x else t.get? i' j')
    {i' : ℕ} (hi' : i' < t.rows) :
    u.row i' = if i' = i then (t.row i').set j x else t.row i' := by
  have hlength := length_row t hi'
  have hlength' := length_row u (hrows ▸ hi')
  apply List.ext_getElem?
  intro j'
  by_cases hj' : j' < t.cols
  · have hentry := hget i' j'
    rw [get?_eq_getElem?_row u (hrows ▸ hi') (hcols ▸ hj'), get?_eq_getElem?_row t hi' hj']
      at hentry
    rw [hentry]
    by_cases hrow : i' = i
    · simp only [hrow, true_and, if_true, List.getElem?_set, eq_comm (a := j)]
      subst hrow
      rw [hlength, if_pos hj]
    · simp only [hrow, false_and, if_false]
  · rw [List.getElem?_eq_none (by omega), List.getElem?_eq_none]
    split_ifs
    · rw [List.length_set]
      omega
    · omega

theorem replacesEntry_of_data
    (hrows : u.rows = t.rows) (hcols : u.cols = t.cols) (hi : i < t.rows) (hj : j < t.cols)
    (hdata : ∀ k, u.data[k]? = if k = i * t.cols + j then some x else t.data[k]?) :
    ReplacesEntry t u i j x := by
  have hget := get?_of_data hrows hcols hi hj hdata
  have hrow : ∀ i', u.row? i' =
      (t.row? i').map fun row => if i' = i then row.set j x else row := by
    intro i'
    by_cases hi' : i' < t.rows
    · rw [row?, if_pos (hrows ▸ hi'), row?, if_pos hi', Option.map_some,
        row_of_get? hrows hcols hj hget hi']
    · rw [row?, if_neg (hrows ▸ hi'), row?, if_neg hi', Option.map_none]
  refine ⟨hrows, hcols, hget, ?_, hrow, ?_, hdata⟩
  · intro i' j'
    rw [read, hget, read]
    by_cases hsame : i' = i ∧ j' = j
    · rw [if_pos hsame, if_pos hsame]
    · rw [if_neg hsame, if_neg hsame]
  · intro i'
    rw [getElem?_rowList, getElem?_rowList, hrow]

/-- A position of the data belongs to one entry, which is replaced with it. -/
theorem exists_setData?_eq_some
    (t : Table α) {k : ℕ} (hk : k < t.rows * t.cols) (x : α) :
    ∃ u, t.setData? k x = some u ∧ ReplacesEntry t u (k / t.cols) (k % t.cols) x := by
  have hsize : k < t.data.size := by
    rwa [t.size_data]
  rcases (position_lt_iff t.rows t.cols k).mp hk with ⟨hi, hj⟩
  refine ⟨_, dif_pos hsize, replacesEntry_of_data rfl rfl hi hj ?_⟩
  intro k'
  rw [Array.getElem?_set, Nat.div_add_mod']
  simp only [eq_comm]

theorem setData?_eq_none (t : Table α) {k : ℕ} (hk : ¬ k < t.rows * t.cols) (x : α) :
    t.setData? k x = none := by
  rw [setData?, dif_neg]
  rwa [t.size_data]

end Replacing

/-! ## Writes -/

/-- What a program may write to a table: an entry that may be missing, an entry that has
to exist, or a position of the data. -/
inductive Write (α : Type) where
  | entry (i j : ℕ) (x : α)
  | required (i j : ℕ) (x : α)
  | position (k : ℕ) (x : α)

namespace Write

/-- Row and column of the entry that is written. -/
def cell (cols : ℕ) : Write α → ℕ × ℕ
  | entry i j _ => (i, j)
  | required i j _ => (i, j)
  | position k _ => (k / cols, k % cols)

def value : Write α → α
  | entry _ _ x => x
  | required _ _ x => x
  | position _ x => x

end Write

/-- The table with a value written to it, if there is an entry to write it to. -/
def perform (t : Table α) : Write α → Option (Table α)
  | .entry i j x => t.set? i j x
  | .required i j x => (t.write i j x).toOption
  | .position k x => t.setData? k x

/-- The table after a write, whether it was refused or not. -/
def after (t : Table α) (w : Write α) : Table α :=
  (t.perform w).getD t

def afterAll (t : Table α) (writes : List (Write α)) : Table α :=
  writes.foldl after t

section Writes

variable (t : Table α) {i j : ℕ}

theorem set?_eq_setData? (hi : i < t.rows) (hj : j < t.cols) (x : α) :
    t.set? i j x = t.setData? (i * t.cols + j) x :=
  if_pos ⟨hi, hj⟩

theorem set?_eq_none (hout : ¬ (i < t.rows ∧ j < t.cols)) (x : α) : t.set? i j x = none :=
  if_neg hout

theorem toOption_write (i j : ℕ) (x : α) : (t.write i j x).toOption = t.set? i j x := by
  unfold write
  cases t.set? i j x with
  | none => rfl
  | some u => rfl

theorem write_eq_error (hout : ¬ (i < t.rows ∧ j < t.cols)) (x : α) :
    t.write i j x = .error .entryOutOfRange := by
  rw [write, set?_eq_none t hout]

/-- A position is a name for its entry, and a position behind the data for none. -/
theorem setData?_eq_set? (k : ℕ) (x : α) :
    t.setData? k x = t.set? (k / t.cols) (k % t.cols) x := by
  by_cases hk : k < t.rows * t.cols
  · rcases (position_lt_iff t.rows t.cols k).mp hk with ⟨hi, hj⟩
    rw [set?_eq_setData? t hi hj, Nat.div_add_mod']
  · rw [setData?_eq_none t hk, set?_eq_none t]
    rwa [← position_lt_iff]

/-- The three ways to write differ in how they name the entry. -/
theorem perform_eq_set? (w : Write α) :
    t.perform w = t.set? (w.cell t.cols).1 (w.cell t.cols).2 w.value := by
  cases w with
  | entry i j x =>
      rfl
  | required i j x =>
      exact t.toOption_write i j x
  | position k x =>
      exact t.setData?_eq_set? k x

theorem exists_set?_eq_some (hi : i < t.rows) (hj : j < t.cols) (x : α) :
    ∃ u, t.set? i j x = some u ∧ ReplacesEntry t u i j x := by
  rcases t.exists_setData?_eq_some (position_lt hi hj) x with ⟨u, hu, hreplaced⟩
  rcases (position_eq_iff (i := i) hj).mp rfl with ⟨hdiv, hmod⟩
  rw [hdiv, hmod] at hreplaced
  exact ⟨u, (t.set?_eq_setData? hi hj x).trans hu, hreplaced⟩

/-- A write replaces the entry it names in every view, or it is refused and leaves the
table as it was. -/
structure AnswersWrite (t : Table α) (rows cols : ℕ) (w : Write α) : Prop where
  replaces : (w.cell cols).1 < rows → (w.cell cols).2 < cols →
    t.perform w = some (t.after w) ∧
      ReplacesEntry t (t.after w) (w.cell cols).1 (w.cell cols).2 w.value
  refuses : ¬ ((w.cell cols).1 < rows ∧ (w.cell cols).2 < cols) →
    t.perform w = none ∧ t.after w = t
  required : ∀ i j x, w = .required i j x → ¬ (i < rows ∧ j < cols) →
    ∃ refusal, t.write i j x = .error refusal ∧ refusal.message = "Index out of range"

theorem answersWrite (w : Write α) : AnswersWrite t t.rows t.cols w where
  replaces := by
    intro hi hj
    rcases t.exists_set?_eq_some hi hj w.value with ⟨u, hu, hreplaced⟩
    have hperform : t.perform w = some u := (t.perform_eq_set? w).trans hu
    have hafter : t.after w = u := by
      rw [after, hperform, Option.getD_some]
    rw [hafter]
    exact ⟨hperform, hreplaced⟩
  refuses := by
    intro hout
    have hperform : t.perform w = none :=
      (t.perform_eq_set? w).trans (t.set?_eq_none hout w.value)
    refine ⟨hperform, ?_⟩
    rw [after, hperform, Option.getD_none]
  required := by
    intro i j x _ hout
    exact ⟨_, t.write_eq_error hout x, rfl⟩

end Writes

/-! ## Runs of writes -/

section Runs

variable {t : Table α} {rows cols : ℕ}

theorem shape_after (t : Table α) (w : Write α) :
    (t.after w).rows = t.rows ∧ (t.after w).cols = t.cols := by
  by_cases hrange : (w.cell t.cols).1 < t.rows ∧ (w.cell t.cols).2 < t.cols
  · have hreplaced := ((t.answersWrite w).replaces hrange.1 hrange.2).2
    exact ⟨hreplaced.rows_eq, hreplaced.cols_eq⟩
  · rw [((t.answersWrite w).refuses hrange).2]
    exact ⟨rfl, rfl⟩

theorem shape_afterAll (t : Table α) (writes : List (Write α)) :
    (t.afterAll writes).rows = t.rows ∧ (t.afterAll writes).cols = t.cols := by
  induction writes generalizing t with
  | nil =>
      exact ⟨rfl, rfl⟩
  | cons w writes ih =>
      rcases ih (t.after w) with ⟨hrows, hcols⟩
      exact ⟨hrows.trans (t.shape_after w).1, hcols.trans (t.shape_after w).2⟩

/-- The value that was written last to an entry. -/
def lastWritten (cols i j : ℕ) (writes : List (Write α)) : Option α :=
  (writes.reverse.find? fun w => w.cell cols = (i, j)).map Write.value

theorem lastWritten_append_singleton (cols i j : ℕ) (writes : List (Write α)) (w : Write α) :
    lastWritten cols i j (writes ++ [w]) =
      if w.cell cols = (i, j) then some w.value else lastWritten cols i j writes := by
  rw [lastWritten, List.reverse_append, List.reverse_singleton, List.singleton_append]
  by_cases hcell : w.cell cols = (i, j)
  · rw [if_pos hcell, List.find?_cons_of_pos (by simpa using hcell)]
    rfl
  · rw [if_neg hcell, List.find?_cons_of_neg (by simpa using hcell)]
    rfl

theorem get?_after (t : Table α) (w : Write α) {i j : ℕ} (hi : i < t.rows) (hj : j < t.cols) :
    (t.after w).get? i j = if w.cell t.cols = (i, j) then some w.value else t.get? i j := by
  by_cases hrange : (w.cell t.cols).1 < t.rows ∧ (w.cell t.cols).2 < t.cols
  · have hreplaced := ((t.answersWrite w).replaces hrange.1 hrange.2).2
    rw [hreplaced.get?_eq]
    simp only [Prod.ext_iff, eq_comm]
  · have hother : w.cell t.cols ≠ (i, j) := by
      intro hcell
      rw [hcell] at hrange
      exact hrange ⟨hi, hj⟩
    rw [((t.answersWrite w).refuses hrange).2, if_neg hother]

/-- An entry holds what was written to it last, and what it held before if nothing was. -/
theorem get?_afterAll
    (t : Table α) (writes : List (Write α)) {i j : ℕ} (hi : i < t.rows) (hj : j < t.cols) :
    (t.afterAll writes).get? i j =
      (lastWritten t.cols i j writes).or (t.get? i j) := by
  induction writes using List.reverseRecOn with
  | nil =>
      rfl
  | append_singleton writes w ih =>
      rcases shape_afterAll t writes with ⟨hrows, hcols⟩
      have hlast : t.afterAll (writes ++ [w]) = (t.afterAll writes).after w :=
        List.foldl_concat after t w writes
      rw [hlast, get?_after _ w (hrows ▸ hi) (hcols ▸ hj), hcols, ih,
        lastWritten_append_singleton]
      split_ifs with hcell
      · rfl
      · rfl

end Runs

/-- A table of zeros, or one of given data in the order of rows. -/
inductive Made [Zero α] (rows cols : ℕ) : Table α → Prop
  | zeros : Made rows cols (zeros rows cols)
  | data {data : Array α} {t : Table α} (ht : ofData? rows cols data = some t) :
      Made rows cols t

theorem exists_ofData?_eq_some_iff (rows cols : ℕ) (data : Array α) :
    (∃ t, ofData? rows cols data = some t ∧ t.data = data) ↔ data.size = rows * cols := by
  unfold ofData?
  split_ifs with hsize
  · simp [hsize]
  · simp [hsize]

theorem Made.shape [Zero α] {rows cols : ℕ} {t : Table α} (h : Made rows cols t) :
    t.rows = rows ∧ t.cols = cols := by
  cases h with
  | zeros =>
      exact ⟨rfl, rfl⟩
  | data ht =>
      unfold ofData? at ht
      split_ifs at ht with hsize
      cases ht
      exact ⟨rfl, rfl⟩

/-- Whatever was written to a table, its views agree and the next write replaces one entry
in all of them or is refused. -/
theorem views_agree_after_writes
    [Zero α] [Add α] {rows cols : ℕ} (hrows : rows < 2 ^ 64) (hfits : rows * cols < 2 ^ 64) :
    RowMajor rows cols ∧
    (∀ data : Array α, (∃ t, ofData? rows cols data = some t ∧ t.data = data) ↔
      data.size = rows * cols) ∧
    ∀ t : Table α, Made rows cols t → ∀ writes : List (Write α),
      ViewsAgree (t.afterAll writes) rows cols ∧
      (∀ i < rows, ∀ j < cols, (t.afterAll writes).get? i j =
        (lastWritten cols i j writes).or (t.get? i j)) ∧
      ∀ w, AnswersWrite (t.afterAll writes) rows cols w := by
  refine ⟨rowMajor hrows hfits, exists_ofData?_eq_some_iff rows cols, ?_⟩
  intro t ht writes
  rcases ht.shape with ⟨rfl, rfl⟩
  have hviews := (t.afterAll writes).viewsAgree
  have hwrites := (t.afterAll writes).answersWrite
  rw [(shape_afterAll t writes).1, (shape_afterAll t writes).2] at hviews
  rw [(shape_afterAll t writes).1, (shape_afterAll t writes).2] at hwrites
  exact ⟨hviews, fun i hi j hj => t.get?_afterAll writes hi hj, hwrites⟩

/-- An entry of a table of two rows is written twice, and the writes between name an
entry of a column that does not exist and a position behind the data. -/
theorem views_agree_after_writes_two_rows :
    2 < 2 ^ 64 ∧ 2 * 3 < 2 ^ 64 ∧
    ViewsAgree ((zeros 2 3 : Table ℤ).afterAll
      [.entry 1 2 5, .entry 0 3 6, .position 6 7, .required 1 2 8]) 2 3 ∧
    ((zeros 2 3 : Table ℤ).afterAll
      [.entry 1 2 5, .entry 0 3 6, .position 6 7, .required 1 2 8]).get? 1 2 = some 8 := by
  have hrows : 2 < 2 ^ 64 := by
    decide
  have hfits : 2 * 3 < 2 ^ 64 := by
    decide
  rcases views_agree_after_writes (α := ℤ) hrows hfits with ⟨-, -, hrun⟩
  rcases hrun _ .zeros [.entry 1 2 5, .entry 0 3 6, .position 6 7, .required 1 2 8] with
    ⟨hviews, hentries, -⟩
  exact ⟨hrows, hfits, hviews, hentries 1 (by decide) 2 (by decide)⟩

end Table
end FacetElements
