import FacetElements.Proofs.TableEntries

/-!
# Tables filled in place

A table can be made by writing into one of zeros, row by row and from left to
right.  What has been written is then the front of its data, so no write leaves
the table as long as the rows fit into it, and when they fill it nothing of the
zeros is left.
-/

namespace FacetElements
namespace Table

variable {α : Type} {t : Table α} {rows cols : ℕ} {done : List α}

/-- The data of the table begins with the given entries. -/
structure FilledTo (t : Table α) (rows cols : ℕ) (done : List α) : Prop where
  rows_eq : t.rows = rows
  cols_eq : t.cols = cols
  isPrefix : done <+: t.data.toList

theorem filledTo_zeros [Zero α] (rows cols : ℕ) :
    FilledTo (zeros rows cols : Table α) rows cols [] where
  rows_eq := rfl
  cols_eq := rfl
  isPrefix := List.nil_prefix

namespace FilledTo

/-- The next position in the order of rows takes the next entry. -/
theorem write
    (h : FilledTo t rows cols done) {i j : ℕ} (hi : i < rows) (hj : j < cols)
    (hdone : done.length = i * cols + j) (x : α) :
    ∃ u, t.write i j x = .ok u ∧ FilledTo u rows cols (done ++ [x]) := by
  obtain ⟨hrows, hcols, rest, hdata⟩ := h
  subst hrows hcols
  have hposition : i * t.cols + j < t.data.size := by
    rw [t.size_data]
    exact position_lt hi hj
  have hwrite : t.write i j x =
      .ok { t with
        data := t.data.set (i * t.cols + j) x
        size_data := by simpa using t.size_data } := by
    rw [Table.write, set?, if_pos ⟨hi, hj⟩, setData?, dif_pos hposition]
  have hlength : t.data.toList.length = done.length + rest.length := by
    rw [← hdata, List.length_append]
  obtain ⟨y, rest', rfl⟩ : ∃ y rest', rest = y :: rest' := by
    apply List.exists_cons_of_ne_nil
    rintro rfl
    simp at hlength
    omega
  refine ⟨_, hwrite, rfl, rfl, rest', ?_⟩
  rw [Array.toList_set, ← hdata, ← hdone, List.set_append_right _ _ le_rfl]
  simp

theorem writeRow
    (h : FilledTo t rows cols done) {i j : ℕ} {xs : List α} (hi : i < rows)
    (hj : j + xs.length ≤ cols) (hdone : done.length = i * cols + j) :
    ∃ u, t.writeRow i j xs = .ok u ∧ FilledTo u rows cols (done ++ xs) := by
  induction xs generalizing t j done with
  | nil =>
      rw [List.append_nil]
      exact ⟨t, rfl, h⟩
  | cons x xs ih =>
      rw [List.length_cons] at hj
      obtain ⟨u, hu, hfilled⟩ := h.write hi (by omega) hdone x
      have hnext : (done ++ [x]).length = i * cols + (j + 1) := by
        rw [List.length_append, hdone]
        rfl
      obtain ⟨v, hv, hlast⟩ := ih hfilled (by omega) hnext
      rw [List.append_assoc] at hlast
      exact ⟨v, by rw [Table.writeRow, hu]; exact hv, hlast⟩

theorem writeRows
    (h : FilledTo t rows cols done) {i : ℕ} {rs : List (List α)}
    (hwidth : ∀ r ∈ rs, r.length = cols) (hi : i + rs.length ≤ rows)
    (hdone : done.length = i * cols) :
    ∃ u, t.writeRows i rs = .ok u ∧ FilledTo u rows cols (done ++ rs.flatten) := by
  induction rs generalizing t i done with
  | nil =>
      rw [List.flatten_nil, List.append_nil]
      exact ⟨t, rfl, h⟩
  | cons r rs ih =>
      rw [List.length_cons] at hi
      have hr : r.length = cols := hwidth r List.mem_cons_self
      have hfits : 0 + r.length ≤ cols := by
        omega
      obtain ⟨u, hu, hfilled⟩ := h.writeRow (by omega : i < rows) hfits hdone
      have hnext : (done ++ r).length = (i + 1) * cols := by
        rw [List.length_append, hdone, hr, Nat.succ_mul]
      obtain ⟨v, hv, hlast⟩ :=
        ih hfilled (fun s hs => hwidth s (List.mem_cons_of_mem r hs)) (by omega) hnext
      rw [List.append_assoc, ← List.flatten_cons] at hlast
      exact ⟨v, by rw [Table.writeRows, hu]; exact hv, hlast⟩

/-- A table that is filled by rows is the table of these rows. -/
theorem eq_ofRows
    {rs : List (List α)} (hwidth : ∀ r ∈ rs, r.length = cols)
    (h : FilledTo t rs.length cols rs.flatten) : t = ofRows cols rs hwidth := by
  obtain ⟨hrows, hcols, hfront⟩ := h
  have hsize : t.data.toList.length = rs.length * cols := by
    rw [Array.length_toList, t.size_data, hrows, hcols]
  have hlength : rs.flatten.length = t.data.toList.length := by
    rw [length_flatten_of_length_eq hwidth, hsize]
  have hdata : t.data = rs.flatten.toArray := by
    rw [hfront.eq_of_length hlength]
  cases t
  cases hrows
  cases hcols
  cases hdata
  rfl

end FilledTo

theorem writeRows_zeros
    [Zero α] {rs : List (List α)} (hwidth : ∀ r ∈ rs, r.length = cols) :
    (zeros rs.length cols : Table α).writeRows 0 rs = .ok (ofRows cols rs hwidth) := by
  obtain ⟨u, hu, hfilled⟩ :=
    (filledTo_zeros rs.length cols).writeRows (i := 0) hwidth (by omega) (by simp)
  rw [hu, hfilled.eq_ofRows hwidth]

end Table
end FacetElements
