import Mathlib

/-!
# numpy arrays

The script works on two-dimensional numpy arrays: the fields it reads, the coordinate meshes it
builds and the profile buffers it fills. `Array2 α` is a shape `(rows, cols)` and its entries.
Indexing follows numpy: `read?` accepts a negative index counted from the end of its axis
(`pyIndex`), and a read or write out of range is `IndexError`, here `none`.

* `read?_natCast_eq_some`, `write?_eq_some`: reads and writes at non-negative indices;
* `rowPrefix` is the slice `a[l][0:cut]`; `rowPrefix_fillRows` reads back rows filled by
  successive writes (`fillRow`, `fillRows`).
-/

namespace CalvingMip

/-- numpy's position of index `i` on an axis of length `n`: `i` itself when `0 ≤ i < n`,
`n + i` when `-n ≤ i < 0`, and an `IndexError` otherwise. -/
def pyIndex (n : ℕ) (i : ℤ) : Option ℕ :=
  if 0 ≤ i ∧ i < n then some i.toNat
  else if -(n : ℤ) ≤ i ∧ i < 0 then some (n + i).toNat
  else none

theorem pyIndex_of_lt {n : ℕ} {i : ℤ} (h0 : 0 ≤ i) (hn : i < n) : pyIndex n i = some i.toNat :=
  if_pos ⟨h0, hn⟩

theorem lt_of_pyIndex_eq_some {n : ℕ} {i : ℤ} {r : ℕ} (h : pyIndex n i = some r) : r < n := by
  unfold pyIndex at h
  split_ifs at h <;> cases h <;> omega

theorem pyIndex_natCast {n r : ℕ} (h : r < n) : pyIndex n r = some r := by
  simpa using pyIndex_of_lt (Int.natCast_nonneg r) (Int.ofNat_lt.mpr h)

/-- A two-dimensional numpy array: its shape `(rows, cols)` and its entries. The entries off
the shape are never read through `read?` or `rowPrefix`. -/
structure Array2 (α : Type) where
  rows : ℕ
  cols : ℕ
  get : ℕ → ℕ → α

namespace Array2

variable {α β : Type}

/-- `np.full([rows, cols], v)`; `np.zeros` is `const rows cols 0`. -/
def const (rows cols : ℕ) (v : α) : Array2 α := ⟨rows, cols, fun _ _ => v⟩

/-- `a[i, j]`: `none` is numpy's `IndexError`. -/
def read? (a : Array2 α) (i j : ℤ) : Option α := do
  let r ← pyIndex a.rows i
  let c ← pyIndex a.cols j
  pure (a.get r c)

/-- The array with entry `(r, c)` replaced by `v`. -/
def set (a : Array2 α) (r c : ℕ) (v : α) : Array2 α :=
  { a with get := fun r' c' => if r' = r ∧ c' = c then v else a.get r' c' }

/-- `a[r, c] = v` for non-negative indices: an `IndexError` off the shape. -/
def write? (a : Array2 α) (r c : ℕ) (v : α) : Option (Array2 α) :=
  if r < a.rows ∧ c < a.cols then some (a.set r c v) else none

/-- The array with every entry of line `i` replaced by `v`, the line being the row when `key`
selects the row index (`a[i, :] = v`) and the column when it selects the column (`a[:, i] = v`). -/
def setLine (key : ℕ → ℕ → ℕ) (a : Array2 α) (i : ℕ) (v : α) : Array2 α :=
  { a with get := fun r c => if key r c = i then v else a.get r c }

/-- `a[l][0:cut]`: the first `cut` entries of row `l`, as many as the row has. -/
def rowPrefix (a : Array2 α) (l cut : ℕ) : List α :=
  (List.range (min cut a.cols)).map (a.get l)

/-- The entrywise image, as numpy's vectorised assignments compute it. -/
def map (f : α → β) (a : Array2 α) : Array2 β := ⟨a.rows, a.cols, fun r c => f (a.get r c)⟩

theorem read?_of_lt (a : Array2 α) {i j : ℤ} (hi0 : 0 ≤ i) (hi : i < a.rows) (hj0 : 0 ≤ j)
    (hj : j < a.cols) : a.read? i j = some (a.get i.toNat j.toNat) := by
  simp [read?, pyIndex_of_lt hi0 hi, pyIndex_of_lt hj0 hj]

/-- Two arrays of one shape that agree inside it read alike. -/
theorem read?_congr {a b : Array2 α} (hr : a.rows = b.rows) (hc : a.cols = b.cols)
    (h : ∀ r < a.rows, ∀ c < a.cols, a.get r c = b.get r c) (i j : ℤ) :
    a.read? i j = b.read? i j := by
  unfold read?
  rw [← hr, ← hc]
  cases hi : pyIndex a.rows i with
  | none => rfl
  | some r =>
    cases hj : pyIndex a.cols j with
    | none => rfl
    | some c => simp [h r (lt_of_pyIndex_eq_some hi) c (lt_of_pyIndex_eq_some hj)]

/-- A read that succeeds returns the entry of a cell of the array. -/
theorem exists_of_read?_eq_some {a : Array2 α} {i j : ℤ} {v : α} (h : a.read? i j = some v) :
    ∃ r < a.rows, ∃ c < a.cols, a.get r c = v := by
  simp only [read?, Option.bind_eq_bind, Option.bind_eq_some, Option.pure_def,
    Option.some.injEq] at h
  obtain ⟨r, hr, c, hc, rfl⟩ := h
  exact ⟨r, lt_of_pyIndex_eq_some hr, c, lt_of_pyIndex_eq_some hc, rfl⟩

@[simp] theorem rows_const (rows cols : ℕ) (v : α) : (const rows cols v).rows = rows := rfl

@[simp] theorem cols_const (rows cols : ℕ) (v : α) : (const rows cols v).cols = cols := rfl

@[simp] theorem rows_set (a : Array2 α) (r c : ℕ) (v : α) : (a.set r c v).rows = a.rows := rfl

@[simp] theorem cols_set (a : Array2 α) (r c : ℕ) (v : α) : (a.set r c v).cols = a.cols := rfl

theorem get_set (a : Array2 α) (r c : ℕ) (v : α) (r' c' : ℕ) :
    (a.set r c v).get r' c' = if r' = r ∧ c' = c then v else a.get r' c' := rfl

@[simp] theorem rows_setLine (key : ℕ → ℕ → ℕ) (a : Array2 α) (i : ℕ) (v : α) :
    (a.setLine key i v).rows = a.rows := rfl

@[simp] theorem cols_setLine (key : ℕ → ℕ → ℕ) (a : Array2 α) (i : ℕ) (v : α) :
    (a.setLine key i v).cols = a.cols := rfl

theorem get_set_of_ne_row (a : Array2 α) {r r' : ℕ} (c c' : ℕ) (v : α) (h : r' ≠ r) :
    (a.set r c v).get r' c' = a.get r' c' := by
  simp [get_set, h]

theorem write?_eq_some {a : Array2 α} {r c : ℕ} {v : α} (hr : r < a.rows) (hc : c < a.cols) :
    a.write? r c v = some (a.set r c v) := if_pos ⟨hr, hc⟩

theorem write?_eq_none {a : Array2 α} {r c : ℕ} {v : α} (h : ¬(r < a.rows ∧ c < a.cols)) :
    a.write? r c v = none := if_neg h

@[simp] theorem length_rowPrefix (a : Array2 α) (l cut : ℕ) :
    (a.rowPrefix l cut).length = min cut a.cols := by
  simp [rowPrefix]

theorem rowPrefix_eq_of_le {a : Array2 α} {l cut : ℕ} (h : cut ≤ a.cols) :
    a.rowPrefix l cut = (List.range cut).map (a.get l) := by
  rw [rowPrefix, min_eq_left h]

/-! ## Filling rows -/

/-- The array after `a[l, k] = s₀`, `a[l, k+1] = s₁`, … for the values `ss = [s₀, s₁, …]`. -/
def fillRow (a : Array2 α) (l : ℕ) : ℕ → List α → Array2 α
  | _, [] => a
  | k, s :: ss => (a.set l k s).fillRow l (k + 1) ss

/-- The array after filling rows `l, l+1, …` from column 0 with the lists of `sss`. -/
def fillRows (a : Array2 α) : ℕ → List (List α) → Array2 α
  | _, [] => a
  | l, ss :: sss => (a.fillRow l 0 ss).fillRows (l + 1) sss

@[simp] theorem rows_fillRow (a : Array2 α) (l k : ℕ) (ss : List α) :
    (a.fillRow l k ss).rows = a.rows := by
  induction ss generalizing a k with
  | nil => rfl
  | cons s ss ih => exact ih _ _

@[simp] theorem cols_fillRow (a : Array2 α) (l k : ℕ) (ss : List α) :
    (a.fillRow l k ss).cols = a.cols := by
  induction ss generalizing a k with
  | nil => rfl
  | cons s ss ih => exact ih _ _

/-- Filling row `l` from column `k` leaves every entry off `l` or before `k` unchanged. -/
theorem get_fillRow_of_not_mem (a : Array2 α) {l k : ℕ} (ss : List α) {r c : ℕ}
    (h : r ≠ l ∨ c < k) : (a.fillRow l k ss).get r c = a.get r c := by
  induction ss generalizing a k with
  | nil => rfl
  | cons s ss ih =>
    rw [fillRow, ih _ (h.imp_right (Nat.lt_succ_of_lt)), get_set]
    exact if_neg fun ⟨hr, hc⟩ => h.elim (· hr) (fun h' => (Nat.lt_irrefl k) (hc ▸ h'))

theorem get_fillRow (a : Array2 α) (l k : ℕ) (ss : List α) {i : ℕ} (hi : i < ss.length) :
    (a.fillRow l k ss).get l (k + i) = ss[i] := by
  induction ss generalizing a k i with
  | nil => exact absurd hi (Nat.not_lt_zero i)
  | cons s ss ih =>
    cases i with
    | zero =>
      show ((a.set l k s).fillRow l (k + 1) ss).get l k = s
      rw [get_fillRow_of_not_mem _ _ (Or.inr (Nat.lt_add_one k))]
      simp [get_set]
    | succ i =>
      rw [fillRow, show k + (i + 1) = k + 1 + i by omega, ih _ _ (Nat.lt_of_succ_lt_succ hi)]
      rfl

/-- **A filled row reads back its values**, when they fit in the row. -/
theorem rowPrefix_fillRow (a : Array2 α) (l : ℕ) (ss : List α) (h : ss.length ≤ a.cols) :
    (a.fillRow l 0 ss).rowPrefix l ss.length = ss := by
  rw [rowPrefix_eq_of_le (by simpa using h)]
  refine List.ext_getElem (by simp) fun i h₁ _ => ?_
  simpa using get_fillRow a l 0 ss (show i < ss.length by simpa using h₁)

@[simp] theorem rows_fillRows (a : Array2 α) (l : ℕ) (sss : List (List α)) :
    (a.fillRows l sss).rows = a.rows := by
  induction sss generalizing a l with
  | nil => rfl
  | cons ss sss ih => rw [fillRows, ih, rows_fillRow]

@[simp] theorem cols_fillRows (a : Array2 α) (l : ℕ) (sss : List (List α)) :
    (a.fillRows l sss).cols = a.cols := by
  induction sss generalizing a l with
  | nil => rfl
  | cons ss sss ih => rw [fillRows, ih, cols_fillRow]

theorem get_fillRows_of_lt (a : Array2 α) {l r : ℕ} (sss : List (List α)) (h : r < l) :
    (a.fillRows l sss).get r = a.get r := by
  induction sss generalizing a l with
  | nil => rfl
  | cons ss sss ih =>
    funext c
    rw [fillRows, ih _ (Nat.lt_succ_of_lt h), get_fillRow_of_not_mem _ _ (Or.inl h.ne)]

/-- Row `l + i` of the filled array reads back the `i`-th list, when it fits in the row. -/
theorem rowPrefix_fillRows (a : Array2 α) (l : ℕ) (sss : List (List α)) {i : ℕ}
    (hi : i < sss.length) (h : sss[i].length ≤ a.cols) :
    (a.fillRows l sss).rowPrefix (l + i) sss[i].length = sss[i] := by
  induction sss generalizing a l i with
  | nil => exact absurd hi (Nat.not_lt_zero i)
  | cons ss sss ih =>
    cases i with
    | zero =>
      have hrow : (a.fillRows l (ss :: sss)).rowPrefix l ss.length =
          (a.fillRow l 0 ss).rowPrefix l ss.length := by
        simp only [rowPrefix, fillRows, cols_fillRows, get_fillRows_of_lt _ _ (Nat.lt_succ_self l)]
      simpa [hrow] using rowPrefix_fillRow a l ss h
    | succ i =>
      rw [show l + (i + 1) = l + 1 + i by omega]
      exact ih (a.fillRow l 0 ss) (l + 1) (Nat.lt_of_succ_lt_succ hi) (by simpa using h)

end Array2

end CalvingMip
