import CalvingMip.Array

/-!
# Sampling a field at a transect point

Lines 121-124 split each point into integer indices and fractions (`decompose`) for
`interpolate_along_transect` and `nearest_along_transect` of `postprocess_helper`, which is not
among the sources: both samplers are modelled from the spec.

The program computes in float64; the model computes in an exact ordered field `α`. The results
below need only what rounding keeps: a bilinear sample at zero fractions is exactly the cell's
value, and a sample of a nonnegative field is nonnegative. Results that need exact rounding,
such as bounds of a sample by its field's bounds, are not stated.
-/

namespace CalvingMip

/-- The integer indices and fractions `(i, j, di, dj)` the samplers take. -/
structure Decomposition (α : Type) where
  i : ℤ
  j : ℤ
  di : α
  dj : α

variable {α : Type} [LinearOrderedField α]

/-! ## The bilinear sampler -/

/-- Modelled from the spec: `interpolate_along_transect(field, i, j, di, dj)` of
`postprocess_helper`, the bilinear sampler. It weighs the cells `(i, j)`, `(i+1, j)`, `(i, j+1)`
and `(i+1, j+1)` by `(1-di)(1-dj)`, `di(1-dj)`, `(1-di)dj` and `di·dj`, reading them with numpy's
indexing. -/
def interpolateAlongTransect (f : Array2 α) (i j : ℤ) (di dj : α) : Option α := do
  let f00 ← f.read? i j
  let f10 ← f.read? (i + 1) j
  let f01 ← f.read? i (j + 1)
  let f11 ← f.read? (i + 1) (j + 1)
  pure (f00 * (1 - di) * (1 - dj) + f10 * di * (1 - dj) + f01 * (1 - di) * dj + f11 * di * dj)

/-- The four support cells `(i..i+1, j..j+1)` of a decomposition lie on a `rows × cols` grid,
and its fractions lie in `[0, 1)`. -/
structure InSupport (rows cols : ℕ) (d : Decomposition α) : Prop where
  i_nonneg : 0 ≤ d.i
  i_le : d.i ≤ rows - 2
  j_nonneg : 0 ≤ d.j
  j_le : d.j ≤ cols - 2
  di_nonneg : 0 ≤ d.di
  di_lt_one : d.di < 1
  dj_nonneg : 0 ≤ d.dj
  dj_lt_one : d.dj < 1

section Bilinear

variable {f : Array2 α} {i j : ℤ} {di dj : α}

theorem interpolateAlongTransect_eq (hi : 0 ≤ i) (hi' : i + 1 < f.rows) (hj : 0 ≤ j)
    (hj' : j + 1 < f.cols) :
    interpolateAlongTransect f i j di dj = some
      (f.get i.toNat j.toNat * (1 - di) * (1 - dj) + f.get (i + 1).toNat j.toNat * di * (1 - dj) +
        f.get i.toNat (j + 1).toNat * (1 - di) * dj +
        f.get (i + 1).toNat (j + 1).toNat * di * dj) := by
  simp only [interpolateAlongTransect, f.read?_of_lt hi (by omega) hj (by omega),
    f.read?_of_lt (by omega : 0 ≤ i + 1) hi' hj (by omega),
    f.read?_of_lt hi (by omega) (by omega : 0 ≤ j + 1) hj',
    f.read?_of_lt (by omega : 0 ≤ i + 1) hi' (by omega : 0 ≤ j + 1) hj']
  rfl

/-- **Bilinear sampling at zero fractions reproduces the cell's value.** -/
theorem interpolateAlongTransect_zero (hi : 0 ≤ i) (hi' : i + 1 < f.rows) (hj : 0 ≤ j)
    (hj' : j + 1 < f.cols) : interpolateAlongTransect f i j 0 0 = some (f.get i.toNat j.toNat) := by
  rw [interpolateAlongTransect_eq hi hi' hj hj']
  simp

theorem interpolateAlongTransect_congr {g : Array2 α} (hr : f.rows = g.rows)
    (hc : f.cols = g.cols) (h : ∀ r < f.rows, ∀ c < f.cols, f.get r c = g.get r c) :
    interpolateAlongTransect f i j di dj = interpolateAlongTransect g i j di dj := by
  simp only [interpolateAlongTransect, Array2.read?_congr hr hc h]

/-- A bilinear sample of a nonnegative field at fractions in `[0, 1]` is nonnegative. -/
theorem interpolateAlongTransect_nonneg {v : α} (hf : ∀ r < f.rows, ∀ c < f.cols, 0 ≤ f.get r c)
    (hdi : di ∈ Set.Icc 0 1) (hdj : dj ∈ Set.Icc 0 1)
    (h : interpolateAlongTransect f i j di dj = some v) : 0 ≤ v := by
  have cell : ∀ {i j : ℤ} {w : α}, f.read? i j = some w → 0 ≤ w := fun h => by
    obtain ⟨r, hr, c, hc, rfl⟩ := Array2.exists_of_read?_eq_some h
    exact hf r hr c hc
  simp only [interpolateAlongTransect, Option.bind_eq_bind, Option.bind_eq_some, Option.pure_def,
    Option.some.injEq] at h
  obtain ⟨a, ha, b, hb, c, hc, d, hd, rfl⟩ := h
  have w1 : 0 ≤ 1 - di := sub_nonneg.2 hdi.2
  have w2 : 0 ≤ 1 - dj := sub_nonneg.2 hdj.2
  have := cell ha; have := cell hb; have := cell hc; have := cell hd
  have := hdi.1; have := hdj.1
  positivity

theorem interpolateAlongTransect_isSome {d : Decomposition α} (hd : InSupport f.rows f.cols d) :
    (interpolateAlongTransect f d.i d.j d.di d.dj).isSome := by
  rw [interpolateAlongTransect_eq hd.i_nonneg (by linarith [hd.i_le]) hd.j_nonneg
    (by linarith [hd.j_le])]
  rfl

end Bilinear

variable [FloorRing α]

/-! ## The nearest-neighbour sampler -/

/-- Modelled from the spec: `nearest_along_transect(field, i, j, di, dj)` of
`postprocess_helper`, the nearest-neighbour sampler: the raw value of the cell nearest to
`(i + di, j + dj)`. -/
def nearestAlongTransect (f : Array2 α) (i j : ℤ) (di dj : α) : Option α :=
  f.read? (round ((i : α) + di)) (round ((j : α) + dj))

theorem round_eq_zero_or_one {x : α} (h0 : 0 ≤ x) (h1 : x < 1) : round x = 0 ∨ round x = 1 := by
  have lo : 0 ≤ round x := by rw [round_eq]; exact Int.floor_nonneg.2 (by linarith)
  have hi : round x < 2 := by rw [round_eq]; exact Int.floor_lt.2 (by push_cast; linarith)
  omega

/-- The nearest-neighbour sampler reads one of the four support cells. -/
theorem nearestAlongTransect_eq {f : Array2 α} {i j : ℤ} {di dj : α} (hi : 0 ≤ i)
    (hi' : i + 1 < f.rows) (hj : 0 ≤ j) (hj' : j + 1 < f.cols) (hdi : 0 ≤ di) (hdi' : di < 1)
    (hdj : 0 ≤ dj) (hdj' : dj < 1) :
    ∃ r c : ℤ, (r = i ∨ r = i + 1) ∧ (c = j ∨ c = j + 1) ∧
      nearestAlongTransect f i j di dj = some (f.get r.toNat c.toNat) := by
  have hr := round_eq_zero_or_one hdi hdi'
  have hc := round_eq_zero_or_one hdj hdj'
  refine ⟨i + round di, j + round dj, by omega, by omega, ?_⟩
  rw [nearestAlongTransect, round_int_add, round_int_add]
  exact f.read?_of_lt (by omega) (by omega) (by omega) (by omega)

theorem nearestAlongTransect_isSome {f : Array2 α} {d : Decomposition α}
    (hd : InSupport f.rows f.cols d) : (nearestAlongTransect f d.i d.j d.di d.dj).isSome := by
  obtain ⟨r, c, -, -, h⟩ := nearestAlongTransect_eq hd.i_nonneg (by linarith [hd.i_le])
    hd.j_nonneg (by linarith [hd.j_le]) hd.di_nonneg hd.di_lt_one hd.dj_nonneg hd.dj_lt_one
  rw [h]
  rfl

/-! ## Lines 121-124 -/

/-- Lines 121-124 of the sampling loop:
```
i=int(np.floor(p[1]))
j=int(np.floor(p[0]))
di=p[0]-np.floor(p[0])
dj=p[1]-np.floor(p[1])
``` -/
def decompose (p : α × α) : Decomposition α :=
  ⟨⌊p.2⌋, ⌊p.1⌋, p.1 - ⌊p.1⌋, p.2 - ⌊p.2⌋⟩

@[simp] theorem decompose_i (p : α × α) : (decompose p).i = ⌊p.2⌋ := rfl

@[simp] theorem decompose_j (p : α × α) : (decompose p).j = ⌊p.1⌋ := rfl

@[simp] theorem decompose_di (p : α × α) : (decompose p).di = Int.fract p.1 := rfl

@[simp] theorem decompose_dj (p : α × α) : (decompose p).dj = Int.fract p.2 := rfl

theorem floor_le_sub_two {x : α} {n : ℕ} (h : x < n - 1) : ⌊x⌋ ≤ n - 2 := by
  have : ⌊x⌋ < (n : ℤ) - 1 := Int.floor_lt.2 (by push_cast; exact h)
  omega

theorem inSupport_decompose {rows cols : ℕ} {p : α × α} (h0 : 0 ≤ p.2) (h1 : p.2 < rows - 1)
    (h2 : 0 ≤ p.1) (h3 : p.1 < cols - 1) : InSupport rows cols (decompose p) where
  i_nonneg := Int.floor_nonneg.2 h0
  i_le := floor_le_sub_two h1
  j_nonneg := Int.floor_nonneg.2 h2
  j_le := floor_le_sub_two h3
  di_nonneg := Int.fract_nonneg _
  di_lt_one := Int.fract_lt_one _
  dj_nonneg := Int.fract_nonneg _
  dj_lt_one := Int.fract_lt_one _

end CalvingMip
