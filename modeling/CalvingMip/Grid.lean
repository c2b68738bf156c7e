import CalvingMip.Array

/-!
# The grid, the transects and the coordinate meshes

The reads of lines 27-41 (`readSnapshot`), the centre index and the eight transects of lines
61-74 (`mp`, `transects`), and the mesh loops of lines 108-114 (`meshX`, `meshY`). PISM writes its
fields over `(time, y, x)`, so `Mx, My = np.shape(exp1_mask)` are `len(y)` and `len(x)`.
-/

namespace CalvingMip

variable {α : Type}

/-! ## Reading the output file -/

/-- `secperyear=365*24*3600`. -/
def secperyear : ℕ := 365 * 24 * 3600

/-- The one-dimensional variables of a file, `none` for a `KeyError`. -/
structure Series (α : Type) where
  var : String → Option (List α)

/-- PISM's output file: its one-dimensional variables, and the slices
`datnc.variables[name][tex,:]` of its `(time, y, x)` variables. -/
structure Dataset (α : Type) where
  series : Series α
  var : String → Option (ℕ → ℕ → α)

/-- The fields the script works on, on the grid of `len(y)` rows and `len(x)` columns. -/
structure Snapshot (α : Type) where
  x : List α
  y : List α
  xvm : ℕ → ℕ → α
  yvm : ℕ → ℕ → α
  thk : ℕ → ℕ → α
  mask : ℕ → ℕ → α
  crate : ℕ → ℕ → α
  topg : ℕ → ℕ → α

/-- A field of the snapshot as a numpy array of shape `(len(y), len(x))`. -/
def Snapshot.field (s : Snapshot α) (f : ℕ → ℕ → α) : Array2 α := ⟨s.y.length, s.x.length, f⟩

/-- The square grid of side `n` with zero axes and zero fields. -/
def zeroSnapshot [Zero α] (n : ℕ) : Snapshot α :=
  ⟨List.replicate n 0, List.replicate n 0, 0, 0, 0, 0, 0, 0⟩

@[simp] theorem length_x_zeroSnapshot [Zero α] (n : ℕ) :
    (zeroSnapshot n : Snapshot α).x.length = n :=
  List.length_replicate n 0

@[simp] theorem length_y_zeroSnapshot [Zero α] (n : ℕ) :
    (zeroSnapshot n : Snapshot α).y.length = n :=
  List.length_replicate n 0

/-- The output file of a square grid of side `n` that holds every variable, all zero. -/
def zeroDataset [Zero α] (n : ℕ) : Dataset α :=
  ⟨⟨fun _ => some (List.replicate n 0)⟩, fun _ => some 0⟩

/-- A field scaled by `secperyear`, from per second to per year. -/
def perYear [Ring α] (f : ℕ → ℕ → α) (r c : ℕ) : α := f r c * secperyear

/-- One block of lines 30-37: the velocities `u` and `v` scaled by `secperyear`, and the
thickness `h`, or a `KeyError` when one of the three is missing. -/
def readFlow [Ring α] (ds : Dataset α) (u v h : String) :
    Option ((ℕ → ℕ → α) × (ℕ → ℕ → α) × (ℕ → ℕ → α)) := do
  let fu ← ds.var u
  let fv ← ds.var v
  let fh ← ds.var h
  pure (perYear fu, perYear fv, fh)

/-- Lines 27-41: the axes, the flow fields of the `try` block or, when one of its variables is
missing, of the `except` block, the mask shifted by one, the calving rate per year and the bed. -/
def readSnapshot [Ring α] (ds : Dataset α) : Option (Snapshot α) := do
  let x ← ds.series.var "x"
  let y ← ds.series.var "y"
  let (xvm, yvm, thk) ←
    readFlow ds "xvelmean" "yvelmean" "lithk" <|> readFlow ds "u_ssa" "v_ssa" "thk"
  let mask ← ds.var "mask"
  let crate ← ds.var "calvingmip_calving_rate"
  let topg ← ds.var "topg"
  pure ⟨x, y, xvm, yvm, thk, fun r c => mask r c - 1, perYear crate, topg⟩

theorem readFlow_eq_some [Ring α] {ds : Dataset α} {u v h : String}
    {w : (ℕ → ℕ → α) × (ℕ → ℕ → α) × (ℕ → ℕ → α)} :
    readFlow ds u v h = some w ↔ ∃ fu fv, ds.var u = some fu ∧ ds.var v = some fv ∧
      ds.var h = some w.2.2 ∧ w.1 = perYear fu ∧ w.2.1 = perYear fv := by
  obtain ⟨a, b, c⟩ := w
  simp only [readFlow, Option.bind_eq_bind, Option.bind_eq_some, Option.pure_def,
    Option.some.injEq, Prod.mk.injEq]
  constructor
  · rintro ⟨fu, hu, fv, hv, fh, hh, rfl, rfl, rfl⟩
    exact ⟨fu, fv, hu, hv, hh, rfl, rfl⟩
  · rintro ⟨fu, fv, hu, hv, hh, rfl, rfl⟩
    exact ⟨fu, hu, fv, hv, c, hh, rfl, rfl, rfl⟩

theorem readFlow_eq_none [Ring α] {ds : Dataset α} {u v h : String} :
    readFlow ds u v h = none ↔ ds.var u = none ∨ ds.var v = none ∨ ds.var h = none := by
  simp only [readFlow, Option.bind_eq_bind]
  cases ds.var u <;> cases ds.var v <;> cases ds.var h <;> simp

theorem readFlow_isSome_iff [Ring α] {ds : Dataset α} {u v h : String} :
    (readFlow ds u v h).isSome ↔ (ds.var u).isSome ∧ (ds.var v).isSome ∧ (ds.var h).isSome := by
  simp only [readFlow, Option.bind_eq_bind]
  cases ds.var u <;> cases ds.var v <;> cases ds.var h <;> simp

/-- The reader succeeds exactly when both axes, one of the two blocks of flow variables, the
mask, the calving rate and the bed exist. -/
theorem readSnapshot_isSome_iff [Ring α] (ds : Dataset α) :
    (readSnapshot ds).isSome ↔ (ds.series.var "x").isSome ∧ (ds.series.var "y").isSome ∧
      ((readFlow ds "xvelmean" "yvelmean" "lithk").isSome ∨
        (readFlow ds "u_ssa" "v_ssa" "thk").isSome) ∧
      (ds.var "mask").isSome ∧ (ds.var "calvingmip_calving_rate").isSome ∧
        (ds.var "topg").isSome := by
  have horElse : ∀ o o' : Option ((ℕ → ℕ → α) × (ℕ → ℕ → α) × (ℕ → ℕ → α)),
      (o <|> o').isSome ↔ o.isSome ∨ o'.isSome := fun o o' => by cases o <;> simp
  rw [← horElse]
  simp only [readSnapshot, Option.bind_eq_bind]
  cases ds.series.var "x" with
  | none => simp
  | some x =>
    cases ds.series.var "y" with
    | none => simp
    | some y =>
      cases readFlow ds "xvelmean" "yvelmean" "lithk" <|> readFlow ds "u_ssa" "v_ssa" "thk" with
      | none => simp
      | some w =>
        cases ds.var "mask" <;> cases ds.var "calvingmip_calving_rate" <;>
          cases ds.var "topg" <;> simp

/-- Inversion of the reader. -/
theorem readSnapshot_inv [Ring α] {ds : Dataset α} {s : Snapshot α}
    (h : readSnapshot ds = some s) :
    ds.series.var "x" = some s.x ∧ ds.series.var "y" = some s.y ∧
      (readFlow ds "xvelmean" "yvelmean" "lithk" = some (s.xvm, s.yvm, s.thk) ∨
        readFlow ds "xvelmean" "yvelmean" "lithk" = none ∧
          readFlow ds "u_ssa" "v_ssa" "thk" = some (s.xvm, s.yvm, s.thk)) ∧
      (∃ m, ds.var "mask" = some m ∧ s.mask = fun r c => m r c - 1) ∧
      (∃ cr, ds.var "calvingmip_calving_rate" = some cr ∧ s.crate = perYear cr) ∧
      ds.var "topg" = some s.topg := by
  simp only [readSnapshot, Option.bind_eq_bind, Option.bind_eq_some, Option.pure_def,
    Option.some.injEq] at h
  obtain ⟨x, hx, y, hy, ⟨xvm, yvm, thk⟩, hf, m, hm, cr, hc, tp, ht, rfl⟩ := h
  exact ⟨hx, hy, (Option.orElse_eq_some _ _ _).1 hf, ⟨m, hm, rfl⟩, ⟨cr, hc, rfl⟩, ht⟩

/-! ## The transects -/

/-- `Mp=int((Mx-1)/2.0)`: the centre index, from the row count `Mx` alone. -/
def mp (Mx : ℕ) : ℕ := (Mx - 1) / 2

/-- `points_A = [[Mp,Mp],[Mp,My-2]]`. -/
def pointsA (Mx My : ℕ) : (ℤ × ℤ) × (ℤ × ℤ) := ((mp Mx, mp Mx), (mp Mx, My - 2))

/-- `points_B = [[Mp,Mp],[Mx-2,My-2]]`. -/
def pointsB (Mx My : ℕ) : (ℤ × ℤ) × (ℤ × ℤ) := ((mp Mx, mp Mx), (Mx - 2, My - 2))

/-- `points_C = [[Mp,Mp],[Mx-2,Mp]]`. -/
def pointsC (Mx : ℕ) : (ℤ × ℤ) × (ℤ × ℤ) := ((mp Mx, mp Mx), (Mx - 2, mp Mx))

/-- `points_D = [[Mp,Mp],[Mx-2,2]]`. -/
def pointsD (Mx : ℕ) : (ℤ × ℤ) × (ℤ × ℤ) := ((mp Mx, mp Mx), (Mx - 2, 2))

/-- `points_E = [[Mp,Mp],[Mp,2]]`. -/
def pointsE (Mx : ℕ) : (ℤ × ℤ) × (ℤ × ℤ) := ((mp Mx, mp Mx), (mp Mx, 2))

/-- `points_F = [[Mp,Mp],[2,2]]`. -/
def pointsF (Mx : ℕ) : (ℤ × ℤ) × (ℤ × ℤ) := ((mp Mx, mp Mx), (2, 2))

/-- `points_G = [[Mp,Mp],[2,Mp]]`. -/
def pointsG (Mx : ℕ) : (ℤ × ℤ) × (ℤ × ℤ) := ((mp Mx, mp Mx), (2, mp Mx))

/-- `points_H = [[Mp,Mp],[2,My-2]]`. -/
def pointsH (Mx My : ℕ) : (ℤ × ℤ) × (ℤ × ℤ) := ((mp Mx, mp Mx), (2, My - 2))

/-- `transects=[points_A,...,points_H]`: start and end of each transect, as `(row, col)`. -/
def transects (Mx My : ℕ) : List ((ℤ × ℤ) × (ℤ × ℤ)) :=
  [pointsA Mx My, pointsB Mx My, pointsC Mx, pointsD Mx, pointsE Mx, pointsF Mx, pointsG Mx,
    pointsH Mx My]

@[simp] theorem length_transects (Mx My : ℕ) : (transects Mx My).length = 8 := rfl

/-- The mesh loops of lines 111-114: line `i < n`, selected by `key`, gets `axis[i]`, an
`IndexError` when `i` is past the axis. -/
def meshLoop [Zero α] (key : ℕ → ℕ → ℕ) (axis : List α) (n : ℕ) (m : Array2 α) :
    Option (Array2 α) :=
  (List.range n).foldlM (fun m i => do let v ← axis[i]?; pure (m.setLine key i v)) m

/-- Lines 108 and 111-112:
```
exp1_xm = np.zeros([Mx,My])
for i in range(Mx):
    exp1_xm[i,:]=exp1_x[i]
``` -/
def meshX [Zero α] (x : List α) (Mx My : ℕ) : Option (Array2 α) :=
  meshLoop (fun r _ => r) x Mx (Array2.const Mx My 0)

/-- Lines 109 and 113-114:
```
exp1_ym = np.zeros([Mx,My])
for j in range(My):
    exp1_ym[:,j]=exp1_y[j]
``` -/
def meshY [Zero α] (y : List α) (Mx My : ℕ) : Option (Array2 α) :=
  meshLoop (fun _ c => c) y My (Array2.const Mx My 0)

theorem foldlM_setLine [Zero α] (key : ℕ → ℕ → ℕ) (axis : List α) (is : List ℕ) (m : Array2 α) :
    is.foldlM (fun m i => do let v ← axis[i]?; pure (m.setLine key i v)) m =
      if ∀ i ∈ is, i < axis.length then
        some { m with get := fun r c => if key r c ∈ is then axis.getD (key r c) 0 else m.get r c }
      else none := by
  induction is generalizing m with
  | nil => rfl
  | cons i is ih =>
    by_cases hi : i < axis.length
    · rw [List.foldlM_cons, List.getElem?_eq_getElem hi]
      refine (ih (m.setLine key i axis[i])).trans ?_
      simp only [List.forall_mem_cons, hi, true_and]
      split_ifs
      · simp only [Option.some.injEq, Array2.mk.injEq, Array2.rows_setLine, Array2.cols_setLine,
          true_and]
        funext r c
        by_cases hk : key r c = i
        · simp [Array2.setLine, hk, List.getElem?_eq_getElem hi]
        · simp [Array2.setLine, hk]
      · rfl
    · simp [List.getElem?_eq_none (Nat.le_of_not_lt hi), hi]

/-- **The mesh loop succeeds exactly when it reads inside the axis**, and then fills every line
`i < n` with `axis[i]`. -/
theorem meshLoop_eq [Zero α] (key : ℕ → ℕ → ℕ) (axis : List α) (n : ℕ) (m : Array2 α) :
    meshLoop key axis n m =
      if n ≤ axis.length then
        some { m with get := fun r c => if key r c < n then axis.getD (key r c) 0 else m.get r c }
      else none := by
  simp only [meshLoop, foldlM_setLine, List.mem_range]
  congr 1
  exact propext ⟨fun h => Nat.le_of_not_lt fun hn => (h _ hn).false,
    fun h i hi => lt_of_lt_of_le hi h⟩

theorem shape_of_meshLoop_eq_some [Zero α] {key : ℕ → ℕ → ℕ} {axis : List α} {n : ℕ}
    {m m' : Array2 α} (h : meshLoop key axis n m = some m') :
    m'.rows = m.rows ∧ m'.cols = m.cols := by
  rw [meshLoop_eq] at h
  split_ifs at h
  cases h
  exact ⟨rfl, rfl⟩

theorem meshX_isSome_iff [Zero α] (x : List α) (Mx My : ℕ) :
    (meshX x Mx My).isSome ↔ Mx ≤ x.length := by
  rw [meshX, meshLoop_eq]
  split_ifs <;> simp [*]

theorem meshY_isSome_iff [Zero α] (y : List α) (Mx My : ℕ) :
    (meshY y Mx My).isSome ↔ My ≤ y.length := by
  rw [meshY, meshLoop_eq]
  split_ifs <;> simp [*]

/-- The mesh `exp1_xm` holds `x[r]` along row `r`. -/
theorem get_of_meshX_eq_some [Zero α] {x : List α} {Mx My : ℕ} {m : Array2 α}
    (h : meshX x Mx My = some m) {r : ℕ} (hr : r < Mx) (c : ℕ) : m.get r c = x.getD r 0 := by
  rw [meshX, meshLoop_eq] at h
  split_ifs at h
  cases h
  exact if_pos hr

/-- The mesh `exp1_ym` holds `y[c]` along column `c`. -/
theorem get_of_meshY_eq_some [Zero α] {y : List α} {Mx My : ℕ} {m : Array2 α}
    (h : meshY y Mx My = some m) (r : ℕ) {c : ℕ} (hc : c < My) : m.get r c = y.getD c 0 := by
  rw [meshY, meshLoop_eq] at h
  split_ifs at h
  cases h
  exact if_pos hc

end CalvingMip
