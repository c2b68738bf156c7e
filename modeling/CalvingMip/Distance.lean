import CalvingMip.Support

/-!
# The distance written along a profile

Lines 126-128 store, for each transect point, `xav` sampled from the mesh `exp1_ym`, `yav` from
`exp1_xm`, and their norm `sav`. The meshes (lines 108-114) put `y` along the columns and `x`
along the rows, while the fields are laid out `('Time','Y','X')`, rows following `y`. So each
stored distance is the radial distance of the sampled position with the two axes exchanged
(`profile_distances`), and on a grid whose axes differ the two disagree
(`distance_transposed_5`).
-/

namespace CalvingMip

variable {α : Type} [LinearOrderedField α]

/-- The coordinate field `(r, c) ↦ X[c]` of the column axis `X`, over `rows` rows. -/
def colField (X : List α) (rows : ℕ) : Array2 α := ⟨rows, X.length, fun _ c => X.getD c 0⟩

/-- The coordinate field `(r, c) ↦ Y[r]` of the row axis `Y`, over `cols` columns. -/
def rowField (Y : List α) (cols : ℕ) : Array2 α := ⟨Y.length, cols, fun r _ => Y.getD r 0⟩

/-- The radial distance of the position sampled at `d` on the grid of column axis `X` and row
axis `Y`: the norm of the bilinear samples of its two coordinate fields. -/
def radialDistance (sqrt : α → α) (X Y : List α) (d : Decomposition α) : Option α := do
  let x ← interpolateAlongTransect (colField X Y.length) d.i d.j d.di d.dj
  let y ← interpolateAlongTransect (rowField Y X.length) d.i d.j d.di d.dj
  pure (sqrt (x ^ 2 + y ^ 2))

/-- At a cell inside the grid, the radial distance is the norm of the cell's coordinates
`(X[j], Y[i])`. -/
theorem radialDistance_cell (sqrt : α → α) (X Y : List α) {i j : ℤ} (hi : 0 ≤ i)
    (hi' : i + 1 < Y.length) (hj : 0 ≤ j) (hj' : j + 1 < X.length) :
    radialDistance sqrt X Y ⟨i, j, 0, 0⟩ =
      some (sqrt (X.getD j.toNat 0 ^ 2 + Y.getD i.toNat 0 ^ 2)) := by
  have hx : interpolateAlongTransect (colField X Y.length) i j 0 0 =
      some ((colField X Y.length).get i.toNat j.toNat) :=
    interpolateAlongTransect_zero hi hi' hj hj'
  have hy : interpolateAlongTransect (rowField Y X.length) i j 0 0 =
      some ((rowField Y X.length).get i.toNat j.toNat) :=
    interpolateAlongTransect_zero hi hi' hj hj'
  simp only [radialDistance, hx, hy, Option.bind_eq_bind, Option.some_bind, Option.pure_def]
  rfl

/-! ## The meshes are the transposed coordinate fields -/

section Meshes

variable {snap : Snapshot α} {E : SampleEnv α} (hE : sampleEnv? snap = some E)
include hE

/-- `exp1_ym` samples as the coordinate field of `y` taken as the column axis. -/
theorem interpolate_ym (i j : ℤ) (di dj : α) :
    interpolateAlongTransect E.ym i j di dj =
      interpolateAlongTransect (colField snap.y snap.x.length) i j di dj := by
  have hy := (sampleEnv?_inv hE).2.1
  have hsq := length_x_eq_length_y hE
  obtain ⟨hr, hc⟩ := shape_of_meshLoop_eq_some hy
  simp only [Array2.rows_const, Array2.cols_const] at hr hc
  exact interpolateAlongTransect_congr (by simp [colField, hr, hsq]) (by simp [colField, hc, hsq])
    fun r _ c hc' => get_of_meshY_eq_some hy r (hc ▸ hc')

/-- `exp1_xm` samples as the coordinate field of `x` taken as the row axis. -/
theorem interpolate_xm (i j : ℤ) (di dj : α) :
    interpolateAlongTransect E.xm i j di dj =
      interpolateAlongTransect (rowField snap.x snap.y.length) i j di dj := by
  have hx := (sampleEnv?_inv hE).1
  have hsq := length_x_eq_length_y hE
  obtain ⟨hr, hc⟩ := shape_of_meshLoop_eq_some hx
  simp only [Array2.rows_const, Array2.cols_const] at hr hc
  exact interpolateAlongTransect_congr (by simp [rowField, hr, hsq]) (by simp [rowField, hc, hsq])
    fun r hr' c _ => get_of_meshX_eq_some hx (hr ▸ hr') c

end Meshes

variable [FloorRing α]

/-- The stored distance is the radial distance of the sampled position with the two axes
exchanged. -/
theorem sampleFields_sav {snap : Snapshot α} {E : SampleEnv α} (hE : sampleEnv? snap = some E)
    (sqrt : α → α) {d : Decomposition α} {s : Sample α}
    (hs : sampleFields sqrt E d = some s) : some s.sav = radialDistance sqrt snap.y snap.x d := by
  obtain ⟨hx, hy, -, -, -, -, hsav⟩ := (sampleFields_eq_some_iff sqrt).1 hs
  rw [interpolate_ym hE] at hx
  rw [interpolate_xm hE] at hy
  simp [radialDistance, hx, hy, hsav]

/-! ## The written distances -/

/-- **Every distance a run writes is the radial distance of its point with the two axes
exchanged**, in both `Profile X` and `sX`, one entry per point and in order. -/
theorem profile_distances (sqrt : α → α) {gen : PointGenerator α} {snap : Snapshot α} {dp : α}
    {out : Output α} (h : postprocess sqrt gen snap dp = some out) :
    List.Forall₂ (fun po pr =>
        List.Forall₂ (fun p sv => some sv = radialDistance sqrt snap.y snap.x (decompose p))
          po pr.profile ∧
        List.Forall₂ (fun p sv => some sv = radialDistance sqrt snap.y snap.x (decompose p))
          po pr.s)
      (getTroughs gen (transects snap.y.length snap.x.length) dp) out.profiles := by
  obtain ⟨E, hE, hF⟩ := profile_vars_forall₂ sqrt h
  refine hF.imp fun po pr ⟨ss, hss, hprofile, hs, _⟩ => ?_
  have hsav : List.Forall₂ (fun p sv => some sv = radialDistance sqrt snap.y snap.x (decompose p))
      po (ss.map Sample.sav) :=
    List.forall₂_map_right_iff.2 (hss.imp fun _ _ h => sampleFields_sav hE sqrt h)
  exact ⟨hprofile ▸ hsav, hs ▸ hsav⟩

/-- The 5 × 5 grid with axes `x = [-2, -1, 0, 1, 2]` and `y = [0, 1, 2, 3, 4]`, other fields
zero. -/
def axesSnapshot : Snapshot ℝ :=
  { zeroSnapshot 5 with x := [-2, -1, 0, 1, 2], y := [0, 1, 2, 3, 4] }

theorem profile_distances_5 :
    ∃ out, postprocess Real.sqrt linspaceGenerator axesSnapshot 1 = some out ∧
      List.Forall₂ (fun po pr =>
          List.Forall₂ (fun p sv => some sv = radialDistance Real.sqrt axesSnapshot.y
            axesSnapshot.x (decompose p)) po pr.profile ∧
          List.Forall₂ (fun p sv => some sv = radialDistance Real.sqrt axesSnapshot.y
            axesSnapshot.x (decompose p)) po pr.s)
        (getTroughs linspaceGenerator (transects axesSnapshot.y.length axesSnapshot.x.length) 1)
        out.profiles := by
  obtain ⟨out, h⟩ := Option.isSome_iff_exists.1 (postprocess_linspace_isSome Real.sqrt
    axesSnapshot rfl rfl le_rfl one_pos (by norm_num [axesSnapshot]))
  exact ⟨out, h, profile_distances Real.sqrt h⟩

/-- On the 5 × 5 grid with axes `x = [-2, -1, 0, 1, 2]` and `y = [0, 1, 2, 3, 4]` the last
distance of profile `C` is `3`, the norm of `(y[3], x[2])`, while the radial distance of its point
`(x[3], y[2]) = (1, 2)` is `√5`. -/
theorem distance_transposed_5 :
    ∃ out, postprocess Real.sqrt linspaceGenerator
        { zeroSnapshot 5 with x := [-2, -1, 0, 1, 2], y := [0, 1, 2, 3, 4] } (dkm / resolution) =
        some out ∧
      (out.profiles[2]?.bind fun pr => pr.s.getLast?) = some 3 ∧
      radialDistance Real.sqrt [-2, -1, 0, 1, 2] [0, 1, 2, 3, 4]
        (decompose (toPoint (pointsC 5).2)) = some (Real.sqrt 5) ∧ Real.sqrt 5 ≠ 3 := by
  let snap : Snapshot ℝ := { zeroSnapshot 5 with x := [-2, -1, 0, 1, 2], y := [0, 1, 2, 3, 4] }
  have hdp : (0 : ℝ) < dkm / resolution := by rw [dkm_div_resolution]; exact one_pos
  have hend : ∀ X Y : List ℝ, X.length = 5 → Y.length = 5 →
      radialDistance Real.sqrt X Y (decompose (toPoint (pointsC 5).2)) =
        some (Real.sqrt (X.getD 3 0 ^ 2 + Y.getD 2 0 ^ 2)) := fun X Y hX hY => by
    rw [show decompose (toPoint (pointsC 5).2 : ℝ × ℝ) = ⟨2, 3, 0, 0⟩ from decompose_toPoint (3, 2),
      radialDistance_cell _ _ _ (by norm_num) (by simp [hY]) (by norm_num) (by simp [hX])]
    rfl
  obtain ⟨out, hp⟩ := Option.isSome_iff_exists.1 (postprocess_linspace_isSome Real.sqrt snap
    (show snap.x.length = 5 from rfl) rfl le_rfl hdp (by norm_num [dkm_div_resolution]))
  obtain ⟨E, -, hE, -⟩ := postprocess_inv Real.sqrt hp
  obtain ⟨ss, s, hpr, hs, hlast⟩ := profile_getLast? Real.sqrt hdp hp hE
    (show (transects 5 5)[2]? = some (pointsC 5) from rfl)
  have hsav := (sampleFields_sav hE Real.sqrt hs).trans (hend snap.y snap.x rfl rfl)
  norm_num at hsav
  refine ⟨out, hp, ?_, by rw [hend [-2, -1, 0, 1, 2] [0, 1, 2, 3, 4] rfl rfl]; norm_num,
    ((Real.sqrt_lt' (by norm_num)).2 (by norm_num)).ne⟩
  rw [hpr]
  simp [List.getLast?_map, hlast, hsav, show (9 : ℝ) = 3 ^ 2 by norm_num]

end CalvingMip
