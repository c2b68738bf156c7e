import CalvingMip.Support

/-!
# The whole script: the time axis, the time series and the file it writes

Besides the gridded fields, the script reads the model time of PISM's output file at its last
record (`tex=-1`, line 30) and seven variables of the time-series file at `ti=-6` (lines 46-55),
the sixth record from the end; it writes the time and six of the seven over the one-record
dimension `Time`. `wrtfile` is the whole script, from the two files to the contents of the file
it writes, and `wrtfile_isSome_iff` says exactly when it writes one.
-/

namespace CalvingMip

variable {α : Type}

/-! ## Reading one-dimensional variables -/

/-- `datnc.variables[name][i]`: a `KeyError` when the file has no variable `name`, an
`IndexError` when `i` is outside its record. -/
def readAt (s : Series α) (name : String) (i : ℤ) : Option α := do
  let l ← s.var name
  let r ← pyIndex l.length i
  l[r]?

/-- `tex=-1`: the record of PISM's output file the script reads. -/
def tex : ℤ := -1

/-- `ti=-6`: the record of the time-series file the script reads. -/
def ti : ℤ := -6

theorem pyIndex_neg (n : ℕ) {k : ℕ} (hk : 0 < k) :
    pyIndex n (-k) = if k ≤ n then some (n - k) else none := by
  unfold pyIndex
  split_ifs <;> first | omega | congr 1 <;> omega

/-- **A read at index `-k` is the `k`-th record from the end**, and raises on a record of fewer
than `k` entries. -/
theorem readAt_neg (s : Series α) (name : String) {k : ℕ} (hk : 0 < k) :
    readAt s name (-k) =
      (s.var name).bind fun l => if k ≤ l.length then l[l.length - k]? else none := by
  simp only [readAt, Option.bind_eq_bind, pyIndex_neg _ hk]
  congr 1
  funext l
  split_ifs <;> rfl

/-- `s.FromEnd name k v`: the file has a variable `name` of at least `k` records, the `k`-th of
which from the end is `v`. -/
def Series.FromEnd (s : Series α) (name : String) (k : ℕ) (v : α) : Prop :=
  ∃ l, s.var name = some l ∧ k ≤ l.length ∧ l[l.length - k]? = some v

theorem readAt_neg_eq_some {s : Series α} {name : String} {k : ℕ} (hk : 0 < k) {v : α} :
    readAt s name (-k) = some v ↔ s.FromEnd name k v := by
  rw [readAt_neg s name hk, Series.FromEnd]
  cases s.var name with
  | none => simp
  | some l => by_cases hl : k ≤ l.length <;> simp [hl]

theorem readAt_neg_isSome_iff (s : Series α) (name : String) {k : ℕ} (hk : 0 < k) :
    (readAt s name (-k)).isSome ↔ ∃ l, s.var name = some l ∧ k ≤ l.length := by
  simp only [Option.isSome_iff_exists, readAt_neg_eq_some hk, Series.FromEnd]
  exact ⟨fun ⟨_, l, hl, hkl, _⟩ => ⟨l, hl, hkl⟩,
    fun ⟨l, hl, hkl⟩ => ⟨_, l, hl, hkl, List.getElem?_eq_getElem (by omega)⟩⟩

/-- `.../secperyear-110000.0`: a model time in seconds as years from `-110000`, the conversion
of lines 30 and 48. -/
def modelYear [LinearOrderedField α] (t : α) : α := t / secperyear - 110000

/-- `...*secperyear`: a rate per second as a rate per year, as `perYear` does for fields. -/
def perYearValue [LinearOrderedField α] (v : α) : α := v * secperyear

/-! ## The time series -/

/-- A chain of reads succeeds exactly when its first read does and the rest succeeds on its
value. -/
theorem isSome_bind_iff {β γ : Type} {o : Option β} {f : β → Option γ} :
    (o.bind f).isSome ↔ ∃ a, o = some a ∧ (f a).isSome := by
  cases o <;> simp

/-- The values the script reads from the time-series file, lines 48-54. -/
structure TsRecord (α : Type) where
  t : α
  afl : α
  agr : α
  lim : α
  limnsw : α
  tendcf : α
  tendgf : α

/-- Lines 46-55: the record `ti` of seven variables of the time-series file, the time in years
from `-110000` and the two tendencies per year. -/
def readTs [LinearOrderedField α] (ts : Series α) : Option (TsRecord α) := do
  let t ← readAt ts "time" ti
  let afl ← readAt ts "iareafl" ti
  let agr ← readAt ts "iareagr" ti
  let lim ← readAt ts "lim" ti
  let limnsw ← readAt ts "limnsw" ti
  let tendcf ← readAt ts "tendlicalvf" ti
  let tendgf ← readAt ts "tendligroundf" ti
  pure ⟨modelYear t, afl, agr, lim, limnsw, perYearValue tendcf, perYearValue tendgf⟩

/-- Inversion of the time-series reads. -/
theorem readTs_inv [LinearOrderedField α] {ts : Series α} {r : TsRecord α}
    (h : readTs ts = some r) :
    ∃ t cf gf, readAt ts "time" ti = some t ∧ readAt ts "iareafl" ti = some r.afl ∧
      readAt ts "iareagr" ti = some r.agr ∧ readAt ts "lim" ti = some r.lim ∧
      readAt ts "limnsw" ti = some r.limnsw ∧ readAt ts "tendlicalvf" ti = some cf ∧
      readAt ts "tendligroundf" ti = some gf ∧ r.t = modelYear t ∧
      r.tendcf = perYearValue cf ∧ r.tendgf = perYearValue gf := by
  simp only [readTs, Option.bind_eq_bind, Option.bind_eq_some, Option.pure_def,
    Option.some.injEq] at h
  obtain ⟨t, ht, afl, hafl, agr, hagr, lim, hlim, limnsw, hlimnsw, cf, hcf, gf, hgf, rfl⟩ := h
  exact ⟨t, cf, gf, ht, hafl, hagr, hlim, hlimnsw, hcf, hgf, rfl, rfl, rfl⟩

/-- The time-series reads succeed exactly when the file has the seven variables, each with at
least six records. -/
theorem readTs_isSome_iff [LinearOrderedField α] (ts : Series α) :
    (readTs ts).isSome ↔ ∀ name ∈ ["time", "iareafl", "iareagr", "lim", "limnsw", "tendlicalvf",
      "tendligroundf"], ∃ l, ts.var name = some l ∧ 6 ≤ l.length := by
  have hti : ti = -((6 : ℕ) : ℤ) := rfl
  simp only [readTs, Option.bind_eq_bind, isSome_bind_iff, Option.pure_def, Option.isSome_some,
    and_true, exists_and_right, exists_and_left, ← Option.isSome_iff_exists, hti,
    readAt_neg_isSome_iff ts _ (show 0 < 6 by norm_num), List.forall_mem_cons, List.not_mem_nil,
    false_implies, implies_true]

/-! ## The script -/

/-- The contents of the file the script writes, `exp_outfile`: the gridded part, and the time
(line 239) and the six scalars (lines 250-255), each the one entry of the dimension `Time`. -/
structure ExpOutfile (α : Type) where
  grid : Output α
  time : α
  iareafl : α
  iareagr : α
  lim : α
  limnsw : α
  tendlicalvf : α
  tendligroundf : α

variable [LinearOrderedField α] [FloorRing α] (sqrt : α → α)

/-- The whole script, on PISM's output file `ds` and the time-series file `ts`: the reads of
lines 26-55, then the transects, the sampling loop and the writes of lines 58-319 at the step
`dp=np.float(dkm)/np.float(resolution)`. -/
def wrtfile (gen : PointGenerator α) (ds : Dataset α) (ts : Series α) : Option (ExpOutfile α) := do
  let t ← readAt ds.series "time" tex
  let snap ← readSnapshot ds
  let r ← readTs ts
  let grid ← postprocess sqrt gen snap (dkm / resolution)
  pure ⟨grid, modelYear t, r.afl, r.agr, r.lim, r.limnsw, r.tendcf, r.tendgf⟩

/-- Inversion of the script: every read succeeded, and the file holds the gridded part and the
values read. -/
theorem wrtfile_inv {gen : PointGenerator α} {ds : Dataset α} {ts : Series α}
    {f : ExpOutfile α} (h : wrtfile sqrt gen ds ts = some f) :
    ∃ t snap r, readAt ds.series "time" tex = some t ∧ readSnapshot ds = some snap ∧
      readTs ts = some r ∧ postprocess sqrt gen snap (dkm / resolution) = some f.grid ∧
      f = ⟨f.grid, modelYear t, r.afl, r.agr, r.lim, r.limnsw, r.tendcf, r.tendgf⟩ := by
  simp only [wrtfile, Option.bind_eq_bind, Option.bind_eq_some, Option.pure_def,
    Option.some.injEq] at h
  obtain ⟨t, ht, snap, hs, r, hr, grid, hg, rfl⟩ := h
  exact ⟨t, snap, r, ht, hs, hr, hg, rfl⟩

/-- On a grid of at least five rows, the gridded part of the script writes exactly when the grid
is square and every transect has at most 300 points: the mesh loops fail on any other grid. -/
theorem postprocess_isSome_iff (gen : PointGenerator α) (snap : Snapshot α)
    (hn : 5 ≤ snap.y.length) {dp : α} (hdp : 0 < dp) :
    (postprocess sqrt gen snap dp).isSome ↔ snap.x.length = snap.y.length ∧
      ∀ po ∈ getTroughs gen (transects snap.y.length snap.y.length) dp, po.length ≤ 300 := by
  by_cases hsq : snap.x.length = snap.y.length
  · obtain ⟨E, sss, -, -, hp⟩ := postprocess_eq_of_square sqrt gen snap hsq rfl hn hdp
    rw [hp]
    split_ifs with hfit
    · exact iff_of_true rfl ⟨hsq, hfit⟩
    · exact iff_of_false (by simp) fun h => hfit h.2
  · have hE : sampleEnv? snap = none :=
      Option.not_isSome_iff_eq_none.1 fun h => hsq ((sampleEnv?_isSome_iff snap).1 h)
    simp [postprocess_eq, hE, hsq]

/-- **The script writes its file exactly when** every variable it reads exists with enough
records, the grid is square and every transect has at most 300 points, on every grid of at least
five rows and for every generator meeting the interface. -/
theorem wrtfile_isSome_iff (gen : PointGenerator α) (ds : Dataset α) (ts : Series α)
    (hn : ∀ y, ds.series.var "y" = some y → 5 ≤ y.length) :
    (wrtfile sqrt gen ds ts).isSome ↔
      (∃ l, ds.series.var "time" = some l ∧ 1 ≤ l.length) ∧
      (∀ name ∈ ["time", "iareafl", "iareagr", "lim", "limnsw", "tendlicalvf", "tendligroundf"],
        ∃ l, ts.var name = some l ∧ 6 ≤ l.length) ∧
      ((∀ name ∈ ["xvelmean", "yvelmean", "lithk"], (ds.var name).isSome) ∨
        ∀ name ∈ ["u_ssa", "v_ssa", "thk"], (ds.var name).isSome) ∧
      (∀ name ∈ ["mask", "calvingmip_calving_rate", "topg"], (ds.var name).isSome) ∧
      ∃ x y, ds.series.var "x" = some x ∧ ds.series.var "y" = some y ∧ x.length = y.length ∧
        ∀ po ∈ getTroughs gen (transects y.length y.length) (dkm / resolution),
          po.length ≤ 300 := by
  have htime := readAt_neg_isSome_iff ds.series "time" Nat.one_pos
  rw [show -((1 : ℕ) : ℤ) = tex from rfl] at htime
  have hsnap : (readSnapshot ds).isSome ↔
      (ds.series.var "x").isSome ∧ (ds.series.var "y").isSome ∧
      ((∀ name ∈ ["xvelmean", "yvelmean", "lithk"], (ds.var name).isSome) ∨
        ∀ name ∈ ["u_ssa", "v_ssa", "thk"], (ds.var name).isSome) ∧
      ∀ name ∈ ["mask", "calvingmip_calving_rate", "topg"], (ds.var name).isSome := by
    simp only [readSnapshot_isSome_iff, readFlow_isSome_iff, List.forall_mem_cons,
      List.not_mem_nil, false_implies, implies_true, and_true]
  have hgrid : ∀ snap, readSnapshot ds = some snap →
      ((postprocess sqrt gen snap (dkm / resolution)).isSome ↔ snap.x.length = snap.y.length ∧
        ∀ po ∈ getTroughs gen (transects snap.y.length snap.y.length) (dkm / resolution),
          po.length ≤ 300) := fun snap hs =>
    postprocess_isSome_iff sqrt gen snap (hn _ (readSnapshot_inv hs).2.1)
      (by rw [dkm_div_resolution]; exact one_pos)
  constructor
  · intro h
    obtain ⟨f, hf⟩ := Option.isSome_iff_exists.1 h
    obtain ⟨t, snap, r, ht, hs, hr, hg, -⟩ := wrtfile_inv sqrt hf
    obtain ⟨hx, hy, -⟩ := readSnapshot_inv hs
    obtain ⟨-, -, hfl, hvars⟩ := hsnap.1 (hs ▸ rfl)
    exact ⟨htime.1 (ht ▸ rfl), (readTs_isSome_iff ts).1 (hr ▸ rfl), hfl, hvars,
      snap.x, snap.y, hx, hy, (hgrid snap hs).1 (hg ▸ rfl)⟩
  · rintro ⟨htm, hts, hfl, hvars, x, y, hx, hy, hsq, hfit⟩
    obtain ⟨t, ht⟩ := Option.isSome_iff_exists.1 (htime.2 htm)
    obtain ⟨snap, hs⟩ := Option.isSome_iff_exists.1 (hsnap.2 ⟨hx ▸ rfl, hy ▸ rfl, hfl, hvars⟩)
    obtain ⟨hx', hy', -⟩ := readSnapshot_inv hs
    cases hx.symm.trans hx'
    cases hy.symm.trans hy'
    obtain ⟨r, hr⟩ := Option.isSome_iff_exists.1 ((readTs_isSome_iff ts).2 hts)
    obtain ⟨grid, hg⟩ := Option.isSome_iff_exists.1 ((hgrid snap hs).2 ⟨hsq, hfit⟩)
    simp [wrtfile, ht, hs, hr, hg]

/-- A time-series file whose variables all hold six zero records. -/
def zeroTimeSeries : Series ℝ := ⟨fun _ => some (List.replicate 6 0)⟩

theorem wrtfile_isSome_iff_5 :
    (∀ y, (zeroDataset 5 : Dataset ℝ).series.var "y" = some y → 5 ≤ y.length) ∧
      (wrtfile Real.sqrt linspaceGenerator (zeroDataset 5) zeroTimeSeries).isSome := by
  have hn : ∀ y, (zeroDataset 5 : Dataset ℝ).series.var "y" = some y → 5 ≤ y.length :=
    fun y h => by cases h; simp
  refine ⟨hn, (wrtfile_isSome_iff Real.sqrt linspaceGenerator _ _ hn).2
    ⟨⟨_, rfl, by simp⟩, fun _ _ => ⟨_, rfl, by simp⟩, .inl fun _ _ => rfl, fun _ _ => rfl,
      _, _, rfl, rfl, rfl, fun po hpo => ?_⟩⟩
  simp only [List.length_replicate] at hpo
  exact (length_le_of_square le_rfl _ po hpo).trans (by norm_num [dkm_div_resolution])

/-- What the script writes: the gridded part of `postprocessExp1`, the last model time in years
from `-110000`, and the sixth records from the end of the time series, the tendencies per year. -/
theorem wrtfile_contents {gen : PointGenerator α} {ds : Dataset α} {ts : Series α}
    {f : ExpOutfile α} (h : wrtfile sqrt gen ds ts = some f) :
    postprocessExp1 sqrt gen ds = some f.grid ∧
      (∃ t, ds.series.FromEnd "time" 1 t ∧ f.time = modelYear t) ∧
      ts.FromEnd "iareafl" 6 f.iareafl ∧ ts.FromEnd "iareagr" 6 f.iareagr ∧
      ts.FromEnd "lim" 6 f.lim ∧ ts.FromEnd "limnsw" 6 f.limnsw ∧
      (∃ v, ts.FromEnd "tendlicalvf" 6 v ∧ f.tendlicalvf = perYearValue v) ∧
      (∃ v, ts.FromEnd "tendligroundf" 6 v ∧ f.tendligroundf = perYearValue v) := by
  obtain ⟨t, snap, r, ht, hs, hr, hg, hf⟩ := wrtfile_inv sqrt h
  obtain ⟨-, cf, gf, -, hafl, hagr, hlim, hlimnsw, hcf, hgf, -, hrcf, hrgf⟩ := readTs_inv hr
  have six : ti = -((6 : ℕ) : ℤ) := rfl
  rw [six, readAt_neg_eq_some (by norm_num)] at hafl hagr hlim hlimnsw hcf hgf
  rw [show tex = -((1 : ℕ) : ℤ) from rfl, readAt_neg_eq_some Nat.one_pos] at ht
  rw [hf]
  exact ⟨by simp [postprocessExp1, hs, hg], ⟨t, ht, rfl⟩, hafl, hagr, hlim, hlimnsw,
    ⟨cf, hcf, hrcf⟩, ⟨gf, hgf, hrgf⟩⟩

end CalvingMip
