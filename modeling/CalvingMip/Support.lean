import CalvingMip.Pipeline

/-!
# Reads inside the grid, and profiles that fit the buffers

The script computes the centre `Mp` from the row count alone and uses it for both coordinates,
and its mesh loops read the `x` axis over the rows and the `y` axis over the columns. On a
square grid everything it reads is inside its array:

* `sampleEnv?_isSome_iff`: the mesh loops succeed exactly on a square grid, and `sampleEnv?_inv`
  says what they build;
* `inSupport_of_mem_segment`: on a square grid of side at least 5, every point of the closed
  segment of any of the eight transects has its four support cells on the grid;
* `sampleAt_isSome`: the loop body then samples every field there;
* `reads_in_bounds_of_square`: **on a square grid every read of the script is inside its
  array**; `reads_out_of_bounds_5_by_7` shows both kinds of read leaving the grid on a
  non-square one.

With this, `postprocess_eq_of_square` says what the script writes on a square grid, and
`profiles_written_iff_fit` that it writes its profiles, one entry per generated point, exactly
when every transect has at most 300 points; `profiles_overflow_603` is a grid where one has more.
-/

namespace CalvingMip

variable {α : Type} [LinearOrderedField α]

/-! ## The loop's arrays -/

/-- The arrays the loop reads, in the order of `SampleEnv`'s fields. -/
def SampleEnv.arrays (E : SampleEnv α) : List (Array2 α) :=
  [E.xm, E.ym, E.thk, E.xvm, E.yvm, E.mask]

/-- Every array the loop reads has shape `(rows, cols)`. -/
def SampleEnv.HasShape (E : SampleEnv α) (rows cols : ℕ) : Prop :=
  ∀ a ∈ E.arrays, a.rows = rows ∧ a.cols = cols

theorem sampleEnv?_isSome_iff (snap : Snapshot α) :
    (sampleEnv? snap).isSome ↔ snap.x.length = snap.y.length := by
  rw [Nat.le_antisymm_iff, ← meshX_isSome_iff snap.x snap.y.length snap.x.length,
    ← meshY_isSome_iff snap.y snap.y.length snap.x.length]
  simp only [sampleEnv?, Option.bind_eq_bind]
  cases meshX snap.x snap.y.length snap.x.length <;>
    cases meshY snap.y snap.y.length snap.x.length <;> simp

theorem length_x_eq_length_y {snap : Snapshot α} {E : SampleEnv α}
    (hE : sampleEnv? snap = some E) : snap.x.length = snap.y.length :=
  (sampleEnv?_isSome_iff snap).1 (hE ▸ rfl)

/-- Inversion of the mesh stage: both meshes built, and the sampled fields are the
snapshot's. -/
theorem sampleEnv?_inv {snap : Snapshot α} {E : SampleEnv α} (h : sampleEnv? snap = some E) :
    meshX snap.x snap.y.length snap.x.length = some E.xm ∧
      meshY snap.y snap.y.length snap.x.length = some E.ym ∧ E.thk = snap.field snap.thk ∧
      E.xvm = snap.field snap.xvm ∧ E.yvm = snap.field snap.yvm ∧
      E.mask = snap.field snap.mask := by
  simp only [sampleEnv?, Option.bind_eq_bind, Option.bind_eq_some, Option.pure_def,
    Option.some.injEq] at h
  obtain ⟨xm, hx, ym, hy, rfl⟩ := h
  exact ⟨hx, hy, rfl, rfl, rfl, rfl⟩

theorem hasShape_of_sampleEnv? {snap : Snapshot α} {E : SampleEnv α}
    (h : sampleEnv? snap = some E) :
    E.HasShape snap.y.length snap.x.length := by
  obtain ⟨hx, hy, ht, hu, hv, hm⟩ := sampleEnv?_inv h
  have sx := shape_of_meshLoop_eq_some hx
  have sy := shape_of_meshLoop_eq_some hy
  simp only [Array2.rows_const, Array2.cols_const] at sx sy
  simp [SampleEnv.HasShape, SampleEnv.arrays, Snapshot.field, sx, sy, ht, hu, hv, hm]

/-! ## The transects of a square grid -/

/-- The ends of every transect of a square grid of side `n ≥ 5` lie in `[2, n - 2]²`. -/
theorem transects_mem_Icc {n : ℕ} (hn : 5 ≤ n) {t : (ℤ × ℤ) × (ℤ × ℤ)} (ht : t ∈ transects n n) :
    t.1.1 ∈ Set.Icc (2 : ℤ) (n - 2) ∧ t.1.2 ∈ Set.Icc (2 : ℤ) (n - 2) ∧
      t.2.1 ∈ Set.Icc (2 : ℤ) (n - 2) ∧ t.2.2 ∈ Set.Icc (2 : ℤ) (n - 2) := by
  have h2 : 2 ≤ (n - 1) / 2 := by omega
  have h3 : (n - 1) / 2 ≤ n - 2 := by omega
  simp only [transects, pointsA, pointsB, pointsC, pointsD, pointsE, pointsF, pointsG, pointsH,
    mp, List.mem_cons, List.mem_singleton, List.not_mem_nil, or_false] at ht
  rcases ht with rfl | rfl | rfl | rfl | rfl | rfl | rfl | rfl <;>
    simp only [Set.mem_Icc] <;> omega

/-- The ends of every transect of a square grid of side `n ≥ 5` are at most `2 (n - 4)²` apart,
squared. -/
theorem dist2_le_of_square {n : ℕ} (hn : 5 ≤ n) {t : (ℤ × ℤ) × (ℤ × ℤ)} (ht : t ∈ transects n n) :
    dist2 (toPoint t.1 : α × α) (toPoint t.2) ≤ 2 * ((n : α) - 4) ^ 2 := by
  have key : ∀ u v : ℤ, u ∈ Set.Icc (2 : ℤ) (n - 2) → v ∈ Set.Icc (2 : ℤ) (n - 2) →
      ((v : α) - u) ^ 2 ≤ ((n : α) - 4) ^ 2 := fun u v hu hv => by
    rw [Set.mem_Icc] at hu hv
    have hz : (v - u) ^ 2 ≤ ((n : ℤ) - 4) ^ 2 := sq_le_sq' (by omega) (by omega)
    have : ((v - u : ℤ) : α) ^ 2 ≤ (((n : ℤ) - 4 : ℤ) : α) ^ 2 := by exact_mod_cast hz
    push_cast at this
    exact this
  obtain ⟨a, b, c, d⟩ := transects_mem_Icc hn ht
  unfold dist2 toPoint
  linarith [key _ _ a c, key _ _ b d]

theorem cast_mem_Icc {n : ℕ} {z : ℤ} (h : z ∈ Set.Icc (2 : ℤ) (n - 2)) :
    (z : α) ∈ Set.Icc (2 : α) (n - 2) :=
  ⟨by exact_mod_cast h.1, by exact_mod_cast h.2⟩

/-- Every point of a transect's segment of a square grid of side `n ≥ 5` has both
coordinates in `[2, n - 2]`. -/
theorem mem_Icc_of_mem_segment {n : ℕ} (hn : 5 ≤ n) {t : (ℤ × ℤ) × (ℤ × ℤ)}
    (ht : t ∈ transects n n) {p : α × α} (hp : p ∈ segment α (toPoint t.1) (toPoint t.2)) :
    p.1 ∈ Set.Icc (2 : α) (n - 2) ∧ p.2 ∈ Set.Icc (2 : α) (n - 2) := by
  obtain ⟨a, b, c, d⟩ := transects_mem_Icc hn ht
  obtain ⟨h1, h2⟩ := Set.mem_prod.1 (Prod.segment_subset _ _ hp)
  exact ⟨Set.uIcc_subset_Icc (cast_mem_Icc a) (cast_mem_Icc c) (segment_subset_uIcc _ _ h1),
    Set.uIcc_subset_Icc (cast_mem_Icc b) (cast_mem_Icc d) (segment_subset_uIcc _ _ h2)⟩

variable [FloorRing α]

/-- A grid cell decomposes into its own indices, exchanged, with zero fractions. -/
theorem decompose_toPoint (p : ℤ × ℤ) : decompose (toPoint p : α × α) = ⟨p.2, p.1, 0, 0⟩ := by
  simp [decompose, toPoint]

/-- **On a decomposition whose support cells are on the grid, the loop body samples every
field.** -/
theorem sampleAt_isSome (sqrt : α → α) {E : SampleEnv α} {rows cols : ℕ}
    (hE : E.HasShape rows cols) {p : α × α} (hp : InSupport rows cols (decompose p)) :
    (sampleAt sqrt E p).isSome := by
  have h : ∀ a ∈ E.arrays, InSupport a.rows a.cols (decompose p) := fun a ha => by
    rw [(hE a ha).1, (hE a ha).2]; exact hp
  simp only [SampleEnv.arrays, List.mem_cons, List.mem_singleton, forall_eq_or_imp,
    forall_eq] at h
  obtain ⟨x, hx⟩ := Option.isSome_iff_exists.1 (interpolateAlongTransect_isSome h.2.1)
  obtain ⟨y, hy⟩ := Option.isSome_iff_exists.1 (interpolateAlongTransect_isSome h.1)
  obtain ⟨t, ht⟩ := Option.isSome_iff_exists.1 (interpolateAlongTransect_isSome h.2.2.1)
  obtain ⟨u, hu⟩ := Option.isSome_iff_exists.1 (interpolateAlongTransect_isSome h.2.2.2.1)
  obtain ⟨v, hv⟩ := Option.isSome_iff_exists.1 (interpolateAlongTransect_isSome h.2.2.2.2.1)
  obtain ⟨m, hm⟩ := Option.isSome_iff_exists.1 (nearestAlongTransect_isSome h.2.2.2.2.2.1)
  simp only [sampleAt, sampleFields, Option.bind_eq_bind, hx, hy, ht, hu, hv, hm, Option.some_bind,
    Option.pure_def, Option.isSome_some]

/-- **Every point of a transect's segment of a square grid of side `n ≥ 5` has its four
support cells on the grid.** -/
theorem inSupport_of_mem_segment {n : ℕ} (hn : 5 ≤ n) {t : (ℤ × ℤ) × (ℤ × ℤ)}
    (ht : t ∈ transects n n) {p : α × α} (hp : p ∈ segment α (toPoint t.1) (toPoint t.2)) :
    InSupport n n (decompose p) := by
  obtain ⟨⟨h1, h2⟩, h3, h4⟩ := mem_Icc_of_mem_segment hn ht hp
  exact inSupport_decompose (by linarith) (by linarith) (by linarith) (by linarith)

/-- The evenly spaced generator's transects of a square grid of side `n ≥ 5` have at most
`⌈2 (n - 4)² / dp²⌉ + 1` points. -/
theorem length_le_of_square {n : ℕ} (hn : 5 ≤ n) (dp : α) :
    ∀ po ∈ getTroughs linspaceGenerator (transects n n) dp,
      po.length ≤ ⌈2 * ((n : α) - 4) ^ 2 / dp ^ 2⌉₊ + 1 := by
  intro po hpo
  obtain ⟨t, ht, rfl⟩ := List.mem_map.1 hpo
  simp only [linspaceGenerator, length_linspacePoints, add_le_add_iff_right]
  exact (stepCount_le _ _ _).trans
    (Nat.ceil_mono (div_le_div_of_nonneg_right (dist2_le_of_square hn ht) (sq_nonneg dp)))

/-- The script writes nothing when a transect has more than 300 points. -/
theorem postprocess_eq_none_of_lt (sqrt : α → α) (gen : PointGenerator α) (snap : Snapshot α)
    {dp : α} (h : ∃ po ∈ getTroughs gen (transects snap.y.length snap.x.length) dp,
      300 < po.length) : postprocess sqrt gen snap dp = none := by
  obtain ⟨po, hpo, hlt⟩ := h
  rw [postprocess_eq]
  cases sampleEnv? snap with
  | none => rfl
  | some E => exact if_neg fun hfit => absurd (hfit po hpo) (Nat.not_le.2 hlt)

/-! ## Square grids -/

/-- **On a square grid every read of the script is inside its array**: the mesh loops read the
axes below their lengths, and every point of every transect's segment has its four support cells
on the grid, so that both samplers read inside every field of the grid's shape. -/
theorem reads_in_bounds_of_square (x y : List α) {Mx My : ℕ} (hy : y.length = Mx)
    (hx : x.length = My) (hsq : Mx = My) (h5 : 5 ≤ Mx) :
    (meshX x Mx My).isSome ∧ (meshY y Mx My).isSome ∧
      ∀ t ∈ transects Mx My, ∀ p ∈ segment α (toPoint t.1) (toPoint t.2),
        InSupport Mx My (decompose p) ∧
          ∀ f : Array2 α, f.rows = Mx → f.cols = My →
            (interpolateAlongTransect f (decompose p).i (decompose p).j (decompose p).di
              (decompose p).dj).isSome ∧
            (nearestAlongTransect f (decompose p).i (decompose p).j (decompose p).di
              (decompose p).dj).isSome := by
  subst hsq
  refine ⟨(meshX_isSome_iff x Mx Mx).2 hx.ge, (meshY_isSome_iff y Mx Mx).2 hy.ge,
    fun t ht p hp => ⟨inSupport_of_mem_segment h5 ht hp, fun f hr hc => ?_⟩⟩
  have hs : InSupport f.rows f.cols (decompose p) := hr ▸ hc ▸ inSupport_of_mem_segment h5 ht hp
  exact ⟨interpolateAlongTransect_isSome hs, nearestAlongTransect_isSome hs⟩

theorem reads_in_bounds_of_square_5 :
    (List.replicate 5 (0 : ℝ)).length = 5 ∧ 5 ≤ 5 ∧
      (meshX (List.replicate 5 (0 : ℝ)) 5 5).isSome ∧
      (meshY (List.replicate 5 (0 : ℝ)) 5 5).isSome ∧
      ∀ t ∈ transects 5 5, ∀ p ∈ segment ℝ (toPoint t.1 : ℝ × ℝ) (toPoint t.2),
        InSupport 5 5 (decompose p) ∧
          ∀ f : Array2 ℝ, f.rows = 5 → f.cols = 5 →
            (interpolateAlongTransect f (decompose p).i (decompose p).j (decompose p).di
              (decompose p).dj).isSome ∧
            (nearestAlongTransect f (decompose p).i (decompose p).j (decompose p).di
              (decompose p).dj).isSome :=
  ⟨List.length_replicate 5 0, le_rfl, reads_in_bounds_of_square (List.replicate 5 (0 : ℝ))
    (List.replicate 5 0) (List.length_replicate 5 0) (List.length_replicate 5 0) rfl le_rfl⟩

/-- On a grid of 5 rows and 7 columns the mesh loop over the columns reads `y[5]`, past the
five-entry `y` axis, and the end `(2, 5)` of transect `A` has its row index `5` off the grid. -/
theorem reads_out_of_bounds_5_by_7 :
    meshY (List.replicate 5 (0 : ℝ)) 5 7 = none ∧
      ∃ t ∈ transects 5 7, ∃ p ∈ segment ℝ (toPoint t.1 : ℝ × ℝ) (toPoint t.2),
        ¬InSupport 5 7 (decompose p) := by
  refine ⟨by rw [meshY, meshLoop_eq]; simp, pointsA 5 7, by simp [transects], (2, 5), ?_,
    fun h => absurd h.i_le (by norm_num)⟩
  simpa [pointsA, mp, toPoint] using
    right_mem_segment ℝ (toPoint (pointsA 5 7).1 : ℝ × ℝ) (toPoint (pointsA 5 7).2)

/-- The points the generator produces for the transects of a square grid all sample. -/
theorem mapM_sampleAt_isSome (sqrt : α → α) (gen : PointGenerator α) {n : ℕ} (hn : 5 ≤ n)
    {E : SampleEnv α} (hE : E.HasShape n n) {dp : α} (hdp : 0 < dp) :
    ((getTroughs gen (transects n n) dp).mapM (List.mapM (sampleAt sqrt E))).isSome := by
  refine mapM_isSome fun po hpo => mapM_isSome fun p hp => ?_
  obtain ⟨t, ht, rfl⟩ := List.mem_map.1 hpo
  exact sampleAt_isSome sqrt hE
    (inSupport_of_mem_segment hn ht (gen.mem_segment _ _ _ hdp p hp))

/-- On a square grid the meshes build and every generated point samples; the script then writes
the profiles of those samples exactly when every transect fits the buffers. -/
theorem postprocess_eq_of_square (sqrt : α → α) (gen : PointGenerator α) (snap : Snapshot α)
    {n : ℕ} (hx : snap.x.length = n) (hy : snap.y.length = n) (hn : 5 ≤ n) {dp : α}
    (hdp : 0 < dp) :
    ∃ E sss, sampleEnv? snap = some E ∧
      (getTroughs gen (transects n n) dp).mapM (List.mapM (sampleAt sqrt E)) = some sss ∧
      postprocess sqrt gen snap dp =
        if ∀ po ∈ getTroughs gen (transects n n) dp, po.length ≤ 300 then
          some (writeOutput snap (sss.map ProfileRecord.ofSamples))
        else none := by
  obtain ⟨E, hE⟩ := Option.isSome_iff_exists.1 ((sampleEnv?_isSome_iff snap).2 (hx.trans hy.symm))
  have hshape : E.HasShape n n := by
    have := hasShape_of_sampleEnv? hE
    rwa [hx, hy] at this
  obtain ⟨sss, hm⟩ := Option.isSome_iff_exists.1 (mapM_sampleAt_isSome sqrt gen hn hshape hdp)
  refine ⟨E, sss, hE, hm, ?_⟩
  rw [postprocess_eq, hE, hx, hy, Option.some_bind, hm]
  split_ifs <;> rfl

/-- With the evenly spaced generator, a run on a square grid of side `n ≥ 5` writes its file
when `⌈2 (n - 4)² / dp²⌉ + 1 ≤ 300`. -/
theorem postprocess_linspace_isSome (sqrt : α → α) (snap : Snapshot α) {n : ℕ}
    (hx : snap.x.length = n) (hy : snap.y.length = n) (hn : 5 ≤ n) {dp : α} (hdp : 0 < dp)
    (hfit : ⌈2 * ((n : α) - 4) ^ 2 / dp ^ 2⌉₊ + 1 ≤ 300) :
    (postprocess sqrt linspaceGenerator snap dp).isSome := by
  obtain ⟨E, sss, -, -, hp⟩ := postprocess_eq_of_square sqrt linspaceGenerator snap hx hy hn hdp
  rw [hp, if_pos fun po hpo => (length_le_of_square hn dp po hpo).trans hfit]
  rfl

/-- **On a square grid the script writes its profiles exactly when every transect has at most
300 points**, and then each profile variable of each transect holds one entry per generated point,
in order, the matching value of that point's sample. -/
theorem profiles_written_iff_fit (sqrt : α → α) (gen : PointGenerator α) (snap : Snapshot α)
    {n : ℕ} (hx : snap.x.length = n) (hy : snap.y.length = n) (hn : 5 ≤ n) {dp : α}
    (hdp : 0 < dp) :
    ((postprocess sqrt gen snap dp).isSome ↔
        ∀ po ∈ getTroughs gen (transects n n) dp, po.length ≤ 300) ∧
      ∀ out, postprocess sqrt gen snap dp = some out → ∃ E, sampleEnv? snap = some E ∧
        List.Forall₂ (fun po pr => ∃ ss,
          List.Forall₂ (fun p s => sampleAt sqrt E p = some s) po ss ∧
          pr.profile = ss.map Sample.sav ∧ pr.s = ss.map Sample.sav ∧
          pr.lithk = ss.map Sample.hav ∧ pr.mask = ss.map Sample.mav ∧
          pr.xvelmean = ss.map Sample.uav ∧ pr.yvelmean = ss.map Sample.vav)
          (getTroughs gen (transects n n) dp) out.profiles := by
  obtain ⟨E, sss, -, -, hp⟩ := postprocess_eq_of_square sqrt gen snap hx hy hn hdp
  constructor
  · rw [hp]
    split_ifs with h
    · exact iff_of_true rfl h
    · exact iff_of_false (by simp) h
  · intro out hout
    have h := profile_vars_forall₂ sqrt hout
    rwa [hx, hy] at h

theorem profiles_written_iff_fit_5 :
    (zeroSnapshot 5 : Snapshot ℝ).x.length = 5 ∧ (0 : ℝ) < 1 ∧
      (postprocess Real.sqrt linspaceGenerator (zeroSnapshot 5) (1 : ℝ)).isSome :=
  ⟨length_x_zeroSnapshot 5, one_pos,
    (profiles_written_iff_fit Real.sqrt linspaceGenerator (zeroSnapshot 5)
      (length_x_zeroSnapshot 5) (length_y_zeroSnapshot 5) le_rfl one_pos).1.2 fun po hpo =>
        (length_le_of_square le_rfl 1 po hpo).trans (by norm_num)⟩

/-- On the square grid of side 603, at the script's step `dkm / resolution`, transect `C` has
more than 300 points, and the script writes no profile. -/
theorem profiles_overflow_603 :
    (∃ po ∈ getTroughs (linspaceGenerator : PointGenerator ℝ) (transects 603 603)
        (dkm / resolution), 300 < po.length) ∧
      postprocess Real.sqrt linspaceGenerator (zeroSnapshot 603) (dkm / resolution) = none := by
  have hC : 300 < (linspaceGenerator.points (toPoint (pointsC 603).1 : ℝ × ℝ)
      (toPoint (pointsC 603).2) (dkm / resolution)).length := by
    have h := linspaceGenerator.abs_sub_fst_add_le (toPoint (pointsC 603).1 : ℝ × ℝ)
      (toPoint (pointsC 603).2)
      (show (0 : ℝ) < dkm / resolution by rw [dkm_div_resolution]; exact one_pos)
    rw [dkm_div_resolution] at h ⊢
    norm_num [toPoint, pointsC, mp] at h
    exact_mod_cast h
  have hmem : ∃ po ∈ getTroughs (linspaceGenerator : PointGenerator ℝ) (transects 603 603)
      (dkm / resolution), 300 < po.length :=
    ⟨_, List.mem_map.2 ⟨pointsC 603, .tail _ (.tail _ (.head _)), rfl⟩, hC⟩
  refine ⟨hmem, postprocess_eq_none_of_lt _ _ _ ?_⟩
  simp only [length_x_zeroSnapshot, length_y_zeroSnapshot]
  exact hmem

end CalvingMip
