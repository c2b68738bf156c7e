import CalvingMip.Support

/-!
# Thickness profiles of a symmetric ice shelf

The eight transects start at the centre `(Mp, Mp)` and end at `Mx-2` on the far side of each axis
and at `2` on the near side (lines 64-72). On a square grid of odd side `n` the far ends are
`(n-3)/2` cells from the centre and the near ones `(n-5)/2`, so a thickness that every symmetry
of the square keeps, such as the Chebyshev distance from the centre, still ends profiles `C` and
`G`, and `B` and `F`, on different values (`edge_profiles_differ`).
-/

namespace CalvingMip

/-- The eight symmetries of the square about its centre cell. -/
inductive SquareSymmetry
  | id
  | rot90
  | rot180
  | rot270
  | flipRows
  | flipCols
  | transpose
  | antiTranspose
  deriving DecidableEq

/-- The image of the cell `(r, c)` of a grid of side `n`, the reflections of an axis being
`r ↦ 2 Mp - r` about the centre `Mp`. -/
def SquareSymmetry.act (n : ℕ) : SquareSymmetry → ℕ × ℕ → ℕ × ℕ
  | .id, (r, c) => (r, c)
  | .rot90, (r, c) => (c, 2 * mp n - r)
  | .rot180, (r, c) => (2 * mp n - r, 2 * mp n - c)
  | .rot270, (r, c) => (2 * mp n - c, r)
  | .flipRows, (r, c) => (2 * mp n - r, c)
  | .flipCols, (r, c) => (r, 2 * mp n - c)
  | .transpose, (r, c) => (c, r)
  | .antiTranspose, (r, c) => (2 * mp n - c, 2 * mp n - r)

variable {α : Type} [LinearOrderedField α]

/-- A field on the `n × n` grid that every symmetry of the square about the centre cell keeps. -/
def IsSquareSymmetric (n : ℕ) (H : ℕ → ℕ → α) : Prop :=
  ∀ g : SquareSymmetry, ∀ r < n, ∀ c < n, H (g.act n (r, c)).1 (g.act n (r, c)).2 = H r c

/-- The Chebyshev distance of the cell `(r, c)` from the centre cell `(Mp, Mp)`. -/
def chebyshev (n r c : ℕ) : α := (max (Nat.dist r (mp n)) (Nat.dist c (mp n)) : ℕ)

theorem dist_reflect {m r : ℕ} (h : r ≤ 2 * m) : Nat.dist (2 * m - r) m = Nat.dist r m := by
  simp only [Nat.dist]
  omega

theorem isSquareSymmetric_chebyshev {n : ℕ} (hn : n % 2 = 1) :
    IsSquareSymmetric n (chebyshev n : ℕ → ℕ → α) := by
  intro g r hr c hc
  have hr' : r ≤ 2 * mp n := by unfold mp; omega
  have hc' : c ≤ 2 * mp n := by unfold mp; omega
  unfold chebyshev
  cases g <;> simp only [SquareSymmetry.act, dist_reflect hr', dist_reflect hc', max_comm]

/-- On an odd grid of side `n ≥ 5` the far end `n - 2` of a transect is `(n - 3)/2` cells from
the centre, and the near end `2` is `(n - 5)/2` cells from it. -/
theorem dist_ends {n : ℕ} (hodd : n % 2 = 1) (hn : 5 ≤ n) :
    Nat.dist ((n : ℤ) - 2).toNat (mp n) = (n - 3) / 2 ∧ Nat.dist 2 (mp n) = (n - 5) / 2 := by
  unfold mp Nat.dist
  omega

variable [FloorRing α]

/-- At a grid cell inside the grid, the loop body stores the thickness of that cell. -/
theorem hav_of_sampleAt_toPoint (sqrt : α → α) {snap : Snapshot α} {E : SampleEnv α}
    (hE : sampleEnv? snap = some E) {p : ℤ × ℤ} {s : Sample α}
    (hs : sampleAt sqrt E (toPoint p) = some s) (ha : 0 ≤ p.1) (ha' : p.1 + 1 < snap.x.length)
    (hb : 0 ≤ p.2) (hb' : p.2 + 1 < snap.y.length) : s.hav = snap.thk p.2.toNat p.1.toNat := by
  have hh := ((sampleFields_eq_some_iff sqrt).1 hs).2.2.1
  rw [decompose_toPoint, (sampleEnv?_inv hE).2.2.1] at hh
  exact (Option.some.inj ((interpolateAlongTransect_zero hb hb' ha ha').symm.trans hh)).symm

/-- The last thickness of every profile a run writes on a square grid is the thickness at its
transect's end. -/
theorem lithk_getLast? (sqrt : α → α) {gen : PointGenerator α} {snap : Snapshot α} {dp : α}
    (hdp : 0 < dp) {out : Output α} (h : postprocess sqrt gen snap dp = some out) {n : ℕ}
    (hx : snap.x.length = n) (hy : snap.y.length = n) (hn : 5 ≤ n) {l : ℕ}
    {t : (ℤ × ℤ) × (ℤ × ℤ)} (ht : (transects n n)[l]? = some t) :
    (out.profiles[l]?.bind fun pr => pr.lithk.getLast?) =
      some (snap.thk t.2.2.toNat t.2.1.toNat) := by
  obtain ⟨E, -, hE, -⟩ := postprocess_inv sqrt h
  have ht' : (transects snap.y.length snap.x.length)[l]? = some t := by rw [hx, hy]; exact ht
  obtain ⟨ss, s, hpr, hs, hlast⟩ := profile_getLast? sqrt hdp h hE ht'
  obtain ⟨-, -, ⟨h1, h2⟩, h3, h4⟩ := transects_mem_Icc hn (List.getElem?_mem ht)
  have hhav := hav_of_sampleAt_toPoint sqrt hE hs (by omega) (by omega) (by omega) (by omega)
  rw [hpr]
  simp [List.getLast?_map, hlast, hhav]

/-- **Profiles `C` and `G`, and profiles `B` and `F`, of a symmetric ice shelf end on different
thicknesses**: `(n-3)/2` and `(n-5)/2` for the Chebyshev thickness on an odd square grid. -/
theorem edge_profiles_differ (sqrt : α → α) (gen : PointGenerator α) {n : ℕ} (hodd : n % 2 = 1)
    (hn : 5 ≤ n) {dp : α} (hdp : 0 < dp) {snap : Snapshot α} (hx : snap.x.length = n)
    (hy : snap.y.length = n) (hthk : snap.thk = chebyshev n) {out : Output α}
    (h : postprocess sqrt gen snap dp = some out) :
    IsSquareSymmetric n snap.thk ∧
      (out.profiles[2]?.bind fun pr => pr.lithk.getLast?) = some (((n - 3) / 2 : ℕ) : α) ∧
      (out.profiles[6]?.bind fun pr => pr.lithk.getLast?) = some (((n - 5) / 2 : ℕ) : α) ∧
      (out.profiles[1]?.bind fun pr => pr.lithk.getLast?) = some (((n - 3) / 2 : ℕ) : α) ∧
      (out.profiles[5]?.bind fun pr => pr.lithk.getLast?) = some (((n - 5) / 2 : ℕ) : α) ∧
      out.profiles[2]?.map ProfileRecord.lithk ≠ out.profiles[6]?.map ProfileRecord.lithk ∧
      out.profiles[1]?.map ProfileRecord.lithk ≠ out.profiles[5]?.map ProfileRecord.lithk := by
  have last : ∀ l (t : (ℤ × ℤ) × (ℤ × ℤ)) (k : ℕ), (transects n n)[l]? = some t →
      max (Nat.dist t.2.2.toNat (mp n)) (Nat.dist t.2.1.toNat (mp n)) = k →
      (out.profiles[l]?.bind fun pr : ProfileRecord α => pr.lithk.getLast?) = some (k : α) :=
    fun l t k ht hk => by rw [lithk_getLast? sqrt hdp h hx hy hn ht, hthk, chebyshev, hk]
  have differ : ∀ l l' k k' : ℕ, k ≠ k' →
      (out.profiles[l]?.bind fun pr : ProfileRecord α => pr.lithk.getLast?) = some (k : α) →
      (out.profiles[l']?.bind fun pr : ProfileRecord α => pr.lithk.getLast?) = some (k' : α) →
      out.profiles[l]?.map ProfileRecord.lithk ≠ out.profiles[l']?.map ProfileRecord.lithk := by
    intro l l' k k' hk hl hl' heq
    have := congrArg (Option.bind · List.getLast?) heq
    simp only [Option.bind_map, Function.comp_def, hl, hl', Option.some.injEq, Nat.cast_inj] at this
    exact hk this
  obtain ⟨far, near⟩ := dist_ends hodd hn
  have hC := last 2 (pointsC n) ((n - 3) / 2) rfl (by simp [pointsC, far])
  have hG := last 6 (pointsG n) ((n - 5) / 2) rfl (by simp [pointsG, near])
  have hB := last 1 (pointsB n n) ((n - 3) / 2) rfl (by simp [pointsB, far])
  have hF := last 5 (pointsF n) ((n - 5) / 2) rfl (by simp [pointsF, near])
  exact ⟨hthk ▸ isSquareSymmetric_chebyshev hodd, hC, hG, hB, hF,
    differ 2 6 _ _ (by omega) hC hG, differ 1 5 _ _ (by omega) hB hF⟩

theorem edge_profiles_differ_7 :
    ∃ out, postprocess Real.sqrt linspaceGenerator
        ({ zeroSnapshot 7 with thk := chebyshev 7 } : Snapshot ℝ) (dkm / resolution) = some out ∧
      IsSquareSymmetric 7 (chebyshev 7 : ℕ → ℕ → ℝ) ∧
      (out.profiles[2]?.bind fun pr => pr.lithk.getLast?) = some (((7 - 3) / 2 : ℕ) : ℝ) ∧
      (out.profiles[6]?.bind fun pr => pr.lithk.getLast?) = some (((7 - 5) / 2 : ℕ) : ℝ) ∧
      (out.profiles[1]?.bind fun pr => pr.lithk.getLast?) = some (((7 - 3) / 2 : ℕ) : ℝ) ∧
      (out.profiles[5]?.bind fun pr => pr.lithk.getLast?) = some (((7 - 5) / 2 : ℕ) : ℝ) ∧
      out.profiles[2]?.map ProfileRecord.lithk ≠ out.profiles[6]?.map ProfileRecord.lithk ∧
      out.profiles[1]?.map ProfileRecord.lithk ≠ out.profiles[5]?.map ProfileRecord.lithk := by
  let snap : Snapshot ℝ := { zeroSnapshot 7 with thk := chebyshev 7 }
  have hdp : (0 : ℝ) < dkm / resolution := by rw [dkm_div_resolution]; exact one_pos
  obtain ⟨out, h⟩ := Option.isSome_iff_exists.1 (postprocess_linspace_isSome Real.sqrt snap
    (show snap.x.length = 7 from rfl) rfl (by norm_num) hdp (by norm_num [dkm_div_resolution]))
  exact ⟨out, h, edge_profiles_differ Real.sqrt linspaceGenerator (by norm_num) (by norm_num) hdp
    rfl rfl rfl h⟩

end CalvingMip
