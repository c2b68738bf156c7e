import CalvingMip.Grid

/-!
# The transect point generator

`trans = ph.get_troughs(pism_infile, transects, dp)` (line 77) turns each transect's start and end
into the points at which the loop samples. `get_troughs` belongs to the helper module
`postprocess_helper`, which is not among the repository's sources; it is modelled from the spec,
whose interface is `(start, end, step) ↦` an ordered, finite list of fractional `(row, col)`
points covering the segment from `start` to `end`, both included, at spacing `step`.

`PointGenerator` is that interface: a point function that carries the spec's properties as
fields, so that the results of the later modules hold for every generator the spec admits.
`linspacePoints` is one: the `N + 1` evenly spaced points of the segment, `N` the least number of
steps of length at most `dp` (`stepCount`), and `linspaceGenerator` packages it with its proofs.
-/

namespace CalvingMip

variable {α : Type} [LinearOrderedField α]

/-- The squared distance between two points. -/
def dist2 (p q : α × α) : α := (q.1 - p.1) ^ 2 + (q.2 - p.2) ^ 2

/-- Modelled from the spec: the transect point generator of `get_troughs`,
`(start, end, step) ↦ points`, with what the spec says of its output for a positive step: it
starts at `start` and ends at `end`, every point lies on the closed segment between them, and
consecutive points are at most `step` apart. -/
structure PointGenerator (α : Type) [LinearOrderedField α] where
  points : α × α → α × α → α → List (α × α)
  head?_points : ∀ a b dp, 0 < dp → (points a b dp).head? = some a
  getLast?_points : ∀ a b dp, 0 < dp → (points a b dp).getLast? = some b
  mem_segment : ∀ a b dp, 0 < dp → ∀ p ∈ points a b dp, p ∈ segment α a b
  chain_dist2 : ∀ a b dp, 0 < dp → (points a b dp).Chain' fun p q => dist2 p q ≤ dp ^ 2

/-- A grid index pair as a point. -/
def toPoint (p : ℤ × ℤ) : α × α := (p.1, p.2)

/-- Modelled from the spec: `get_troughs(pism_infile, transects, dp)`, the generator's points of
each transect. The spec's interface does not read the input file. -/
def getTroughs (gen : PointGenerator α) (ts : List ((ℤ × ℤ) × (ℤ × ℤ))) (dp : α) :
    List (List (α × α)) :=
  ts.map fun t => gen.points (toPoint t.1) (toPoint t.2) dp

@[simp] theorem length_getTroughs (gen : PointGenerator α) (ts : List ((ℤ × ℤ) × (ℤ × ℤ)))
    (dp : α) : (getTroughs gen ts dp).length = ts.length := by
  simp [getTroughs]

theorem PointGenerator.points_ne_nil (gen : PointGenerator α) (a b : α × α) {dp : α}
    (hdp : 0 < dp) : gen.points a b dp ≠ [] := by
  intro h
  simpa [h] using gen.head?_points a b dp hdp

theorem dist2_nonneg (a b : α × α) : 0 ≤ dist2 a b := by
  unfold dist2; positivity

theorem eq_of_dist2_nonpos {a b : α × α} (h : dist2 a b ≤ 0) : a = b := by
  unfold dist2 at h
  have h1 := sq_nonneg (b.1 - a.1)
  have h2 := sq_nonneg (b.2 - a.2)
  exact Prod.ext (sub_eq_zero.1 ((pow_eq_zero_iff two_ne_zero).1 (by linarith))).symm
    (sub_eq_zero.1 ((pow_eq_zero_iff two_ne_zero).1 (by linarith))).symm

theorem dist2_add_smul (a b : α × α) (s t : α) :
    dist2 (a + s • (b - a)) (a + t • (b - a)) = (t - s) ^ 2 * dist2 a b := by
  simp only [dist2, Prod.fst_add, Prod.snd_add, Prod.smul_fst, Prod.smul_snd, Prod.fst_sub,
    Prod.snd_sub, smul_eq_mul]
  ring

/-! ## Point counts -/

theorem abs_sub_fst_le_of_dist2_le {p q : α × α} {dp : α} (hdp : 0 ≤ dp)
    (h : dist2 p q ≤ dp ^ 2) : |q.1 - p.1| ≤ dp :=
  abs_le_of_sq_le_sq ((le_add_of_nonneg_right (sq_nonneg (q.2 - p.2))).trans h) hdp

/-- Along a list of points at most `dp` apart, the first coordinate moves by at most `dp` per
step. -/
theorem abs_sub_fst_getLast_le {dp : α} (hdp : 0 ≤ dp) (p : α × α) (ps : List (α × α))
    (h : (p :: ps).Chain' fun p q => dist2 p q ≤ dp ^ 2) :
    |((p :: ps).getLast (List.cons_ne_nil p ps)).1 - p.1| ≤ ps.length * dp := by
  induction ps generalizing p with
  | nil => simp
  | cons q qs ih =>
    rw [List.chain'_cons] at h
    rw [List.getLast_cons_cons]
    calc _ ≤ |((q :: qs).getLast (List.cons_ne_nil q qs)).1 - q.1| + |q.1 - p.1| :=
          abs_sub_le _ _ _
      _ ≤ qs.length * dp + dp := add_le_add (ih q h.2) (abs_sub_fst_le_of_dist2_le hdp h.1)
      _ = (q :: qs).length * dp := by push_cast [List.length_cons]; ring

/-- **Every generator takes at least `|b.1 - a.1| / dp + 1` points** from `a` to `b`. -/
theorem PointGenerator.abs_sub_fst_add_le (gen : PointGenerator α) (a b : α × α) {dp : α}
    (hdp : 0 < dp) : |b.1 - a.1| + dp ≤ (gen.points a b dp).length * dp := by
  obtain ⟨p, ps, hps⟩ := List.exists_cons_of_ne_nil (gen.points_ne_nil a b hdp)
  have hhead := gen.head?_points a b dp hdp
  have hlast := gen.getLast?_points a b dp hdp
  have hchain := gen.chain_dist2 a b dp hdp
  rw [hps] at hhead hlast hchain
  rw [List.head?_cons, Option.some.injEq] at hhead
  rw [List.getLast?_eq_getLast _ (List.cons_ne_nil p ps), Option.some.injEq] at hlast
  have := abs_sub_fst_getLast_le hdp.le p ps hchain
  rw [hlast, hhead] at this
  rw [hps, List.length_cons]
  push_cast
  linarith

/-! ## Evenly spaced points -/

/-- The least `N ≤ bound` with `d2 ≤ (N * dp)²`, searched downwards from `bound`. -/
def leastSteps (d2 dp : α) : ℕ → ℕ
  | 0 => 0
  | b + 1 => if d2 ≤ (b * dp) ^ 2 then leastSteps d2 dp b else b + 1

theorem leastSteps_le (d2 dp : α) (bound : ℕ) : leastSteps d2 dp bound ≤ bound := by
  induction bound with
  | zero => exact le_rfl
  | succ b ih =>
    unfold leastSteps
    split_ifs <;> omega

theorem le_leastSteps_sq {d2 dp : α} {bound : ℕ} (h : d2 ≤ (bound * dp) ^ 2) :
    d2 ≤ (leastSteps d2 dp bound * dp) ^ 2 := by
  induction bound with
  | zero => exact h
  | succ b ih =>
    unfold leastSteps
    split_ifs with hb
    · exact ih hb
    · exact h

variable [FloorRing α]

/-- `⌈|b - a| / dp⌉`, the least number of steps of length at most `dp` from `a` to `b`, searched
below `⌈|b - a|² / dp²⌉`. -/
def stepCount (a b : α × α) (dp : α) : ℕ := leastSteps (dist2 a b) dp ⌈dist2 a b / dp ^ 2⌉₊

theorem dist2_le_stepCount_sq (a b : α × α) {dp : α} (hdp : 0 < dp) :
    dist2 a b ≤ (stepCount a b dp * dp) ^ 2 := by
  apply le_leastSteps_sq
  have hc : dist2 a b / dp ^ 2 ≤ (⌈dist2 a b / dp ^ 2⌉₊ : α) ^ 2 :=
    (Nat.le_ceil _).trans (by exact_mod_cast Nat.le_self_pow two_ne_zero _)
  rw [mul_pow]
  exact (div_le_iff₀ (by positivity)).1 hc

/-- Modelled from the spec: the `N + 1` points `a + (k / N)(b - a)`, `k = 0, …, N`, of the
segment from `a` to `b`, with `N = stepCount a b dp`. -/
def linspacePoints (a b : α × α) (dp : α) : List (α × α) :=
  (List.range (stepCount a b dp + 1)).map fun (k : ℕ) => a + ((k : α) / stepCount a b dp) • (b - a)

theorem eq_of_stepCount_eq_zero {a b : α × α} {dp : α} (hdp : 0 < dp)
    (h : stepCount a b dp = 0) : a = b := by
  have hd := dist2_le_stepCount_sq a b hdp
  rw [h, Nat.cast_zero, zero_mul, sq, mul_zero] at hd
  exact eq_of_dist2_nonpos hd

@[simp] theorem length_linspacePoints (a b : α × α) (dp : α) :
    (linspacePoints a b dp).length = stepCount a b dp + 1 := by
  simp [linspacePoints]

theorem stepCount_le (a b : α × α) (dp : α) : stepCount a b dp ≤ ⌈dist2 a b / dp ^ 2⌉₊ :=
  leastSteps_le _ _ _

theorem head?_linspacePoints (a b : α × α) (dp : α) : (linspacePoints a b dp).head? = some a := by
  simp [linspacePoints, List.head?_range]

theorem getLast?_linspacePoints (a b : α × α) {dp : α} (hdp : 0 < dp) :
    (linspacePoints a b dp).getLast? = some b := by
  simp only [linspacePoints, List.getLast?_map, List.getLast?_range, Nat.add_sub_cancel,
    Nat.add_one_ne_zero, if_false, Option.map_some', Option.some.injEq]
  rcases Nat.eq_zero_or_pos (stepCount a b dp) with h | h
  · simp [h, eq_of_stepCount_eq_zero hdp h]
  · rw [div_self (by exact_mod_cast h.ne'), one_smul, add_sub_cancel]

theorem mem_segment_of_mem_linspacePoints {a b p : α × α} {dp : α}
    (hp : p ∈ linspacePoints a b dp) : p ∈ segment α a b := by
  obtain ⟨k, hk, rfl⟩ := List.mem_map.1 hp
  rw [segment_eq_image']
  refine ⟨_, ⟨by positivity, div_le_one_of_le₀ ?_ (by positivity)⟩, rfl⟩
  exact_mod_cast Nat.lt_succ_iff.1 (List.mem_range.1 hk)

theorem chain_dist2_linspacePoints (a b : α × α) {dp : α} (hdp : 0 < dp) :
    (linspacePoints a b dp).Chain' fun p q => dist2 p q ≤ dp ^ 2 := by
  rw [linspacePoints, List.chain'_map, List.chain'_range_succ]
  intro m hm
  have hN : (0 : α) < stepCount a b dp := by exact_mod_cast (Nat.zero_le m).trans_lt hm
  have hstep : ((m.succ : ℕ) : α) / stepCount a b dp - (m : α) / stepCount a b dp =
      1 / stepCount a b dp := by push_cast; ring
  rw [dist2_add_smul, hstep, div_pow, one_pow, one_div_mul_eq_div, div_le_iff₀ (by positivity),
    ← mul_pow, mul_comm dp]
  exact dist2_le_stepCount_sq a b hdp

/-- Modelled from the spec: the evenly spaced generator, a `PointGenerator`. -/
def linspaceGenerator : PointGenerator α where
  points := linspacePoints
  head?_points a b dp _ := head?_linspacePoints a b dp
  getLast?_points a b _ hdp := getLast?_linspacePoints a b hdp
  mem_segment _ _ _ _ _ := mem_segment_of_mem_linspacePoints
  chain_dist2 a b _ hdp := chain_dist2_linspacePoints a b hdp

end CalvingMip
