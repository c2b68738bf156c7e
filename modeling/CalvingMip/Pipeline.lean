import CalvingMip.Sampler
import CalvingMip.Generator

/-!
# The sampling loop and the written profiles

Lines 96-139 of the script sample every transect point into seven preallocated buffers of 300
columns, one row per transect; lines 257-319 write each buffer row, cut to the transect's number
of points, as that transect's profile variables; lines 169-171 turn the zeros of the velocity and
thickness fields into missing values before the fields are written. `postprocess` is this part
of the script, from the grid shape (line 44) to the written file.

The buffers are one `Array2 (Sample α)`: the seven numpy arrays `xav`..`sav` have the same shape
and the loop writes all seven at the same `[l, k]`, so an array of seven-value records holds the
same data. A failure anywhere (an `IndexError` in a sampler, or a write past the 300 columns)
aborts the script, so the order of the loop body's reads and writes does not change the outcome.

* `sampleTransect_eq`, `sampleAll_eq`: the loops succeed exactly when every transect fits in the
  buffers and every point samples, and then fill one buffer row per transect;
* `writeProfiles_sampleAll`: **the buffered loop followed by the cut writes computes the record
  of each transect's samples**, one entry per point, in order, or fails;
* `postprocess_eq`: the whole stage in those terms, and `postprocess_inv` its inversion;
* `profile_vars_forall₂`: each written profile variable holds the matching value of the samples
  of its transect's points, one per point and in order; `profile_getLast?`: a profile ends with
  the sample of its transect's end.
-/

namespace CalvingMip

/-- The seven values the loop stores for one point, in the buffers `xav`, `yav`, `sav`, `Hav`,
`mav`, `uav` and `vav`. -/
structure Sample (α : Type) where
  xav : α
  yav : α
  sav : α
  hav : α
  mav : α
  uav : α
  vav : α

instance {α : Type} [Zero α] : Zero (Sample α) := ⟨⟨0, 0, 0, 0, 0, 0, 0⟩⟩

/-- The arrays the loop samples: the meshes `exp1_xm` and `exp1_ym` and the fields `exp1_thk`,
`exp1_xvm`, `exp1_yvm` and `exp1_mask`. -/
structure SampleEnv (α : Type) where
  xm : Array2 α
  ym : Array2 α
  thk : Array2 α
  xvm : Array2 α
  yvm : Array2 α
  mask : Array2 α

/-- The six profile variables of one transect `X`: `Profile X` and `sX` (both from `sav`),
`lithkX`, `maskX`, `xvelmeanX` and `yvelmeanX`. -/
structure ProfileRecord (α : Type) where
  profile : List α
  s : List α
  lithk : List α
  mask : List α
  xvelmean : List α
  yvelmean : List α

/-- The profile record of the samples `ss`, one entry per sample. -/
def ProfileRecord.ofSamples {α : Type} (ss : List (Sample α)) : ProfileRecord α :=
  ⟨ss.map Sample.sav, ss.map Sample.sav, ss.map Sample.hav, ss.map Sample.mav, ss.map Sample.uav,
    ss.map Sample.vav⟩

namespace ProfileRecord

variable {α : Type} (ss : List (Sample α))

@[simp] theorem profile_ofSamples : (ofSamples ss).profile = ss.map Sample.sav := rfl

@[simp] theorem s_ofSamples : (ofSamples ss).s = ss.map Sample.sav := rfl

@[simp] theorem lithk_ofSamples : (ofSamples ss).lithk = ss.map Sample.hav := rfl

@[simp] theorem mask_ofSamples : (ofSamples ss).mask = ss.map Sample.mav := rfl

@[simp] theorem xvelmean_ofSamples : (ofSamples ss).xvelmean = ss.map Sample.uav := rfl

@[simp] theorem yvelmean_ofSamples : (ofSamples ss).yvelmean = ss.map Sample.vav := rfl

/-- A record is that of `ss` exactly when each of its six variables holds the matching values of
`ss`, one per sample and in order. -/
theorem eq_ofSamples_iff {pr : ProfileRecord α} :
    pr = ofSamples ss ↔ pr.profile = ss.map Sample.sav ∧ pr.s = ss.map Sample.sav ∧
      pr.lithk = ss.map Sample.hav ∧ pr.mask = ss.map Sample.mav ∧
      pr.xvelmean = ss.map Sample.uav ∧ pr.yvelmean = ss.map Sample.vav := by
  cases pr
  simp only [ofSamples, mk.injEq]

end ProfileRecord

/-- What the script writes: the axes, the six fields over `('Time','Y','X')` and the eight
profiles `A`..`H`. A missing value (numpy's `nan`) is `none`. -/
structure Output (α : Type) where
  x : List α
  y : List α
  xvelmean : Array2 (Option α)
  yvelmean : Array2 (Option α)
  lithk : Array2 (Option α)
  mask : Array2 α
  calverate : Array2 α
  topg : Array2 α
  profiles : List (ProfileRecord α)

variable {α : Type}

/-- A list of `Option` computations succeeds with `l'` exactly when each succeeds with the
value at the same position. -/
theorem mapM_eq_some_iff {β γ : Type} {f : β → Option γ} {l : List β} {l' : List γ} :
    l.mapM f = some l' ↔ List.Forall₂ (fun a b => f a = some b) l l' := by
  induction l generalizing l' with
  | nil =>
    cases l' with
    | nil => exact ⟨fun _ => .nil, fun _ => rfl⟩
    | cons b l' => exact ⟨fun h => List.noConfusion (Option.some.inj h), fun h => nomatch h⟩
  | cons a l ih =>
    rw [List.mapM_cons]
    cases h : f a with
    | none => cases l' <;> simp [h]
    | some b =>
      cases l' with
      | nil => simp [h, Option.bind_eq_some]
      | cons c l' =>
        simp only [Option.bind_eq_bind, Option.some_bind, Option.bind_eq_some, ih,
          List.forall₂_cons, h, Option.pure_def, Option.some.injEq, List.cons.injEq]
        exact ⟨fun ⟨_, hF, hb, hl⟩ => ⟨hb, hl ▸ hF⟩, fun ⟨hb, hF⟩ => ⟨_, hF, hb, rfl⟩⟩

theorem mapM_isSome {β γ : Type} {f : β → Option γ} {l : List β} (h : ∀ a ∈ l, (f a).isSome) :
    (l.mapM f).isSome := by
  induction l with
  | nil => rfl
  | cons a l ih =>
    obtain ⟨b, hb⟩ := Option.isSome_iff_exists.1 (h a (List.mem_cons_self a l))
    obtain ⟨bs, hbs⟩ := Option.isSome_iff_exists.1 (ih fun x hx => h x (List.mem_cons_of_mem a hx))
    rw [List.mapM_cons, hb, hbs]
    rfl

theorem getElem?_of_forall₂ {β γ : Type} {R : β → γ → Prop} {l : List β} {l' : List γ}
    (h : List.Forall₂ R l l') {i : ℕ} {a : β} (ha : l[i]? = some a) :
    ∃ b, R a b ∧ l'[i]? = some b := by
  induction h generalizing i with
  | nil => simp at ha
  | cons hab _ ih =>
    cases i with
    | zero =>
      cases Option.some.inj (List.getElem?_cons_zero ▸ ha)
      exact ⟨_, hab, List.getElem?_cons_zero⟩
    | succ i => simpa using ih (List.getElem?_cons_succ ▸ ha)

theorem getLast?_of_forall₂ {β γ : Type} {R : β → γ → Prop} {l : List β} {l' : List γ}
    (h : List.Forall₂ R l l') {a : β} (ha : l.getLast? = some a) :
    ∃ b, R a b ∧ l'.getLast? = some b := by
  rw [List.getLast?_eq_getElem?] at ha ⊢
  rw [← h.length_eq]
  exact getElem?_of_forall₂ h ha

theorem exists_of_forall₂_of_mem {β γ : Type} {R : β → γ → Prop} {l : List β} {l' : List γ}
    (h : List.Forall₂ R l l') {b : γ} (hb : b ∈ l') : ∃ a ∈ l, R a b := by
  induction h with
  | nil => cases hb
  | cons hab _ ih =>
    rcases List.mem_cons.1 hb with rfl | hb
    · exact ⟨_, List.mem_cons_self _ _, hab⟩
    · obtain ⟨a, ha, h⟩ := ih hb
      exact ⟨a, List.mem_cons_of_mem _ ha, h⟩

/-! ## The write -/

/-- One of the eight blocks of lines 257-319, for transect `l`: `cut = np.shape(trans[l])[0]`,
then `sav[l][0:cut]` to `Profile X` and `sX`, `Hav[l][0:cut]` to `lithkX`, `mav[l][0:cut]` to
`maskX`, `uav[l][0:cut]` to `xvelmeanX` and `vav[l][0:cut]` to `yvelmeanX`. -/
def writeProfile (b : Array2 (Sample α)) (l cut : ℕ) : ProfileRecord α :=
  ProfileRecord.ofSamples (b.rowPrefix l cut)

/-- Lines 257-319: the profiles of the transects `A`..`H`, `trans[0]`..`trans[7]`. -/
def writeProfiles (b : Array2 (Sample α)) (trans : List (List (α × α))) :
    List (ProfileRecord α) :=
  (List.range 8).map fun l => writeProfile b l (trans.getD l []).length

/-- The written profiles of buffers filled row by row are the records of the rows' contents,
when each row's list has the length of its transect and fits in the buffers. -/
theorem writeProfiles_fillRows (b : Array2 (Sample α)) (trans : List (List (α × α)))
    (sss : List (List (Sample α)))
    (hlen : List.Forall₂ (fun po ss => po.length = ss.length) trans sss) (h8 : trans.length = 8)
    (hfit : ∀ po ∈ trans, po.length ≤ b.cols) :
    writeProfiles (b.fillRows 0 sss) trans = sss.map ProfileRecord.ofSamples := by
  have hl := hlen.length_eq
  refine List.ext_getElem (by simp [writeProfiles, ← hl, h8]) fun l h₁ h₂ => ?_
  have hls : l < sss.length := by simpa using h₂
  have hlt : l < trans.length := by omega
  have hcut : (trans.getD l []).length = sss[l].length := by
    rw [List.getD_eq_getElem _ _ hlt]
    exact (List.forall₂_iff_get.1 hlen).2 l hlt hls
  have hrow := Array2.rowPrefix_fillRows b 0 sss hls
    (hcut ▸ List.getD_eq_getElem trans [] hlt ▸ hfit _ (List.getElem_mem hlt))
  rw [Nat.zero_add] at hrow
  simp only [writeProfiles, List.getElem_map, List.getElem_range, writeProfile, hcut, hrow]

variable [LinearOrderedField α]

/-- `resolution=5.0`. -/
def resolution : α := 5

/-- `dkm=5.0 #km steps`. -/
def dkm : α := 5

theorem dkm_div_resolution : (dkm / resolution : α) = 1 :=
  div_self (by norm_num [resolution, dkm])

/-- Lines 169-171, `exp1_thk[exp1_thk == 0.0] = np.nan` and the same for both velocities. -/
def missingIfZero (a : Array2 α) : Array2 (Option α) :=
  a.map fun v => if v = 0 then none else some v

/-- The file's contents (lines 143-319): the fields, normalised where the script does so, and
the profiles. -/
def writeOutput (snap : Snapshot α) (profiles : List (ProfileRecord α)) : Output α :=
  ⟨snap.x, snap.y, missingIfZero (snap.field snap.xvm), missingIfZero (snap.field snap.yvm),
    missingIfZero (snap.field snap.thk), snap.field snap.mask, snap.field snap.crate,
    snap.field snap.topg, profiles⟩

variable [FloorRing α]

/-! ## The loop -/

section Loop

variable (sqrt : α → α)

/-- Lines 126-134, at the decomposition `d = (i, j, di, dj)`; `sqrt` is `np.sqrt`. The
distance `sav[l,k]=np.sqrt(xav[l,k]**2+yav[l,k]**2)` reads back the two values just stored. -/
def sampleFields (E : SampleEnv α) (d : Decomposition α) : Option (Sample α) := do
  let xav ← interpolateAlongTransect E.ym d.i d.j d.di d.dj
  let yav ← interpolateAlongTransect E.xm d.i d.j d.di d.dj
  let hav ← interpolateAlongTransect E.thk d.i d.j d.di d.dj
  let uav ← interpolateAlongTransect E.xvm d.i d.j d.di d.dj
  let vav ← interpolateAlongTransect E.yvm d.i d.j d.di d.dj
  let mav ← nearestAlongTransect E.mask d.i d.j d.di d.dj
  pure ⟨xav, yav, sqrt (xav ^ 2 + yav ^ 2), hav, mav, uav, vav⟩

/-- The body of the sampling loop at the point `p`, lines 121-134. -/
def sampleAt (E : SampleEnv α) (p : α × α) : Option (Sample α) :=
  sampleFields sqrt E (decompose p)

/-- What the loop body stores: every value is its sampler's result at `d`, and the distance is
the norm of the first two. -/
theorem sampleFields_eq_some_iff {E : SampleEnv α} {d : Decomposition α} {s : Sample α} :
    sampleFields sqrt E d = some s ↔
      interpolateAlongTransect E.ym d.i d.j d.di d.dj = some s.xav ∧
      interpolateAlongTransect E.xm d.i d.j d.di d.dj = some s.yav ∧
      interpolateAlongTransect E.thk d.i d.j d.di d.dj = some s.hav ∧
      interpolateAlongTransect E.xvm d.i d.j d.di d.dj = some s.uav ∧
      interpolateAlongTransect E.yvm d.i d.j d.di d.dj = some s.vav ∧
      nearestAlongTransect E.mask d.i d.j d.di d.dj = some s.mav ∧
      s.sav = sqrt (s.xav ^ 2 + s.yav ^ 2) := by
  simp only [sampleFields, Option.bind_eq_bind, Option.bind_eq_some, Option.pure_def,
    Option.some.injEq]
  constructor
  · rintro ⟨x, hx, y, hy, h, hh, u, hu, v, hv, m, hm, rfl⟩
    exact ⟨hx, hy, hh, hu, hv, hm, rfl⟩
  · obtain ⟨x, y, sv, h, m, u, v⟩ := s
    rintro ⟨hx, hy, hh, hu, hv, hm, hs⟩
    exact ⟨x, hx, y, hy, h, hh, u, hu, v, hv, m, hm, hs ▸ rfl⟩

/-- The inner loop `for k,p in enumerate(po)` over the points `ps` of transect `l`, from column
`k` on: each point's values are stored at `[l, k]`. -/
def sampleTransect (E : SampleEnv α) (l : ℕ) :
    ℕ → List (α × α) → Array2 (Sample α) → Option (Array2 (Sample α))
  | _, [], b => some b
  | k, p :: ps, b => do
    let s ← sampleAt sqrt E p
    let b ← b.write? l k s
    sampleTransect E l (k + 1) ps b

/-- The outer loop `for l,po in enumerate(trans)`, from transect `l` on. -/
def sampleAll (E : SampleEnv α) :
    ℕ → List (List (α × α)) → Array2 (Sample α) → Option (Array2 (Sample α))
  | _, [], b => some b
  | l, po :: pos, b => do
    let b ← sampleTransect sqrt E l 0 po b
    sampleAll E (l + 1) pos b

variable (E : SampleEnv α)

/-- **The inner loop stores the samples of its points in row `l`**, when they fit in the row's
columns from `k` on; otherwise, or when a point does not sample, it raises. -/
theorem sampleTransect_eq {l k : ℕ} (ps : List (α × α)) (b : Array2 (Sample α))
    (hl : l < b.rows) (hk : k ≤ b.cols) :
    sampleTransect sqrt E l k ps b =
      if k + ps.length ≤ b.cols then (ps.mapM (sampleAt sqrt E)).map (b.fillRow l k) else none := by
  induction ps generalizing k b with
  | nil => simp only [sampleTransect, List.length_nil, Nat.add_zero, hk, if_true]; rfl
  | cons p ps ih =>
    rw [List.mapM_cons, List.length_cons, show k + (ps.length + 1) = k + 1 + ps.length by omega]
    cases hs : sampleAt sqrt E p with
    | none => simp [sampleTransect, hs]
    | some s =>
      by_cases hkc : k < b.cols
      · have ih' := ih (b.set l k s) (by simpa using hl) (by simpa using hkc)
        simp only [sampleTransect, hs, Array2.write?_eq_some hl hkc, Option.bind_eq_bind,
          Option.some_bind, ih', Array2.cols_set]
        split_ifs <;> cases ps.mapM (sampleAt sqrt E) <;> rfl
      · have hfit : ¬k + 1 + ps.length ≤ b.cols := by omega
        simp [sampleTransect, hs, Array2.write?_eq_none (fun h => hkc h.2), hfit]

/-- **The outer loop stores the samples of transect `l + i` in row `l + i`**, when every
transect fits in the buffers' columns; otherwise, or when a point does not sample, it raises. -/
theorem sampleAll_eq {l : ℕ} (pos : List (List (α × α))) (b : Array2 (Sample α))
    (h : l + pos.length ≤ b.rows) :
    sampleAll sqrt E l pos b =
      if ∀ po ∈ pos, po.length ≤ b.cols then
        (pos.mapM (List.mapM (sampleAt sqrt E))).map (b.fillRows l)
      else none := by
  induction pos generalizing l b with
  | nil => simp only [sampleAll, List.not_mem_nil, false_implies, implies_true, if_true]; rfl
  | cons po pos ih =>
    have hl : l < b.rows := by simp only [List.length_cons] at h; omega
    rw [sampleAll, sampleTransect_eq sqrt E po b hl (Nat.zero_le _), Nat.zero_add,
      List.mapM_cons]
    by_cases hpo : po.length ≤ b.cols
    · cases hm : po.mapM (sampleAt sqrt E) with
      | none => simp [hpo]
      | some ss =>
        have ih' := @ih (l + 1) (b.fillRow l 0 ss)
          (by simp only [List.length_cons] at h; simp; omega)
        simp only [hpo, if_true, Option.map_some', Option.bind_eq_bind, Option.some_bind, ih',
          Array2.cols_fillRow, List.forall_mem_cons, true_and]
        split_ifs <;> cases pos.mapM (List.mapM (sampleAt sqrt E)) <;> rfl
    · simp [hpo]

end Loop

/-! ## The script -/

/-- Lines 108-114 with the grid shape of line 44: the two meshes, and the fields the loop
samples. -/
def sampleEnv? (snap : Snapshot α) : Option (SampleEnv α) := do
  let xm ← meshX snap.x snap.y.length snap.x.length
  let ym ← meshY snap.y snap.y.length snap.x.length
  pure ⟨xm, ym, snap.field snap.thk, snap.field snap.xvm, snap.field snap.yvm,
    snap.field snap.mask⟩

section Script

variable (sqrt : α → α)

/-- The script from line 44 on, with the step `dp` and the generator `gen`: the transects'
points (line 77), the meshes, the loop into buffers of 300 columns (lines 99-139) and the
write. -/
def postprocess (gen : PointGenerator α) (snap : Snapshot α) (dp : α) : Option (Output α) := do
  let trans := getTroughs gen (transects snap.y.length snap.x.length) dp
  let E ← sampleEnv? snap
  let b ← sampleAll sqrt E 0 trans (Array2.const trans.length 300 0)
  pure (writeOutput snap (writeProfiles b trans))

/-- The whole script on PISM's output file, at `dp=np.float(dkm)/np.float(resolution)`. -/
def postprocessExp1 (gen : PointGenerator α) (ds : Dataset α) : Option (Output α) := do
  let snap ← readSnapshot ds
  postprocess sqrt gen snap (dkm / resolution)

end Script

/-! ## The loop computes the samples -/

variable (sqrt : α → α)

/-- **The buffered loop followed by the cut writes computes the record of each transect's
samples**, one entry per point and in order, when every transect fits in the `cap` columns of the
buffers; when one does not, the loop raises `IndexError` and nothing is written. -/
theorem writeProfiles_sampleAll (E : SampleEnv α) (trans : List (List (α × α)))
    (h8 : trans.length = 8) (cap : ℕ) :
    (sampleAll sqrt E 0 trans (Array2.const trans.length cap 0)).map (writeProfiles · trans) =
      if ∀ po ∈ trans, po.length ≤ cap then
        (trans.mapM (List.mapM (sampleAt sqrt E))).map (List.map ProfileRecord.ofSamples)
      else none := by
  rw [sampleAll_eq sqrt E trans _ (by simp), Array2.cols_const]
  split_ifs with hfit
  · cases hm : trans.mapM (List.mapM (sampleAt sqrt E)) with
    | none => rfl
    | some sss =>
      have hlen := (mapM_eq_some_iff.1 hm).imp fun _ _ h => (mapM_eq_some_iff.1 h).length_eq
      exact congrArg some (writeProfiles_fillRows _ trans sss hlen h8 hfit)
  · rfl

/-- The script's profiles and fields in terms of the samples of the generated points: the
stage succeeds exactly when the meshes build, every transect has at most 300 points and every
point samples. -/
theorem postprocess_eq (gen : PointGenerator α) (snap : Snapshot α) (dp : α) :
    postprocess sqrt gen snap dp = (sampleEnv? snap).bind fun E =>
      if ∀ po ∈ getTroughs gen (transects snap.y.length snap.x.length) dp, po.length ≤ 300 then
        ((getTroughs gen (transects snap.y.length snap.x.length) dp).mapM
          (List.mapM (sampleAt sqrt E))).map fun sss =>
            writeOutput snap (sss.map ProfileRecord.ofSamples)
      else none := by
  simp only [postprocess, Option.bind_eq_bind]
  congr 1
  funext E
  have h := writeProfiles_sampleAll sqrt E
    (getTroughs gen (transects snap.y.length snap.x.length) dp) (by simp) 300
  have hmap : ∀ (b? : Option (Array2 (Sample α))) (trans : List (List (α × α))),
      (b?.bind fun b => pure (writeOutput snap (writeProfiles b trans))) =
        (b?.map (writeProfiles · trans)).map (writeOutput snap) := fun b? _ => by cases b? <;> rfl
  rw [hmap, h]
  split_ifs <;> simp [Option.map_map, Function.comp_def]

/-- Inversion of a run that writes its file: the meshes built, every transect fit the buffers,
every point sampled, and the profiles are the records of those samples. -/
theorem postprocess_inv {gen : PointGenerator α} {snap : Snapshot α} {dp : α} {out : Output α}
    (h : postprocess sqrt gen snap dp = some out) :
    ∃ E sss, sampleEnv? snap = some E ∧
      (∀ po ∈ getTroughs gen (transects snap.y.length snap.x.length) dp, po.length ≤ 300) ∧
      (getTroughs gen (transects snap.y.length snap.x.length) dp).mapM
        (List.mapM (sampleAt sqrt E)) = some sss ∧
      out = writeOutput snap (sss.map ProfileRecord.ofSamples) := by
  rw [postprocess_eq] at h
  obtain ⟨E, hE, h⟩ := Option.bind_eq_some.1 h
  split_ifs at h with hfit
  obtain ⟨sss, hm, rfl⟩ := Option.map_eq_some'.1 h
  exact ⟨E, sss, hE, hfit, hm, rfl⟩

/-- Each profile a run writes is the record of the samples of its transect's points, one per
point and in order. -/
theorem profiles_forall₂ {gen : PointGenerator α} {snap : Snapshot α} {dp : α} {out : Output α}
    (h : postprocess sqrt gen snap dp = some out) :
    ∃ E, sampleEnv? snap = some E ∧
      List.Forall₂ (fun po pr => ∃ ss, List.Forall₂ (fun p s => sampleAt sqrt E p = some s) po ss ∧
        pr = ProfileRecord.ofSamples ss)
        (getTroughs gen (transects snap.y.length snap.x.length) dp) out.profiles := by
  obtain ⟨E, sss, hE, -, hm, rfl⟩ := postprocess_inv sqrt h
  exact ⟨E, hE, List.forall₂_map_right_iff.2 <|
    (mapM_eq_some_iff.1 hm).imp fun _ ss h => ⟨ss, mapM_eq_some_iff.1 h, rfl⟩⟩

/-- Each variable of each profile a run writes holds, one entry per point of its transect and in
order, the matching value of that point's sample. -/
theorem profile_vars_forall₂ {gen : PointGenerator α} {snap : Snapshot α} {dp : α}
    {out : Output α} (h : postprocess sqrt gen snap dp = some out) :
    ∃ E, sampleEnv? snap = some E ∧
      List.Forall₂ (fun po pr => ∃ ss, List.Forall₂ (fun p s => sampleAt sqrt E p = some s) po ss ∧
        pr.profile = ss.map Sample.sav ∧ pr.s = ss.map Sample.sav ∧
        pr.lithk = ss.map Sample.hav ∧ pr.mask = ss.map Sample.mav ∧
        pr.xvelmean = ss.map Sample.uav ∧ pr.yvelmean = ss.map Sample.vav)
        (getTroughs gen (transects snap.y.length snap.x.length) dp) out.profiles := by
  obtain ⟨E, hE, hF⟩ := profiles_forall₂ sqrt h
  exact ⟨E, hE, hF.imp fun _ _ ⟨ss, hss, hpr⟩ =>
    ⟨ss, hss, (ProfileRecord.eq_ofSamples_iff ss).1 hpr⟩⟩

/-- Every profile a run writes is the record of samples the loop body produced. -/
theorem profiles_samples {gen : PointGenerator α} {snap : Snapshot α} {dp : α} {out : Output α}
    (h : postprocess sqrt gen snap dp = some out) :
    ∃ E, sampleEnv? snap = some E ∧ ∀ pr ∈ out.profiles, ∃ ss, pr = ProfileRecord.ofSamples ss ∧
      ∀ s ∈ ss, ∃ p, sampleAt sqrt E p = some s := by
  obtain ⟨E, hE, hF⟩ := profiles_forall₂ sqrt h
  refine ⟨E, hE, fun pr hpr => ?_⟩
  obtain ⟨po, -, ss, hss, rfl⟩ := exists_of_forall₂_of_mem hF hpr
  exact ⟨ss, rfl, fun s hs => (exists_of_forall₂_of_mem hss hs).imp fun _ h => h.2⟩

/-- The last entry of a written profile is the sample of its transect's end. -/
theorem profile_getLast? {gen : PointGenerator α} {snap : Snapshot α} {dp : α} (hdp : 0 < dp)
    {out : Output α} (h : postprocess sqrt gen snap dp = some out) {E : SampleEnv α}
    (hE : sampleEnv? snap = some E) {l : ℕ} {t : (ℤ × ℤ) × (ℤ × ℤ)}
    (ht : (transects snap.y.length snap.x.length)[l]? = some t) :
    ∃ ss s, out.profiles[l]? = some (ProfileRecord.ofSamples ss) ∧
      sampleAt sqrt E (toPoint t.2) = some s ∧ ss.getLast? = some s := by
  obtain ⟨E', hE', hF⟩ := profiles_forall₂ sqrt h
  cases hE.symm.trans hE'
  have hpo : (getTroughs gen (transects snap.y.length snap.x.length) dp)[l]? =
      some (gen.points (toPoint t.1) (toPoint t.2) dp) := by
    simp [getTroughs, ht]
  obtain ⟨_, ⟨ss, hss, rfl⟩, hpr⟩ := getElem?_of_forall₂ hF hpo
  obtain ⟨s, hs, hlast⟩ := getLast?_of_forall₂ hss (gen.getLast?_points _ _ _ hdp)
  exact ⟨ss, s, hpr, hs, hlast⟩

end CalvingMip
