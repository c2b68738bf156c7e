import Mathlib

/-!
# The configuration dispatcher of the Python bindings

`src/pythonbindings/Config.py`: `get` and `set` try the typed accessors in a fixed order and
return the first result that does not raise, and `set_from_dict` calls `set` on every item. The
accessors are PISM's C++ bindings, not in `src/`: they are the fields of `ConfigBindings`, and a
raised exception is `none`.
-/

namespace PythonBindings

/-- The loop
```
for method in methods:
    try:
        return method(...)
    except:
        pass
return fallback(...)
```
on the methods' results, `none` standing for an exception. -/
def firstSuccess {β : Type} : List (Option β) → Option β → Option β
  | [], fallback => fallback
  | r :: rs, fallback => r <|> firstSuccess rs fallback

/-- The dispatch returns the first result that is not an exception, else the fallback's. -/
theorem firstSuccess_eq {β : Type} (rs : List (Option β)) (fallback : Option β) :
    firstSuccess rs fallback = (rs.findSome? id <|> fallback) := by
  induction rs with
  | nil => rfl
  | cons r rs ih => cases r <;> simp [firstSuccess, ih]

theorem mem_of_firstSuccess_eq_some {β : Type} {rs : List (Option β)} {fallback : Option β}
    {v : β} (h : firstSuccess rs fallback = some v) : some v ∈ rs ∨ fallback = some v := by
  induction rs with
  | nil => exact .inr h
  | cons r rs ih =>
    cases r with
    | none => exact (ih h).imp_left (List.mem_cons_of_mem _)
    | some w => exact .inl (h ▸ List.mem_cons_self _ _)

/-- PISM's configuration as the Python bindings see it, on configurations `σ`, keys `κ` and
values `ν`: the typed getters and setters, and the generic `_get` (`rawGet`) and `_set`
(`rawSet`). -/
structure ConfigBindings (σ κ ν : Type) where
  getFlag : σ → κ → Option ν
  getNumber : σ → κ → Option ν
  getNumbers : σ → κ → Option ν
  getString : σ → κ → Option ν
  rawGet : σ → κ → Option ν
  setFlag : σ → κ → ν → Option σ
  setNumber : σ → κ → ν → Option σ
  setNumbers : σ → κ → ν → Option σ
  setString : σ → κ → ν → Option σ
  rawSet : σ → κ → ν → Option σ

namespace ConfigBindings

variable {σ κ ν : Type} (B : ConfigBindings σ κ ν)

/-- `Config.get(self, key)`. -/
def get (c : σ) (key : κ) : Option ν :=
  firstSuccess [B.getFlag c key, B.getNumber c key, B.getNumbers c key, B.getString c key]
    (B.rawGet c key)

/-- `Config.set(self, key, val)`: the configuration after the first setter that does not
raise. -/
def set (c : σ) (key : κ) (val : ν) : Option σ :=
  firstSuccess [B.setFlag c key val, B.setNumber c key val, B.setNumbers c key val,
    B.setString c key val] (B.rawSet c key val)

/-- `Config.set_from_dict(self, d)`: `set` on the items of `d`, in order; the configuration
after a run that does not raise. -/
def setFromDict (c : σ) : List (κ × ν) → Option σ
  | [] => some c
  | (key, val) :: d => (B.set c key val).bind fun c' => setFromDict c' d

/-- `Config.set_from_dict(self, d)` on the configuration object it changes in place: the
configuration it leaves behind, and whether it raised. The first item whose `set` raises ends
the loop, and the items before it stay set. -/
def setFromDictState (c : σ) : List (κ × ν) → σ × Bool
  | [] => (c, false)
  | (key, val) :: d =>
    match B.set c key val with
    | some c' => setFromDictState c' d
    | none => (c, true)

variable {B}

theorem setFromDictState_cons_of_some {c c' : σ} {key : κ} {val : ν} (d : List (κ × ν))
    (h : B.set c key val = some c') :
    B.setFromDictState c ((key, val) :: d) = B.setFromDictState c' d := by
  simp [setFromDictState, h]

theorem setFromDictState_cons_of_none {c : σ} {key : κ} {val : ν} (d : List (κ × ν))
    (h : B.set c key val = none) : B.setFromDictState c ((key, val) :: d) = (c, true) := by
  simp [setFromDictState, h]

/-- A run that does not raise leaves the configuration `setFromDict` gives. -/
theorem setFromDict_eq_some_iff {c c' : σ} {d : List (κ × ν)} :
    B.setFromDict c d = some c' ↔ B.setFromDictState c d = (c', false) := by
  induction d generalizing c with
  | nil => simp [setFromDict, setFromDictState, eq_comm]
  | cons kv d ih =>
    obtain ⟨key, val⟩ := kv
    cases h : B.set c key val with
    | none => simp [setFromDict, setFromDictState_cons_of_none d h, h]
    | some c₁ => simp [setFromDict, setFromDictState_cons_of_some d h, h, ih]

/-- **A failed `set_from_dict` is not rolled back.** It leaves the configuration that the items
before some position `i` give; it raises exactly when `i` is an item's position, and then that
item's `set` raised from the configuration the earlier items left. -/
theorem setFromDictState_prefix (c : σ) (d : List (κ × ν)) :
    ∃ i ≤ d.length, B.setFromDict c (d.take i) = some (B.setFromDictState c d).1 ∧
      ((B.setFromDictState c d).2 = false ↔ i = d.length) ∧
      ∀ kv ∈ d[i]?, B.set (B.setFromDictState c d).1 kv.1 kv.2 = none := by
  induction d generalizing c with
  | nil => exact ⟨0, le_rfl, rfl, by simp [setFromDictState], by simp⟩
  | cons kv d ih =>
    obtain ⟨key, val⟩ := kv
    cases h : B.set c key val with
    | none =>
      rw [setFromDictState_cons_of_none d h]
      exact ⟨0, Nat.zero_le _, rfl, by simp, by simpa using h⟩
    | some c₁ =>
      obtain ⟨i, hi, h₁, h₂, h₃⟩ := ih c₁
      rw [setFromDictState_cons_of_some d h]
      refine ⟨i + 1, Nat.succ_le_succ hi, ?_, by simpa using h₂, by simpa using h₃⟩
      simpa [setFromDict, h] using h₁

end ConfigBindings

section Frame

variable {σ κ ν β : Type}

/-- An update that changes, as `read` sees it, only the key it is given. -/
def Frames (update : σ → κ → ν → Option σ) (read : σ → κ → β) : Prop :=
  ∀ c key val c', update c key val = some c' → ∀ k ≠ key, read c' k = read c k

variable {B : ConfigBindings σ κ ν} {read : σ → κ → β}

/-- `set` changes only its key when every setter does. -/
theorem set_frame (h1 : Frames B.setFlag read) (h2 : Frames B.setNumber read)
    (h3 : Frames B.setNumbers read) (h4 : Frames B.setString read) (h5 : Frames B.rawSet read) :
    Frames B.set read := by
  intro c key val c' h k hk
  rcases mem_of_firstSuccess_eq_some h with hm | hm
  · simp only [List.mem_cons, List.mem_singleton, List.not_mem_nil, or_false] at hm
    rcases hm with hm | hm | hm | hm
    · exact h1 c key val c' hm.symm k hk
    · exact h2 c key val c' hm.symm k hk
    · exact h3 c key val c' hm.symm k hk
    · exact h4 c key val c' hm.symm k hk
  · exact h5 c key val c' hm k hk

/-- **`set_from_dict` changes only the keys of the dictionary**, when every setter changes only
the key it is given. -/
theorem setFromDict_frame (h1 : Frames B.setFlag read) (h2 : Frames B.setNumber read)
    (h3 : Frames B.setNumbers read) (h4 : Frames B.setString read) (h5 : Frames B.rawSet read)
    (c : σ) (d : List (κ × ν)) {c' : σ} (h : B.setFromDict c d = some c') :
    ∀ k ∉ d.map Prod.fst, read c' k = read c k := by
  induction d generalizing c with
  | nil =>
    cases h
    exact fun _ _ => rfl
  | cons kv d ih =>
    obtain ⟨c₁, h₁, h₂⟩ := Option.bind_eq_some.1 h
    intro k hk
    simp only [List.map_cons, List.mem_cons, not_or] at hk
    rw [ih c₁ h₂ k hk.2, set_frame h1 h2 h3 h4 h5 c kv.1 kv.2 c₁ h₁ k hk.1]

end Frame

/-- A configuration of numbers, for the witnesses: `get_number` and `set_number` take every key,
the other accessors raise. -/
def numberStore : ConfigBindings (ℕ → ℕ) ℕ ℕ :=
  ⟨fun _ _ => none, fun c k => some (c k), fun _ _ => none, fun _ _ => none, fun _ _ => none,
    fun _ _ _ => none, fun c k v => some (Function.update c k v), fun _ _ _ => none,
    fun _ _ _ => none, fun _ _ _ => none⟩

theorem raises_frames {β : Type} (read : (ℕ → ℕ) → ℕ → β) :
    Frames (fun (_ : ℕ → ℕ) (_ _ : ℕ) => (none : Option (ℕ → ℕ))) read :=
  fun _ _ _ _ h => Option.noConfusion h

theorem setFromDict_frame_numbers :
    ∃ c', numberStore.setFromDict (fun _ => 0) [(1, 5), (2, 7)] = some c' ∧
      ∀ k ∉ [(1, 5), (2, 7)].map Prod.fst, c' k = 0 := by
  have updates : Frames (fun (c : ℕ → ℕ) (k v : ℕ) => some (Function.update c k v))
      fun c k => c k :=
    fun _ _ _ _ h k hk => by cases h; exact Function.update_noteq hk _ _
  exact ⟨_, rfl, @setFromDict_frame _ _ _ _ numberStore (fun c k => c k) (raises_frames _)
    updates (raises_frames _) (raises_frames _) (raises_frames _) (fun _ => 0) [(1, 5), (2, 7)] _
    rfl⟩

/-! ## Reading back what `set` wrote -/

section Lawful

variable {σ κ ν : Type}

/-- The accessors' contract under which `get` reads back what `set` wrote: after a setter takes
a value, its own getter returns it and the getters `get` tries before that one raise. -/
structure ConfigBindings.Lawful (B : ConfigBindings σ κ ν) : Prop where
  flag : ∀ c k v c', B.setFlag c k v = some c' → B.getFlag c' k = some v
  number : ∀ c k v c', B.setNumber c k v = some c' →
    B.getFlag c' k = none ∧ B.getNumber c' k = some v
  numbers : ∀ c k v c', B.setNumbers c k v = some c' →
    B.getFlag c' k = none ∧ B.getNumber c' k = none ∧ B.getNumbers c' k = some v
  string : ∀ c k v c', B.setString c k v = some c' →
    B.getFlag c' k = none ∧ B.getNumber c' k = none ∧ B.getNumbers c' k = none ∧
      B.getString c' k = some v
  raw : ∀ c k v c', B.rawSet c k v = some c' →
    B.getFlag c' k = none ∧ B.getNumber c' k = none ∧ B.getNumbers c' k = none ∧
      B.getString c' k = none ∧ B.rawGet c' k = some v

variable {B : ConfigBindings σ κ ν}

/-- `get` reads back what `set` wrote. -/
theorem ConfigBindings.Lawful.get_set (hB : B.Lawful) {c c' : σ} {k : κ} {v : ν}
    (h : B.set c k v = some c') : B.get c' k = some v := by
  rcases mem_of_firstSuccess_eq_some h with hm | hm
  · simp only [List.mem_cons, List.mem_singleton, List.not_mem_nil, or_false] at hm
    rcases hm with hm | hm | hm | hm
    · simp [ConfigBindings.get, firstSuccess, hB.flag c k v c' hm.symm]
    · obtain ⟨h1, h2⟩ := hB.number c k v c' hm.symm
      simp [ConfigBindings.get, firstSuccess, h1, h2]
    · obtain ⟨h1, h2, h3⟩ := hB.numbers c k v c' hm.symm
      simp [ConfigBindings.get, firstSuccess, h1, h2, h3]
    · obtain ⟨h1, h2, h3, h4⟩ := hB.string c k v c' hm.symm
      simp [ConfigBindings.get, firstSuccess, h1, h2, h3, h4]
  · obtain ⟨h1, h2, h3, h4, h5⟩ := hB.raw c k v c' hm
    simp [ConfigBindings.get, firstSuccess, h1, h2, h3, h4, h5]

variable [DecidableEq κ]

/-- A view of the configuration after the items of `d` are written in order, as Python's
`dict.update` does: a later item overrides an earlier one of the same key. -/
def updateAll (view : κ → Option ν) (d : List (κ × ν)) : κ → Option ν :=
  d.foldl (fun m kv => Function.update m kv.1 (some kv.2)) view

/-- One `set`, as `get` sees it: the key reads the value, every other key reads as before. -/
theorem ConfigBindings.Lawful.get_set_eq_update (hB : B.Lawful) (hF : Frames B.set B.get)
    {c c' : σ} {k : κ} {v : ν} (h : B.set c k v = some c') :
    B.get c' = Function.update (B.get c) k (some v) := by
  funext k'
  by_cases hk : k' = k
  · rw [hk, Function.update_same, hB.get_set h]
  · rw [Function.update_noteq hk, hF c k v c' h k' hk]

/-- **`set_from_dict` updates the configuration as a dictionary**, as `get` sees it, under the
accessors' contract and when every setter changes only its key. -/
theorem get_setFromDict (hB : B.Lawful) (h1 : Frames B.setFlag B.get)
    (h2 : Frames B.setNumber B.get) (h3 : Frames B.setNumbers B.get)
    (h4 : Frames B.setString B.get) (h5 : Frames B.rawSet B.get) {c c' : σ}
    {d : List (κ × ν)} (h : B.setFromDict c d = some c') :
    B.get c' = updateAll (B.get c) d := by
  have hF : Frames B.set B.get := set_frame h1 h2 h3 h4 h5
  induction d generalizing c with
  | nil =>
    cases h
    rfl
  | cons kv d ih =>
    obtain ⟨c₁, h₁, h₂⟩ := Option.bind_eq_some.1 h
    rw [ih h₂, hB.get_set_eq_update hF h₁]
    rfl

end Lawful

theorem get_setFromDict_numbers :
    ∃ c', numberStore.setFromDict (fun _ => 0) [(1, 5), (2, 7), (1, 9)] = some c' ∧
      numberStore.get c' = updateAll (numberStore.get fun _ => 0) [(1, 5), (2, 7), (1, 9)] := by
  have lawful : numberStore.Lawful :=
    ⟨fun _ _ _ _ h => Option.noConfusion h,
      fun _ _ _ _ h => by cases h; exact ⟨rfl, by simp [numberStore]⟩,
      fun _ _ _ _ h => Option.noConfusion h, fun _ _ _ _ h => Option.noConfusion h,
      fun _ _ _ _ h => Option.noConfusion h⟩
  have updates : Frames (fun (c : ℕ → ℕ) (k v : ℕ) => some (Function.update c k v))
      numberStore.get := fun _ _ _ _ h k hk => by
    cases h
    simp [numberStore, ConfigBindings.get, firstSuccess, Function.update_noteq hk]
  exact ⟨_, rfl, get_setFromDict lawful (raises_frames _) updates (raises_frames _)
    (raises_frames _) (raises_frames _) rfl⟩

end PythonBindings
