import Mathlib

/-!
# A key-value store with expiry

A store whose keys expire, and the loop that deletes the keys of a pattern with an incremental scan.

- `Store.get`, `Store.setex`, `Store.deleteAll`: the commands, with a clock;
- `sweep`: the loop over the batches of a scan, each deleted before the next is asked for;
- `Scans`: what such a scan promises;
- `Clears.get`: after the loop exactly the keys of the pattern are gone;
- `fullScan`: a scan that keeps the promise.
-/

namespace KeyValue

variable {K V P : Type}

/-- A key, its value and the instant at which it expires. -/
structure Item (K V : Type) where
  key : K
  value : V
  expires : ℕ

/-- What the server holds. -/
abbrev Store (K V : Type) := List (Item K V)

section Commands

variable [DecidableEq K]

namespace Store

def lookup (s : Store K V) (k : K) : Option (Item K V) := s.find? fun i => i.key = k

/-- `GET`: an expired key has no value. -/
def get (s : Store K V) (now : ℕ) (k : K) : Option V :=
  ((s.lookup k).filter fun i => now < i.expires).map Item.value

def deleteAll (s : Store K V) (ks : List K) : Store K V := s.filter fun i => i.key ∉ ks

/-- `SETEX`. -/
def setex (s : Store K V) (now : ℕ) (k : K) (ttl : ℕ) (v : V) : Store K V :=
  ⟨k, v, now + ttl⟩ :: s.deleteAll [k]

@[simp] theorem get_nil (now : ℕ) (k : K) : get ([] : Store K V) now k = none := rfl

@[simp] theorem get_setex (s : Store K V) (now : ℕ) (k : K) (ttl : ℕ) (v : V) (t : ℕ) :
    (s.setex now k ttl v).get t k = if t < now + ttl then some v else none := by
  by_cases h : t < now + ttl
  · simp [get, setex, lookup, h]
  · simp [get, setex, lookup, h, Nat.le_of_not_lt h]

theorem lookup_deleteAll (s : Store K V) (ks : List K) (k : K) :
    (s.deleteAll ks).lookup k = if k ∈ ks then none else s.lookup k := by
  unfold deleteAll lookup
  rw [List.find?_filter]
  split_ifs with h
  · simp only [List.find?_eq_none, decide_eq_true_eq]
    rintro i - ⟨out, rfl⟩
    exact out h
  · congr 1
    funext i
    by_cases hi : i.key = k
    · simp [hi, h]
    · simp [hi]

theorem get_deleteAll (s : Store K V) (ks : List K) (now : ℕ) (k : K) :
    (s.deleteAll ks).get now k = if k ∈ ks then none else s.get now k := by
  unfold get
  rw [lookup_deleteAll]
  split_ifs <;> rfl

/-- A write leaves the other keys alone. -/
theorem get_setex_of_ne (s : Store K V) (now : ℕ) {k k' : K} (h : k' ≠ k) (ttl : ℕ) (v : V) (t : ℕ) :
    (s.setex now k ttl v).get t k' = s.get t k' := by
  have other : (s.setex now k ttl v).lookup k' = (s.deleteAll [k]).lookup k' := by
    simp [lookup, setex, h.symm]
  rw [get, other, ← get, get_deleteAll]
  simp [h]

/-- What has expired stays so. -/
theorem get_later {s : Store K V} {now later : ℕ} (h : now ≤ later) {k : K} {v : V}
    (hv : s.get later k = some v) : s.get now k = some v := by
  unfold get at hv ⊢
  obtain ⟨i, hi, rfl⟩ := Option.map_eq_some_iff.1 hv
  obtain ⟨found, before⟩ := Option.filter_eq_some_iff.1 hi
  have : now < i.expires := lt_of_le_of_lt h (of_decide_eq_true before)
  simp [found, this]

/-- The keys held, expired or not. -/
def keys (s : Store K V) : List K := s.map Item.key

theorem lookup_eq_none {s : Store K V} {k : K} (h : k ∉ s.keys) : s.lookup k = none := by
  unfold lookup
  simp only [List.find?_eq_none, decide_eq_true_eq]
  exact fun i hi hk => h (hk ▸ List.mem_map_of_mem hi)

theorem mem_keys_deleteAll {s : Store K V} {ks : List K} {k : K} :
    k ∈ (s.deleteAll ks).keys ↔ k ∈ s.keys ∧ k ∉ ks := by
  simp only [keys, deleteAll, List.mem_map, List.mem_filter, decide_eq_true_eq]
  constructor
  · rintro ⟨i, ⟨hi, out⟩, rfl⟩
    exact ⟨⟨i, hi, rfl⟩, out⟩
  · rintro ⟨⟨i, hi, rfl⟩, out⟩
    exact ⟨i, ⟨hi, out⟩, rfl⟩

theorem deleteAll_deleteAll (s : Store K V) (ks ks' : List K) :
    (s.deleteAll ks).deleteAll ks' = s.deleteAll (ks ++ ks') := by
  unfold deleteAll
  rw [List.filter_filter]
  congr 1
  funext i
  simp [Bool.and_comm]

@[simp] theorem deleteAll_nil (s : Store K V) : s.deleteAll [] = s := by simp [deleteAll]

end Store

/-- An incremental scan: from a cursor, the next cursor and a batch of keys of the pattern. -/
abbrev Scan (K V P : Type) := Store K V → ℕ → P → ℕ × List K

/-- The loop `while True: cursor, keys = scan(cursor, pattern); delete(*keys)`, up to the cursor `0`:
what the server holds after it, and every key that was returned. -/
def sweep (scan : Scan K V P) (p : P) : ℕ → ℕ → Store K V → Option (Store K V × List K)
  | 0, _, _ => none
  | fuel + 1, cursor, s =>
    let batch := scan s cursor p
    let s' := s.deleteAll batch.2
    if batch.1 = 0 then some (s', batch.2)
    else (sweep scan p fuel batch.1 s').map fun r => (r.1, batch.2 ++ r.2)

/-- What a scan promises: it returns keys of the pattern only, it ends, and a key of the pattern that is
there from the start to the end is returned. -/
structure Scans (scan : Scan K V P) (fits : P → K → Bool) : Prop where
  matching : ∀ {s cursor p k}, k ∈ (scan s cursor p).2 → fits p k = true
  ends : ∀ s p, ∃ fuel, (sweep scan p fuel 0 s).isSome
  complete : ∀ {fuel s p s' returned}, sweep scan p fuel 0 s = some (s', returned) →
    ∀ k ∈ s.keys, k ∈ s'.keys → fits p k = true → k ∈ returned

/-- The loop deletes what was returned. -/
theorem sweep_deleteAll {scan : Scan K V P} {p : P} {fuel : ℕ} :
    ∀ {cursor : ℕ} {s s' : Store K V} {returned : List K},
      sweep scan p fuel cursor s = some (s', returned) → s' = s.deleteAll returned := by
  induction fuel with
  | zero => exact fun h => by simp [sweep] at h
  | succ fuel ih =>
    intro cursor s s' returned h
    rw [sweep] at h
    split_ifs at h with hcursor
    · simp only [Option.some.injEq, Prod.mk.injEq] at h
      rw [← h.1, ← h.2]
    · obtain ⟨r, hr, heq⟩ := Option.map_eq_some_iff.1 h
      obtain ⟨rfl, rfl⟩ := Prod.mk.inj heq
      rw [← Store.deleteAll_deleteAll]
      exact ih hr

theorem Scans.returned {scan : Scan K V P} {fits : P → K → Bool} (h : Scans scan fits) {p : P} {fuel : ℕ} :
    ∀ {cursor : ℕ} {s s' : Store K V} {returned : List K},
      sweep scan p fuel cursor s = some (s', returned) → ∀ k ∈ returned, fits p k = true := by
  induction fuel with
  | zero => exact fun h => by simp [sweep] at h
  | succ fuel ih =>
    intro cursor s s' returned hs k hk
    rw [sweep] at hs
    split_ifs at hs with hcursor
    · simp only [Option.some.injEq, Prod.mk.injEq] at hs
      rw [← hs.2] at hk
      exact h.matching hk
    · obtain ⟨r, hr, heq⟩ := Option.map_eq_some_iff.1 hs
      obtain ⟨rfl, rfl⟩ := Prod.mk.inj heq
      rcases List.mem_append.1 hk with hk | hk
      · exact h.matching hk
      · exact ih hr k hk

/-- The store after `clear`: with enough turns, the loop has come to its end. -/
def Clears (scan : Scan K V P) (p : P) (s s' : Store K V) : Prop :=
  ∃ fuel returned, sweep scan p fuel 0 s = some (s', returned)

theorem Scans.clears {scan : Scan K V P} {fits : P → K → Bool} (h : Scans scan fits) (p : P) (s : Store K V) :
    ∃ s', Clears scan p s s' := by
  obtain ⟨fuel, hfuel⟩ := h.ends s p
  obtain ⟨⟨s', returned⟩, hs⟩ := Option.isSome_iff_exists.1 hfuel
  exact ⟨s', fuel, returned, hs⟩

/-- **After the loop** the keys of the pattern are gone, and the others as before. -/
theorem Clears.get {scan : Scan K V P} {fits : P → K → Bool} (h : Scans scan fits) {p : P} {s s' : Store K V}
    (hs : Clears scan p s s') (now : ℕ) (k : K) : s'.get now k = if fits p k then none else s.get now k := by
  obtain ⟨fuel, returned, hs⟩ := hs
  have after : s' = s.deleteAll returned := sweep_deleteAll hs
  by_cases hk : k ∈ returned
  · have := h.returned hs k hk
    simp [after, Store.get_deleteAll, hk, this]
  · rw [after, Store.get_deleteAll, if_neg hk]
    split_ifs with fit
    · have absent : k ∉ s.keys := fun held =>
        hk (h.complete hs k held (after ▸ Store.mem_keys_deleteAll.2 ⟨held, hk⟩) fit)
      simp [Store.get, Store.lookup_eq_none absent]
    · rfl

/-- The scan that needs one batch. -/
def fullScan (fits : P → K → Bool) : Scan K V P := fun s _ p => (0, s.keys.filter (fits p))

theorem scans_fullScan (fits : P → K → Bool) : Scans (fullScan fits : Scan K V P) fits where
  matching hk := (List.mem_filter.1 hk).2
  ends s p := ⟨1, by simp [sweep, fullScan]⟩
  complete := by
    intro fuel s p s' returned h k held _ fit
    cases fuel with
    | zero => simp [sweep] at h
    | succ fuel =>
      obtain ⟨-, rfl⟩ : s.deleteAll (s.keys.filter (fits p)) = s' ∧ s.keys.filter (fits p) = returned := by
        simpa [sweep, fullScan] using h
      exact List.mem_filter.2 ⟨held, fit⟩

end Commands

end KeyValue
