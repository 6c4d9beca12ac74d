import Mathlib

/-!
# Keyed tables

A table is a list of rows in which no two rows have the same key: what a relation with a primary key holds, in the
order of insertion.

- `find?`, `set`, `insert`, `erase`, and what each of them makes of `find?`;
- sums over the rows of a table after each of them (`sum_set`, `sum_insert`, `sum_erase`).
-/

namespace Keyed

/-- Rows with pairwise different keys. -/
structure Table {κ ρ : Type} (key : ρ → κ) where
  rows : List ρ
  nodup : (rows.map key).Nodup

namespace Table

variable {κ ρ : Type} {key : ρ → κ}

@[ext] theorem ext {t u : Table key} (h : t.rows = u.rows) : t = u := by
  cases t; cases u; cases h; rfl

instance : Inhabited (Table key) := ⟨⟨[], List.nodup_nil⟩⟩

variable [DecidableEq κ]

/-- The row with key `k`. -/
def find? (t : Table key) (k : κ) : Option ρ := t.rows.find? fun r => key r = k

/-- `r` in the place of the row with its key; nothing when no row has it. -/
def set (t : Table key) (r : ρ) : Table key where
  rows := t.rows.map fun x => if key x = key r then r else x
  nodup := by
    have h : (t.rows.map fun x => if key x = key r then r else x).map key = t.rows.map key := by
      rw [List.map_map]
      apply List.map_congr_left
      intro x _
      by_cases hx : key x = key r <;> simp [hx]
    rw [h]
    exact t.nodup

/-- A row with a new key, at the end. -/
def insert (t : Table key) (r : ρ) (h : t.find? (key r) = none) : Table key where
  rows := t.rows ++ [r]
  nodup := by
    rw [List.map_append, List.map_singleton, List.nodup_append]
    refine ⟨t.nodup, List.nodup_singleton _, ?_⟩
    intro a ha b hb hab
    obtain ⟨x, hx, rfl⟩ := List.mem_map.mp ha
    rw [List.mem_singleton.mp hb] at hab
    have := List.find?_eq_none.mp h x hx
    simp [hab] at this

/-- `insert` where the key is new. -/
def insert? (t : Table key) (r : ρ) : Option (Table key) :=
  if h : t.find? (key r) = none then some (t.insert r h) else none

/-- Without the row with key `k`. -/
def erase (t : Table key) (k : κ) : Table key where
  rows := t.rows.filter fun r => key r ≠ k
  nodup := (List.filter_sublist.map key).nodup t.nodup

/-- The sum of `f` over the rows. -/
def sum {M : Type} [Zero M] [Add M] (t : Table key) (f : ρ → M) : M := (t.rows.map f).sum

/-! ## Lookups -/

theorem key_of_find? {t : Table key} {k : κ} {r : ρ} (h : t.find? k = some r) : key r = k := by
  simpa using List.find?_some h

theorem mem_of_find? {t : Table key} {k : κ} {r : ρ} (h : t.find? k = some r) : r ∈ t.rows :=
  List.mem_of_find?_eq_some h

/-- In a list with different keys, the first row with a key is the only one. -/
theorem find?_of_mem {t : Table key} {r : ρ} (h : r ∈ t.rows) : t.find? (key r) = some r := by
  obtain ⟨rows, nodup⟩ := t
  simp only [find?] at h ⊢
  induction rows with
  | nil => simp at h
  | cons x xs ih =>
    simp only [List.map_cons, List.nodup_cons] at nodup
    rcases List.mem_cons.mp h with rfl | h
    · simp
    · have hx : key x ≠ key r := fun e => nodup.1 (e ▸ List.mem_map_of_mem h)
      rw [List.find?_cons_of_neg (by simpa using hx)]
      exact ih nodup.2 h

theorem find?_eq_some_iff {t : Table key} {k : κ} {r : ρ} : t.find? k = some r ↔ r ∈ t.rows ∧ key r = k := by
  constructor
  · exact fun h => ⟨mem_of_find? h, key_of_find? h⟩
  · rintro ⟨h, rfl⟩
    exact find?_of_mem h

theorem find?_set (t : Table key) (r : ρ) (k : κ) :
    (t.set r).find? k = if k = key r then (t.find? k).map fun _ => r else t.find? k := by
  obtain ⟨rows, nodup⟩ := t
  simp only [find?, set]
  clear nodup
  induction rows with
  | nil => split <;> rfl
  | cons x xs ih =>
    rw [List.map_cons, List.find?_cons, List.find?_cons]
    by_cases hx : key x = key r
    · by_cases hk : k = key r
      · simp [hx, hk]
      · have hne : ¬key r = k := fun e => hk e.symm
        simp only [hx, if_true, hne, decide_false, hk, if_false] at ih ⊢
        exact ih
    · by_cases hxk : key x = k
      · have hk : k ≠ key r := fun e => hx (hxk.trans e)
        simp [hxk, hk]
      · simp only [hx, hxk, if_false, decide_false] at ih ⊢
        exact ih

theorem find?_set_self {t : Table key} {r r₀ : ρ} (h : t.find? (key r) = some r₀) :
    (t.set r).find? (key r) = some r := by simp [find?_set, h]

theorem find?_set_of_ne (t : Table key) {r : ρ} {k : κ} (h : k ≠ key r) : (t.set r).find? k = t.find? k := by
  simp [find?_set, h]

theorem find?_insert (t : Table key) (r : ρ) (h : t.find? (key r) = none) (k : κ) :
    (t.insert r h).find? k = if k = key r then some r else t.find? k := by
  simp only [find?] at h
  simp only [find?, insert, List.find?_append]
  by_cases hk : k = key r
  · subst hk
    simp [h]
  · have hne : ¬key r = k := fun e => hk e.symm
    simp [hk, hne]

theorem insert?_eq_some {t u : Table key} {r : ρ} :
    t.insert? r = some u ↔ ∃ h : t.find? (key r) = none, t.insert r h = u := by
  unfold insert?
  split
  · rename_i h
    simp [h]
  · rename_i h
    simp [h]

theorem find?_erase (t : Table key) (k k' : κ) :
    (t.erase k').find? k = if k = k' then none else t.find? k := by
  simp only [find?, erase, List.find?_filter]
  by_cases hk : k = k'
  · subst hk
    rw [if_pos rfl, List.find?_eq_none]
    intro x _
    simp
  · rw [if_neg hk]
    congr 1
    funext x
    by_cases hx : key x = k
    · simp [hx, hk]
    · simp [hx]

theorem mem_set {t : Table key} {r x : ρ} (h : x ∈ (t.set r).rows) : x = r ∨ (x ∈ t.rows ∧ key x ≠ key r) := by
  obtain ⟨y, hy, rfl⟩ := List.mem_map.mp h
  by_cases hk : key y = key r
  · simp [hk]
  · simp [hk, hy]

/-- The later of two rows with one key stays. -/
theorem set_set {t : Table key} {r r' : ρ} (h : key r' = key r) : (t.set r).set r' = t.set r' := by
  ext1
  show (t.rows.map _).map _ = t.rows.map _
  rw [List.map_map]
  refine List.map_congr_left fun x _ => ?_
  by_cases hx : key x = key r <;> simp [hx, h]

/-- A row that is there in its own place. -/
theorem set_found {t : Table key} {r : ρ} (h : t.find? (key r) = some r) : t.set r = t := by
  ext1
  have same : ∀ x ∈ t.rows, (if key x = key r then r else x) = x := by
    intro x mem
    split
    · next eq =>
      have found := find?_of_mem mem
      rw [eq, h] at found
      exact Option.some.inj found
    · rfl
  exact (List.map_congr_left same).trans (List.map_id' _)

/-! ## Several rows at once -/

/-- The rows in their order, as long as each has a new key. -/
def insertAll? (t : Table key) : List ρ → Option (Table key)
  | [] => some t
  | r :: rs => (t.insert? r).bind fun u => u.insertAll? rs

theorem find?_insert? {t u : Table key} {r : ρ} (h : t.insert? r = some u) (k : κ) :
    u.find? k = if k = key r then some r else t.find? k := by
  obtain ⟨new, rfl⟩ := insert?_eq_some.mp h
  exact find?_insert t r new k

/-- Rows go in exactly when their keys are different and new. -/
theorem insertAll?_isSome {t : Table key} {rs : List ρ} :
    (t.insertAll? rs).isSome ↔ (rs.map key).Nodup ∧ ∀ r ∈ rs, t.find? (key r) = none := by
  induction rs generalizing t with
  | nil => simp [insertAll?]
  | cons r rs ih =>
    rw [insertAll?, List.map_cons, List.nodup_cons, List.forall_mem_cons]
    by_cases new : t.find? (key r) = none
    · have inserted : t.insert? r = some (t.insert r new) := insert?_eq_some.mpr ⟨new, rfl⟩
      rw [inserted, Option.bind_some, ih]
      simp only [find?_insert, List.mem_map, not_exists, not_and]
      constructor
      · intro ⟨nodup, fresh⟩
        have other : ∀ x ∈ rs, key x ≠ key r := by
          intro x hx same
          have := fresh x hx
          simp [same] at this
        refine ⟨⟨other, nodup⟩, new, fun x hx => ?_⟩
        simpa [other x hx] using fresh x hx
      · intro ⟨⟨other, nodup⟩, _, fresh⟩
        refine ⟨nodup, fun x hx => ?_⟩
        rw [if_neg (other x hx)]
        exact fresh x hx
    · have refused : t.insert? r = none := by simp [insert?, new]
      simp [refused, new]

/-- The rows afterwards. -/
theorem find?_insertAll? {t u : Table key} {rs : List ρ} (h : t.insertAll? rs = some u) (k : κ) :
    (u.find? k).isSome ↔ (t.find? k).isSome ∨ k ∈ rs.map key := by
  induction rs generalizing t with
  | nil =>
    cases h
    simp
  | cons r rs ih =>
    obtain ⟨v, inserted, rest⟩ := Option.bind_eq_some_iff.mp h
    rw [ih rest, find?_insert? inserted, List.map_cons, List.mem_cons]
    by_cases hk : k = key r
    · simp [hk]
    · simp [hk]

/-- Rows that do not go in do not go in with more of them. -/
theorem insertAll?_append_none {t : Table key} {rs : List ρ} (h : t.insertAll? rs = none) (more : List ρ) :
    t.insertAll? (rs ++ more) = none := by
  induction rs generalizing t with
  | nil => cases h
  | cons r rs ih =>
    rw [List.cons_append, insertAll?]
    cases inserted : t.insert? r with
    | none => rfl
    | some u =>
      rw [insertAll?, inserted] at h
      exact ih h

/-! ## Sums -/

section Sums

variable {M : Type} [AddCommGroup M]

@[simp] theorem sum_set_of_none {t : Table key} {r : ρ} (f : ρ → M) (h : t.find? (key r) = none) :
    (t.set r).sum f = t.sum f := by
  have hr : (t.set r).rows = t.rows := by
    refine (List.map_congr_left fun x hx => ?_).trans (List.map_id _)
    have := List.find?_eq_none.mp h x hx
    simp only [decide_eq_true_eq] at this
    simp [this]
  rw [sum, hr, sum]

/-- Replacing a row changes the sum by the new row less the old one. -/
theorem sum_set {t : Table key} {r r₀ : ρ} (f : ρ → M) (h : t.find? (key r) = some r₀) :
    (t.set r).sum f = t.sum f + (f r - f r₀) := by
  obtain ⟨rows, nodup⟩ := t
  simp only [find?, set, sum] at h ⊢
  induction rows with
  | nil => simp at h
  | cons x xs ih =>
    simp only [List.map_cons, List.nodup_cons] at nodup
    by_cases hx : key x = key r
    · have hxs : ∀ y ∈ xs, key y ≠ key r := fun y hy e => nodup.1 (hx ▸ e ▸ List.mem_map_of_mem hy)
      have hm : (xs.map fun y => if key y = key r then r else y) = xs :=
        (List.map_congr_left fun y hy => if_neg (hxs y hy)).trans (List.map_id _)
      have hr : x = r₀ := by simpa [List.find?_cons, hx] using h
      subst hr
      rw [List.map_cons, hm, if_pos hx, List.map_cons, List.map_cons, List.sum_cons, List.sum_cons]
      abel
    · have h' : xs.find? (fun y => key y = key r) = some r₀ := by simpa [List.find?_cons, hx] using h
      have := ih nodup.2 h'
      rw [List.map_cons, if_neg hx, List.map_cons, List.map_cons, List.sum_cons, List.sum_cons, this]
      abel

theorem sum_insert (t : Table key) (r : ρ) (h : t.find? (key r) = none) (f : ρ → M) :
    (t.insert r h).sum f = t.sum f + f r := by
  simp [insert, sum]

/-- Erasing a row takes its part out of the sum. -/
theorem sum_erase {t : Table key} {k : κ} {r : ρ} (f : ρ → M) (h : t.find? k = some r) :
    (t.erase k).sum f = t.sum f - f r := by
  obtain ⟨rows, nodup⟩ := t
  simp only [find?, erase, sum] at h ⊢
  induction rows with
  | nil => simp at h
  | cons x xs ih =>
    simp only [List.map_cons, List.nodup_cons] at nodup
    by_cases hx : key x = k
    · have hxs : ∀ y ∈ xs, key y ≠ k := fun y hy e => nodup.1 (hx ▸ e ▸ List.mem_map_of_mem hy)
      have hf : xs.filter (fun y => key y ≠ k) = xs := List.filter_eq_self.mpr fun y hy => by simpa using hxs y hy
      have hr : x = r := by simpa [List.find?_cons, hx] using h
      subst hr
      rw [List.filter_cons_of_neg (by simpa using hx), hf, List.map_cons, List.sum_cons]
      abel
    · have h' : xs.find? (fun y => key y = k) = some r := by simpa [List.find?_cons, hx] using h
      rw [List.filter_cons_of_pos (by simpa using hx), List.map_cons, List.map_cons, List.sum_cons, List.sum_cons,
        ih nodup.2 h']
      abel

end Sums

end Table

end Keyed
