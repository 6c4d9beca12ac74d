import UnionBank.Lib.Keyset

/-!
# Pages of rows by offset

A page by offset counts its rows from the largest key, and rows with equal keys may come in any order, another one for
each page. Rows are added while the pages are read one after another.

- `page`, `Covers`: a page, and a page that holds a row with all rows of its key;
- `certain_iff`: a row is on some page whatever the orders are if and only if some page covers it;
- `covers_of_single`: rows are only added, so that a row which is alone with its key is covered in time.
-/

namespace Offset

open Keyset

variable {α K : Type} [LinearOrder K] {key : α → K}

/-- The page at an index. -/
def page (limit i : ℕ) (rows : List α) : List α := (rows.drop (i * limit)).take limit

/-- How many rows come before a row in every order. -/
def above (key : α → K) (rows : List α) (x : α) : ℕ := rows.countP fun y => key x < key y

/-- How many rows come no later than the last row with its key. -/
def through (key : α → K) (rows : List α) (x : α) : ℕ := rows.countP fun y => key x ≤ key y

/-- The page at an index holds all rows with the key of a row. -/
def Covers (key : α → K) (limit i : ℕ) (rows : List α) (x : α) : Prop :=
  i * limit ≤ above key rows x ∧ through key rows x ≤ (i + 1) * limit

instance (limit i : ℕ) (rows : List α) (x : α) : Decidable (Covers key limit i rows x) :=
  inferInstanceAs (Decidable (_ ∧ _))

variable {limit i : ℕ} {rows before after : List α} {x : α}

theorem mem_page : x ∈ page limit i rows ↔ ∃ j, rows[j]? = some x ∧ i * limit ≤ j ∧ j < (i + 1) * limit := by
  rw [page, List.mem_iff_getElem?]
  constructor
  · rintro ⟨j, here⟩
    rw [List.getElem?_take] at here
    split at here
    · next small =>
      rw [List.getElem?_drop] at here
      refine ⟨i * limit + j, here, Nat.le_add_right .., ?_⟩
      rw [Nat.succ_mul]
      omega
    · cases here
  · rintro ⟨j, here, low, high⟩
    rw [Nat.succ_mul] at high
    refine ⟨j - i * limit, ?_⟩
    rw [List.getElem?_take, if_pos (by omega), List.getElem?_drop, Nat.add_sub_cancel' low]
    exact here

/-! ## The place of a row -/

theorem above_perm {rows' : List α} (perm : rows.Perm rows') : above key rows x = above key rows' x :=
  perm.countP_eq _

theorem through_perm {rows' : List α} (perm : rows.Perm rows') : through key rows x = through key rows' x :=
  perm.countP_eq _

theorem through_eq (rows : List α) (x : α) :
    through key rows x = above key rows x + rows.countP fun y => key y = key x := by
  unfold through above
  induction rows with
  | nil => rfl
  | cons y rows ih =>
    simp only [List.countP_cons, ih]
    rcases lt_trichotomy (key x) (key y) with larger | same | smaller
    · simp [larger, larger.le, larger.ne']
      omega
    · simp [same]
      omega
    · simp [smaller.ne, not_le.mpr smaller, not_lt.mpr smaller.le]

/-- A row of a sorted list lies within its group. -/
theorem place (descends : (before ++ x :: after).Pairwise fun x y => key y ≤ key x) :
    above key (before ++ x :: after) x ≤ before.length ∧ before.length < through key (before ++ x :: after) x := by
  obtain ⟨-, later, sides⟩ := List.pairwise_append.mp descends
  constructor
  · have none : (x :: after).countP (fun y => key x < key y) = 0 := by
      refine List.countP_eq_zero.mpr fun y mem larger => ?_
      rcases List.mem_cons.mp mem with rfl | mem
      · exact lt_irrefl _ (of_decide_eq_true larger)
      · exact absurd (of_decide_eq_true larger) (not_lt.mpr ((List.pairwise_cons.mp later).1 y mem))
    rw [above, List.countP_append, none]
    exact List.countP_le_length
  · have all : before.countP (fun y => key x ≤ key y) = before.length :=
      List.countP_eq_length.mpr fun y mem => decide_eq_true (sides y mem x List.mem_cons_self)
    rw [through, List.countP_append, all, List.countP_cons]
    simp only [le_refl, decide_true, if_true]
    omega

/-- A page that covers a row holds it in every order. -/
theorem mem_page_of_covers (order : Descending key) (mem : x ∈ rows) (covers : Covers key limit i rows x) :
    x ∈ page limit i (order.sort rows) := by
  obtain ⟨before, after, split⟩ := List.append_of_mem ((order.perm rows).mem_iff.mpr mem)
  have perm := order.perm rows
  have descends := order.descends rows
  rw [split] at perm descends
  obtain ⟨low, high⟩ := place descends
  rw [above_perm perm] at low
  rw [through_perm perm] at high
  refine mem_page.mpr ⟨before.length, ?_, covers.1.trans low, lt_of_lt_of_le high covers.2⟩
  rw [split, List.getElem?_append_right le_rfl, Nat.sub_self]
  rfl

/-! ## Orders that hide a row -/

/-- Larger keys first, and equal keys by a rank. -/
def byRank (key : α → K) (rank : α → ℕ) (x y : α) : Bool := key y < key x ∨ key y = key x ∧ rank x ≤ rank y

theorem sorted_byRank (rank : α → ℕ) (rows : List α) :
    (rows.mergeSort (byRank key rank)).Pairwise fun x y => key y < key x ∨ key y = key x ∧ rank x ≤ rank y := by
  refine (List.pairwise_mergeSort ?_ ?_ rows).imp of_decide_eq_true
  · intro a b c ab bc
    simp only [decide_eq_true_eq] at ab bc ⊢
    rcases ab with ab | ⟨ab, low⟩ <;> rcases bc with bc | ⟨bc, high⟩
    · exact .inl (bc.trans ab)
    · exact .inl (bc ▸ ab)
    · exact .inl (ab ▸ bc)
    · exact .inr ⟨bc.trans ab, low.trans high⟩
  · intro a b
    simp only [Bool.or_eq_true, decide_eq_true_eq]
    rcases lt_trichotomy (key a) (key b) with larger | same | smaller
    · exact .inr (.inl larger)
    · rcases le_total (rank a) (rank b) with low | high
      · exact .inl (.inr ⟨same.symm, low⟩)
      · exact .inr (.inr ⟨same, high⟩)
    · exact .inl (.inl smaller)

/-- The order by a rank. -/
def ranked (key : α → K) (rank : α → ℕ) : Descending key where
  sort rows := rows.mergeSort (byRank key rank)
  perm rows := rows.mergeSort_perm _
  descends rows := (sorted_byRank rank rows).imp fun less => less.elim le_of_lt fun same => same.1.le

variable (key) in
/-- The place of a row in that order. -/
theorem ranked_splits (rank : α → ℕ) (nodup : rows.Nodup) (mem : x ∈ rows) : ∃ before after : List α,
    ((ranked key rank).sort rows)[before.length]? = some x ∧ (before ++ x :: after).Perm rows ∧
      (∀ y ∈ before, y ≠ x ∧ (key x < key y ∨ key x = key y ∧ rank y ≤ rank x)) ∧
      (∀ y ∈ after, y ≠ x ∧ (key y < key x ∨ key y = key x ∧ rank x ≤ rank y)) ∧
      (before ++ x :: after).Pairwise fun x y => key y ≤ key x := by
  have perm := (ranked key rank).perm rows
  have descends := (ranked key rank).descends rows
  have sorted : ((ranked key rank).sort rows).Pairwise _ := sorted_byRank rank rows
  obtain ⟨before, after, split⟩ := List.append_of_mem (perm.mem_iff.mpr mem)
  rw [split] at perm descends sorted ⊢
  obtain ⟨-, twice, apart⟩ := List.nodup_append.mp (perm.nodup_iff.mpr nodup)
  obtain ⟨-, later, sides⟩ := List.pairwise_append.mp sorted
  refine ⟨before, after, ?_, perm, fun y hy => ⟨?_, sides y hy x List.mem_cons_self⟩, fun y hy => ⟨?_, ?_⟩, descends⟩
  · rw [List.getElem?_append_right le_rfl, Nat.sub_self]
    rfl
  · exact apart y hy x List.mem_cons_self
  · exact fun same => (List.nodup_cons.mp twice).1 (same ▸ hy)
  · exact (List.pairwise_cons.mp later).1 y hy

variable (key) in
/-- An order puts a row before the others with its key. -/
theorem exists_first (nodup : rows.Nodup) (mem : x ∈ rows) :
    ∃ order : Descending key, (order.sort rows)[above key rows x]? = some x := by
  classical
  obtain ⟨before, after, here, perm, larger, -, descends⟩ :=
    ranked_splits key (fun y => if y = x then 0 else 1) nodup mem
  have all : before.countP (fun y => key x < key y) = before.length := by
    refine List.countP_eq_length.mpr fun y hy => decide_eq_true ?_
    obtain ⟨other, less | ⟨-, rank⟩⟩ := larger y hy
    · exact less
    · simp [other] at rank
  have least : before.length ≤ above key rows x := by
    rw [← above_perm perm, above, List.countP_append, all]
    exact Nat.le_add_right ..
  have most := (place descends).1
  rw [above_perm perm] at most
  exact ⟨_, le_antisymm most least ▸ here⟩

variable (key) in
/-- An order puts a row behind the others with its key. -/
theorem exists_last (nodup : rows.Nodup) (mem : x ∈ rows) :
    ∃ order : Descending key, (order.sort rows)[through key rows x - 1]? = some x := by
  classical
  obtain ⟨before, after, here, perm, -, smaller, descends⟩ :=
    ranked_splits key (fun y => if y = x then 1 else 0) nodup mem
  have none : after.countP (fun y => key x ≤ key y) = 0 := by
    refine List.countP_eq_zero.mpr fun y hy large => ?_
    obtain ⟨other, less | ⟨-, rank⟩⟩ := smaller y hy
    · exact absurd (of_decide_eq_true large) (not_le.mpr less)
    · simp [other] at rank
  have most : through key rows x ≤ before.length + 1 := by
    have few : before.countP (fun y => key x ≤ key y) ≤ before.length := List.countP_le_length
    rw [← through_perm perm, through, List.countP_append, List.countP_cons, none]
    simp only [le_refl, decide_true, if_true]
    omega
  have least := (place descends).2
  rw [through_perm perm] at least
  have last : through key rows x - 1 = before.length := by omega
  exact ⟨_, last ▸ here⟩

/-- A page that does not cover a row misses it in some order. -/
theorem exists_hides (nodup : rows.Nodup) (mem : x ∈ rows) (uncovered : ¬ Covers key limit i rows x) :
    ∃ order : Descending key, x ∉ page limit i (order.sort rows) := by
  have only : ∀ (order : Descending key) {j k : ℕ}, (order.sort rows)[j]? = some x → (order.sort rows)[k]? = some x →
      j = k := by
    intro order j k hj hk
    obtain ⟨small, -⟩ := List.getElem?_eq_some_iff.mp hj
    exact (List.getElem?_inj small ((order.perm rows).nodup_iff.mpr nodup)).mp (hj.trans hk.symm)
  by_cases low : i * limit ≤ above key rows x
  · obtain ⟨order, atLast⟩ := exists_last key nodup mem
    refine ⟨order, fun here => uncovered ⟨low, ?_⟩⟩
    obtain ⟨j, found, -, high⟩ := mem_page.mp here
    have same := only _ found atLast
    omega
  · obtain ⟨order, atFirst⟩ := exists_first key nodup mem
    refine ⟨order, fun here => low ?_⟩
    obtain ⟨j, found, least, -⟩ := mem_page.mp here
    rwa [only _ found atFirst] at least

/-! ## Pages read one after another -/

variable {n : ℕ} {stored : ℕ → List α}

/-- **Certain rows.** A row is on one of the pages in all orders if and only if one of them covers it. -/
theorem certain_iff (nodup : ∀ i ≤ n, (stored i).Nodup) (mem : ∀ i ≤ n, x ∈ stored i) :
    (∀ orders : ℕ → Descending key, ∃ i ≤ n, x ∈ page limit i ((orders i).sort (stored i))) ↔
      ∃ i ≤ n, Covers key limit i (stored i) x := by
  constructor
  · intro certain
    by_contra never
    have hides : ∀ i, ∃ order : Descending key, i ≤ n → x ∉ page limit i (order.sort (stored i)) := by
      intro i
      by_cases read : i ≤ n
      · obtain ⟨order, hidden⟩ := exists_hides (nodup i read) (mem i read) fun covers => never ⟨i, read, covers⟩
        exact ⟨order, fun _ => hidden⟩
      · exact ⟨ranked key fun _ => 0, fun read' => absurd read' read⟩
    choose orders hidden using hides
    obtain ⟨i, read, here⟩ := certain orders
    exact hidden i read here
  · rintro ⟨i, read, covers⟩ orders
    exact ⟨i, read, mem_page_of_covers (orders i) (mem i read) covers⟩

/-- **No row is lost** while rows are only added: one that is alone with its key is covered by the first page that
ends behind it, for it was not before the start of that page either. -/
theorem covers_of_single (grows : ∀ i, (stored i).Sublist (stored (i + 1)))
    (single : (stored n).countP (fun y => key y = key x) ≤ 1) (short : (stored n).length < (n + 1) * limit) :
    ∃ i ≤ n, Covers key limit i (stored i) x := by
  have grown : ∀ k, ∀ i, (stored i).Sublist (stored (i + k)) := by
    intro k i
    induction k with
    | zero => exact .refl _
    | succ k ih => exact ih.trans (grows (i + k))
  have ends : ∃ i, above key (stored i) x < (i + 1) * limit :=
    ⟨n, lt_of_le_of_lt List.countP_le_length short⟩
  classical
  have read : Nat.find ends ≤ n := Nat.find_min' ends (lt_of_le_of_lt List.countP_le_length short)
  refine ⟨Nat.find ends, read, ?_, ?_⟩
  · cases found : Nat.find ends with
    | zero =>
      rw [Nat.zero_mul]
      exact Nat.zero_le _
    | succ i =>
      have before : ¬ above key (stored i) x < (i + 1) * limit :=
        Nat.find_min ends (by rw [found]; exact i.lt_succ_self)
      exact (not_lt.mp before).trans (grows i).countP_le
  · rw [through_eq]
    have later := grown (n - Nat.find ends) (Nat.find ends)
    rw [Nat.add_sub_cancel' read] at later
    have alone := (later.countP_le (p := fun y => decide (key y = key x))).trans single
    have found := Nat.find_spec ends
    omega

end Offset
