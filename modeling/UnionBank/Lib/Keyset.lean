import Mathlib

/-!
# Pages of rows by descending keys

Rows are read in pages of a fixed length, from the largest key to the smallest, and a page goes on strictly below the
last key of the page before. Rows with equal keys may come in any order.

- `Descending`: the ways to order rows;
- `Untied`: no group of equal keys lies across the end of a page;
- `untied_append`, `not_untied`: what the end of the first page says about all of them.
-/

namespace Keyset

variable {α K : Type} [LinearOrder K] {key : α → K}

/-- A way to order rows by descending keys. It may put rows with equal keys in any order. -/
structure Descending (key : α → K) where
  sort : List α → List α
  perm : ∀ rows, (sort rows).Perm rows
  descends : ∀ rows, (sort rows).Pairwise fun x y => key y ≤ key x

/-- No group of equal keys lies across the end of a page: with `limit` rows a page, the rows with a key and those with
larger keys do not end behind a page end that the rows with larger keys do not reach. -/
def Untied (key : α → K) (limit : ℕ) (rows : List α) : Prop :=
  ∀ x ∈ rows, ∀ j, ¬ (rows.countP (fun y => key x < key y) < limit * j ∧
    limit * j < rows.countP fun y => key x ≤ key y)

variable {limit : ℕ}

theorem untied_perm {rows rows' : List α} (perm : rows.Perm rows') : Untied key limit rows ↔ Untied key limit rows' := by
  unfold Untied
  simp only [perm.mem_iff, perm.countP_eq]

/-- One page holds no page end. -/
theorem untied_of_length_le {rows : List α} (h : rows.length ≤ limit) : Untied key limit rows := by
  intro x _ j ⟨newer, atLeast⟩
  have most : rows.countP (fun y => key x ≤ key y) ≤ rows.length := List.countP_le_length
  cases j with
  | zero => simp at newer
  | succ j =>
    rw [Nat.mul_succ] at atLeast
    omega

/-- A first page above all other rows says nothing about them. -/
theorem untied_append {first rest : List α} (full : first.length = limit)
    (apart : ∀ x ∈ first, ∀ y ∈ rest, key y < key x) :
    Untied key limit (first ++ rest) ↔ Untied key limit rest := by
  have counts : ∀ x ∈ rest, (first ++ rest).countP (fun y => key x < key y) =
      limit + rest.countP (fun y => key x < key y) ∧
      (first ++ rest).countP (fun y => key x ≤ key y) = limit + rest.countP fun y => key x ≤ key y := by
    intro x hx
    have larger : first.countP (fun y => key x < key y) = first.length :=
      List.countP_eq_length.mpr fun y hy => decide_eq_true (apart y hy x hx)
    have atLeast : first.countP (fun y => key x ≤ key y) = first.length :=
      List.countP_eq_length.mpr fun y hy => decide_eq_true (apart y hy x hx).le
    rw [List.countP_append, List.countP_append, larger, atLeast, full]
    exact ⟨rfl, rfl⟩
  constructor
  · intro untied x hx j ⟨newer, atLeast⟩
    refine untied x (List.mem_append_right first hx) (j + 1) ?_
    rw [(counts x hx).1, (counts x hx).2, Nat.mul_succ]
    omega
  · intro untied x hx j ⟨newer, atLeast⟩
    cases j with
    | zero => simp at newer
    | succ j =>
      rw [Nat.mul_succ] at newer atLeast
      rcases List.mem_append.mp hx with inFirst | inRest
      · have none : rest.countP (fun y => key x ≤ key y) = 0 :=
          List.countP_eq_zero.mpr fun y hy same => absurd (of_decide_eq_true same) (not_le.mpr (apart x inFirst y hy))
        have some : first.countP (fun y => key x ≤ key y) ≤ first.length := List.countP_le_length
        rw [List.countP_append, none] at atLeast
        omega
      · rw [(counts x inRest).1] at newer
        rw [(counts x inRest).2] at atLeast
        exact untied x inRest j ⟨by omega, by omega⟩

/-- A key on both sides of the end of the first page. -/
theorem not_untied {init rest : List α} {x y : α} (full : (init ++ [x]).length = limit)
    (descends : (init ++ [x] ++ y :: rest).Pairwise fun x y => key y ≤ key x) (tied : key y = key x) :
    ¬ Untied key limit (init ++ [x] ++ y :: rest) := by
  intro untied
  have before : ∀ z ∈ init, key x ≤ key z := by
    intro z hz
    have sides := (List.pairwise_append.mp (List.pairwise_append.mp descends).1).2.2
    exact sides z hz x List.mem_cons_self
  have below : ∀ z ∈ rest, key z ≤ key x := by
    intro z hz
    have sides := (List.pairwise_append.mp descends).2.2
    exact sides x (by simp) z (List.mem_cons_of_mem y hz)
  have newer : (init ++ [x] ++ y :: rest).countP (fun z => key x < key z) ≤ init.length := by
    have none : (y :: rest).countP (fun z => key x < key z) = 0 := by
      refine List.countP_eq_zero.mpr fun z hz larger => ?_
      rcases List.mem_cons.mp hz with rfl | hz
      · exact absurd (of_decide_eq_true larger) (not_lt.mpr tied.le)
      · exact absurd (of_decide_eq_true larger) (not_lt.mpr (below z hz))
    have own : [x].countP (fun z => key x < key z) = 0 := by simp
    rw [List.countP_append, List.countP_append, none, own]
    exact List.countP_le_length
  have atLeast : init.length + 2 ≤ (init ++ [x] ++ y :: rest).countP fun z => key x ≤ key z := by
    have all : init.countP (fun z => key x ≤ key z) = init.length :=
      List.countP_eq_length.mpr fun z hz => decide_eq_true (before z hz)
    rw [List.countP_append, List.countP_append, all, List.countP_cons]
    simp [tied]
    omega
  simp only [List.length_append, List.length_singleton] at full
  exact untied x (by simp) 1 ⟨by omega, by omega⟩

/-- More rows than fit on a page: the page, with its last row, and the first row behind it. -/
theorem split_page {rows : List α} (positive : 1 ≤ limit) (long : limit < rows.length) :
    ∃ init x y rest, rows = init ++ [x] ++ y :: rest ∧ (init ++ [x]).length = limit := by
  have full : (rows.take limit).length = limit := by simp; omega
  have given : rows.take limit ≠ [] := by
    intro none
    rw [none, List.length_nil] at full
    omega
  have more : rows.drop limit ≠ [] := by
    intro none
    have short := List.drop_eq_nil_iff.mp none
    omega
  obtain ⟨y, rest, behind⟩ := List.exists_cons_of_ne_nil more
  refine ⟨(rows.take limit).dropLast, (rows.take limit).getLast given, y, rest, ?_, ?_⟩
  · rw [List.dropLast_append_getLast, ← behind, List.take_append_drop]
  · rw [List.dropLast_append_getLast, full]

/-- The rows strictly below the last row of a page, where the first row behind the page is. -/
theorem below_page {init rest : List α} {x y : α}
    (descends : (init ++ [x] ++ y :: rest).Pairwise fun x y => key y ≤ key x) (apart : key y < key x) :
    (init ++ [x] ++ y :: rest).filter (fun z => key z < key x) = y :: rest := by
  obtain ⟨page, later, sides⟩ := List.pairwise_append.mp descends
  have none : (init ++ [x]).filter (fun z => key z < key x) = [] := by
    refine List.filter_eq_nil_iff.mpr fun z hz smaller => ?_
    have small : key z < key x := of_decide_eq_true smaller
    rcases List.mem_append.mp hz with hz | hz
    · exact absurd ((List.pairwise_append.mp page).2.2 z hz x List.mem_cons_self) (not_le.mpr small)
    · rw [List.mem_singleton.mp hz] at small
      exact lt_irrefl _ small
  have all : (y :: rest).filter (fun z => key z < key x) = y :: rest := by
    refine List.filter_eq_self.mpr fun z hz => decide_eq_true ?_
    rcases List.mem_cons.mp hz with rfl | hz
    · exact apart
    · exact lt_of_le_of_lt ((List.pairwise_cons.mp later).1 z hz) apart
  rw [List.filter_append, none, all, List.nil_append]

end Keyset
