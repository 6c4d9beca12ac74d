import Mathlib

/-!
# Annuities

What `n` payments of one, each due a period after the one before, are worth a period before the first of them, where
what is owed grows by a factor in every period.

- `present`: the worth of the payments; `present_lt`, `present_strictMono`, `present_strictAnti`: how it depends on
  their number and on the growth;
- `owed`: what is left of a debt after some payments; `owed_eq`: the payments that are still to come are worth it.
-/

namespace Annuity

set_option linter.unusedSectionVars false

variable {F : Type} [Field F] [LinearOrder F] [IsStrictOrderedRing F]

/-- The worth of `n` payments of one under growth by `q`. -/
def present (q : F) : ℕ → F
  | 0 => 0
  | n + 1 => (present q n + 1) / q

/-- What is left of a debt after `k` payments. -/
def owed (debt q payment : F) : ℕ → F
  | 0 => debt
  | k + 1 => owed debt q payment k * q - payment

variable {q : F}

theorem present_nonneg (hq : 0 < q) (n : ℕ) : 0 ≤ present q n := by
  induction n with
  | zero => exact le_rfl
  | succ n ih => exact div_nonneg (by linarith) hq.le

theorem present_pos (hq : 0 < q) {n : ℕ} (hn : 0 < n) : 0 < present q n := by
  obtain ⟨m, rfl⟩ := Nat.exists_eq_succ_of_ne_zero hn.ne'
  have rest := present_nonneg hq m
  exact div_pos (by linarith) hq

/-- A period later. -/
theorem present_succ_mul (hq : 0 < q) (n : ℕ) : present q (n + 1) * q = present q n + 1 :=
  div_mul_cancel₀ _ hq.ne'

/-- The sum of the discounted payments, multiplied out. -/
theorem present_mul (hq : 0 < q) (n : ℕ) : present q n * ((q - 1) * q ^ n) = q ^ n - 1 := by
  induction n with
  | zero => simp [present]
  | succ n ih =>
    calc present q (n + 1) * ((q - 1) * q ^ (n + 1)) = present q (n + 1) * q * ((q - 1) * q ^ n) := by ring
      _ = (present q n + 1) * ((q - 1) * q ^ n) := by rw [present_succ_mul hq]
      _ = present q n * ((q - 1) * q ^ n) + (q - 1) * q ^ n := by ring
      _ = q ^ (n + 1) - 1 := by rw [ih]; ring

theorem present_le (hq : 1 ≤ q) (n : ℕ) : present q n ≤ n := by
  have positive : 0 < q := by linarith
  induction n with
  | zero => simp [present]
  | succ n ih =>
    have more := present_nonneg positive n
    calc (present q n + 1) / q ≤ present q n + 1 := div_le_self (by linarith) hq
      _ ≤ ((n + 1 : ℕ) : F) := by push_cast; linarith

/-- Payments to come are worth less than their sum. -/
theorem present_lt (hq : 1 < q) {n : ℕ} (hn : 0 < n) : present q n < n := by
  obtain ⟨m, rfl⟩ := Nat.exists_eq_succ_of_ne_zero hn.ne'
  have more := present_nonneg (by linarith : 0 < q) m
  calc (present q m + 1) / q < present q m + 1 := div_lt_self (by linarith) hq
    _ ≤ ((m + 1 : ℕ) : F) := by push_cast; linarith [present_le hq.le m]

/-- More payments are worth more. -/
theorem present_strictMono (hq : 0 < q) : StrictMono (present q) := by
  refine strictMono_nat_of_lt_succ fun n => ?_
  induction n with
  | zero => exact present_pos hq one_pos
  | succ n ih =>
    have more : present q n + 1 < present q (n + 1) + 1 := by linarith
    exact div_lt_div_of_pos_right more hq

theorem present_anti {q' : F} (hq : 0 < q) (faster : q ≤ q') (n : ℕ) : present q' n ≤ present q n := by
  induction n with
  | zero => exact le_rfl
  | succ n ih => exact div_le_div₀ (by linarith [present_nonneg hq n]) (by linarith) hq faster

/-- Payments are worth less where debts grow faster. -/
theorem present_strictAnti {q' : F} (hq : 0 < q) (faster : q < q') {n : ℕ} (hn : 0 < n) : present q' n < present q n := by
  obtain ⟨m, rfl⟩ := Nat.exists_eq_succ_of_ne_zero hn.ne'
  have before := present_anti hq faster.le m
  have more := present_nonneg hq m
  calc (present q' m + 1) / q' ≤ (present q m + 1) / q' := div_le_div_of_nonneg_right (by linarith) (by linarith)
    _ < (present q m + 1) / q := div_lt_div_of_pos_left (by linarith) hq faster

/-- **Amortisation**: a debt that the payments are worth is worth, after some of them, those still to come. -/
theorem owed_eq (hq : 0 < q) (payment : F) {n k : ℕ} (hk : k ≤ n) :
    owed (payment * present q n) q payment k = payment * present q (n - k) := by
  induction k with
  | zero => rfl
  | succ k ih =>
    have left : n - k = n - (k + 1) + 1 := by omega
    show owed _ q payment k * q - payment = _
    rw [ih (by omega), left, mul_assoc, present_succ_mul hq]
    ring

end Annuity
