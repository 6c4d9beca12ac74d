import UnionBank.Lib.Annuity
import UnionBank.Amortisation

/-!
# The EMI formula

`calculate_emi` of `utils/formatting.py` over exact numbers: before it is rounded, the instalment is the principal over
the worth of the payments, so that a debt which grows by the monthly rate is paid off by the last of them.

- `calculateEmi`, with the rounding as a parameter; `Emi.balance`: the debt after some months;
- `Emi.Amortises`: what a formula for instalments has to do; `calculateEmi_amortises`.
-/

namespace UnionBank

variable {F : Type} [Field F] [LinearOrder F] [IsStrictOrderedRing F]

section Formula

local instance twelve_atLeastTwo : Nat.AtLeastTwo 12 := ⟨by decide⟩

local instance hundred_atLeastTwo : Nat.AtLeastTwo 100 := ⟨by decide⟩

/-- `calculate_emi`; `round2` is `round(x, 2)`. -/
def calculateEmi (round2 : F → F) (principal annualRate : F) (tenureMonths : Int) : F :=
  if principal ≤ 0 ∨ annualRate ≤ 0 ∨ tenureMonths ≤ 0 then 0
  else
    let monthlyRate := annualRate / 12 / 100
    if monthlyRate = 0 then round2 (principal / tenureMonths)
    else
      let emi := principal * monthlyRate * (1 + monthlyRate) ^ tenureMonths.toNat /
        ((1 + monthlyRate) ^ tenureMonths.toNat - 1)
      round2 emi

end Formula

namespace Emi

/-- The debt after `k` months: it grows by the monthly rate, and an instalment is paid. -/
def balance (principal annualRate emi : F) : ℕ → F
  | 0 => principal
  | k + 1 => balance principal annualRate emi k * (1 + annualRate / 1200) - emi

/-- The divisors of the formula are not zero, and its instalment repays the debt with the last of `n` payments and not
before. More than the principal is paid. The instalment grows with the principal and with the rate, and more payments
make it smaller. -/
structure Amortises (emi : F → F → Int → F) (principal annualRate : F) (n : ℕ) : Prop where
  divisors : (12 : F) ≠ 0 ∧ (100 : F) ≠ 0 ∧ (1 + annualRate / 12 / 100) ^ n - 1 ≠ 0
  owing : ∀ k < n, 0 < balance principal annualRate (emi principal annualRate n) k
  repaid : balance principal annualRate (emi principal annualRate n) n = 0
  interest : principal < emi principal annualRate n * n
  principal_lt : ∀ {principal'}, principal < principal' → emi principal annualRate n < emi principal' annualRate n
  rate_lt : ∀ {annualRate'}, annualRate < annualRate' → emi principal annualRate n < emi principal annualRate' n
  tenure_lt : ∀ {n' : ℕ}, n < n' → emi principal annualRate n' < emi principal annualRate n

end Emi

section Formula

variable {principal annualRate : F} {n : ℕ}

/-- Inside its domain the code computes the formula. -/
theorem calculateEmi_eq (round2 : F → F) (hp : 0 < principal) (hr : 0 < annualRate) (hn : 0 < n) :
    calculateEmi round2 principal annualRate n = round2 (emiFormula principal annualRate n) := by
  have inside : ¬(principal ≤ 0 ∨ annualRate ≤ 0 ∨ (n : Int) ≤ 0) := by
    rw [not_or, not_or, not_le, not_le, not_le]
    exact ⟨hp, hr, by exact_mod_cast hn⟩
  have positive : annualRate / 12 / 100 ≠ 0 := by positivity
  simp only [calculateEmi, if_neg inside, if_neg positive, Int.toNat_natCast]
  rfl

/-- The factor by which a debt grows in a month. -/
theorem one_lt_growth (hr : 0 < annualRate) : 1 < 1 + annualRate / 12 / 100 := by
  have positive : 0 < annualRate / 12 / 100 := by positivity
  linarith

/-- The divisor of the formula. -/
theorem growth_pow_sub_one_pos (hr : 0 < annualRate) (hn : 0 < n) : 0 < (1 + annualRate / 12 / 100) ^ n - 1 :=
  sub_pos.mpr (one_lt_pow₀ (one_lt_growth hr) hn.ne')

/-- The formula divides the principal by the worth of the payments. -/
theorem emiFormula_eq (principal : F) (hr : 0 < annualRate) (hn : 0 < n) :
    emiFormula principal annualRate n = principal / Annuity.present (1 + annualRate / 12 / 100) n := by
  have growth : 0 < 1 + annualRate / 12 / 100 := zero_lt_one.trans (one_lt_growth hr)
  have worth := Annuity.present_mul growth n
  have sum : (1 + annualRate / 12 / 100 - 1) * (1 + annualRate / 12 / 100) ^ n =
      annualRate / 12 / 100 * (1 + annualRate / 12 / 100) ^ n := by ring
  rw [sum] at worth
  have divisor := (growth_pow_sub_one_pos hr hn).ne'
  have present := (Annuity.present_pos growth hn).ne'
  show principal * (annualRate / 12 / 100) * _ / _ = _
  rw [div_eq_div_iff divisor present, ← worth]
  ring

theorem balance_eq_owed (principal emi : F) (k : ℕ) :
    Emi.balance principal annualRate emi k = Annuity.owed principal (1 + annualRate / 12 / 100) emi k := by
  have monthly : annualRate / 1200 = annualRate / 12 / 100 := by ring
  induction k with
  | zero => rfl
  | succ k ih => rw [Emi.balance, Annuity.owed, ih, monthly]

/-- The debt is the worth of the payments that are still to come. -/
theorem balance_eq_present (principal : F) (hr : 0 < annualRate) (hn : 0 < n) {k : ℕ} (hk : k ≤ n) :
    Emi.balance principal annualRate (emiFormula principal annualRate n) k =
      emiFormula principal annualRate n * Annuity.present (1 + annualRate / 12 / 100) (n - k) := by
  have growth : 0 < 1 + annualRate / 12 / 100 := zero_lt_one.trans (one_lt_growth hr)
  have debt : emiFormula principal annualRate n * Annuity.present (1 + annualRate / 12 / 100) n = principal := by
    rw [emiFormula_eq principal hr hn]
    exact div_mul_cancel₀ _ (Annuity.present_pos growth hn).ne'
  have left := Annuity.owed_eq growth (emiFormula principal annualRate n) hk
  rw [debt] at left
  rw [balance_eq_owed, left]

theorem emiFormula_pos (hp : 0 < principal) (hr : 0 < annualRate) (hn : 0 < n) : 0 < emiFormula principal annualRate n := by
  rw [emiFormula_eq principal hr hn]
  exact div_pos hp (Annuity.present_pos (zero_lt_one.trans (one_lt_growth hr)) hn)

/-- **The formula amortises the loan.** -/
theorem calculateEmi_amortises (hp : 0 < principal) (hr : 0 < annualRate) (hn : 1 ≤ n) :
    Emi.Amortises (calculateEmi id) principal annualRate n := by
  have growth := one_lt_growth hr
  have positive : 0 < 1 + annualRate / 12 / 100 := zero_lt_one.trans growth
  have worth := Annuity.present_pos positive hn
  have formula : ∀ {p a : F} {m : ℕ}, 0 < p → 0 < a → 0 < m →
      calculateEmi id p a m = p / Annuity.present (1 + a / 12 / 100) m := fun hp' hr' hm => by
    rw [calculateEmi_eq id hp' hr' hm, id, emiFormula_eq _ hr' hm]
  constructor
  · exact ⟨by norm_num, by norm_num, (growth_pow_sub_one_pos hr hn).ne'⟩
  · intro k hk
    rw [calculateEmi_eq id hp hr hn, id, balance_eq_present principal hr hn hk.le]
    exact mul_pos (emiFormula_pos hp hr hn) (Annuity.present_pos positive (by omega))
  · rw [calculateEmi_eq id hp hr hn, id, balance_eq_present principal hr hn le_rfl, Nat.sub_self]
    exact mul_zero _
  · rw [formula hp hr hn, div_mul_eq_mul_div, lt_div_iff₀ worth]
    exact mul_lt_mul_of_pos_left (Annuity.present_lt growth hn) hp
  · intro principal' larger
    rw [formula hp hr hn, formula (hp.trans larger) hr hn]
    exact div_lt_div_of_pos_right larger worth
  · intro annualRate' larger
    have faster : 1 + annualRate / 12 / 100 < 1 + annualRate' / 12 / 100 := by linarith
    rw [formula hp hr hn, formula hp (hr.trans larger) hn]
    exact div_lt_div_of_pos_left hp (Annuity.present_pos (positive.trans faster) hn)
      (Annuity.present_strictAnti positive faster hn)
  · intro n' more
    rw [formula hp hr (by omega), formula hp hr hn]
    exact div_lt_div_of_pos_left hp worth (Annuity.present_strictMono positive more)

end Formula

/-- A thousand rupees for two months at 12 percent. -/
theorem calculateEmi_amortises_phone : Emi.Amortises (calculateEmi (F := ℚ) id) 1000 12 2 :=
  calculateEmi_amortises (by norm_num) (by norm_num) (by norm_num)

/-- The formulas in rupees are those of the code. -/
theorem rupeeEnv_calculateEmi (principal annualRate : ℚ) (tenureMonths : Int) :
    rupeeEnv.calculateEmi principal annualRate tenureMonths = calculateEmi round2 principal annualRate tenureMonths := by
  by_cases outside : principal ≤ 0 ∨ annualRate ≤ 0 ∨ tenureMonths ≤ 0
  · simp only [rupeeEnv, calculateEmi, if_pos outside]
  · rw [not_or, not_or, not_le, not_le, not_le] at outside
    obtain ⟨hp, hr, hn⟩ := outside
    obtain ⟨n, rfl⟩ := Int.eq_ofNat_of_zero_le hn.le
    rw [calculateEmi_eq round2 hp hr (by exact_mod_cast hn)]
    have inside : ¬(principal ≤ 0 ∨ annualRate ≤ 0 ∨ (n : Int) ≤ 0) := by
      rw [not_or, not_or, not_le, not_le, not_le]
      exact ⟨hp, hr, hn⟩
    simp only [rupeeEnv, if_neg inside, Int.toNat_natCast]

end UnionBank
