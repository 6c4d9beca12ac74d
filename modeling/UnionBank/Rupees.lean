import UnionBank.Exactness

/-!
# Amounts in rupees

Amounts as fractions, and the columns that keep two decimals of them, rounded half away from zero.

- `roundHalfAway`, `round2`: the rounding, off by at most half a unit and exact on whole paise;
- `rupees`: the columns; `rupees_exact`: they keep whole paise or refuse them.
-/

namespace UnionBank

/-! ## Rounding -/

/-- The next integer, away from zero from the middle on. -/
def roundHalfAway (x : ℚ) : ℤ := if x < 0 then -⌊-x + 1 / 2⌋ else ⌊x + 1 / 2⌋

theorem roundHalfAway_error (x : ℚ) : |(roundHalfAway x : ℚ) - x| ≤ 1 / 2 := by
  unfold roundHalfAway
  rw [abs_le]
  split
  · have low := Int.floor_le (-x + 1 / 2)
    have high := Int.lt_floor_add_one (-x + 1 / 2)
    push_cast
    constructor <;> linarith
  · have low := Int.floor_le (x + 1 / 2)
    have high := Int.lt_floor_add_one (x + 1 / 2)
    constructor <;> linarith

@[simp] theorem roundHalfAway_intCast (k : ℤ) : roundHalfAway k = k := by
  unfold roundHalfAway
  have half : ∀ j : ℤ, ⌊(j : ℚ) + 1 / 2⌋ = j := by
    intro j
    rw [Int.floor_eq_iff]
    constructor <;> linarith
  split
  · have := half (-k)
    rw [Int.cast_neg] at this
    rw [this, neg_neg]
  · exact half k

/-- `x` with two decimals. -/
def round2 (x : ℚ) : ℚ := roundHalfAway (x * 100) / 100

theorem round2_error (x : ℚ) : |round2 x - x| ≤ 1 / 200 := by
  have near := roundHalfAway_error (x * 100)
  have scaled : round2 x - x = (roundHalfAway (x * 100) - x * 100) / 100 := by
    unfold round2
    ring
  rw [scaled, abs_div, abs_of_pos (by norm_num : (0 : ℚ) < 100)]
  linarith

/-! ## Whole paise of rupees -/

/-- The amounts with at most two decimals. -/
def wholePaise : AddSubgroup ℚ := AddSubgroup.zmultiples (1 / 100)

theorem mem_wholePaise {x : ℚ} : x ∈ wholePaise ↔ ∃ k : ℤ, x = k / 100 := by
  rw [wholePaise, AddSubgroup.mem_zmultiples_iff]
  refine exists_congr fun k => ?_
  rw [zsmul_eq_mul, mul_one_div, eq_comm]

theorem round2_mem (x : ℚ) : round2 x ∈ wholePaise := mem_wholePaise.mpr ⟨_, rfl⟩

/-- Two decimals are kept. -/
theorem round2_of_mem {x : ℚ} (h : x ∈ wholePaise) : round2 x = x := by
  obtain ⟨k, rfl⟩ := mem_wholePaise.mp h
  rw [round2, div_mul_cancel₀ _ (by norm_num), roundHalfAway_intCast]

theorem round2_eq_self {x : ℚ} : round2 x = x ↔ x ∈ wholePaise :=
  ⟨fun h => h ▸ round2_mem x, round2_of_mem⟩

/-! ## Columns -/

/-- Columns of `p` digits, two of them decimals, over amounts in rupees. -/
def rupees : Backend ℚ where
  numeric p x := if |round2 x| < 10 ^ (p - 2) then some (round2 x) else none
  varchar n s := s.length ≤ n

theorem rupees_exact : rupees.Exact wholePaise := by
  intro p x y hx h
  simp only [rupees] at h
  split at h
  · rw [← Option.some.inj h, round2_of_mem hx]
  · cases h

end UnionBank
