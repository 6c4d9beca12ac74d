import Mathlib

/-!
# The Gregorian calendar

Dates, the day after a date, and the date of a day number (day 0 is 1970-01-01), before it as well.

- `Date`, `Date.next`: the calendar's own rules;
- `ofDay`: the date of a day number, by the four-hundred-year eras that begin on a first of March;
- `ofDay_succ`: the next number is the next date;
- `monthIndex`, `first`: months in a row and their first days; `monthIndex_lt_iff`.
-/

namespace Calendar

structure Date where
  year : ℤ
  month : ℕ
  day : ℕ
deriving DecidableEq

def isLeap (year : ℤ) : Bool := year % 4 = 0 && (year % 100 ≠ 0 || year % 400 = 0)

def monthLength (leap : Bool) (month : ℕ) : ℕ :=
  if month = 2 then (if leap then 29 else 28) else if month ∈ [4, 6, 9, 11] then 30 else 31

/-- The day after. -/
def Date.next (d : Date) : Date :=
  if d.day < monthLength (isLeap d.year) d.month then { d with day := d.day + 1 }
  else if d.month < 12 then ⟨d.year, d.month + 1, 1⟩
  else ⟨d.year + 1, 1, 1⟩

/-! ## Day numbers -/

/-- The years since the first of March of the era's year 0, on a day of the era. -/
def eraYear (e : ℕ) : ℕ := (e - e / 1460 + e / 36524 - e / 146096) / 365

/-- The days of the era before a year of it. -/
def yearStart (y : ℕ) : ℕ := 365 * y + y / 4 - y / 100

/-- The months since the last March, on a day since the last first of March. -/
def marchMonth (d : ℕ) : ℕ := (5 * d + 2) / 153

def monthOf (d : ℕ) : ℕ := if marchMonth d < 10 then marchMonth d + 3 else marchMonth d - 9

def dayOf (d : ℕ) : ℕ := d - (153 * marchMonth d + 2) / 5 + 1

/-- The date of a day since the first of March of a year. -/
def march (year : ℤ) (d : ℕ) : Date := ⟨if marchMonth d < 10 then year else year + 1, monthOf d, dayOf d⟩

def era (n : ℤ) : ℤ := (n + 719468) / 146097

def eraDay (n : ℤ) : ℕ := ((n + 719468) % 146097).toNat

def ofDay (n : ℤ) : Date := march (400 * era n + eraYear (eraDay n)) (eraDay n - yearStart (eraYear (eraDay n)))

example : ofDay 0 = ⟨1970, 1, 1⟩ := by decide +kernel

/-! ## The years of an era -/

/-- The days from a first of March to the next, before which the year is a leap year or is none. -/
def marchYear (leap : Bool) : ℕ := if leap then 366 else 365

/-- The days of a year of the era. -/
def yearLength (y : ℕ) : ℕ := marchYear (isLeap (y + 1))

theorem yearStart_succ : ∀ y < 399, yearStart (y + 1) = yearStart y + yearLength y := by
  decide +kernel

theorem eraYear_mono {e e' : ℕ} (h : e ≤ e') : eraYear e ≤ eraYear e' := by
  -- every fourth century day is taken back
  have century (e : ℕ) : e / 146096 = e / 36524 / 4 := by rw [Nat.div_div_eq_div_mul]
  have days : e - e / 1460 ≤ e' - e' / 1460 := by omega
  have centuries : e / 36524 ≤ e' / 36524 := Nat.div_le_div_right h
  unfold eraYear
  rw [century, century]
  generalize e - e / 1460 = a, e' - e' / 1460 = a', e / 36524 = c, e' / 36524 = c' at *
  exact Nat.div_le_div_right (by omega)

/-- The first and the last day of each year of the era are counted to it. -/
theorem eraYear_ends : ∀ y < 400,
    eraYear (yearStart y) = y ∧ eraYear (yearStart y + yearLength y - 1) = y ∧
      yearStart y + yearLength y ≤ 146097 := by
  decide +kernel

theorem yearLength_pos (y : ℕ) : 0 < yearLength y := by
  unfold yearLength marchYear
  split <;> decide

theorem eraYear_eq {y d : ℕ} (year : y < 400) (day : d < yearLength y) : eraYear (yearStart y + d) = y := by
  obtain ⟨first, last, bound⟩ := eraYear_ends y year
  refine le_antisymm ?_ ?_
  · rw [← last]
    nth_rewrite 1 [last]
    exact eraYear_mono (by omega)
  · nth_rewrite 1 [← first]
    exact eraYear_mono (by omega)

/-- Every day of the era lies in a year of it. -/
theorem exists_year {e : ℕ} (h : e < 146097) : ∃ y < 400, ∃ d < yearLength y, e = yearStart y + d := by
  induction e with
  | zero => exact ⟨0, by decide, 0, by decide, rfl⟩
  | succ e ih =>
    obtain ⟨y, year, d, day, rfl⟩ := ih (by omega)
    by_cases more : d + 1 < yearLength y
    · exact ⟨y, year, d + 1, more, rfl⟩
    · have next : y < 399 := by
        by_contra last
        obtain rfl : y = 399 := by omega
        have length : yearLength 399 = 366 := by decide
        have start : yearStart 399 = 145731 := by decide
        omega
      refine ⟨y + 1, by omega, 0, yearLength_pos _, ?_⟩
      rw [yearStart_succ y next]
      omega

/-! ## The next day -/

theorem monthLength_of_ne {m : ℕ} (h : m ≠ 2) (leap leap' : Bool) : monthLength leap m = monthLength leap' m := by
  simp [monthLength, h]

/-- Inside a year from March on, a day is not the last of its month, or it is and the next is a first. -/
theorem march_days : ∀ leap, ∀ d < 366, d + 1 < marchYear leap →
    (dayOf d < monthLength leap (monthOf d) ∧ marchMonth (d + 1) = marchMonth d ∧ dayOf (d + 1) = dayOf d + 1) ∨
      (dayOf d = monthLength leap (monthOf d) ∧ marchMonth (d + 1) = marchMonth d + 1 ∧ dayOf (d + 1) = 1 ∧
        marchMonth d < 11) := by
  decide +kernel

theorem march_last (leap : Bool) {d : ℕ} (h : d + 1 = marchYear leap) :
    marchMonth d = 11 ∧ dayOf d = monthLength leap 2 := by
  cases leap <;> cases h <;> decide

/-- February is in the second calendar year. -/
theorem monthLength_march (year : ℤ) (d : ℕ) :
    monthLength (isLeap (march year d).year) (monthOf d) = monthLength (isLeap (year + 1)) (monthOf d) := by
  by_cases first : marchMonth d < 10
  · refine monthLength_of_ne ?_ _ _
    rw [monthOf, if_pos first]
    omega
  · rw [march, if_neg first]

theorem march_succ {year : ℤ} {d : ℕ} (h : d + 1 < marchYear (isLeap (year + 1))) :
    (march year d).next = march year (d + 1) := by
  have bound : d < 366 := by
    have : marchYear (isLeap (year + 1)) ≤ 366 := by unfold marchYear; split <;> decide
    omega
  have length := monthLength_march year d
  rcases march_days _ d bound h with ⟨inside, month, day⟩ | ⟨last, month, day, before⟩
  · rw [← length] at inside
    have more : (march year d).day < monthLength (isLeap (march year d).year) (march year d).month := inside
    rw [Date.next, if_pos more]
    simp only [march, monthOf, month, day]
  · rw [← length] at last
    have full : ¬(march year d).day < monthLength (isLeap (march year d).year) (march year d).month :=
      not_lt.mpr last.symm.le
    rw [Date.next, if_neg full]
    simp only [march, monthOf, month, day]
    -- January begins the second calendar year
    split_ifs <;> simp only [Date.mk.injEq, true_and, and_true] <;> omega

theorem march_year {year : ℤ} {d : ℕ} (h : d + 1 = marchYear (isLeap (year + 1))) :
    (march year d).next = march (year + 1) 0 := by
  obtain ⟨month, day⟩ := march_last _ h
  have february : monthOf d = 2 := by simp [monthOf, month]
  have length := monthLength_march year d
  have full : ¬(march year d).day < monthLength (isLeap (march year d).year) (march year d).month := by
    rw [show (march year d).month = monthOf d from rfl, length, february, ← day]
    exact lt_irrefl _
  rw [Date.next, if_neg full]
  simp only [march, february, month]
  rfl

theorem isLeap_era (a : ℤ) (y : ℕ) : isLeap (400 * a + y + 1) = isLeap (y + 1) := by
  have four : (400 * a + y + 1) % 4 = ((y : ℤ) + 1) % 4 := by omega
  have hundred : (400 * a + y + 1) % 100 = ((y : ℤ) + 1) % 100 := by omega
  have era : (400 * a + y + 1) % 400 = ((y : ℤ) + 1) % 400 := by omega
  simp [isLeap, four, hundred, era]

/-- Every day is one of a year of its era. -/
theorem exists_ofDay (n : ℤ) : ∃ y < 400, ∃ d < yearLength y,
    n = 146097 * era n + yearStart y + d - 719468 ∧ ofDay n = march (400 * era n + y) d := by
  have bound : eraDay n < 146097 := by unfold eraDay; omega
  obtain ⟨y, year, d, day, eq⟩ := exists_year bound
  refine ⟨y, year, d, day, ?_, ?_⟩
  · unfold eraDay at eq
    unfold era
    omega
  · rw [ofDay, eq, eraYear_eq year day, Nat.add_sub_cancel_left]

theorem ofDay_eq {a : ℤ} {y d : ℕ} (year : y < 400) (day : d < yearLength y) :
    ofDay (146097 * a + yearStart y + d - 719468) = march (400 * a + y) d := by
  obtain ⟨-, -, bound⟩ := eraYear_ends y year
  have same : era (146097 * a + yearStart y + d - 719468) = a := by unfold era; omega
  have rest : eraDay (146097 * a + yearStart y + d - 719468) = yearStart y + d := by unfold eraDay; omega
  rw [ofDay, same, rest, eraYear_eq year day, Nat.add_sub_cancel_left]

/-- The next day has the next date. -/
theorem ofDay_succ (n : ℤ) : ofDay (n + 1) = (ofDay n).next := by
  obtain ⟨y, year, d, day, number, date⟩ := exists_ofDay n
  have leap := isLeap_era (era n) y
  rw [date]
  by_cases more : d + 1 < yearLength y
  · rw [march_succ (by rw [leap]; exact more), ← ofDay_eq year more]
    congr 1
    push_cast
    omega
  · have last : d + 1 = yearLength y := by omega
    rw [march_year (by rw [leap]; exact last)]
    by_cases next : y < 399
    · have start := yearStart_succ y next
      have eq := ofDay_eq (a := era n) (show y + 1 < 400 by omega) (yearLength_pos (y + 1))
      rw [show (400 * era n + (y : ℤ) + 1) = 400 * era n + ((y + 1 : ℕ) : ℤ) by push_cast; ring, ← eq]
      congr 1
      push_cast
      omega
    · obtain rfl : y = 399 := by omega
      have eq := ofDay_eq (a := era n + 1) (show 0 < 400 by decide) (yearLength_pos 0)
      have length : yearLength 399 = 366 := by decide
      have start : yearStart 399 = 145731 := by decide
      rw [show (400 * era n + ((399 : ℕ) : ℤ) + 1) = 400 * (era n + 1) + ((0 : ℕ) : ℤ) by push_cast; ring, ← eq]
      congr 1
      rw [show yearStart 0 = 0 from rfl]
      push_cast
      omega

/-! ## Months -/

/-- Months in a row. -/
def Date.monthIndex (d : Date) : ℤ := 12 * d.year + d.month

def monthIndex (n : ℤ) : ℤ := (ofDay n).monthIndex

/-- The first day of the month. -/
def first (n : ℤ) : ℤ := n - ((ofDay n).day - 1)

theorem day_pos (n : ℤ) : 1 ≤ (ofDay n).day := Nat.le_add_left 1 _

theorem month_le (n : ℤ) : (ofDay n).month ≤ 12 := by
  obtain ⟨y, -, d, day, -, date⟩ := exists_ofDay n
  have bound : d < 366 := by unfold yearLength marchYear at day; split at day <;> omega
  have months : marchMonth d ≤ 11 := by unfold marchMonth; omega
  rw [date]
  change monthOf d ≤ 12
  unfold monthOf
  split <;> omega

/-- The next day is the next of the month, or the first of the next month. -/
theorem succ_cases (n : ℤ) :
    ((ofDay (n + 1)).day = (ofDay n).day + 1 ∧ monthIndex (n + 1) = monthIndex n) ∨
      ((ofDay (n + 1)).day = 1 ∧ monthIndex (n + 1) = monthIndex n + 1) := by
  have december := month_le n
  unfold monthIndex
  rw [ofDay_succ, Date.next]
  split_ifs with inside before
  · exact .inl ⟨rfl, rfl⟩
  · refine .inr ⟨rfl, ?_⟩
    simp only [Date.monthIndex]
    push_cast
    ring
  · refine .inr ⟨rfl, ?_⟩
    simp only [Date.monthIndex]
    omega

theorem monthIndex_mono {m n : ℤ} (h : m ≤ n) : monthIndex m ≤ monthIndex n := by
  induction n, h using Int.leInduction with
  | base => exact le_rfl
  | succ n _ ih => rcases succ_cases n with ⟨-, same⟩ | ⟨-, next⟩ <;> omega

theorem day_sub {k : ℕ} {n : ℤ} (h : (ofDay n).day = k + 1) :
    (ofDay (n - k)).day = 1 ∧ monthIndex (n - k) = monthIndex n := by
  induction k generalizing n with
  | zero => simp [h]
  | succ k ih =>
    have step := succ_cases (n - 1)
    rw [sub_add_cancel] at step
    rcases step with ⟨day, same⟩ | ⟨day, -⟩
    · obtain ⟨one, index⟩ := ih (n := n - 1) (by omega)
      rw [show n - ((k + 1 : ℕ) : ℤ) = n - 1 - k by push_cast; ring]
      exact ⟨one, index.trans same.symm⟩
    · omega

theorem ofDay_first (n : ℤ) : (ofDay (first n)).day = 1 ∧ monthIndex (first n) = monthIndex n := by
  have pos := day_pos n
  have eq : first n = n - ((ofDay n).day - 1 : ℕ) := by unfold first; omega
  rw [eq]
  exact day_sub (by omega)

/-- The day before the first of a month is in the month before. -/
theorem monthIndex_pred (n : ℤ) : monthIndex (first n - 1) + 1 = monthIndex n := by
  obtain ⟨one, index⟩ := ofDay_first n
  have pos := day_pos (first n - 1)
  have step := succ_cases (first n - 1)
  rw [sub_add_cancel] at step
  rcases step with ⟨day, -⟩ | ⟨-, next⟩
  · omega
  · omega

theorem monthIndex_lt_iff {k n : ℤ} : monthIndex k < monthIndex n ↔ k < first n := by
  constructor
  · intro less
    by_contra later
    have := monthIndex_mono (not_lt.mp later)
    have := (ofDay_first n).2
    omega
  · intro earlier
    have := monthIndex_mono (show k ≤ first n - 1 by omega)
    have := monthIndex_pred n
    omega

end Calendar
