import UnionBank.Search

/-!
# Search periods

`compute_time_window` and the date filter of `execute_query`: the month, the week and the day before the current ones.
The filter keeps both of its ends, so the first instant of the current period counts to the one before.

- `Period`: its last and its current window, its number on the calendar, and its `start`;
- `dated`: the date filter; `examine_dated`: what `examine` makes of it;
- `Exact`: the windows are the periods of the calendar; `exact_iff`.
-/

namespace UnionBank

namespace Analyzr

open Calendar

/-! ## The date filter -/

/-- The two comparisons of the date filter. -/
def dated (window : Option Instant × Option Instant) (timestamp : Instant) : Bool :=
  (window.1.all fun fromDate => fromDate ≤ timestamp) && window.2.all fun toDate => timestamp ≤ toDate

/-- The other filters. -/
def Filters.undated (f : Filters) : Filters := { f with fromDate := none, toDate := none }

section Examine

variable {D : Type} (u : Unicode) (f : Filters)

theorem passing_dated {t : Transaction D} :
    Passing u f t ↔ Passing u f.undated t ∧ dated (f.fromDate, f.toDate) t.timestamp := by
  simp only [dated, Bool.and_eq_true, Option.all_eq_true, decide_eq_true_eq]
  constructor
  · intro pass
    exact ⟨⟨pass.typed, pass.categorised, nofun, nofun⟩, pass.since, pass.before⟩
  · intro ⟨pass, since, before⟩
    exact ⟨pass.typed, pass.categorised, since, before⟩

/-- A row is a result when the other filters take it and the date filter does. -/
theorem examine_dated [Field D] [LinearOrder D] (allTxns : List (Transaction D)) (txn : Transaction D) :
    examine u f allTxns txn = .ok true ↔
      examine u f.undated allTxns txn = .ok true ∧ dated (f.fromDate, f.toDate) txn.timestamp := by
  have dates := passing_dated u f (t := txn)
  have bounds : InBounds f.undated txn ↔ InBounds f txn :=
    ⟨fun b => ⟨b.atLeast, b.atMost⟩, fun b => ⟨b.atLeast, b.atMost⟩⟩
  rw [examine_eq, examine_eq, bounds]
  by_cases inside : dated (f.fromDate, f.toDate) txn.timestamp
  · by_cases pass : Passing u f.undated txn
    · rw [if_pos pass, if_pos (dates.mpr ⟨pass, inside⟩)]
      simp only [inside, and_true]
      rfl
    · rw [if_neg pass, if_neg fun pass' => pass (dates.mp pass').1]
      simp
  · rw [if_neg fun pass => inside (dates.mp pass).2]
    simp [inside]

end Examine

/-! ## Periods of the calendar -/

inductive Period where
  | month
  | week
  | day

namespace Period

/-- The window of the period before the current one. -/
def last : Period → TimeWindow
  | month => .lastMonth
  | week => .lastWeek
  | day => .yesterday

def current : Period → TimeWindow
  | month => .thisMonth
  | week => .thisWeek
  | day => .today

/-- The number of the period of a day: months of the calendar, weeks from Monday on, days. -/
def numberOf (p : Period) (n : ℤ) : ℤ :=
  match p with
  | month => monthIndex n
  | week => (n + 3) / 7
  | day => n

def number (p : Period) (t : Instant) : ℤ := p.numberOf (t / Instant.day)

/-- The first day of the period of a day. -/
def firstDay (p : Period) (n : ℤ) : ℤ :=
  match p with
  | month => Calendar.first n
  | week => n - (n + 3) % 7
  | day => n

/-- The first instant of the period. -/
def start (p : Period) (t : Instant) : Instant := p.firstDay (t / Instant.day) * Instant.day

end Period

/-- What the searches of the last and of the current period make of a timestamp. -/
structure Exact (p : Period) (now timestamp : Instant) (last current : Option Instant × Option Instant) : Prop where
  /-- The last period is the one before the current. -/
  selected : dated last timestamp ↔ p.number timestamp + 1 = p.number now
  /-- No timestamp is in both. -/
  disjoint : ¬(dated last timestamp ∧ dated current timestamp)
  /-- They leave no gap. -/
  covered : p.number now ≤ p.number timestamp + 1 → dated last timestamp ∨ dated current timestamp

section Windows

variable {p : Period} {now t : Instant} {intents : List Intent}

theorem foldl_skip {A : Type} {f : A → Intent → A} (skip : ∀ a intent, intent.timeWindow = none → f a intent = a)
    (nothing : intents.filterMap Intent.timeWindow = []) (a : A) : intents.foldl f a = a := by
  induction intents with
  | nil => rfl
  | cons intent intents ih =>
    cases window : intent.timeWindow with
    | none =>
      rw [List.filterMap_cons_none window] at nothing
      rw [List.foldl_cons, skip a intent window, ih nothing]
    | some w =>
      rw [List.filterMap_cons_some window] at nothing
      cases nothing

/-- Intents with one window among them make its dates. -/
theorem computeTimeWindow_eq {w : TimeWindow} (only : intents.filterMap Intent.timeWindow = [w]) :
    computeTimeWindow now intents = w.dates now none := by
  unfold computeTimeWindow
  induction intents with
  | nil => cases only
  | cons intent intents ih =>
    rw [List.foldl_cons]
    cases window : intent.timeWindow with
    | none =>
      rw [List.filterMap_cons_none window] at only
      exact ih only
    | some w' =>
      rw [List.filterMap_cons_some window] at only
      obtain ⟨rfl, nothing⟩ := List.cons_eq_cons.mp only
      exact foldl_skip (fun dates intent none => by simp [none]) nothing _

theorem midnight_eq (t : Instant) : t.midnight = t / Instant.day * Instant.day := by
  unfold Instant.midnight
  have := Int.mul_ediv_add_emod t Instant.day
  linarith

theorem firstOfMonth_eq (t : Instant) : t.firstOfMonth = first (t / Instant.day) * Instant.day := by
  rw [Instant.firstOfMonth, midnight_eq, first, Instant.date]
  ring

theorem instantDay_pos : 0 < Instant.day := by decide

theorem ediv_mul_day (n : ℤ) : n * Instant.day / Instant.day = n := Int.mul_ediv_cancel n instantDay_pos.ne'

theorem sub_days (t : Instant) (n : ℤ) : (t - n * Instant.day) / Instant.day = t / Instant.day - n := by
  rw [sub_eq_add_neg, ← neg_mul, Int.add_mul_ediv_right _ _ instantDay_pos.ne']
  ring

/-- Days are compared by their first instants. -/
theorem mul_day_le {n : ℤ} : n * Instant.day ≤ t ↔ n ≤ t / Instant.day :=
  (Int.le_ediv_iff_mul_le instantDay_pos).symm

theorem current_dates : p.current.dates now none = (some (p.start now), none) := by
  cases p with
  | month => exact congrArg (some · , none) (firstOfMonth_eq now)
  | week =>
    simp only [Period.current, TimeWindow.dates, midnight_eq, sub_days, Instant.weekday, Period.start,
      Period.firstDay]
  | day => simp only [Period.current, TimeWindow.dates, midnight_eq, Period.start, Period.firstDay]

/-- The last window runs from the start of the period before to the start of the current one. -/
theorem last_dates :
    p.last.dates now none =
      (some (p.firstDay (p.firstDay (now / Instant.day) - 1) * Instant.day), some (p.start now)) := by
  cases p with
  | month =>
    have before : first (now / Instant.day) * Instant.day - Instant.day =
        (first (now / Instant.day) - 1) * Instant.day := by ring
    simp only [Period.last, TimeWindow.dates, firstOfMonth_eq, Period.start, Period.firstDay]
    rw [before, ediv_mul_day]
  | week =>
    have monday : now - ((now / Instant.day + 3) % 7 + 7) * Instant.day + 7 * Instant.day =
        now - (now / Instant.day + 3) % 7 * Instant.day := by ring
    simp only [Period.last, TimeWindow.dates, midnight_eq, Instant.weekday, Period.start, Period.firstDay]
    have before (n : ℤ) : n - ((n + 3) % 7 + 7) = n - (n + 3) % 7 - 1 - (n - (n + 3) % 7 - 1 + 3) % 7 := by omega
    rw [monday, sub_days, sub_days, before]
  | day =>
    have yesterday : now - Instant.day = now - 1 * Instant.day := by ring
    simp only [Period.last, TimeWindow.dates, midnight_eq, Period.start, Period.firstDay]
    rw [yesterday, sub_days]

/-! ## Exactness -/

theorem numberOf_lt_iff {k n : ℤ} : p.numberOf k < p.numberOf n ↔ k < p.firstDay n := by
  cases p with
  | month => exact monthIndex_lt_iff
  | week =>
    simp only [Period.numberOf, Period.firstDay]
    omega
  | day => rfl

theorem numberOf_pred (n : ℤ) : p.numberOf (p.firstDay n - 1) + 1 = p.numberOf n := by
  cases p with
  | month => exact monthIndex_pred n
  | week =>
    simp only [Period.numberOf, Period.firstDay]
    omega
  | day => exact sub_add_cancel n 1

/-- The current window begins with the current period. -/
theorem dated_current : dated (p.current.dates now none) t ↔ p.number now ≤ p.number t := by
  rw [current_dates]
  simp only [dated, Option.all_some, Option.all_none, Bool.and_true, decide_eq_true_eq, Period.start, mul_day_le]
  rw [← not_lt, ← numberOf_lt_iff, not_lt]
  rfl

/-- The last window holds the period before the current one, and its end. -/
theorem dated_last :
    dated (p.last.dates now none) t ↔
      p.number now ≤ p.number t + 1 ∧ (p.number t < p.number now ∨ t = p.start now) := by
  have since : p.firstDay (p.firstDay (now / Instant.day) - 1) * Instant.day ≤ t ↔ p.number now ≤ p.number t + 1 := by
    have pred := numberOf_pred (p := p) (now / Instant.day)
    rw [mul_day_le, ← not_lt, ← numberOf_lt_iff, Period.number, Period.number]
    omega
  have before : t ≤ p.start now ↔ p.number t < p.number now ∨ t = p.start now := by
    rw [le_iff_lt_or_eq, ← not_le, Period.start, mul_day_le, not_le, ← numberOf_lt_iff]
    rfl
  rw [last_dates]
  simp only [dated, Option.all_some, Bool.and_eq_true, decide_eq_true_eq, since, before]

theorem numberOf_firstDay (n : ℤ) : p.numberOf (p.firstDay n) = p.numberOf n := by
  cases p with
  | month => exact (ofDay_first n).2
  | week =>
    simp only [Period.numberOf, Period.firstDay]
    omega
  | day => rfl

theorem number_start : p.number (p.start now) = p.number now := by
  rw [Period.number, Period.start, ediv_mul_day, numberOf_firstDay]
  rfl

/-- **Which timestamps are searched for exactly.** The windows of the last and of the current period are the periods of
the calendar for a timestamp unless it is the first instant of the current period; and a row is a result when the
window and the other filters take it. -/
theorem exact_iff (p : Period) (now timestamp : Instant) (last current : List Intent)
    (onlyLast : last.filterMap Intent.timeWindow = [p.last])
    (onlyCurrent : current.filterMap Intent.timeWindow = [p.current]) :
    (Exact p now timestamp (computeTimeWindow now last) (computeTimeWindow now current) ↔ timestamp ≠ p.start now) ∧
      ∀ {D : Type} [Field D] [LinearOrder D] (u : Unicode) (f : Filters) (allTxns : List (Transaction D))
        (txn : Transaction D), (f.fromDate, f.toDate) = computeTimeWindow now last →
          (examine u f allTxns txn = .ok true ↔
            examine u f.undated allTxns txn = .ok true ∧ dated (computeTimeWindow now last) txn.timestamp) := by
  refine ⟨?_, fun u f allTxns txn dates => dates ▸ examine_dated u f allTxns txn⟩
  rw [computeTimeWindow_eq onlyLast, computeTimeWindow_eq onlyCurrent]
  constructor
  · rintro ⟨selected, -, -⟩ rfl
    have same : p.number (p.start now) = p.number now := number_start
    rw [dated_last] at selected
    have := selected.mp ⟨by omega, .inr rfl⟩
    omega
  · intro inside
    have last : dated (p.last.dates now none) timestamp ↔ p.number now ≤ p.number timestamp + 1 ∧
        (p.number timestamp < p.number now ∨ timestamp = p.start now) := dated_last
    have current : dated (p.current.dates now none) timestamp ↔ p.number now ≤ p.number timestamp := dated_current
    constructor
    · rw [last]
      constructor
      · rintro ⟨since, before | start⟩
        · omega
        · exact absurd start inside
      · intro pred
        exact ⟨by omega, .inl (by omega)⟩
    · rw [last, current]
      rintro ⟨⟨-, before | start⟩, now⟩
      · omega
      · exact inside start
    · intro since
      rw [last, current]
      rcases lt_or_ge (p.number timestamp) (p.number now) with before | after
      · exact .inl ⟨since, .inl before⟩
      · exact .inr after

end Windows

end Analyzr

namespace Sample

open Analyzr

/-- The intents of a query for one window. -/
def searches (w : TimeWindow) : List Intent := intentPatterns.filter fun intent => intent.timeWindow = some w

/-- On 2024-03-01 at 09:00, a transaction of midnight is one of this month. -/
theorem leapMonth_twice :
    ¬Exact .month 1709283600000000 1709251200000000 (computeTimeWindow 1709283600000000 (searches .lastMonth))
      (computeTimeWindow 1709283600000000 (searches .thisMonth)) := by
  intro exact
  exact exact.disjoint (by decide +kernel)

theorem leapMonth_exact :
    (Exact .month 1709283600000000 1709164800000000 (computeTimeWindow 1709283600000000 (searches .lastMonth))
      (computeTimeWindow 1709283600000000 (searches .thisMonth))) :=
  (exact_iff .month 1709283600000000 1709164800000000 (searches .lastMonth) (searches .thisMonth) (by decide)
    (by decide)).1.mpr (by decide +kernel)

end Sample

end UnionBank
