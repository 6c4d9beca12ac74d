import UnionBank.Dormancy
import UnionBank.DoubleEntry

/-!
# Monthly interest

Only `apply_interest` logs interest, one row for each call that goes through, and nothing keeps a customer from calling
it again.

- `credits`: the interest rows of an account in a month, for any calendar; `Ledger.OncePerMonth`;
- `Timely`: the calls that keep it: none for an account that has been credited in the month and would earn again;
- `writes_interest`: the rows a visit logs; `interest_once_a_month`: every run of timely visits.
-/

namespace UnionBank

open Keyed Programs Prog

set_option linter.unusedSectionVars false

variable {D μ : Type} [Zero D] [Add D] [Sub D] [LE D] [LT D] [DecidableEq D] [DecidableLE D] [DecidableLT D] [DecidableEq μ]

/-- A row that credits interest to an account in a month. -/
def Transaction.credits (month : Time → μ) (accNo : String) (m : μ) (t : Transaction D) : Bool :=
  t.type = .interest && t.accountNumber = accNo && month t.timestamp = m

/-- The interest rows of an account in a month; `month` tells the months of a calendar apart. -/
def Ledger.credits (l : Ledger D) (month : Time → μ) (accNo : String) (m : μ) : List (Transaction D) :=
  l.transactions.filter (Transaction.credits month accNo m)

/-- At most one interest row for each account and month. -/
def Ledger.OncePerMonth (month : Time → μ) (l : Ledger D) : Prop := ∀ accNo m, (l.credits month accNo m).length ≤ 1

/-- The account can transact, and its balance earns interest. -/
def Earns (env : Env D) (db : Db D) (accNo : String) : Prop :=
  ∃ account ∈ db.liveAccount? accNo, account.canTransact = true ∧ ¬env.calculateMonthlyInterest account.balance ≤ 0

instance (env : Env D) (db : Db D) (accNo : String) : Decidable (Earns env db accNo) := by
  unfold Earns
  infer_instance

/-- A visit that does not credit interest twice: `apply_interest` is called for an account without a credit in the month
of the call, or for one that earns nothing. -/
def Timely (env : Env D) (month : Time → μ) (bank : Bank D) (tv : ℕ × Visit D) : Prop :=
  match tv.2 with
  | .call ⟨.applyInterest accNo, draws⟩ =>
    bank.db.credits month accNo (month draws.now) = [] ∨ ¬Earns env bank.db accNo
  | _ => True

instance (env : Env D) (month : Time → μ) (bank : Bank D) (tv : ℕ × Visit D) : Decidable (Timely env month bank tv) := by
  unfold Timely
  split <;> infer_instance

section Rows

variable {env : Env D} {checks : Checks} {B : Backend D} {db : Db D}

/-- The rows a posting logs: one of interest, by `apply_interest` on an account that earns, or none of interest. -/
theorem posts_interest {draws : Draws} {request : Request D} {cs : List (Change D)} (posts : Posts env draws db request cs) :
    (∃ accNo t, request = .applyInterest accNo ∧ Earns env db accNo ∧ rowsOf cs = [t] ∧ t.accountNumber = accNo ∧
      t.timestamp = draws.now) ∨ ∀ t ∈ rowsOf cs, t.type ≠ .interest := by
  cases posts with
  | @applyInterest accNo account live can positive =>
    exact .inl ⟨accNo, _, rfl, ⟨account, live, can, positive⟩, rfl, rfl, rfl⟩
  | updateProfile =>
    right
    rw [rowsOf_staged]
    simp
  | @changePassword _ _ _ account versions live verified support =>
    right
    have none : rowsOf [versions] = [] := by
      cases versions with
      | insert row => cases row <;> first | rfl | cases support
      | _ => rfl
    intro t ht
    rcases List.mem_append.mp (show t ∈ rowsOf [Change.account account _] ++ rowsOf [versions] from
      rowsOf_append [Change.account account _] [versions] ▸ ht) with ht | ht
    · cases ht
    · rw [none] at ht
      cases ht
  | transfer =>
    right
    rintro t (_ | ⟨_, _ | ⟨_, ht⟩⟩)
    · simp
    · simp
    · cases ht
  | _ => exact .inr (by simp [rowsOf, Change.row?])

/-- The rows a visit logs. -/
theorem writes_interest {v : Visit D} {cs : List (Change D)} (writes : v.Writes env db cs) :
    (∃ accNo draws t, v = .call ⟨.applyInterest accNo, draws⟩ ∧ Earns env db accNo ∧ rowsOf cs = [t] ∧
      t.accountNumber = accNo ∧ t.timestamp = draws.now) ∨ ∀ t ∈ rowsOf cs, t.type ≠ .interest := by
  cases writes with
  | @call c cs posts =>
    obtain ⟨request, draws⟩ := c
    rcases posts_interest posts with ⟨accNo, t, rfl, earns, only, number, time⟩ | none
    · exact .inl ⟨accNo, draws, t, rfl, earns, only, number, time⟩
    · exact .inr none
  | _ => exact .inr (by simp [rowsOf, Change.row?])

/-- A stored row credits what the staged one does. -/
theorem Keeps.credits {t stored : Transaction D} (h : Keeps B t stored) (month : Time → μ) (accNo : String) (m : μ) :
    stored.credits month accNo m = t.credits month accNo m := by
  obtain ⟨amount, balance, -, rfl⟩ := h
  rfl

/-- A stored row was staged. -/
theorem exists_staged {ts stored : List (Transaction D)} (h : List.Forall₂ (Keeps B) ts stored) {row : Transaction D}
    (hrow : row ∈ stored) : ∃ t ∈ ts, Keeps B t row := by
  induction h with
  | nil => cases hrow
  | @cons t first ts rest kept _ ih =>
    rcases List.mem_cons.mp hrow with rfl | hrow
    · exact ⟨t, List.mem_cons_self, kept⟩
    · obtain ⟨t', ht, kept'⟩ := ih hrow
      exact ⟨t', List.mem_cons_of_mem _ ht, kept'⟩

end Rows

variable (env : Env D) (checks : Checks) (B : Backend D) (month : Time → μ)

/-- **One visit** that is timely keeps the law. -/
theorem attend_oncePerMonth {bank : Bank D} (idle : bank.Idle) {tv : ℕ × Visit D} (timely : Timely env month bank tv)
    (once : bank.db.OncePerMonth month) : (bank.attend env checks B tv.1 tv.2).2.db.OncePerMonth month := by
  obtain ⟨thread, v⟩ := tv
  obtain ⟨attended, -⟩ := attend_settles env checks B idle thread v
  cases attended with
  | unmoved ledger =>
    show Ledger.OncePerMonth month (Bank.db _).toLedger
    rw [ledger]
    exact once
  | moved writes flushed ledger =>
    show Ledger.OncePerMonth month (Bank.db _).toLedger
    rw [ledger]
    obtain ⟨stored, log, kept⟩ := flush_rows flushed
    intro accNo m
    have before := once accNo m
    unfold Ledger.credits at before ⊢
    rw [log, List.filter_append, List.length_append]
    rcases writes_interest writes with ⟨accNo', draws, t, rfl, earns, only, number, time⟩ | none
    · rw [only] at kept
      obtain ⟨row, rest, keeps, over_, rfl⟩ := List.forall₂_cons_left_iff.mp kept
      obtain rfl := List.forall₂_nil_left_iff.mp over_
      have same := keeps.credits month accNo m
      by_cases here : row.credits month accNo m = true
      · have place : accNo' = accNo ∧ month draws.now = m := by
          rw [same] at here
          simp only [Transaction.credits, Bool.and_eq_true, decide_eq_true_eq] at here
          exact ⟨number.symm.trans here.1.2, by rw [← time]; exact here.2⟩
        obtain ⟨rfl, rfl⟩ := place
        have fresh : bank.db.credits month accNo' (month draws.now) = [] := by
          rcases timely with fresh | never
          · exact fresh
          · exact absurd earns never
        have empty : bank.db.transactions.filter (Transaction.credits month accNo' (month draws.now)) = [] := fresh
        rw [empty]
        simp [List.filter_cons_of_pos here]
      · rw [List.filter_cons_of_neg here]
        exact before
    · have nothing : stored.filter (Transaction.credits month accNo m) = [] := by
        rw [List.filter_eq_nil_iff]
        intro row hrow credited
        obtain ⟨t, ht, kept⟩ := exists_staged kept hrow
        rw [kept.credits] at credited
        simp only [Transaction.credits, Bool.and_eq_true, decide_eq_true_eq] at credited
        exact none t ht credited.1.1
      rw [nothing]
      exact before

/-- **Interest once a month**: in every run of timely visits, in whatever order and on whatever threads, the log holds at
most one interest row for each account and month after every visit. -/
theorem interest_once_a_month {bank : Bank D} (idle : bank.Idle) (once : bank.db.OncePerMonth month)
    {visits : List (ℕ × Visit D)} (timely : bank.Throughout env checks B (Timely env month) visits) (k : ℕ) :
    (bank.day env checks B (visits.take k)).db.OncePerMonth month := by
  have both := Bank.day_induction (I := fun bank => bank.Idle ∧ bank.db.OncePerMonth month) timely ⟨idle, once⟩
    (fun bank tv inv timely => ⟨(attend_settles env checks B inv.1 tv.1 tv.2).2,
      attend_oncePerMonth env checks B month inv.1 timely inv.2⟩) k
  exact both.2

/-! ## Twice in a second -/

namespace Sample

/-- The year and the month of an instant, for a clock that starts in January 1970. -/
def calendarMonth (now : Time) : ℕ × ℕ :=
  let days := now / (24 * 60 * 60 * 1000000) + 719468
  let day := days % 146097
  let year := (day - day / 1460 + day / 36524 - day / 146096) / 365
  let rest := 5 * (day - (365 * year + year / 4 - year / 100)) + 2
  let month := if rest / 153 < 10 then rest / 153 + 3 else rest / 153 - 9
  (year + days / 146097 * 400 + (if month ≤ 2 then 1 else 0), month)

example : calendarMonth (31 * 24 * 60 * 60 * 1000000) = (1970, 2) := by decide

/-- Account 1001 asks for its interest at two instants. -/
def harvest (first second : Time) : List (ℕ × Visit ℤ) :=
  [(0, .call ⟨.applyInterest "1001", { draws 1 with now := first }⟩),
    (0, .call ⟨.applyInterest "1001", { draws 2 with now := second }⟩)]

/-- In January and in February. -/
theorem interest_once_a_month_harvest :
    ((bank 10000 5000 0).day paiseEnv lenient paise ((harvest 0 (31 * 24 * 60 * 60 * 1000000)).take 2)).db.OncePerMonth
      calendarMonth := by
  have timely : (bank 10000 5000 0).Throughout paiseEnv lenient paise (Timely paiseEnv calendarMonth)
      (harvest 0 (31 * 24 * 60 * 60 * 1000000)) := ⟨.inl (by decide +kernel), .inl (by decide +kernel), trivial⟩
  exact interest_once_a_month paiseEnv lenient paise calendarMonth (bank_idle 10000 5000 0) (fun _ _ => Nat.zero_le _)
    timely 2

/-- Two credits within a second. -/
theorem interest_twice : ¬((bank 10000 5000 0).day paiseEnv lenient paise (harvest 0 1)).db.OncePerMonth calendarMonth := by
  intro once
  have two : (((bank 10000 5000 0).day paiseEnv lenient paise (harvest 0 1)).db.credits calendarMonth "1001"
      (1970, 1)).length = 2 := by decide +kernel
  have one := once "1001" (1970, 1)
  rw [two] at one
  exact absurd one (by decide)

end Sample

end UnionBank
