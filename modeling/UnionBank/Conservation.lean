import UnionBank.Movements

/-!
# The money in the bank

Balances and savings goals together change by what the log says came in and went out (`money_conserved`). Transfers
and contributions only move money; a goal that ends gives back what it held, if there is an account to take it.
-/

namespace UnionBank

open Keyed

set_option linter.unusedSectionVars false

variable {D : Type} [AddCommGroup D] [LinearOrder D]

/-- The money in the bank: all balances, of deleted accounts too, and what the savings goals hold. -/
def Ledger.money (l : Ledger D) : D := l.accounts.sum Account.balance + l.goals.sum SavingsGoal.currentAmount

/-- The sum of the amounts of the rows of one type. -/
def total (type : TransactionType) (rows : List (Transaction D)) : D :=
  ((rows.filter fun t => t.type = type).map Transaction.amount).sum

/-- No savings goal holds a negative amount. -/
def Ledger.GoalsNonneg (l : Ledger D) : Prop := ∀ g ∈ l.goals.rows, 0 ≤ g.currentAmount

/-- Every row has the balance that its account now has. -/
def Ledger.Balances (l : Ledger D) (rows : List (Transaction D)) : Prop :=
  ∀ t ∈ rows, ∃ a, l.accounts.find? t.accountNumber = some a ∧ a.balance = t.balance

/-! ## Sums of rows -/

theorem total_append (type : TransactionType) (xs ys : List (Transaction D)) :
    total type (xs ++ ys) = total type xs + total type ys := by
  simp [total]

theorem total_cons (type : TransactionType) (t : Transaction D) (rows : List (Transaction D)) :
    total type (t :: rows) = (if t.type = type then t.amount else 0) + total type rows := by
  unfold total
  rw [List.filter_cons]
  split <;> simp_all

/-- What the rows bring in, by their types. -/
theorem external_sum (rows : List (Transaction D)) :
    (rows.map Transaction.external).sum = total .deposit rows - total .withdraw rows + total .interest rows
      + total .loanDisbursement rows - total .loanRepayment rows := by
  induction rows with
  | nil => simp [total]
  | cons t rows ih =>
    rw [List.map_cons, List.sum_cons, ih]
    simp only [total_cons]
    cases ht : t.type <;> simp [Transaction.external, Transaction.signed, ht] <;> abel

/-! ## One movement -/

section Step

variable {request : Request D} {l l' : Ledger D}

/-- Posting a new balance to a live account. -/
theorem Ledger.sum_withBalance {accNo : String} {account : Account D} (live : l.liveAccount? accNo = some account)
    (balance : D) :
    (l.accounts.set (account.withBalance balance)).sum Account.balance =
      l.accounts.sum Account.balance + (balance - account.balance) :=
  Table.sum_set (r := account.withBalance balance) Account.balance (Ledger.find?_of_live live)

theorem Ledger.find?_withBalance {accNo : String} {account : Account D} (live : l.liveAccount? accNo = some account)
    (balance : D) :
    (l.accounts.set (account.withBalance balance)).find? accNo = some (account.withBalance balance) := by
  obtain rfl : account.accountNumber = accNo := Ledger.accountNumber_of_live live
  have stored : l.accounts.find? (account.withBalance balance).accountNumber = some account :=
    Ledger.find?_of_live live
  exact Table.find?_set_self stored

/-- **One movement**: the money changes by what its rows bring in, and its rows have the balances it leaves. -/
theorem Movement.money (m : Movement request l l') (hg : l.GoalsNonneg)
    (hd : ∀ accNo goalId, request = .deleteGoal accNo goalId → l.liveAccount? accNo ≠ none) :
    ∃ rows, l'.transactions = l.transactions ++ rows ∧ l'.money = l.money + (rows.map Transaction.external).sum ∧
      l'.Balances rows := by
  cases m with
  | still same => exact ⟨[], by simp [same, Ledger.Balances]⟩
  | @entry account balance t live after size outside nonneg accounts log goals =>
    refine ⟨[t], log, ?_, ?_⟩
    · rw [Ledger.money, accounts, goals, Ledger.sum_withBalance live, size, Ledger.money, List.map_singleton,
        List.sum_singleton, outside]
      abel
    · simp only [Ledger.Balances, List.mem_singleton, forall_eq]
      exact ⟨_, by rw [accounts]; exact Ledger.find?_withBalance live _, after.symm⟩
  | @transfer sender receiver out in_ amount positive liveSender liveReceiver distinct typeOut typeIn amountOut
      amountIn afterOut afterIn nonneg accounts log goals loans =>
    have hs := Ledger.accountNumber_of_live liveSender
    have hr := Ledger.accountNumber_of_live liveReceiver
    have hne : receiver.accountNumber ≠ (sender.withBalance (sender.balance - amount)).accountNumber :=
      fun e => distinct (hs.symm.trans (e.symm.trans hr))
    have storedReceiver : (l.accounts.set (sender.withBalance (sender.balance - amount))).find?
        receiver.accountNumber = some receiver :=
      (Table.find?_set_of_ne _ hne).trans (Ledger.find?_of_live liveReceiver)
    refine ⟨[out, in_], log, ?_, ?_⟩
    · rw [Ledger.money, accounts, goals,
        Table.sum_set (r := receiver.withBalance (receiver.balance + amount)) Account.balance storedReceiver,
        Ledger.sum_withBalance liveSender, Ledger.money]
      simp only [List.map_cons, List.map_nil, List.sum_cons, List.sum_nil, Transaction.external, typeOut, typeIn,
        Account.withBalance]
      abel
    · simp only [Ledger.Balances, List.forall_mem_cons, accounts]
      refine ⟨⟨sender.withBalance (sender.balance - amount), ?_, afterOut.symm⟩,
        ⟨receiver.withBalance (receiver.balance + amount), ?_, afterIn.symm⟩, by simp⟩
      · have other : out.accountNumber ≠ (receiver.withBalance (receiver.balance + amount)).accountNumber :=
          fun e => distinct (e.trans hr)
        rw [Table.find?_set_of_ne _ other]
        exact Ledger.find?_withBalance liveSender _
      · rw [← hr]
        exact Table.find?_set_self (r := receiver.withBalance (receiver.balance + amount)) storedReceiver
  | @contribution account goal goal' t amount positive live found goals id saved type amountOut after nonneg accounts
      log loans =>
    have hgoal : l.goals.find? goal'.goalId = some goal := id ▸ found
    refine ⟨[t], log, ?_, ?_⟩
    · rw [Ledger.money, accounts, goals, Ledger.sum_withBalance live, Table.sum_set _ hgoal, Ledger.money, saved]
      simp only [List.map_cons, List.map_nil, List.sum_cons, List.sum_nil, Transaction.external, type]
      abel
    · simp only [Ledger.Balances, List.mem_singleton, forall_eq]
      exact ⟨_, by rw [accounts]; exact Ledger.find?_withBalance live _, after.symm⟩
  | @refund accNo goalId account goal asked found positive live accounts log goals loans =>
    refine ⟨[], by rw [log, List.append_nil], ?_, by simp [Ledger.Balances]⟩
    rw [Ledger.money, accounts, goals, Ledger.sum_withBalance live, Table.sum_erase _ found, Ledger.money,
      List.map_nil, List.sum_nil]
    abel
  | @drop accNo goalId goal asked found nothing accounts log goals loans =>
    refine ⟨[], by rw [log, List.append_nil], ?_, by simp [Ledger.Balances]⟩
    have empty : goal.currentAmount = 0 := by
      rcases nothing with h | h
      · exact le_antisymm (not_lt.mp h) (hg _ (Table.mem_of_find? found))
      · exact absurd h (hd _ _ asked)
    rw [Ledger.money, accounts, goals, Table.sum_erase _ found, Ledger.money, empty, List.map_nil, List.sum_nil]
    abel
  | @opened goal empty accounts log goals loans =>
    refine ⟨[], by rw [log, List.append_nil], ?_, by simp [Ledger.Balances]⟩
    obtain ⟨hnew, hgoals⟩ := Table.insert?_eq_some.mp goals
    rw [Ledger.money, accounts, ← hgoals, Table.sum_insert, Ledger.money, empty, List.map_nil, List.sum_nil]
    abel
  | paper accounts log goals =>
    exact ⟨[], by rw [log, List.append_nil], by simp [Ledger.money, accounts, goals], by simp [Ledger.Balances]⟩
  | @status account account' live accounts number balance log goals loans =>
    refine ⟨[], by rw [log, List.append_nil], ?_, by simp [Ledger.Balances]⟩
    have stored : l.accounts.find? account'.accountNumber = some account := number ▸ Ledger.find?_of_live live
    rw [Ledger.money, accounts, goals, Table.sum_set _ stored, balance, Ledger.money, List.map_nil, List.sum_nil]
    abel

/-- Goals stay without negative amounts. -/
theorem Movement.goalsNonneg [IsOrderedAddMonoid D] (m : Movement request l l') (hg : l.GoalsNonneg) :
    l'.GoalsNonneg := by
  intro g hm
  cases m with
  | still same => exact hg g (same ▸ hm)
  | entry _ _ _ _ _ _ _ goals | transfer _ _ _ _ _ _ _ _ _ _ _ _ _ goals | paper _ _ goals
  | status _ _ _ _ _ goals => exact hg g (goals ▸ hm)
  | contribution positive live found goals id saved =>
    rw [goals] at hm
    rcases Table.mem_set hm with rfl | ⟨hm, -⟩
    · rw [saved]
      exact add_nonneg (hg _ (Table.mem_of_find? found)) positive.le
    · exact hg g hm
  | refund _ _ _ _ _ _ goals | drop _ _ _ _ _ goals =>
    rw [goals] at hm
    exact hg g (List.mem_of_mem_filter hm)
  | opened empty _ _ goals =>
    obtain ⟨hnew, hgoals⟩ := Table.insert?_eq_some.mp goals
    rw [← hgoals] at hm
    rcases List.mem_append.mp hm with hm | hm
    · exact hg g hm
    · rw [List.mem_singleton.mp hm, empty]

end Step

/-! ## Runs -/

section Run

variable [IsOrderedAddMonoid D] {env : Env D} {B : Backend D} {cents : AddSubgroup D}

/-- A call with exact amounts that is no profile update; a goal is deleted for a live account. -/
def Bank.Proper (cents : AddSubgroup D) (bank : Bank D) (tc : ℕ × Call D) : Prop :=
  tc.2.request.Exact cents ∧ tc.2.request.isProfile = false ∧
    ∀ accNo goalId, tc.2.request = .deleteGoal accNo goalId → bank.db.liveAccount? accNo ≠ none

/-- Every row a call adds has the balance its account has right after the call. -/
def Bank.RowsBalance (env : Env D) (B : Backend D) (bank : Bank D) (tc : ℕ × Call D) : Prop :=
  (bank.serve env B tc.1 tc.2).2.db.Balances (bank.added (bank.serve env B tc.1 tc.2).2)

/-- What the log says of the money of a run: it changed by what the added rows brought in, and every row was added with
the balance of its account. -/
def Bank.MoneyLaw (env : Env D) (B : Backend D) (bank : Bank D) (calls : List (ℕ × Call D)) : Prop :=
  (∃ rows, (bank.run env B calls).db.transactions = bank.db.transactions ++ rows ∧
    (bank.run env B calls).db.money = bank.db.money + total .deposit rows - total .withdraw rows
      + total .interest rows + total .loanDisbursement rows - total .loanRepayment rows) ∧
  bank.Along env B (Bank.RowsBalance env B) calls

/-- What a proper call does to the money and to the log. -/
theorem serve_money (hB : B.Exact cents) (henv : env.Exact cents) {bank : Bank D} (idle : bank.Idle)
    (exact : bank.db.toLedger.Exact cents) (goals : bank.db.GoalsNonneg) {tc : ℕ × Call D}
    (proper : bank.Proper cents tc) :
    (bank.serve env B tc.1 tc.2).2.db.toLedger.Exact cents ∧ (bank.serve env B tc.1 tc.2).2.db.GoalsNonneg ∧
      ∃ rows, (bank.serve env B tc.1 tc.2).2.db.transactions = bank.db.transactions ++ rows ∧
        (bank.serve env B tc.1 tc.2).2.db.money = bank.db.money + (rows.map Transaction.external).sum ∧
        (bank.serve env B tc.1 tc.2).2.db.Balances rows := by
  obtain ⟨hr, hp, hd⟩ := proper
  obtain ⟨m, exact'⟩ := (serve_settles env B idle tc.1 tc.2).1.movement hB henv exact hr hp
  exact ⟨exact', m.goalsNonneg goals, m.money goals hd⟩

/-- **The money in the bank changes by what the added rows bring in.** -/
theorem money_conserved (hB : B.Exact cents) (henv : env.Exact cents) {bank : Bank D} (idle : bank.Idle)
    (exact : bank.db.toLedger.Exact cents) (goals : bank.db.GoalsNonneg) {calls : List (ℕ × Call D)}
    (proper : bank.Along env B (Bank.Proper cents) calls) : bank.MoneyLaw env B calls := by
  let I := fun bank' : Bank D => bank'.Idle ∧ bank'.db.toLedger.Exact cents ∧ bank'.db.GoalsNonneg ∧
    ∃ rows, bank'.db.transactions = bank.db.transactions ++ rows ∧
      bank'.db.money = bank.db.money + (rows.map Transaction.external).sum
  have start : I bank := ⟨idle, exact, goals, [], by simp⟩
  have step : ∀ bank' tc, I bank' → bank'.Proper cents tc →
      bank'.RowsBalance env B tc ∧ I (bank'.serve env B tc.1 tc.2).2 := by
    rintro bank' tc ⟨idle, exact, goals, rows, log, money⟩ proper
    obtain ⟨exact', goals', rows', log', money', balances⟩ := serve_money hB henv idle exact goals proper
    refine ⟨?_, (serve_settles env B idle tc.1 tc.2).2, exact', goals', rows ++ rows', ?_, ?_⟩
    · rw [Bank.RowsBalance, Bank.added, log', List.drop_left]
      exact balances
    · rw [log', log, List.append_assoc]
    · rw [money', money, List.map_append, List.sum_append, add_assoc]
  constructor
  · obtain ⟨-, -, -, rows, log, money⟩ := Bank.run_induction proper start fun bank' tc hI hp => (step bank' tc hI hp).2
    refine ⟨rows, log, ?_⟩
    rw [money, external_sum]
    abel
  · exact proper.of_invariant start step

end Run

/-! ## Examples -/

namespace Sample

/-- A deposit, a transfer, a contribution and the end of the goal. -/
def movements : List (ℕ × Call ℤ) :=
  [(0, ⟨.deposit "1001" 2500 "Salary" none, draws 0⟩), (1, ⟨.transfer "1001" "1002" 4000 "Rent" none, draws 1⟩),
    (0, ⟨.contribute "1002" "G1" 1500, draws 2⟩), (1, ⟨.deleteGoal "1002" "G1", draws 3⟩)]

theorem movements_proper : (bank 10000 5000 700).Along paiseEnv paise (Bank.Proper ⊤) movements := by
  refine ⟨⟨Request.exact_top _, rfl, by simp⟩, ⟨Request.exact_top _, rfl, by simp⟩,
    ⟨Request.exact_top _, rfl, by simp⟩, ⟨Request.exact_top _, rfl, ?_⟩, trivial⟩
  rintro accNo goalId h
  obtain ⟨rfl, -⟩ : "1002" = accNo ∧ "G1" = goalId := by simpa using h
  decide

theorem store_goalsNonneg : (store 10000 5000 700).GoalsNonneg := by simp [Ledger.GoalsNonneg, store, goal]

theorem money_conserved_movements : (bank 10000 5000 700).MoneyLaw paiseEnv paise movements :=
  money_conserved paise_exact paiseEnv_exact (bank_idle _ _ _) (Ledger.exact_top _) store_goalsNonneg movements_proper

/-- A goal that holds less than nothing ends without a refund: the money in the bank goes up and no row says so. -/
theorem negative_goal_vanishes :
    (bank 10000 5000 (-700)).Along paiseEnv paise (Bank.Proper ⊤) [(0, ⟨.deleteGoal "1002" "G1", draws 0⟩)] ∧
      ¬(bank 10000 5000 (-700)).MoneyLaw paiseEnv paise [(0, ⟨.deleteGoal "1002" "G1", draws 0⟩)] := by
  refine ⟨⟨⟨trivial, rfl, ?_⟩, trivial⟩, ?_⟩
  · rintro accNo goalId h
    obtain ⟨rfl, -⟩ : "1002" = accNo ∧ "G1" = goalId := by simpa using h
    decide
  · rintro ⟨⟨rows, log, money⟩, -⟩
    have noRows : ((bank 10000 5000 (-700)).run paiseEnv paise [(0, ⟨.deleteGoal "1002" "G1", draws 0⟩)]).db.transactions = [] := by
      decide
    obtain ⟨-, rfl⟩ : _ ∧ rows = [] := by simpa [noRows] using log.symm
    revert money
    decide

end Sample

end UnionBank
