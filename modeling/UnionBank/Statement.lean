import UnionBank.Movements

/-!
# The statement of an account

Every change of a balance comes with one row of the log (`Movement.oneRow`), except the refund of a savings goal; in a
run without refunds the balance of an account is what its rows say (`statement_explains`).
-/

namespace UnionBank

open Keyed

set_option linter.unusedSectionVars false

variable {D : Type} [AddCommGroup D] [LinearOrder D]

namespace Ledger

/-- The stored balance of an account. -/
def balance? (l : Ledger D) (accNo : String) : Option D := (l.accounts.find? accNo).map Account.balance

/-- The sum of the signed rows of an account. -/
def statement (l : Ledger D) (accNo : String) : D :=
  ((l.transactions.filter fun t => t.accountNumber = accNo).map Transaction.signed).sum

/-- The balance of the account is the sum of its signed rows. -/
def Explains (l : Ledger D) (accNo : String) : Prop := ∀ balance, l.balance? accNo = some balance → balance = l.statement accNo

/-- The balance of the account stayed and no row was added for it, or it changed by the one row that was. -/
def OneRow (l l' : Ledger D) (rows : List (Transaction D)) (accNo : String) : Prop :=
  (l'.balance? accNo = l.balance? accNo ∧ (rows.filter fun t => t.accountNumber = accNo) = []) ∨
    ∃ t balance, (rows.filter fun t => t.accountNumber = accNo) = [t] ∧ l.balance? accNo = some balance ∧
      l'.balance? accNo = some (balance + t.signed)

variable {l l' : Ledger D} {accNo : String}

/-- A new opening explains an account with balance zero. -/
theorem explains_of_opened (hb : l.balance? accNo = some 0) (hr : ∀ t ∈ l.transactions, t.accountNumber ≠ accNo) :
    l.Explains accNo := by
  intro balance h
  obtain rfl : 0 = balance := by simpa [hb] using h
  have none : (l.transactions.filter fun t => t.accountNumber = accNo) = [] :=
    List.filter_eq_nil_iff.mpr fun t hm => by simpa using hr t hm
  rw [statement, none, List.map_nil, List.sum_nil]

/-- One row for each change keeps the statement true. -/
theorem Explains.step {rows : List (Transaction D)} (h : l.Explains accNo)
    (log : l'.transactions = l.transactions ++ rows) (one : OneRow l l' rows accNo) : l'.Explains accNo := by
  intro balance' hb'
  rw [statement, log, List.filter_append, List.map_append, List.sum_append]
  rcases one with ⟨same, none⟩ | ⟨t, balance, single, hb, hb''⟩
  · rw [none, List.map_nil, List.sum_nil, add_zero]
    exact h balance' (same ▸ hb')
  · rw [single, List.map_singleton, List.sum_singleton]
    obtain rfl : balance + t.signed = balance' := Option.some.inj (hb''.symm.trans hb')
    rw [h balance hb]
    rfl

/-! ## Stored balances -/

theorem balance?_of_live {account : Account D} (live : l.liveAccount? accNo = some account) :
    l.balance? accNo = some account.balance := by
  rw [balance?, (liveAccount?_eq_some.mp live).1, Option.map_some]

/-- A new balance, and every other one as it was. -/
theorem balance?_set {account : Account D} (account' : Account D) {accounts : Table (Account.accountNumber (D := D))}
    (stored : accounts.find? account'.accountNumber = some account) (accNo : String) :
    ((accounts.set account').find? accNo).map Account.balance =
      if accNo = account'.accountNumber then some account'.balance else (accounts.find? accNo).map Account.balance := by
  rw [Table.find?_set]
  split
  · rename_i h
    subst h
    rw [stored]
    rfl
  · rfl

end Ledger

/-! ## One movement -/

open Ledger

/-- The end of a savings goal that gives something back. -/
def Ledger.Refunds (l : Ledger D) (request : Request D) : Prop :=
  ∃ accNo goalId goal, request = .deleteGoal accNo goalId ∧ l.goals.find? goalId = some goal ∧
    0 < goal.currentAmount ∧ l.liveAccount? accNo ≠ none

/-- **One movement that is no refund** adds one row for every balance it changes. -/
theorem Movement.oneRow {request : Request D} {l l' : Ledger D} (m : Movement request l l')
    (hn : ¬l.Refunds request) :
    ∃ rows, l'.transactions = l.transactions ++ rows ∧ ∀ accNo, OneRow l l' rows accNo := by
  have unchanged : l'.accounts = l.accounts → l'.transactions = l.transactions →
      ∃ rows, l'.transactions = l.transactions ++ rows ∧ ∀ accNo, OneRow l l' rows accNo := fun accounts log =>
    ⟨[], by rw [log, List.append_nil], fun accNo => .inl ⟨by rw [balance?, accounts]; rfl, rfl⟩⟩
  have single : ∀ {t : Transaction D} {account : Account D} {balance : D},
      l.liveAccount? t.accountNumber = some account → l'.accounts = l.accounts.set (account.withBalance balance) →
      balance = account.balance + t.signed → ∀ accNo, OneRow l l' [t] accNo := by
    intro t account balance live accounts size accNo
    have hn := accountNumber_of_live live
    have stored := find?_of_live live
    by_cases h : t.accountNumber = accNo
    · subst h
      refine .inr ⟨t, account.balance, by simp, balance?_of_live live, ?_⟩
      rw [balance?, accounts, balance?_set (account.withBalance balance) stored, ← size]
      exact if_pos hn.symm
    · refine .inl ⟨?_, by simp [h]⟩
      rw [balance?, accounts, balance?_set (account.withBalance balance) stored]
      exact if_neg fun e => h (e.trans hn).symm
  cases m with
  | still same => exact unchanged (by rw [same]) (by rw [same])
  | @entry account balance t live after size outside nonneg accounts log goals =>
    exact ⟨[t], log, single live accounts (sub_eq_iff_eq_add'.mp size)⟩
  | contribution positive live found goals id saved type amountOut after nonneg accounts log loans =>
    refine ⟨_, log, single live accounts ?_⟩
    rw [Transaction.signed, type, amountOut, sub_eq_add_neg]
  | @transfer sender receiver out in_ amount positive liveSender liveReceiver distinct typeOut typeIn amountOut
      amountIn afterOut afterIn nonneg accounts log goals loans =>
    have hs := accountNumber_of_live liveSender
    have hr := accountNumber_of_live liveReceiver
    have hne : receiver.accountNumber ≠ sender.accountNumber := fun e => distinct (hs.symm.trans (e.symm.trans hr))
    have storedReceiver : (l.accounts.set (sender.withBalance (sender.balance - amount))).find?
        (receiver.withBalance (receiver.balance + amount)).accountNumber = some receiver :=
      (Table.find?_set_of_ne (r := sender.withBalance (sender.balance - amount)) _ hne).trans (find?_of_live liveReceiver)
    have storedSender : l.accounts.find? (sender.withBalance (sender.balance - amount)).accountNumber = some sender :=
      find?_of_live liveSender
    refine ⟨[out, in_], log, fun accNo => ?_⟩
    unfold OneRow
    rw [balance?, accounts, balance?_set _ storedReceiver, balance?_set _ storedSender]
    show (ite (accNo = receiver.accountNumber) _ (ite (accNo = sender.accountNumber) _ _) = _ ∧ _) ∨
      ∃ t balance, _ ∧ _ ∧ ite (accNo = receiver.accountNumber) _ (ite (accNo = sender.accountNumber) _ _) = _
    rw [hs, hr]
    by_cases hin : accNo = in_.accountNumber
    · subst hin
      have single : ([out, in_].filter fun t => t.accountNumber = in_.accountNumber) = [in_] := by simp [distinct]
      refine .inr ⟨in_, receiver.balance, single, balance?_of_live liveReceiver, ?_⟩
      rw [if_pos rfl, Transaction.signed, typeIn, amountIn]
      rfl
    rw [if_neg hin]
    by_cases hout : accNo = out.accountNumber
    · subst hout
      have single : ([out, in_].filter fun t => t.accountNumber = out.accountNumber) = [out] := by
        simp [Ne.symm distinct]
      refine .inr ⟨out, sender.balance, single, balance?_of_live liveSender, ?_⟩
      rw [if_pos rfl, Transaction.signed, typeOut, amountOut, ← sub_eq_add_neg]
      rfl
    · rw [if_neg hout]
      exact .inl ⟨rfl, by simp [Ne.symm hin, Ne.symm hout]⟩
  | refund asked found positive live =>
    exact absurd ⟨_, _, _, asked, found, positive, by simp [live]⟩ hn
  | drop asked found nothing accounts log => exact unchanged accounts log
  | opened empty accounts log => exact unchanged accounts log
  | paper accounts log => exact unchanged accounts log
  | @status account account' live accounts number balance log goals loans =>
    refine ⟨[], by rw [log, List.append_nil], fun accNo => .inl ⟨?_, rfl⟩⟩
    have stored : l.accounts.find? account'.accountNumber = some account := number ▸ find?_of_live live
    rw [balance?, accounts, balance?_set _ stored]
    split
    · rename_i h
      rw [h, balance, balance?, stored]
      rfl
    · rfl

/-! ## Runs -/

section Run

variable {env : Env D} {B : Backend D} {cents : AddSubgroup D}

/-- A call with exact amounts that is no profile update and refunds no savings goal. -/
def Bank.Accounted (cents : AddSubgroup D) (bank : Bank D) (tc : ℕ × Call D) : Prop :=
  tc.2.request.Exact cents ∧ tc.2.request.isProfile = false ∧ ¬bank.db.Refunds tc.2.request

/-- The rows a call adds are one for each balance it changes, with the change as their signed amount. -/
def Bank.RowsExplain (env : Env D) (B : Backend D) (bank : Bank D) (tc : ℕ × Call D) : Prop :=
  ∀ accNo, OneRow bank.db.toLedger (bank.serve env B tc.1 tc.2).2.db.toLedger
    (bank.added (bank.serve env B tc.1 tc.2).2) accNo

/-- Balances are what the log says: each call adds one row for each balance it changes, and after any number of calls
an account that was opened with nothing has the sum of its rows. -/
def Bank.StatementLaw (env : Env D) (B : Backend D) (bank : Bank D) (calls : List (ℕ × Call D)) : Prop :=
  bank.Along env B (Bank.RowsExplain env B) calls ∧
    ∀ accNo, bank.db.balance? accNo = some 0 → (∀ t ∈ bank.db.transactions, t.accountNumber ≠ accNo) →
      ∀ n, (bank.run env B (calls.take n)).db.Explains accNo

theorem serve_oneRow (hB : B.Exact cents) (henv : env.Exact cents) {bank : Bank D} (idle : bank.Idle)
    (exact : bank.db.toLedger.Exact cents) {tc : ℕ × Call D} (accounted : bank.Accounted cents tc) :
    (bank.serve env B tc.1 tc.2).2.db.toLedger.Exact cents ∧
      ∃ rows, (bank.serve env B tc.1 tc.2).2.db.transactions = bank.db.transactions ++ rows ∧
        ∀ accNo, OneRow bank.db.toLedger (bank.serve env B tc.1 tc.2).2.db.toLedger rows accNo := by
  obtain ⟨hr, hp, hn⟩ := accounted
  obtain ⟨m, exact'⟩ := (serve_settles env B idle tc.1 tc.2).1.movement hB henv exact hr hp
  exact ⟨exact', m.oneRow hn⟩

/-- **The statement explains the balance**, in every run that refunds no savings goal. -/
theorem statement_explains (hB : B.Exact cents) (henv : env.Exact cents) {bank : Bank D} (idle : bank.Idle)
    (exact : bank.db.toLedger.Exact cents) {calls : List (ℕ × Call D)}
    (accounted : bank.Along env B (Bank.Accounted cents) calls) : bank.StatementLaw env B calls := by
  constructor
  · refine accounted.of_invariant (I := fun bank' => bank'.Idle ∧ bank'.db.toLedger.Exact cents) ⟨idle, exact⟩ ?_
    rintro bank' tc ⟨idle, exact⟩ accounted
    obtain ⟨exact', rows, log, one⟩ := serve_oneRow hB henv idle exact accounted
    refine ⟨?_, (serve_settles env B idle tc.1 tc.2).2, exact'⟩
    rw [Bank.RowsExplain, Bank.added, log, List.drop_left]
    exact one
  · intro accNo opened fresh n
    let I := fun bank' : Bank D => bank'.Idle ∧ bank'.db.toLedger.Exact cents ∧ bank'.db.Explains accNo
    have start : I bank := ⟨idle, exact, explains_of_opened opened fresh⟩
    refine (Bank.run_induction (accounted.take n) start ?_).2.2
    rintro bank' tc ⟨idle, exact, explains⟩ accounted
    obtain ⟨exact', rows, log, one⟩ := serve_oneRow hB henv idle exact accounted
    exact ⟨(serve_settles env B idle tc.1 tc.2).2, exact', explains.step log (one accNo)⟩

end Run

/-! ## Examples -/

namespace Sample

/-- A deposit and a transfer between accounts opened with nothing. -/
def wages : List (ℕ × Call ℤ) :=
  [(0, ⟨.deposit "1001" 5000 "Salary" none, draws 0⟩), (1, ⟨.transfer "1001" "1002" 2000 "Rent" none, draws 1⟩)]

theorem statement_explains_wages : (bank 0 0 0).StatementLaw paiseEnv paise wages :=
  statement_explains paise_exact paiseEnv_exact (bank_idle _ _ _) (Ledger.exact_top _)
    ⟨⟨Request.exact_top _, rfl, by simp [Ledger.Refunds]⟩, ⟨Request.exact_top _, rfl, by simp [Ledger.Refunds]⟩,
      trivial⟩

/-- Money put aside for a goal that is then deleted. -/
def changeOfMind : List (ℕ × Call ℤ) :=
  [(0, ⟨.deposit "1001" 5000 "Salary" none, draws 0⟩), (0, ⟨.createGoal "1001" "Holiday" 10000 none, draws 1⟩),
    (0, ⟨.contribute "1001" "S1" 1500, draws 2⟩), (0, ⟨.deleteGoal "1001" "S1", draws 3⟩)]

/-- The refund leaves no row: the account has 5000 and its rows say 3500. -/
theorem refund_unexplained :
    (∀ tc ∈ changeOfMind, tc.2.request.isProfile = false) ∧ ¬(bank 0 0 0).StatementLaw paiseEnv paise changeOfMind := by
  refine ⟨by decide, ?_⟩
  rintro ⟨-, explains⟩
  have opened : (bank 0 0 0).db.balance? "1001" = some 0 := by decide
  have balance : ((bank 0 0 0).run paiseEnv paise (changeOfMind.take 4)).db.balance? "1001" = some 5000 := by decide
  have explained := explains "1001" opened (by decide) 4 5000 balance
  revert explained
  decide

end Sample

end UnionBank
