import UnionBank.Serving

/-!
# Exact amounts

Amounts that the columns keep as they are, `cents` below: the multiples of 0.01. When the amounts of a request are
exact, and the interest and the instalments rounded to exact amounts, an exact ledger stays exact and an UPDATE writes
the row that the service computed.

- `Ledger.Exact`, `Change.Exact`, `Request.Exact`, `Env.Exact`;
- `apply_exact`, `flush_exact`, `posts_exact`;
- `paise`, the columns of whole paise, and the small bank of the examples.
-/

namespace UnionBank

open Keyed

set_option linter.unusedSectionVars false

variable {D : Type}

variable [AddCommGroup D] [LinearOrder D] {B : Backend D} {cents : AddSubgroup D} {db db' : Db D}

/-- The money in the tables is exact: balances, the amounts of loans and what goals hold. -/
structure Ledger.Exact (cents : AddSubgroup D) (l : Ledger D) : Prop where
  balance : ∀ a ∈ l.accounts.rows, a.balance ∈ cents
  loan : ∀ x ∈ l.loans.rows, x.principalAmount ∈ cents ∧ x.emiAmount ∈ cents ∧ x.remainingAmount ∈ cents
  goal : ∀ g ∈ l.goals.rows, g.currentAmount ∈ cents

/-- The money a statement writes is exact. -/
def Change.Exact (cents : AddSubgroup D) : Change D → Prop
  | .insert (.account a) => a.balance ∈ cents
  | .insert (.transaction t) => t.amount ∈ cents ∧ t.balance ∈ cents
  | .insert (.loan l) => l.principalAmount ∈ cents ∧ l.emiAmount ∈ cents ∧ l.remainingAmount ∈ cents
  | .insert (.goal g) => g.currentAmount ∈ cents
  | .account _ current => current.balance ∈ cents
  | .loan _ current => current.principalAmount ∈ cents ∧ current.emiAmount ∈ cents ∧ current.remainingAmount ∈ cents
  | .goal _ current => current.currentAmount ∈ cents
  | _ => True

/-- The amounts a request names are exact. -/
def Request.Exact (cents : AddSubgroup D) : Request D → Prop
  | .deposit _ amount _ _ | .withdraw _ amount _ _ | .transfer _ _ amount _ _ | .contribute _ _ amount => amount ∈ cents
  | .applyLoan _ _ principal _ _ _ => principal ∈ cents
  | .payEmi _ _ amount => ∀ a ∈ amount, a ∈ cents
  | _ => True

/-- Interest and instalments are rounded to exact amounts. -/
structure Env.Exact (cents : AddSubgroup D) (env : Env D) : Prop where
  interest : ∀ balance, env.calculateMonthlyInterest balance ∈ cents
  emi : ∀ principal rate tenure, env.calculateEmi principal rate tenure ∈ cents

/-! ## Statements -/

/-- An UPDATE of a row as it is stored. -/
theorem apply_account_exact (hB : B.Exact cents) {account account' : Account D}
    (h : (Change.account account account').apply B db = .ok db') (hc : account'.balance ∈ cents)
    (hs : db.accounts.find? account.accountNumber = some account)
    (hn : account'.accountNumber = account.accountNumber) :
    db' = db.withAccounts (db.accounts.set account') ∧ 0 ≤ account'.balance := by
  obtain ⟨stored, hf, balance, hb, -, hpos, rfl⟩ := apply_account_ok.mp h
  rw [hs] at hf
  cases hf
  rw [hB.moneyColumn_eq hc hb, column_stored] at hpos ⊢
  rw [Account.merge_self hn]
  exact ⟨rfl, not_lt.mp hpos⟩

theorem apply_transaction_exact (hB : B.Exact cents) {t : Transaction D}
    (h : (Change.insert (.transaction t)).apply B db = .ok db') (hc : t.amount ∈ cents ∧ t.balance ∈ cents) :
    db' = db.log t := by
  obtain ⟨amount, ha, balance, hb, -, -, -, rfl⟩ := apply_insertTransaction_ok.mp h
  rw [hB.money_eq hc.1 ha, hB.money_eq hc.2 hb]

theorem apply_goal_exact (hB : B.Exact cents) {goal goal' : SavingsGoal D}
    (h : (Change.goal goal goal').apply B db = .ok db') (hc : goal'.currentAmount ∈ cents)
    (hs : db.goals.find? goal.goalId = some goal) (hn : goal'.goalId = goal.goalId)
    (ht : goal'.targetAmount = goal.targetAmount) : db' = db.withGoals (db.goals.set goal') := by
  obtain ⟨stored, hf, target, htar, saved, hsav, -, rfl⟩ := apply_goal_ok.mp h
  rw [hs] at hf
  cases hf
  rw [hB.moneyColumn_eq hc hsav, column_stored]
  rw [Backend.moneyColumn, Backend.numberColumn, if_pos ht] at htar
  cases htar
  rw [← ht, SavingsGoal.merge_self hn]

/-- A statement about a loan is about loans only. -/
theorem apply_loan_loans {loan loan' : Loan D} (h : (Change.loan loan loan').apply B db = .ok db') :
    ∃ loans, db' = db.withLoans loans := by
  obtain ⟨stored, -, principal, -, rate, -, emi, -, paid, -, remaining, -, -, rfl⟩ := apply_loan_ok.mp h
  exact ⟨_, rfl⟩

theorem apply_insertLoan_loans {loan : Loan D} (h : (Change.insert (.loan loan)).apply B db = .ok db') :
    ∃ loans, db' = db.withLoans loans := by
  obtain ⟨principal, -, rate, -, emi, -, paid, -, remaining, -, -, -, loans, -, rfl⟩ := apply_insertLoan_ok.mp h
  exact ⟨_, rfl⟩

/-- A statement about an account is about accounts only. -/
theorem apply_account_accounts {account account' : Account D}
    (h : (Change.account account account').apply B db = .ok db') : ∃ accounts, db' = db.withAccounts accounts := by
  obtain ⟨stored, -, balance, -, -, -, rfl⟩ := apply_account_ok.mp h
  exact ⟨_, rfl⟩

theorem apply_insertAccount_accounts {account : Account D}
    (h : (Change.insert (.account account)).apply B db = .ok db') : ∃ accounts, db' = db.withAccounts accounts := by
  simp only [Change.apply, NewRow.insert, bind_eq_ok, require_eq_ok, found_eq_ok, pure_eq_ok] at h
  obtain ⟨balance, -, -, -, -, -, accounts, -, rfl⟩ := h
  exact ⟨_, rfl⟩

theorem apply_goal_goals {goal goal' : SavingsGoal D} (h : (Change.goal goal goal').apply B db = .ok db') :
    ∃ goals, db' = db.withGoals goals := by
  obtain ⟨stored, -, target, -, saved, -, -, rfl⟩ := apply_goal_ok.mp h
  exact ⟨_, rfl⟩

theorem apply_insertGoal_goals {goal : SavingsGoal D} (h : (Change.insert (.goal goal)).apply B db = .ok db') :
    ∃ goals, db' = db.withGoals goals := by
  obtain ⟨target, -, saved, -, -, -, goals, -, rfl⟩ := apply_insertGoal_ok.mp h
  exact ⟨_, rfl⟩

theorem apply_insertGoal_exact (hB : B.Exact cents) {goal : SavingsGoal D}
    (h : (Change.insert (.goal goal)).apply B db = .ok db') (hc : goal.currentAmount ∈ cents) :
    ∃ goal' goals, goal'.currentAmount = goal.currentAmount ∧ db.goals.insert? goal' = some goals ∧
      db' = db.withGoals goals := by
  obtain ⟨target, -, saved, hs, -, -, goals, hg, rfl⟩ := apply_insertGoal_ok.mp h
  exact ⟨_, goals, hB.money_eq hc hs, hg, rfl⟩

/-- A statement on the other tables writes no money. -/
theorem Change.exact_of_support {c : Change D} (h : c.isSupport = true) : c.Exact cents := by
  rcases c with (_ | _ | _ | _ | _ | _ | _) | _ | _ | _ | _ | _
  all_goals first
    | exact Bool.noConfusion h
    | trivial

/-- **An exact statement keeps the tables exact.** -/
theorem apply_exact (hB : B.Exact cents) {c : Change D} (hc : c.Exact cents) (hl : db.toLedger.Exact cents)
    (h : c.apply B db = .ok db') : db'.toLedger.Exact cents := by
  have support : c.isSupport = true → db'.toLedger.Exact cents := fun hs => by
    rw [apply_support hs h]
    exact hl
  cases c with
  | insert row =>
    cases row with
    | account a =>
      simp only [Change.apply, NewRow.insert, bind_eq_ok, require_eq_ok, found_eq_ok, pure_eq_ok] at h
      obtain ⟨balance, hb, -, -, -, -, accounts, hi, rfl⟩ := h
      obtain ⟨_, rfl⟩ := Table.insert?_eq_some.mp hi
      refine ⟨fun x hx => ?_, hl.loan, hl.goal⟩
      rcases List.mem_append.mp hx with hx | hx
      · exact hl.balance x hx
      · rw [List.mem_singleton.mp hx, hB.money_eq hc hb]
        exact hc
    | transaction t =>
      rw [apply_transaction_exact hB h hc]
      exact ⟨hl.balance, hl.loan, hl.goal⟩
    | loan l =>
      obtain ⟨principal, hp, rate, -, emi, he, paid, -, remaining, hr, -, -, loans, hi, rfl⟩ := apply_insertLoan_ok.mp h
      obtain ⟨_, rfl⟩ := Table.insert?_eq_some.mp hi
      refine ⟨hl.balance, fun x hx => ?_, hl.goal⟩
      rcases List.mem_append.mp hx with hx | hx
      · exact hl.loan x hx
      · rw [List.mem_singleton.mp hx, hB.money_eq hc.1 hp, hB.money_eq hc.2.1 he, hB.money_eq hc.2.2 hr]
        exact hc
    | goal g =>
      obtain ⟨target, -, saved, hs, -, -, goals, hi, rfl⟩ := apply_insertGoal_ok.mp h
      obtain ⟨_, rfl⟩ := Table.insert?_eq_some.mp hi
      refine ⟨hl.balance, hl.loan, fun x hx => ?_⟩
      rcases List.mem_append.mp hx with hx | hx
      · exact hl.goal x hx
      · rw [List.mem_singleton.mp hx, hB.money_eq hc hs]
        exact hc
    | _ => exact support rfl
  | account loaded current =>
    obtain ⟨stored, hf, balance, hb, -, -, rfl⟩ := apply_account_ok.mp h
    refine ⟨fun x hx => ?_, hl.loan, hl.goal⟩
    rcases Table.mem_set hx with rfl | ⟨hx, -⟩
    · exact hB.moneyColumn_mem hc (hl.balance _ (Table.mem_of_find? hf)) hb
    · exact hl.balance x hx
  | loan loaded current =>
    obtain ⟨stored, hf, principal, hp, rate, -, emi, he, paid, -, remaining, hr, -, rfl⟩ := apply_loan_ok.mp h
    have hstored := hl.loan _ (Table.mem_of_find? hf)
    refine ⟨hl.balance, fun x hx => ?_, hl.goal⟩
    rcases Table.mem_set hx with rfl | ⟨hx, -⟩
    · exact ⟨hB.moneyColumn_mem hc.1 hstored.1 hp, hB.moneyColumn_mem hc.2.1 hstored.2.1 he,
        hB.moneyColumn_mem hc.2.2 hstored.2.2 hr⟩
    · exact hl.loan x hx
  | goal loaded current =>
    obtain ⟨stored, hf, target, -, saved, hs, -, rfl⟩ := apply_goal_ok.mp h
    refine ⟨hl.balance, hl.loan, fun x hx => ?_⟩
    rcases Table.mem_set hx with rfl | ⟨hx, -⟩
    · exact hB.moneyColumn_mem hc (hl.goal _ (Table.mem_of_find? hf)) hs
    · exact hl.goal x hx
  | deleteGoal goalId =>
    obtain rfl := apply_deleteGoal_ok.mp h
    exact ⟨hl.balance, hl.loan, fun x hx => hl.goal x (List.mem_of_mem_filter hx)⟩
  | tokenVersion => exact support rfl

theorem flush_exact (hB : B.Exact cents) {cs : List (Change D)} (hc : ∀ c ∈ cs, c.Exact cents)
    (hl : db.toLedger.Exact cents) (h : flush B cs db = .ok db') : db'.toLedger.Exact cents := by
  induction cs generalizing db with
  | nil => cases h; exact hl
  | cons c cs ih =>
    obtain ⟨db₁, h₁, h₂⟩ := (flush_cons_ok B).mp h
    exact ih (fun c hm => hc c (List.mem_cons_of_mem _ hm)) (apply_exact hB (hc c List.mem_cons_self) hl h₁) h₂

/-! ## Postings -/

/-- A loan after an exact payment. -/
theorem paid_exact {loan : Loan D} {actual : D} {now : Time}
    (h : loan.principalAmount ∈ cents ∧ loan.emiAmount ∈ cents ∧ loan.remainingAmount ∈ cents) (ha : actual ∈ cents) :
    (LoanService.paid loan actual now).principalAmount ∈ cents ∧ (LoanService.paid loan actual now).emiAmount ∈ cents ∧
      (LoanService.paid loan actual now).remainingAmount ∈ cents := by
  unfold LoanService.paid
  simp only
  split
  · exact ⟨h.1, h.2.1, cents.zero_mem⟩
  · exact ⟨h.1, h.2.1, cents.sub_mem h.2.2 ha⟩

/-- What an exact request posts to an exact ledger is exact. -/
theorem posts_exact {env : Env D} (henv : env.Exact cents) {draws : Draws} {request : Request D} {cs : List (Change D)}
    (posts : Posts env draws db request cs) (hr : request.Exact cents) (hl : db.toLedger.Exact cents)
    (hp : request.isProfile = false) : ∀ c ∈ cs, c.Exact cents := by
  have money : ∀ {accNo : String} {account : Account D}, db.liveAccount? accNo = some account →
      account.balance ∈ cents := fun live => hl.balance _ (Table.mem_of_find? (Ledger.liveAccount?_eq_some.mp live).1)
  have debt : ∀ {loanId : String} {loan : Loan D}, db.loans.find? loanId = some loan → loan.principalAmount ∈ cents ∧
      loan.emiAmount ∈ cents ∧ loan.remainingAmount ∈ cents := fun found => hl.loan _ (Table.mem_of_find? found)
  have saved : ∀ {goalId : String} {goal : SavingsGoal D}, db.goals.find? goalId = some goal →
      goal.currentAmount ∈ cents := fun found => hl.goal _ (Table.mem_of_find? found)
  cases posts with
  | deposit positive live =>
    have := cents.add_mem (money live) hr
    simp only [List.forall_mem_cons, Change.Exact, Account.withBalance]
    exact ⟨this, ⟨hr, this⟩, by simp⟩
  | withdraw positive live =>
    have := cents.sub_mem (money live) hr
    simp only [List.forall_mem_cons, Change.Exact, Account.withBalance]
    exact ⟨this, ⟨hr, this⟩, by simp⟩
  | transfer positive distinct liveSender liveReceiver =>
    have out := cents.sub_mem (money liveSender) hr
    have in_ := cents.add_mem (money liveReceiver) hr
    simp only [List.forall_mem_cons, Change.Exact, Account.withBalance]
    exact ⟨out, in_, ⟨hr, out⟩, ⟨hr, in_⟩, by simp⟩
  | @applyInterest accNo account live =>
    have hi := henv.interest account.balance
    have := cents.add_mem (money live) hi
    simp only [List.forall_mem_cons, Change.Exact, Account.withBalance]
    exact ⟨this, ⟨hi, this⟩, by simp⟩
  | applyLoan => 
    simp only [List.forall_mem_cons, Change.Exact]
    exact ⟨⟨hr, henv.emi _ _ _, hr⟩, by simp⟩
  | approveLoan found pending live =>
    have hloan := debt found
    have := cents.add_mem (money live) hloan.1
    simp only [List.forall_mem_cons, Change.Exact, Account.withBalance]
    exact ⟨hloan, this, ⟨hloan.1, this⟩, by simp⟩
  | rejectLoan found =>
    simp only [List.forall_mem_cons, Change.Exact]
    have hloan := debt found
    exact ⟨hloan, by simp⟩
  | @payEmi accNo loanId amount loan account payment actual found running owner live can asked positive covered least =>
    have hloan := debt found
    have hpay : payment ∈ cents := by
      cases amount with
      | none => rw [asked]; exact hloan.2.1
      | some a => rw [asked]; exact hr a rfl
    have hactual : actual ∈ cents := by
      rw [least]
      split
      · exact hloan.2.2
      · exact hpay
    have := cents.sub_mem (money live) hactual
    simp only [List.forall_mem_cons, Change.Exact, Account.withBalance]
    exact ⟨this, paid_exact hloan hactual, ⟨hactual, this⟩, by simp⟩
  | createGoal =>
    simp only [List.forall_mem_cons, Change.Exact]
    exact ⟨cents.zero_mem, by simp⟩
  | contribute positive live covered found =>
    have := cents.sub_mem (money live) hr
    simp only [List.forall_mem_cons, Change.Exact, Account.withBalance, Query.contributed]
    exact ⟨this, ⟨hr, this⟩, cents.add_mem (saved found) hr, by simp⟩
  | refundGoal found positive live =>
    simp only [List.forall_mem_cons, Change.Exact, Account.withBalance]
    exact ⟨trivial, cents.add_mem (money live) (saved found), by simp⟩
  | updateProfile => cases hp
  | freezeAccount live | unfreezeAccount live | deleteAccount live | closeAccount live =>
    simp only [List.forall_mem_cons, Change.Exact]
    simp [money live]
  | deleteGoal => simp [Change.Exact]
  | changePassword live verified support =>
    simp only [List.forall_mem_cons, Change.Exact]
    exact ⟨money live, Change.exact_of_support support, by simp⟩

/-! ## Whole paise -/

/-- Amounts in paise, in columns of `p` digits. -/
def paise : Backend ℤ where
  numeric p x := if x.natAbs < 10 ^ p then some x else none
  varchar n s := s.length ≤ n

theorem paise_exact : paise.Exact ⊤ := by
  intro p x y _ h
  simp only [paise] at h
  split at h
  · exact (Option.some.inj h).symm
  · cases h

/-- Interest of one percent and instalments without interest, in whole paise. -/
def paiseEnv : Env ℤ where
  ofCents := id
  float := id
  fmtCurrency x := toString x
  calculateMonthlyInterest x := x / 100
  calculateEmi principal _ tenure := principal / tenure
  verifyPassword plain hashed := plain = hashed
  hashPassword := id

theorem paiseEnv_exact : paiseEnv.Exact ⊤ := ⟨fun _ => trivial, fun _ _ _ => trivial⟩

theorem Ledger.exact_top (l : Ledger ℤ) : l.Exact ⊤ :=
  ⟨fun _ _ => trivial, fun _ _ => ⟨trivial, trivial, trivial⟩, fun _ _ => trivial⟩

theorem Request.exact_top (r : Request ℤ) : r.Exact ⊤ := by
  cases r <;> simp [Request.Exact]

namespace Sample

/-- An open account. -/
def account (accNo : String) (balance : ℤ) : Account ℤ :=
  ⟨accNo, "Asha", 30, "F", "9000000000", "asha@bank.example", "secret", balance, true, false, 0, none⟩

/-- A goal that holds `saved`. -/
def goal (goalId accNo : String) (saved : ℤ) : SavingsGoal ℤ := ⟨goalId, accNo, "Holiday", 10000, saved, none, 0, false⟩

/-- Two accounts and a goal of the second. -/
def store (first second saved : ℤ) : Db ℤ where
  accounts := ⟨[account "1001" first, account "1002" second], by simp [account]⟩
  transactions := []
  loans := ⟨[], by decide⟩
  goals := ⟨[goal "G1" "1002" saved], by simp⟩
  idempotencyKeys := ⟨[], by decide⟩
  tokenVersions := ⟨[], by decide⟩
  auditLog := []

/-- The store with fresh sessions. -/
def bank (first second saved : ℤ) : Bank ℤ := ⟨store first second saved, fun _ => {}⟩

theorem bank_idle (first second saved : ℤ) : (bank first second saved).Idle := fun _ => ⟨rfl, fun _ => ⟨rfl, rfl⟩⟩

/-- The ids of call number `n`. -/
def draws (n : ℕ) : Draws := ⟨s!"T{n}", s!"U{n}", s!"L{n}", s!"S{n}", n⟩

end Sample

end UnionBank
