import UnionBank.Conservation

/-!
# The loan ledger

What the loans say and what the log says of them agree: the fields of every loan fit its status (`Loan.Lawful`), and
the two aggregates of the loan repository are sums of rows of the log (`Ledger.LoanLaw`). Every call keeps the law and
moves the status of a loan along `LoanStatus.Moves` or leaves it (`loan_law`).
-/

namespace UnionBank

open Keyed

set_option linter.unusedSectionVars false

variable {D : Type} [AddCommGroup D] [LinearOrder D]

namespace loanRepo

/-- `total_disbursed`. -/
def totalDisbursed (l : Ledger D) : D :=
  l.loans.sum fun x => if x.status ∈ [LoanStatus.approved, .active, .closed] then x.principalAmount else 0

/-- `total_outstanding`. -/
def totalOutstanding (l : Ledger D) : D :=
  l.loans.sum fun x => if x.status ∈ [LoanStatus.approved, .active] then x.remainingAmount else 0

end loanRepo

/-- The moves of a status. -/
inductive LoanStatus.Moves : LoanStatus → LoanStatus → Prop
  | approve : Moves .pending .active
  | reject : Moves .pending .rejected
  | close : Moves .active .closed

/-- The fields of a loan fit its status. -/
structure Loan.Lawful (cents : AddSubgroup D) (l : Loan D) : Prop where
  exact : l.principalAmount ∈ cents ∧ l.emiAmount ∈ cents ∧ l.amountPaid ∈ cents ∧ l.remainingAmount ∈ cents
  principal : 0 < l.principalAmount
  sum : l.amountPaid + l.remainingAmount = l.principalAmount
  remaining : 0 ≤ l.remainingAmount
  status : l.status = .pending ∨ l.status = .active ∨ l.status = .closed ∨ l.status = .rejected
  closed : l.status = .closed ↔ l.remainingAmount = 0
  unpaid : l.status = .pending ∨ l.status = .rejected → l.amountPaid = 0
  next : l.nextEmiDate.isSome ↔ l.status = .active

/-- The loans are lawful and agree with the log. -/
structure Ledger.LoanLaw (cents : AddSubgroup D) (l : Ledger D) : Prop where
  lawful : ∀ x ∈ l.loans.rows, x.Lawful cents
  disbursed : loanRepo.totalDisbursed l = total .loanDisbursement l.transactions
  repaid : loanRepo.totalDisbursed l - loanRepo.totalOutstanding l = total .loanRepayment l.transactions

/-- A ledger without loans and without rows about loans. -/
theorem Ledger.loanLaw_of_none {cents : AddSubgroup D} {l : Ledger D} (hl : l.loans.rows = [])
    (ht : ∀ t ∈ l.transactions, t.type ≠ .loanDisbursement ∧ t.type ≠ .loanRepayment) : l.LoanLaw cents := by
  have none : ∀ type, (∀ t ∈ l.transactions, t.type ≠ type) → total type l.transactions = 0 := by
    intro type h
    rw [total, List.filter_eq_nil_iff.mpr fun t hm => by simpa using h t hm, List.map_nil, List.sum_nil]
  refine ⟨by simp [hl], ?_, ?_⟩
  · rw [none _ fun t hm => (ht t hm).1, loanRepo.totalDisbursed, Table.sum, hl, List.map_nil, List.sum_nil]
  · rw [none _ fun t hm => (ht t hm).2, loanRepo.totalDisbursed, loanRepo.totalOutstanding, Table.sum, Table.sum, hl,
      List.map_nil, List.map_nil, List.sum_nil, sub_zero]

/-! ## What a call does to the loans -/

/-- A loan as it is applied for. -/
structure Loan.Fresh (cents : AddSubgroup D) (l : Loan D) : Prop where
  exact : l.principalAmount ∈ cents ∧ l.emiAmount ∈ cents
  principal : 0 < l.principalAmount
  paid : l.amountPaid = 0
  remaining : l.remainingAmount = l.principalAmount
  status : l.status = .pending
  next : l.nextEmiDate = none

/-- What one call does to the loans and to the rows about them. -/
inductive LoanMove (cents : AddSubgroup D) (l l' : Ledger D) : Prop
  | still (loans : l'.loans = l.loans)
      (disbursed : total .loanDisbursement l'.transactions = total .loanDisbursement l.transactions)
      (repaid : total .loanRepayment l'.transactions = total .loanRepayment l.transactions)
  | applied {loan : Loan D} (fresh : loan.Fresh cents) (loans : l.loans.insert? loan = some l'.loans)
      (log : l'.transactions = l.transactions)
  | approved {loan : Loan D} {now : Time} (found : l.loans.find? loan.loanId = some loan) (pending : loan.status = .pending)
      (loans : l'.loans = l.loans.set (LoanService.approved loan now))
      (disbursed : total .loanDisbursement l'.transactions =
        total .loanDisbursement l.transactions + loan.principalAmount)
      (repaid : total .loanRepayment l'.transactions = total .loanRepayment l.transactions)
  | rejected {loan : Loan D} {reason : String} (found : l.loans.find? loan.loanId = some loan)
      (pending : loan.status = .pending) (loans : l'.loans = l.loans.set (LoanService.rejected loan reason))
      (log : l'.transactions = l.transactions)
  | paid {loan : Loan D} {actual : D} {now : Time} (found : l.loans.find? loan.loanId = some loan)
      (active : loan.status = .active) (exact : actual ∈ cents) (positive : 0 < actual)
      (most : actual ≤ loan.remainingAmount) (loans : l'.loans = l.loans.set (LoanService.paid loan actual now))
      (disbursed : total .loanDisbursement l'.transactions = total .loanDisbursement l.transactions)
      (repaid : total .loanRepayment l'.transactions = total .loanRepayment l.transactions + actual)

section Moves

variable {B : Backend D} {cents : AddSubgroup D} {db db' : Db D}

/-- A row of the log, with its amount as it was if that is exact. -/
theorem apply_transaction_log (hB : B.Exact cents) {t : Transaction D}
    (h : (Change.insert (.transaction t)).apply B db = .ok db') :
    ∃ amount balance, (t.amount ∈ cents → amount = t.amount) ∧ db' = db.log { t with amount, balance } := by
  obtain ⟨amount, ha, balance, -, -, -, -, rfl⟩ := apply_insertTransaction_ok.mp h
  exact ⟨amount, balance, fun hc => hB.money_eq hc ha, rfl⟩

/-- An UPDATE of an exact loan as it is stored, with its rate unchanged. -/
theorem apply_loan_exact (hB : B.Exact cents) {loan loan' : Loan D} (h : (Change.loan loan loan').apply B db = .ok db')
    (hc : loan'.principalAmount ∈ cents ∧ loan'.emiAmount ∈ cents ∧ loan'.amountPaid ∈ cents ∧
      loan'.remainingAmount ∈ cents)
    (hs : db.loans.find? loan.loanId = some loan) (hn : loan'.loanId = loan.loanId)
    (hr : loan'.interestRate = loan.interestRate) : db' = db.withLoans (db.loans.set loan') := by
  obtain ⟨stored, hf, principal, hp, rate, hrate, emi, he, paid, hpaid, remaining, hrem, -, rfl⟩ := apply_loan_ok.mp h
  rw [hs] at hf
  cases hf
  rw [hB.moneyColumn_eq hc.1 hp, hB.moneyColumn_eq hc.2.1 he, hB.moneyColumn_eq hc.2.2.1 hpaid,
    hB.moneyColumn_eq hc.2.2.2 hrem]
  rw [Backend.numberColumn, if_pos hr] at hrate
  cases hrate
  simp only [column_stored]
  rw [← hr, Loan.merge_self hn]

theorem total_snoc (type : TransactionType) (rows : List (Transaction D)) (t : Transaction D) :
    total type (rows ++ [t]) = total type rows + if t.type = type then t.amount else 0 := by
  rw [total_append, total_cons]
  simp [total]

/-- A movement of balances and goals, with rows that are not about loans. -/
theorem LoanMove.of_log {l l' : Ledger D} {t : Transaction D} (loans : l'.loans = l.loans)
    (log : l'.transactions = l.transactions ++ [t]) (hd : t.type ≠ .loanDisbursement) (hr : t.type ≠ .loanRepayment) :
    LoanMove cents l l' :=
  .still loans (by rw [log, total_snoc, if_neg hd, add_zero]) (by rw [log, total_snoc, if_neg hr, add_zero])

theorem LoanMove.refl {l l' : Ledger D} (loans : l'.loans = l.loans) (log : l'.transactions = l.transactions) :
    LoanMove cents l l' :=
  .still loans (by rw [log]) (by rw [log])

/-- The amounts of a request about loans are exact. -/
def Request.LoanExact (cents : AddSubgroup D) : Request D → Prop
  | .applyLoan _ _ principal _ _ _ => principal ∈ cents
  | .payEmi _ _ amount => ∀ a ∈ amount, a ∈ cents
  | _ => True

/-- **What a posting does to the loans.** -/
theorem loanMove_of_posts (hB : B.Exact cents) {env : Env D} (henv : env.Exact cents) (hmin : 0 < env.ofCents 100000)
    {draws : Draws} {request : Request D} {cs : List (Change D)} (posts : Posts env draws db request cs)
    (flushed : flush B cs db = .ok db') (hr : request.LoanExact cents) (law : db.toLedger.LoanLaw cents) :
    LoanMove cents db.toLedger db'.toLedger := by
  cases posts with
  | deposit | withdraw | applyInterest =>
    obtain ⟨db₁, h₁, h₂⟩ := (flush_two _).mp flushed
    obtain ⟨accounts, rfl⟩ := apply_account_accounts h₁
    obtain ⟨amount, balance, -, rfl⟩ := apply_transaction_log hB h₂
    exact .of_log rfl rfl (by simp) (by simp)
  | transfer =>
    obtain ⟨db₁, h₁, db₂, h₂, db₃, h₃, h₄⟩ := (flush_four _).mp flushed
    obtain ⟨accounts, rfl⟩ := apply_account_accounts h₁
    obtain ⟨accounts', rfl⟩ := apply_account_accounts h₂
    obtain ⟨amount, balance, -, rfl⟩ := apply_transaction_log hB h₃
    obtain ⟨amount', balance', -, rfl⟩ := apply_transaction_log hB h₄
    refine .still rfl ?_ ?_
    · simp [Db.log, Db.withAccounts, total]
    · simp [Db.log, Db.withAccounts, total]
  | applyLoan live can known least =>
    obtain ⟨principal, hp, rate, -, emi, he, paid, hpaid, remaining, hrem, -, -, loans, hl, rfl⟩ :=
      apply_insertLoan_ok.mp ((flush_one _).mp flushed)
    rw [hB.money_eq hr hp, hB.money_eq (henv.emi _ _ _) he, hB.money_eq cents.zero_mem hpaid,
      hB.money_eq hr hrem] at hl
    refine .applied ?_ hl rfl
    exact ⟨⟨hr, henv.emi _ _ _⟩, hmin.trans_le (not_lt.mp least), rfl, rfl, rfl, rfl⟩
  | @approveLoan loanId adminUser loan account found pending live can =>
    obtain ⟨db₁, h₁, db₂, h₂, h₃⟩ := (flush_three _).mp flushed
    have lawful := law.lawful _ (Table.mem_of_find? found)
    have found' : db.loans.find? loan.loanId = some loan := by rw [Table.key_of_find? found]; exact found
    obtain rfl := apply_loan_exact hB h₁ lawful.exact found' rfl rfl
    obtain ⟨accounts, rfl⟩ := apply_account_accounts h₂
    obtain ⟨amount, balance, hamount, rfl⟩ := apply_transaction_log hB h₃
    obtain rfl : amount = loan.principalAmount := hamount lawful.exact.1
    refine .approved found' pending rfl ?_ ?_
    · exact (total_snoc ..).trans (by simp [Db.withAccounts, Db.withLoans])
    · exact (total_snoc ..).trans (by simp [Db.withAccounts, Db.withLoans])
  | @rejectLoan loanId reason adminUser loan found pending =>
    have lawful := law.lawful _ (Table.mem_of_find? found)
    have found' : db.loans.find? loan.loanId = some loan := by rw [Table.key_of_find? found]; exact found
    obtain rfl := apply_loan_exact hB ((flush_one _).mp flushed) lawful.exact found' rfl rfl
    exact .rejected found' pending rfl rfl
  | @payEmi accNo loanId amount loan account payment actual found running owner live can asked positive covered least =>
    obtain ⟨db₁, h₁, db₂, h₂, h₃⟩ := (flush_three _).mp flushed
    have lawful := law.lawful _ (Table.mem_of_find? found)
    have found' : db.loans.find? loan.loanId = some loan := by rw [Table.key_of_find? found]; exact found
    have active : loan.status = .active := by
      rcases lawful.status with h | h | h | h <;> simp [h] at running ⊢
    have debt : 0 < loan.remainingAmount := by
      refine lt_of_le_of_ne lawful.remaining fun h => ?_
      have := lawful.closed.mpr h.symm
      rw [active] at this
      cases this
    have hpay : payment ∈ cents := by
      cases amount with
      | none => rw [asked]; exact lawful.exact.2.1
      | some a => rw [asked]; exact hr a rfl
    have hactual : actual ∈ cents := by
      rw [least]
      split
      · exact lawful.exact.2.2.2
      · exact hpay
    have hpos : 0 < actual := by
      rw [least]
      split
      · exact debt
      · exact not_le.mp positive
    have hmost : actual ≤ loan.remainingAmount := by
      rw [least]
      split
      · exact le_refl _
      · exact not_lt.mp ‹_›
    have exact' : ∀ now, (LoanService.paid loan actual now).principalAmount ∈ cents ∧
        (LoanService.paid loan actual now).emiAmount ∈ cents ∧ (LoanService.paid loan actual now).amountPaid ∈ cents ∧
        (LoanService.paid loan actual now).remainingAmount ∈ cents := by
      intro now
      have paid := cents.add_mem lawful.exact.2.2.1 hactual
      unfold LoanService.paid
      simp only
      split
      · exact ⟨lawful.exact.1, lawful.exact.2.1, paid, cents.zero_mem⟩
      · exact ⟨lawful.exact.1, lawful.exact.2.1, paid, cents.sub_mem lawful.exact.2.2.2 hactual⟩
    have rate : ∀ now, (LoanService.paid loan actual now).interestRate = loan.interestRate := by
      intro now
      unfold LoanService.paid
      simp only
      split <;> rfl
    obtain ⟨accounts, rfl⟩ := apply_account_accounts h₁
    obtain rfl := apply_loan_exact hB h₂ (exact' _) found' (LoanService.paid_loanId ..) (rate _)
    obtain ⟨amount', balance, hamount, rfl⟩ := apply_transaction_log hB h₃
    obtain rfl : amount' = actual := hamount hactual
    refine .paid found' active hactual hpos hmost rfl ?_ ?_
    · exact (total_snoc ..).trans (by simp [Db.withAccounts, Db.withLoans])
    · exact (total_snoc ..).trans (by simp [Db.withAccounts, Db.withLoans])
  | createGoal =>
    obtain ⟨goals, rfl⟩ := apply_insertGoal_goals ((flush_one _).mp flushed)
    exact .refl rfl rfl
  | contribute =>
    obtain ⟨db₁, h₁, db₂, h₂, h₃⟩ := (flush_three _).mp flushed
    obtain ⟨accounts, rfl⟩ := apply_account_accounts h₁
    obtain ⟨amount, balance, -, rfl⟩ := apply_transaction_log hB h₂
    obtain ⟨goals, rfl⟩ := apply_goal_goals h₃
    exact .of_log rfl rfl (by simp) (by simp)
  | refundGoal =>
    obtain ⟨db₁, h₁, h₂⟩ := (flush_two _).mp flushed
    obtain rfl := apply_deleteGoal_ok.mp h₁
    obtain ⟨accounts, rfl⟩ := apply_account_accounts h₂
    exact .refl rfl rfl
  | deleteGoal =>
    obtain rfl := apply_deleteGoal_ok.mp ((flush_one _).mp flushed)
    exact .refl rfl rfl
  | freezeAccount =>
    obtain ⟨db₁, h₁, h₂⟩ := (flush_two _).mp flushed
    obtain ⟨accounts, rfl⟩ := apply_account_accounts h₁
    obtain ⟨accounts', rfl⟩ := apply_account_accounts h₂
    exact .refl rfl rfl
  | unfreezeAccount | deleteAccount | closeAccount =>
    obtain ⟨accounts, rfl⟩ := apply_account_accounts ((flush_one _).mp flushed)
    exact .refl rfl rfl
  | updateProfile =>
    simp only [Query.staged] at flushed
    split at flushed
    · obtain ⟨accounts, rfl⟩ := apply_insertAccount_accounts ((flush_one _).mp flushed)
      exact .refl rfl rfl
    · obtain ⟨accounts, rfl⟩ := apply_account_accounts ((flush_one _).mp flushed)
      exact .refl rfl rfl
  | changePassword live verified support =>
    obtain ⟨db₁, h₁, h₂⟩ := (flush_two _).mp flushed
    obtain ⟨accounts, rfl⟩ := apply_account_accounts h₁
    have same := apply_support support h₂
    exact .refl (by rw [same]; rfl) (by rw [same]; rfl)

end Moves

/-! ## The law is kept -/

section Keep

variable {cents : AddSubgroup D} {l l' : Ledger D}

theorem Loan.Fresh.lawful {loan : Loan D} (h : loan.Fresh cents) : loan.Lawful cents where
  exact := ⟨h.exact.1, h.exact.2, by rw [h.paid]; exact cents.zero_mem, by rw [h.remaining]; exact h.exact.1⟩
  principal := h.principal
  sum := by rw [h.paid, h.remaining, zero_add]
  remaining := h.remaining ▸ h.principal.le
  status := .inl h.status
  closed := by
    rw [h.status, h.remaining]
    exact ⟨fun e => LoanStatus.noConfusion e, fun e => absurd e h.principal.ne'⟩
  unpaid := fun _ => h.paid
  next := by simp [h.next, h.status]

/-- A pending loan owes its principal. -/
theorem Loan.Lawful.owes {loan : Loan D} (h : loan.Lawful cents) (pending : loan.status = .pending) :
    loan.remainingAmount = loan.principalAmount := by
  rw [← h.sum, h.unpaid (.inl pending), zero_add]

theorem Loan.Lawful.approved {loan : Loan D} (h : loan.Lawful cents) (pending : loan.status = .pending) (now : Time) :
    (LoanService.approved loan now).Lawful cents where
  exact := h.exact
  principal := h.principal
  sum := h.sum
  remaining := h.remaining
  status := .inr (.inl rfl)
  closed := by
    show LoanStatus.active = .closed ↔ loan.remainingAmount = 0
    rw [h.owes pending]
    exact ⟨fun e => LoanStatus.noConfusion e, fun e => absurd e h.principal.ne'⟩
  unpaid := by rintro (e | e) <;> cases e
  next := by simp [LoanService.approved]

theorem Loan.Lawful.rejected {loan : Loan D} (h : loan.Lawful cents) (pending : loan.status = .pending)
    (reason : String) : (LoanService.rejected loan reason).Lawful cents where
  exact := h.exact
  principal := h.principal
  sum := h.sum
  remaining := h.remaining
  status := .inr (.inr (.inr rfl))
  closed := by
    show LoanStatus.rejected = .closed ↔ loan.remainingAmount = 0
    rw [h.owes pending]
    exact ⟨fun e => LoanStatus.noConfusion e, fun e => absurd e h.principal.ne'⟩
  unpaid := fun _ => h.unpaid (.inl pending)
  next := by
    have : loan.nextEmiDate.isSome ↔ LoanStatus.pending = .active := pending ▸ h.next
    simpa [LoanService.rejected] using this

/-- A payment that leaves something keeps the loan active; one that leaves nothing closes it. -/
theorem Loan.Lawful.paid [IsOrderedAddMonoid D] {loan : Loan D} (h : loan.Lawful cents) (active : loan.status = .active)
    {actual : D} (hc : actual ∈ cents) (most : actual ≤ loan.remainingAmount) (now : Time) :
    (LoanService.paid loan actual now).Lawful cents ∧
      ((LoanService.paid loan actual now).status = .active ∧
          (LoanService.paid loan actual now).remainingAmount = loan.remainingAmount - actual ∨
        (LoanService.paid loan actual now).status = .closed ∧ loan.remainingAmount = actual) := by
  have paid := cents.add_mem h.exact.2.2.1 hc
  unfold LoanService.paid
  simp only
  split
  · rename_i nothing
    have all : loan.remainingAmount = actual := le_antisymm (sub_nonpos.mp nothing) most
    refine ⟨⟨⟨h.exact.1, h.exact.2.1, paid, cents.zero_mem⟩, h.principal, ?_, le_refl 0, .inr (.inr (.inl rfl)), ?_, ?_, ?_⟩,
      .inr ⟨rfl, all⟩⟩
    · rw [add_zero, ← all, h.sum]
    · exact ⟨fun _ => rfl, fun _ => rfl⟩
    · rintro (e | e) <;> cases e
    · simp
  · rename_i something
    refine ⟨⟨⟨h.exact.1, h.exact.2.1, paid, cents.sub_mem h.exact.2.2.2 hc⟩, h.principal, ?_, (not_le.mp something).le,
      .inr (.inl active), ?_, ?_, ?_⟩, .inl ⟨active, rfl⟩⟩
    · show loan.amountPaid + actual + (loan.remainingAmount - actual) = loan.principalAmount
      rw [← h.sum]
      abel
    · show loan.status = .closed ↔ loan.remainingAmount - actual = 0
      rw [active]
      exact ⟨fun e => LoanStatus.noConfusion e, fun e => absurd e.le something⟩
    · show loan.status = .pending ∨ loan.status = .rejected → _
      rw [active]
      rintro (e | e) <;> cases e
    · simp [active]

/-- What the two aggregates count of a loan. -/
def Loan.disbursed (x : Loan D) : D :=
  if x.status ∈ [LoanStatus.approved, .active, .closed] then x.principalAmount else 0

def Loan.outstanding (x : Loan D) : D := if x.status ∈ [LoanStatus.approved, .active] then x.remainingAmount else 0

theorem Ledger.totals_set {loan : Loan D} (loan' : Loan D) (found : l.loans.find? loan'.loanId = some loan)
    (loans : l'.loans = l.loans.set loan') :
    loanRepo.totalDisbursed l' = loanRepo.totalDisbursed l + (loan'.disbursed - loan.disbursed) ∧
      loanRepo.totalOutstanding l' = loanRepo.totalOutstanding l + (loan'.outstanding - loan.outstanding) := by
  constructor
  · rw [loanRepo.totalDisbursed, loans]
    exact Table.sum_set Loan.disbursed found
  · rw [loanRepo.totalOutstanding, loans]
    exact Table.sum_set Loan.outstanding found

theorem Ledger.totals_insert {loan : Loan D} (loans : l.loans.insert? loan = some l'.loans) :
    loanRepo.totalDisbursed l' = loanRepo.totalDisbursed l + loan.disbursed ∧
      loanRepo.totalOutstanding l' = loanRepo.totalOutstanding l + loan.outstanding := by
  obtain ⟨hnew, hl⟩ := Table.insert?_eq_some.mp loans
  constructor
  · rw [loanRepo.totalDisbursed, ← hl]
    exact Table.sum_insert _ _ hnew Loan.disbursed
  · rw [loanRepo.totalOutstanding, ← hl]
    exact Table.sum_insert _ _ hnew Loan.outstanding

/-- The status of every loan stays or makes one move. -/
def Ledger.StatusMoves (l l' : Ledger D) : Prop :=
  ∀ loanId x, l.loans.find? loanId = some x →
    ∃ x', l'.loans.find? loanId = some x' ∧ (x'.status = x.status ∨ x.status.Moves x'.status)

theorem Ledger.statusMoves_of_same (loans : l'.loans = l.loans) : l.StatusMoves l' :=
  fun _ x hx => ⟨x, loans ▸ hx, .inl rfl⟩

theorem Ledger.statusMoves_of_set {loan : Loan D} (loan' : Loan D) (found : l.loans.find? loan'.loanId = some loan)
    (loans : l'.loans = l.loans.set loan') (h : loan'.status = loan.status ∨ loan.status.Moves loan'.status) :
    l.StatusMoves l' := by
  intro loanId x hx
  rw [loans, Table.find?_set, hx]
  split
  · rename_i e
    rw [e, found] at hx
    cases hx
    exact ⟨loan', rfl, h⟩
  · exact ⟨x, rfl, .inl rfl⟩

theorem LoanLaw.set {loan' : Loan D} (law : l.LoanLaw cents) (lawful : loan'.Lawful cents)
    (loans : l'.loans = l.loans.set loan') : ∀ x ∈ l'.loans.rows, x.Lawful cents := by
  intro x hx
  rw [loans] at hx
  rcases Table.mem_set hx with rfl | ⟨hx, -⟩
  · exact lawful
  · exact law.lawful x hx

/-- **One call keeps the law and moves statuses as it may.** -/
theorem LoanMove.law [IsOrderedAddMonoid D] (m : LoanMove cents l l') (law : l.LoanLaw cents) :
    l'.LoanLaw cents ∧ l.StatusMoves l' := by
  cases m with
  | still loans disbursed repaid =>
    refine ⟨⟨by rw [loans]; exact law.lawful, ?_, ?_⟩, Ledger.statusMoves_of_same loans⟩
    · rw [disbursed, ← law.disbursed, loanRepo.totalDisbursed, loans]; rfl
    · rw [repaid, ← law.repaid, loanRepo.totalDisbursed, loanRepo.totalOutstanding, loans]; rfl
  | @applied loan fresh loans log =>
    obtain ⟨hd, ho⟩ := Ledger.totals_insert loans
    have hd0 : loan.disbursed = 0 := by simp [Loan.disbursed, fresh.status]
    have ho0 : loan.outstanding = 0 := by simp [Loan.outstanding, fresh.status]
    rw [hd0, add_zero] at hd
    rw [ho0, add_zero] at ho
    obtain ⟨hnew, hl⟩ := Table.insert?_eq_some.mp loans
    refine ⟨⟨fun x hx => ?_, ?_, ?_⟩, fun loanId x hx => ?_⟩
    · rw [← hl] at hx
      rcases List.mem_append.mp hx with hx | hx
      · exact law.lawful x hx
      · rw [List.mem_singleton.mp hx]
        exact fresh.lawful
    · rw [hd, log, law.disbursed]
    · rw [hd, ho, log, law.repaid]
    · refine ⟨x, ?_, .inl rfl⟩
      rw [← hl, Table.find?_insert, if_neg, hx]
      rintro rfl
      rw [hnew] at hx
      cases hx
  | @approved loan now found pending loans disbursed repaid =>
    have lawful := law.lawful _ (Table.mem_of_find? found)
    obtain ⟨hd, ho⟩ := Ledger.totals_set (LoanService.approved loan now) found loans
    have hd' : (LoanService.approved loan now).disbursed - loan.disbursed = loan.principalAmount := by
      simp [Loan.disbursed, LoanService.approved, pending]
    have ho' : (LoanService.approved loan now).outstanding - loan.outstanding = loan.principalAmount := by
      simp [Loan.outstanding, LoanService.approved, pending, lawful.owes pending]
    rw [hd'] at hd
    rw [ho'] at ho
    refine ⟨⟨LoanLaw.set law (lawful.approved pending now) loans, ?_, ?_⟩,
      Ledger.statusMoves_of_set (LoanService.approved loan now) found loans (.inr ?_)⟩
    · rw [hd, disbursed, law.disbursed]
    · rw [hd, ho, repaid, ← law.repaid]
      abel
    · rw [pending]
      exact .approve
  | @rejected loan reason found pending loans log =>
    have lawful := law.lawful _ (Table.mem_of_find? found)
    obtain ⟨hd, ho⟩ := Ledger.totals_set (LoanService.rejected loan reason) found loans
    have hd' : (LoanService.rejected loan reason).disbursed - loan.disbursed = 0 := by
      simp [Loan.disbursed, LoanService.rejected, pending]
    have ho' : (LoanService.rejected loan reason).outstanding - loan.outstanding = 0 := by
      simp [Loan.outstanding, LoanService.rejected, pending]
    rw [hd', add_zero] at hd
    rw [ho', add_zero] at ho
    refine ⟨⟨LoanLaw.set law (lawful.rejected pending reason) loans, ?_, ?_⟩,
      Ledger.statusMoves_of_set (LoanService.rejected loan reason) found loans (.inr ?_)⟩
    · rw [hd, log, law.disbursed]
    · rw [hd, ho, log, law.repaid]
    · rw [pending]
      exact .reject
  | @paid loan actual now found active exact positive most loans disbursed repaid =>
    have lawful := law.lawful _ (Table.mem_of_find? found)
    have found' : l.loans.find? (LoanService.paid loan actual now).loanId = some loan := by
      rw [LoanService.paid_loanId]
      exact found
    obtain ⟨lawful', hstatus⟩ := lawful.paid active exact most now
    obtain ⟨hd, ho⟩ := Ledger.totals_set _ found' loans
    have principal : (LoanService.paid loan actual now).principalAmount = loan.principalAmount := by
      unfold LoanService.paid
      simp only
      split <;> rfl
    have hd' : (LoanService.paid loan actual now).disbursed - loan.disbursed = 0 := by
      rcases hstatus with ⟨h, -⟩ | ⟨h, -⟩ <;> simp [Loan.disbursed, h, active, principal]
    have ho' : (LoanService.paid loan actual now).outstanding - loan.outstanding = -actual := by
      rcases hstatus with ⟨h, hr⟩ | ⟨h, hr⟩
      · simp [Loan.outstanding, h, hr, active]
      · simp [Loan.outstanding, h, hr, active]
    rw [hd', add_zero] at hd
    rw [ho'] at ho
    refine ⟨⟨LoanLaw.set law lawful' loans, ?_, ?_⟩, Ledger.statusMoves_of_set _ found' loans ?_⟩
    · rw [hd, disbursed, law.disbursed]
    · rw [hd, ho, repaid, ← law.repaid]
      abel
    · rcases hstatus with ⟨h, -⟩ | ⟨h, -⟩
      · exact .inl (h.trans active.symm)
      · rw [h, active]
        exact .inr .close

end Keep

/-! ## Runs -/

section Run

variable [IsOrderedAddMonoid D] {env : Env D} {B : Backend D} {cents : AddSubgroup D}

/-- A call moves the statuses of the loans as it may. -/
def Bank.MovesStatuses (env : Env D) (B : Backend D) (bank : Bank D) (tc : ℕ × Call D) : Prop :=
  bank.db.toLedger.StatusMoves (bank.serve env B tc.1 tc.2).2.db.toLedger

/-- **The loan law** holds in every state reached, and every call moves the status of a loan at most along one of its
moves. -/
theorem loan_law (hB : B.Exact cents) (henv : env.Exact cents) (hmin : 0 < env.ofCents 100000) {bank : Bank D}
    (idle : bank.Idle) (law : bank.db.toLedger.LoanLaw cents) {calls : List (ℕ × Call D)}
    (exact : ∀ tc ∈ calls, tc.2.request.LoanExact cents) :
    (bank.run env B calls).db.toLedger.LoanLaw cents ∧ bank.Along env B (Bank.MovesStatuses env B) calls := by
  have along : bank.Along env B (fun _ tc => tc.2.request.LoanExact cents) calls :=
    Bank.along_of_forall fun _ tc hm => exact tc hm
  have step : ∀ (bank : Bank D) (tc : ℕ × Call D), bank.Idle ∧ bank.db.toLedger.LoanLaw cents →
      tc.2.request.LoanExact cents → bank.MovesStatuses env B tc ∧ (bank.serve env B tc.1 tc.2).2.Idle ∧
        (bank.serve env B tc.1 tc.2).2.db.toLedger.LoanLaw cents := by
    rintro bank tc ⟨idle, law⟩ exact
    obtain ⟨posted, idle'⟩ := serve_settles env B idle tc.1 tc.2
    have move : LoanMove cents bank.db.toLedger (bank.serve env B tc.1 tc.2).2.db.toLedger := by
      cases posted with
      | unmoved ledger => exact .refl (by rw [ledger]) (by rw [ledger])
      | moved posts flushed ledger =>
        rw [ledger]
        exact loanMove_of_posts hB henv hmin posts flushed exact law
    obtain ⟨law', moves⟩ := move.law law
    exact ⟨moves, idle', law'⟩
  exact ⟨(Bank.run_induction along ⟨idle, law⟩ fun bank tc h hp => (step bank tc h hp).2).2,
    along.of_invariant ⟨idle, law⟩ step⟩

end Run

/-! ## Examples -/

namespace Sample

/-- A loan that is approved and paid off, and one that is rejected. -/
def lending : List (ℕ × Call ℤ) :=
  [(0, ⟨.applyLoan "1001" "Personal" 500000 1200 12 "car", draws 0⟩),
    (0, ⟨.applyLoan "1002" "Personal" 200000 1200 12 "boat", draws 1⟩), (1, ⟨.approveLoan "L0" "admin", draws 2⟩),
    (1, ⟨.rejectLoan "L1" "no income" "admin", draws 3⟩), (0, ⟨.payEmi "1001" "L0" (some 505000), draws 4⟩)]

theorem loan_law_lending :
    ((bank 10000 5000 0).run paiseEnv paise lending).db.toLedger.LoanLaw ⊤ ∧
      (bank 10000 5000 0).Along paiseEnv paise (Bank.MovesStatuses paiseEnv paise) lending :=
  loan_law paise_exact paiseEnv_exact (by decide) (bank_idle _ _ _)
    (Ledger.loanLaw_of_none rfl fun t ht => by cases ht) fun tc _ => by
      cases tc.2.request <;> simp [Request.LoanExact]

end Sample

end UnionBank
