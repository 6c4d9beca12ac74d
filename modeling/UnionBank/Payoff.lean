import UnionBank.Amortisation

/-!
# Paying a loan off

`remaining_emis` instalments in a row, by the customer whose account can pay the debt. `pay_emi` compares the balance
with the whole instalment before it cuts the last one down to what is left of the debt.

- `Loan.remainingEmis`; `Loan.Funded`: an active loan whose debt the account can pay; `Ready`: nothing but the balance
  can refuse the instalments;
- `serve_instalment`, `serve_short`: one instalment, and one that the balance does not cover;
- `PaysOff`: all succeed, the last one closes the loan, and the debt is paid; `paysOff_iff`.
-/

namespace UnionBank

open Keyed Programs Prog

set_option linter.unusedSectionVars false

variable {F : Type} [Field F] [LinearOrder F] [IsStrictOrderedRing F]

/-! ## The remaining instalments -/

section Count

variable [FloorRing F]

/-- `int(x)`. -/
def truncate (x : F) : ℤ := if x < 0 then ⌈x⌉ else ⌊x⌋

/-- `remaining_emis`. -/
def Loan.remainingEmis (loan : Loan F) : ℤ :=
  if loan.emiAmount ≤ 0 then 0
  else
    let whole := truncate (loan.remainingAmount / loan.emiAmount)
    whole + if 0 < loan.remainingAmount - loan.emiAmount * whole then 1 else 0

/-- All but one of them leave something of the debt. -/
theorem Loan.remainingEmis_spec {loan : Loan F} (emi : 0 < loan.emiAmount) (debt : 0 < loan.remainingAmount) :
    ∃ k : ℕ, loan.remainingEmis = k + 1 ∧ k * loan.emiAmount < loan.remainingAmount ∧
      loan.remainingAmount ≤ (k + 1) * loan.emiAmount := by
  have quotient : 0 < loan.remainingAmount / loan.emiAmount := div_pos debt emi
  have low := Int.floor_le (loan.remainingAmount / loan.emiAmount)
  have high := Int.lt_floor_add_one (loan.remainingAmount / loan.emiAmount)
  rw [le_div_iff₀ emi] at low
  rw [div_lt_iff₀ emi] at high
  obtain ⟨m, whole⟩ := Int.eq_ofNat_of_zero_le (Int.floor_nonneg.mpr quotient.le)
  have count : loan.remainingEmis =
      m + if 0 < loan.remainingAmount - loan.emiAmount * m then 1 else 0 := by
    simp only [Loan.remainingEmis, if_neg (not_le.mpr emi), truncate, if_neg (not_lt.mpr quotient.le), whole,
      Int.cast_natCast]
  simp only [whole, Int.cast_natCast] at low high
  by_cases rest : 0 < loan.remainingAmount - loan.emiAmount * m
  · rw [if_pos rest] at count
    exact ⟨m, count, by linarith, high.le⟩
  · rw [if_neg rest, add_zero] at count
    have all : loan.remainingAmount = m * loan.emiAmount := by linarith
    cases m with
    | zero => simp [all] at debt
    | succ k =>
      push_cast at all count
      exact ⟨k, count, by linarith, by linarith⟩

end Count

/-! ## Instalments -/

variable (env : Env F) (B : Backend F)

/-- Instalments in a row. -/
def Loan.instalments (loan : Loan F) (calls : List (ℕ × Draws)) : List (ℕ × Call F) :=
  calls.map fun c => (c.1, ⟨.payEmi loan.accountNumber loan.loanId none, c.2⟩)

/-- The row of an instalment, as far as its texts go. -/
def Loan.repayment (loan : Loan F) (draws : Draws) (actual balance : F) : Transaction F :=
  ⟨draws.txnId, loan.accountNumber, .loanRepayment, actual, balance, s!"EMI payment for {loan.loanType} loan ({loan.loanId})",
    "Loan", none, draws.now⟩

/-- Money columns keep the amounts in `cents` from zero up to `limit`. -/
def Backend.KeepsUpTo (B : Backend F) (cents : AddSubgroup F) (limit : F) : Prop :=
  ∀ x ∈ cents, 0 ≤ x → x ≤ limit → B.money x = .ok x

/-- An active loan with instalments, of an account that can pay what is left of it. -/
structure Loan.Funded (cents : AddSubgroup F) (limit : F) (db : Db F) (loan : Loan F) (account : Account F) : Prop where
  found : db.loans.find? loan.loanId = some loan
  lawful : loan.Lawful cents
  active : loan.status = .active
  paid : 0 ≤ loan.amountPaid
  emi : 0 < loan.emiAmount
  live : db.liveAccount? loan.accountNumber = some account
  can : account.canTransact = true
  covered : loan.remainingAmount ≤ account.balance
  exact : account.balance ∈ cents
  most : account.balance ≤ limit ∧ loan.principalAmount ≤ limit

/-- The sessions are between two requests, the ids that are drawn are new, and their texts fit. -/
structure Ready (B : Backend F) (bank : Bank F) (loan : Loan F) (calls : List (ℕ × Draws)) : Prop where
  idle : ∀ c ∈ calls, bank.sessions c.1 = {}
  fresh : ∀ c ∈ calls, c.2.txnId ∉ bank.db.transactions.map Transaction.txnId
  distinct : (calls.map fun c => c.2.txnId).Nodup
  fits : ∀ c ∈ calls, ∀ actual balance, B.fits (loan.repayment c.2 actual balance).texts = true

/-- Every instalment succeeds, the last one and no other closes the loan, and the account pays the debt. -/
structure PaysOff (bank : Bank F) (loan : Loan F) (calls : List (ℕ × Draws)) : Prop where
  succeed : bank.Along env B (fun bank tc => succeeds (bank.serve env B tc.1 tc.2).1 = true) (loan.instalments calls)
  closes : ∀ i < calls.length, ((bank.run env B (loan.instalments (calls.take (i + 1)))).db.loans.find? loan.loanId).map
    Loan.status = some .closed ↔ i + 1 = calls.length
  debits : ∀ account, bank.db.liveAccount? loan.accountNumber = some account →
    ((bank.run env B (loan.instalments calls)).db.liveAccount? loan.accountNumber).map Account.balance =
      some (account.balance - loan.remainingAmount)

section Instalment

variable {env B} {cents : AddSubgroup F} {limit : F} {bank : Bank F} {loan : Loan F} {account : Account F}

/-- The store after an instalment. -/
def Loan.settled (db : Db F) (loan : Loan F) (account : Account F) (draws : Draws) : Db F :=
  ((db.withAccounts (db.accounts.set (account.withBalance (account.balance - loan.instalment)))).withLoans
    (db.loans.set (LoanService.paid loan loan.instalment draws.now))).log
      (loan.repayment draws loan.instalment (account.balance - loan.instalment))

theorem Loan.Funded.debt (funded : loan.Funded cents limit bank.db account) : 0 < loan.remainingAmount := by
  refine lt_of_le_of_ne funded.lawful.remaining fun nothing => ?_
  have closed := funded.lawful.closed.mpr nothing.symm
  rw [funded.active] at closed
  cases closed

/-- What is paid is part of the debt. -/
theorem Loan.instalment_spec (emi : 0 < loan.emiAmount) (debt : 0 < loan.remainingAmount) :
    0 < loan.instalment ∧ loan.instalment ≤ loan.remainingAmount ∧ loan.instalment ≤ loan.emiAmount := by
  unfold Loan.instalment
  split
  · rename_i less
    exact ⟨debt, le_rfl, less.le⟩
  · rename_i more
    exact ⟨emi, not_lt.mp more, le_rfl⟩

theorem Loan.Funded.instalment_mem (funded : loan.Funded cents limit bank.db account) : loan.instalment ∈ cents := by
  unfold Loan.instalment
  split
  · exact funded.lawful.exact.2.2.2
  · exact funded.lawful.exact.2.1

/-- A money column after an UPDATE of a row as it is stored. -/
theorem Backend.KeepsUpTo.moneyColumn (hB : B.KeepsUpTo cents limit) {x : F} (loaded : F) (exact : x ∈ cents) (least : 0 ≤ x)
    (most : x ≤ limit) : B.moneyColumn loaded x loaded = .ok x := by
  unfold Backend.moneyColumn Backend.numberColumn
  split
  · rename_i same
    rw [same]
  · exact hB x exact least most

/-- What an instalment leaves of a loan. -/
theorem LoanService.paid_kept (loan : Loan F) (actual : F) (now : Time) :
    (LoanService.paid loan actual now).principalAmount = loan.principalAmount ∧
      (LoanService.paid loan actual now).interestRate = loan.interestRate ∧
      (LoanService.paid loan actual now).emiAmount = loan.emiAmount ∧
      (LoanService.paid loan actual now).amountPaid = loan.amountPaid + actual ∧
      (LoanService.paid loan actual now).texts = loan.texts := by
  unfold LoanService.paid
  simp only
  split <;> exact ⟨rfl, rfl, rfl, rfl, rfl⟩

/-- The database takes an instalment. -/
theorem Loan.Funded.flushed (hB : B.KeepsUpTo cents limit) (funded : loan.Funded cents limit bank.db account)
    {draws : Draws} (fresh : draws.txnId ∉ bank.db.transactions.map Transaction.txnId)
    (fits : ∀ actual balance, B.fits (loan.repayment draws actual balance).texts = true) :
    flush B [.account account (account.withBalance (account.balance - loan.instalment)),
      .loan loan (LoanService.paid loan loan.instalment draws.now),
      .insert (.transaction (loan.repayment draws loan.instalment (account.balance - loan.instalment)))] bank.db =
        .ok (loan.settled bank.db account draws) := by
  obtain ⟨positive, part, -⟩ := Loan.instalment_spec funded.emi funded.debt
  have debit : account.balance - loan.instalment ∈ cents := cents.sub_mem funded.exact funded.instalment_mem
  have least : 0 ≤ account.balance - loan.instalment := by linarith [funded.covered]
  have most : account.balance - loan.instalment ≤ limit := by linarith [funded.most.1]
  have lawful := (funded.lawful.paid funded.active funded.instalment_mem part draws.now).1
  obtain ⟨principal, rate, emi, paid, texts⟩ := LoanService.paid_kept loan loan.instalment draws.now
  have sum := lawful.sum
  have remaining := lawful.remaining
  have before := funded.paid
  rw [principal] at sum
  have lent := funded.most.2
  have empty : B.fits [] = true := rfl
  have upTo : loan.instalment ≤ limit := by linarith [funded.covered, funded.most.1]
  have stored : bank.db.accounts.find? account.accountNumber = some account := Ledger.find?_of_live funded.live
  have debited : account.merge (account.withBalance (account.balance - loan.instalment)) account
      (account.balance - loan.instalment) = account.withBalance (account.balance - loan.instalment) :=
    Account.merge_self rfl
  refine (flush_three B).mpr ⟨_, apply_account_ok.mpr ⟨account, stored, account.balance - loan.instalment,
    hB.moneyColumn _ debit least most, ?_, not_lt.mpr least, rfl⟩, _, apply_loan_ok.mpr ⟨loan, funded.found,
    loan.principalAmount, ?_, loan.interestRate, ?_, loan.emiAmount, ?_, _,
    hB.moneyColumn loan.amountPaid lawful.exact.2.2.1 (by rw [paid]; linarith) (by linarith), _,
    hB.moneyColumn loan.remainingAmount lawful.exact.2.2.2 remaining (by linarith), ?_, rfl⟩,
    apply_insertTransaction_ok.mpr ⟨loan.instalment, ?_, account.balance - loan.instalment, hB _ debit least most,
      fits _ _, ?_, fresh, ?_⟩⟩
  · show B.fits (changedTexts account.texts account.texts) = true
    rw [changedTexts_self]
    exact empty
  · rw [Backend.moneyColumn, Backend.numberColumn, if_pos principal]
  · rw [Backend.numberColumn, if_pos rate]
  · rw [Backend.moneyColumn, Backend.numberColumn, if_pos emi]
  · rw [texts, changedTexts_self]
    exact empty
  · exact hB _ funded.instalment_mem positive.le upTo
  · show (bank.db.accounts.set _).find? loan.accountNumber ≠ none
    have own := Ledger.accountNumber_of_live funded.live
    have kept : (bank.db.accounts.set (account.withBalance (account.balance - loan.instalment))).find?
        account.accountNumber = some (account.withBalance (account.balance - loan.instalment)) :=
      Table.find?_set_self stored
    rw [debited, ← own, kept]
    exact Option.some_ne_none _
  · have merged : loan.merge (LoanService.paid loan loan.instalment draws.now) loan
        (LoanService.paid loan loan.instalment draws.now).principalAmount
        (LoanService.paid loan loan.instalment draws.now).interestRate
        (LoanService.paid loan loan.instalment draws.now).emiAmount
        (LoanService.paid loan loan.instalment draws.now).amountPaid
        (LoanService.paid loan loan.instalment draws.now).remainingAmount =
          LoanService.paid loan loan.instalment draws.now := Loan.merge_self (by simp)
    rw [principal, rate, emi] at merged
    rw [debited, merged]
    rfl

variable (env) in
/-- **An instalment that the balance covers** succeeds. -/
theorem Loan.Funded.serve (hB : B.KeepsUpTo cents limit) (funded : loan.Funded cents limit bank.db account) {thread : ℕ}
    (idle : bank.sessions thread = {}) {draws : Draws} (fresh : draws.txnId ∉ bank.db.transactions.map Transaction.txnId)
    (fits : ∀ actual balance, B.fits (loan.repayment draws actual balance).texts = true)
    (enough : loan.emiAmount ≤ account.balance) :
    succeeds (bank.serve env B thread ⟨.payEmi loan.accountNumber loan.loanId none, draws⟩).1 = true ∧
      (bank.serve env B thread ⟨.payEmi loan.accountNumber loan.loanId none, draws⟩).2 =
        { db := loan.settled bank.db account draws, sessions := Function.update bank.sessions thread {} } := by
  have run : wp (runs B) (Request.prog env draws (.payEmi loan.accountNumber loan.loanId none))
      (fun r w => succeeds r = true ∧ w = (loan.settled bank.db account draws, {})) (bank.db, {}) := by
    have flushed := funded.flushed hB fresh fits
    simp only [Request.prog, LoanService.payEmi, wp_bind, wp_loanRepo_get, andThen_ok, Session.loan?_nil, funded.found]
    rw [if_neg (fun h => h.2 funded.active), if_neg (fun h => h rfl)]
    simp only [wp_bind, wp_accountRepo_get, andThen_ok, Session.account?_nil, funded.live, Option.getD_none]
    rw [if_neg (by simp [funded.can]), if_neg (not_le.mpr funded.emi), if_neg (not_lt.mpr enough)]
    simp only [wp_bind, wp_loanRepo_update, wp_accountRepo_update, wp_txnRepo_create, andThen_ok]
    refine wp_commit B _ (fun db₁ hf => ?_) fun e hf => ?_
    all_goals
      rw [List.nil_append, staged_withBalance funded.live (by simp), staged_updateLoan loan _
        (by simpa [Session.loan?, Session.ownLoan] using funded.found) (by simp) (by simp)] at hf
      simp only [LoanService.paid_loanId, LoanService.paid_loanType] at hf
    · have same := hf.symm.trans flushed
      exact ⟨rfl, by rw [Except.ok.inj same]⟩
    · cases hf.symm.trans flushed
  have ends := (wp_handler _ _ _ _).mp run
  unfold Bank.serve
  rw [idle]
  simp only [Call.prog]
  rcases ended : exec (handle B) (Request.prog env draws (.payEmi loan.accountNumber loan.loanId none)) (bank.db, {})
    with ⟨r, db, s⟩
  rw [ended] at ends
  obtain ⟨success, same⟩ := ends
  cases same
  exact ⟨success, rfl⟩

variable (env B) in
/-- One that it does not cover is refused. -/
theorem Loan.Funded.short (funded : loan.Funded cents limit bank.db account) {thread : ℕ} (idle : bank.sessions thread = {})
    (draws : Draws) (short : account.balance < loan.emiAmount) :
    succeeds (bank.serve env B thread ⟨.payEmi loan.accountNumber loan.loanId none, draws⟩).1 = false := by
  have run : wp (runs B) (Request.prog env draws (.payEmi loan.accountNumber loan.loanId none))
      (fun r _ => succeeds r = false) (bank.db, {}) := by
    simp only [Request.prog, LoanService.payEmi, wp_bind, wp_loanRepo_get, andThen_ok, Session.loan?_nil, funded.found]
    rw [if_neg (fun h => h.2 funded.active), if_neg (fun h => h rfl)]
    simp only [wp_bind, wp_accountRepo_get, andThen_ok, Session.account?_nil, funded.live, Option.getD_none]
    rw [if_neg (by simp [funded.can]), if_neg (not_le.mpr funded.emi), if_pos short]
    exact rfl
  have ends := (wp_handler _ _ _ _).mp run
  unfold Bank.serve
  rw [idle]
  exact ends

/-! ## What an instalment leaves -/

theorem Loan.Funded.settled_loan (funded : loan.Funded cents limit bank.db account) (draws : Draws) :
    (loan.settled bank.db account draws).loans.find? loan.loanId = some (LoanService.paid loan loan.instalment draws.now) := by
  show (bank.db.loans.set _).find? loan.loanId = _
  have own : (LoanService.paid loan loan.instalment draws.now).loanId = loan.loanId := by simp
  rw [← own]
  exact Table.find?_set_self (by rw [own]; exact funded.found)

theorem Loan.Funded.settled_account (funded : loan.Funded cents limit bank.db account) (draws : Draws) :
    (loan.settled bank.db account draws).liveAccount? loan.accountNumber =
      some (account.withBalance (account.balance - loan.instalment)) := by
  have own := Ledger.accountNumber_of_live funded.live
  obtain ⟨stored, undeleted⟩ := Ledger.liveAccount?_eq_some.mp funded.live
  refine Ledger.liveAccount?_eq_some.mpr ⟨?_, undeleted⟩
  show (bank.db.accounts.set _).find? loan.accountNumber = _
  rw [← own] at stored ⊢
  exact Table.find?_set_self stored

/-- A loan with more than an instalment left can be paid on. -/
theorem Loan.Funded.settled (funded : loan.Funded cents limit bank.db account) (draws : Draws)
    (more : loan.emiAmount < loan.remainingAmount) :
    (LoanService.paid loan loan.instalment draws.now).Funded cents limit (loan.settled bank.db account draws)
        (account.withBalance (account.balance - loan.emiAmount)) ∧
      (LoanService.paid loan loan.instalment draws.now).remainingAmount = loan.remainingAmount - loan.emiAmount := by
  have whole : loan.instalment = loan.emiAmount := if_neg (not_lt.mpr more.le)
  obtain ⟨principal, -, emi, paid, -⟩ := LoanService.paid_kept loan loan.instalment draws.now
  obtain ⟨lawful, active | closed⟩ :=
    funded.lawful.paid funded.active funded.instalment_mem (by rw [whole]; exact more.le) draws.now
  · rw [whole] at active
    refine ⟨⟨?_, lawful, by rw [whole]; exact active.1, ?_, by rw [emi]; exact funded.emi, ?_, funded.can, ?_, ?_, ?_⟩,
      by rw [whole]; exact active.2⟩
    · rw [LoanService.paid_loanId]
      exact funded.settled_loan draws
    · rw [paid, whole]
      exact add_nonneg funded.paid funded.emi.le
    · rw [LoanService.paid_accountNumber, ← whole]
      exact funded.settled_account draws
    · rw [whole, active.2]
      exact sub_le_sub_right funded.covered _
    · exact cents.sub_mem funded.exact funded.lawful.exact.2.1
    · rw [principal]
      exact ⟨(sub_le_self _ funded.emi.le).trans funded.most.1, funded.most.2⟩
  · rw [whole] at closed
    exact absurd closed.2 more.ne'

/-- The last instalment closes the loan. -/
theorem Loan.Funded.settled_last (funded : loan.Funded cents limit bank.db account) (draws : Draws)
    (last : loan.remainingAmount ≤ loan.emiAmount) :
    loan.instalment = loan.remainingAmount ∧ (LoanService.paid loan loan.instalment draws.now).status = .closed := by
  have whole : loan.instalment = loan.remainingAmount := by
    unfold Loan.instalment
    split
    · rfl
    · exact le_antisymm (not_lt.mp ‹_›) last
  refine ⟨whole, ?_⟩
  obtain ⟨-, active | closed⟩ :=
    funded.lawful.paid funded.active funded.instalment_mem whole.le draws.now
  · unfold LoanService.paid
    simp [whole]
  · exact closed.1

/-- The calls after the first one are ready. -/
theorem Ready.tail {c : ℕ × Draws} {rest : List (ℕ × Draws)} (ready : Ready B bank loan (c :: rest)) (actual : F) (now : Time) :
    Ready B { db := loan.settled bank.db account c.2, sessions := Function.update bank.sessions c.1 {} }
      (LoanService.paid loan actual now) rest := by
  obtain ⟨idle, fresh, distinct, fits⟩ := ready
  rw [List.map_cons, List.nodup_cons] at distinct
  refine ⟨fun c' mem => ?_, fun c' mem => ?_, distinct.2, fun c' mem actual' balance => ?_⟩
  · show Function.update bank.sessions c.1 {} c'.1 = {}
    by_cases same : c'.1 = c.1
    · rw [same, Function.update_self]
    · rw [Function.update_of_ne same]
      exact idle c' (List.mem_cons_of_mem c mem)
  · have others := fresh c' (List.mem_cons_of_mem c mem)
    have differs : c'.2.txnId ≠ c.2.txnId := fun same => distinct.1 (same ▸ List.mem_map_of_mem mem)
    show c'.2.txnId ∉ (bank.db.transactions ++ [_]).map Transaction.txnId
    rw [List.map_append, List.mem_append, not_or]
    exact ⟨others, by simpa [Loan.repayment] using differs⟩
  · have takes := fits c' (List.mem_cons_of_mem c mem) actual' balance
    unfold Loan.repayment at takes ⊢
    rw [LoanService.paid_accountNumber, LoanService.paid_loanType, LoanService.paid_loanId]
    exact takes

theorem instalments_paid (loan : Loan F) (actual : F) (now : Time) (calls : List (ℕ × Draws)) :
    (LoanService.paid loan actual now).instalments calls = loan.instalments calls := by
  unfold Loan.instalments
  rw [LoanService.paid_accountNumber, LoanService.paid_loanId]

/-- The first of several instalments succeeds: they pay the loan off exactly if the others do. -/
theorem PaysOff.cons (hB : B.KeepsUpTo cents limit) (funded : loan.Funded cents limit bank.db account) {c : ℕ × Draws}
    {rest : List (ℕ × Draws)} (ready : Ready B bank loan (c :: rest)) (more : loan.emiAmount < loan.remainingAmount)
    (enough : loan.emiAmount ≤ account.balance) (others : rest ≠ []) :
    PaysOff env B bank loan (c :: rest) ↔
      PaysOff env B { db := loan.settled bank.db account c.2, sessions := Function.update bank.sessions c.1 {} }
        (LoanService.paid loan loan.instalment c.2.now) rest := by
  obtain ⟨success, served⟩ := funded.serve env hB (ready.idle c List.mem_cons_self)
    (ready.fresh c List.mem_cons_self) (ready.fits c List.mem_cons_self) enough
  obtain ⟨next, left⟩ := funded.settled c.2 more
  have run : ∀ calls, bank.run env B (loan.instalments (c :: calls)) =
      Bank.run env B { db := loan.settled bank.db account c.2, sessions := Function.update bank.sessions c.1 {} }
        (loan.instalments calls) := by
    intro calls
    rw [← served]
    rfl
  have longer : rest.length ≠ 0 := fun none => others (List.length_eq_zero_iff.mp none)
  have first : ((loan.settled bank.db account c.2).loans.find? loan.loanId).map Loan.status ≠ some .closed := by
    rw [funded.settled_loan, Option.map_some, next.active]
    simp
  constructor
  · intro pays
    refine ⟨?_, fun i hi => ?_, fun account' live => ?_⟩
    · have succeed := pays.succeed.2
      rw [served] at succeed
      rw [instalments_paid]
      exact succeed
    · have closes := pays.closes (i + 1) (by simpa using hi)
      rw [List.take_succ_cons, run, List.length_cons] at closes
      rw [instalments_paid, LoanService.paid_loanId, closes]
      omega
    · have debits := pays.debits account funded.live
      rw [LoanService.paid_accountNumber] at live
      obtain rfl : account' = account.withBalance (account.balance - loan.emiAmount) := by
        have here := next.live
        rw [LoanService.paid_accountNumber] at here
        exact Option.some.inj (live.symm.trans here)
      rw [run] at debits
      rw [instalments_paid, LoanService.paid_accountNumber, debits, left]
      show some _ = some (account.balance - loan.emiAmount - _)
      congr 1
      ring
  · intro pays
    refine ⟨⟨success, ?_⟩, fun i hi => ?_, fun account' live => ?_⟩
    · have succeed := pays.succeed
      rw [instalments_paid] at succeed
      rw [served]
      exact succeed
    · rw [List.take_succ_cons, run, List.length_cons]
      cases i with
      | zero =>
        rw [List.take_zero]
        exact iff_of_false first (by omega)
      | succ i =>
        have closes := pays.closes i (by simpa using hi)
        rw [instalments_paid, LoanService.paid_loanId] at closes
        rw [closes]
        omega
    · obtain rfl : account' = account := Option.some.inj (live.symm.trans funded.live)
      have debits := pays.debits _ next.live
      rw [instalments_paid, LoanService.paid_accountNumber, left] at debits
      rw [run, debits]
      show some (account'.balance - loan.emiAmount - _) = some _
      congr 1
      ring

/-- **The instalments pay the loan off** exactly where the balance covers all of them in full. -/
theorem paysOff_from (hB : B.KeepsUpTo cents limit) {k : ℕ} {calls : List (ℕ × Draws)}
    (funded : loan.Funded cents limit bank.db account) (ready : Ready B bank loan calls) (count : calls.length = k + 1)
    (left : k * loan.emiAmount < loan.remainingAmount) (all : loan.remainingAmount ≤ (k + 1) * loan.emiAmount) :
    PaysOff env B bank loan calls ↔ (k + 1) * loan.emiAmount ≤ account.balance := by
  induction k generalizing bank loan account calls with
  | zero =>
    obtain ⟨c, rfl⟩ := List.length_eq_one_iff.mp count
    rw [Nat.cast_zero, zero_add, one_mul] at all ⊢
    obtain ⟨whole, closed⟩ := funded.settled_last c.2 all
    constructor
    · intro pays
      by_contra short
      have refused := funded.short env B (ready.idle c List.mem_cons_self) c.2 (not_le.mp short)
      exact absurd pays.succeed.1 (by simp [refused])
    · intro enough
      obtain ⟨success, served⟩ := funded.serve env hB (ready.idle c List.mem_cons_self)
        (ready.fresh c List.mem_cons_self) (ready.fits c List.mem_cons_self) enough
      have run : bank.run env B (loan.instalments [c]) =
          { db := loan.settled bank.db account c.2, sessions := Function.update bank.sessions c.1 {} } := served
      refine ⟨⟨success, trivial⟩, fun i hi => ?_, fun account' live => ?_⟩
      · obtain rfl : i = 0 := by simpa using hi
        rw [List.take_succ_cons, List.take_zero, run, funded.settled_loan, Option.map_some, closed]
        exact iff_of_true rfl rfl
      · obtain rfl : account' = account := Option.some.inj (live.symm.trans funded.live)
        rw [run, funded.settled_account, Option.map_some, whole]
        rfl
  | succ k ih =>
    obtain ⟨c, rest, rfl⟩ := List.exists_cons_of_length_eq_add_one count
    have others : rest.length = k + 1 := by simpa using count
    push_cast at left all ⊢
    have positive : 0 ≤ (k : F) * loan.emiAmount := mul_nonneg k.cast_nonneg funded.emi.le
    have more : loan.emiAmount < loan.remainingAmount := by linarith
    by_cases enough : loan.emiAmount ≤ account.balance
    · obtain ⟨next, rem⟩ := funded.settled c.2 more
      have emi := (LoanService.paid_kept loan loan.instalment c.2.now).2.2.1
      rw [PaysOff.cons hB funded ready more enough (by rintro rfl; cases others),
        ih next (ready.tail _ _) others (by rw [emi, rem]; linarith) (by rw [emi, rem]; linarith), emi]
      show _ ≤ account.balance - loan.emiAmount ↔ _
      constructor <;> intro h <;> linarith
    · constructor
      · intro pays
        have refused := funded.short env B (ready.idle c List.mem_cons_self) c.2 (not_le.mp enough)
        exact absurd pays.succeed.1 (by simp [refused])
      · intro h
        exact absurd (by linarith) enough

end Instalment

/-- **A funded loan is paid off as announced** exactly where the balance covers `remaining_emis` whole instalments. -/
theorem paysOff_iff [FloorRing F] (env : Env F) {B : Backend F} {cents : AddSubgroup F} {limit : F}
    (hB : B.KeepsUpTo cents limit) {bank : Bank F} {loan : Loan F} {account : Account F}
    (funded : loan.Funded cents limit bank.db account) {calls : List (ℕ × Draws)} (ready : Ready B bank loan calls)
    (count : calls.length = loan.remainingEmis) :
    PaysOff env B bank loan calls ↔ (loan.remainingEmis : F) * loan.emiAmount ≤ account.balance := by
  obtain ⟨k, emis, left, all⟩ := Loan.remainingEmis_spec funded.emi funded.debt
  rw [emis] at count ⊢
  have length : calls.length = k + 1 := by exact_mod_cast count
  push_cast
  exact paysOff_from hB funded ready length left all

namespace Sample

/-- The largest amount of a money column. -/
def mostRupees : ℚ := 999999999999.99

theorem rupees_keepsUpTo : rupees.KeepsUpTo wholePaise mostRupees := by
  intro x exact least most
  have inside : |x| < 10 ^ (14 - 2) := by
    rw [abs_of_nonneg least]
    refine lt_of_le_of_lt most ?_
    norm_num [mostRupees]
  simp only [Backend.money, Backend.number, rupees, round2_of_mem exact, if_pos inside]

/-- The loan of a thousand rupees, granted and not paid yet. -/
def phoneLoan : Loan ℚ :=
  ⟨"L0", "1001", "Personal", 1000, 12, 2, 507.51, 0, 1000, .active, 0, some 1, some 2, "phone", ""⟩

/-- The account that pays it. -/
def payer (balance : ℚ) : Account ℚ :=
  ⟨"1001", "Asha", 30, "F", "9000000000", "asha@bank.example", "secret", balance, true, false, 0, none⟩

/-- A bank with both. -/
def owing (balance : ℚ) : Bank ℚ where
  db :=
    { accounts := ⟨[payer balance], by simp⟩, transactions := [], loans := ⟨[phoneLoan], by simp⟩,
      goals := default, idempotencyKeys := default, tokenVersions := default, auditLog := [] }
  sessions _ := {}

def instalmentDays : List (ℕ × Draws) := [(0, draws 1), (0, draws 2)]

example : phoneLoan.remainingEmis = 2 := by decide +kernel

theorem phoneLoan_lawful : phoneLoan.Lawful wholePaise where
  exact := by
    refine ⟨mem_wholePaise.mpr ⟨100000, ?_⟩, mem_wholePaise.mpr ⟨50751, ?_⟩, mem_wholePaise.mpr ⟨0, ?_⟩,
      mem_wholePaise.mpr ⟨100000, ?_⟩⟩ <;> norm_num [phoneLoan]
  principal := by norm_num [phoneLoan]
  sum := by norm_num [phoneLoan]
  remaining := by norm_num [phoneLoan]
  status := .inr (.inl rfl)
  closed := iff_of_false (by simp [phoneLoan]) (by norm_num [phoneLoan])
  unpaid := by simp [phoneLoan]
  next := by simp [phoneLoan]

theorem owing_funded {k : ℤ} (enough : 1000 ≤ k) (most : k ≤ 100000) :
    phoneLoan.Funded wholePaise mostRupees (owing k).db (payer k) := by
  have least : (1000 : ℚ) ≤ k := by exact_mod_cast enough
  have upTo : (k : ℚ) ≤ 100000 := by exact_mod_cast most
  refine ⟨rfl, phoneLoan_lawful, rfl, by norm_num [phoneLoan], by norm_num [phoneLoan], rfl, rfl, least, ?_, ?_⟩
  · exact mem_wholePaise.mpr ⟨k * 100, by push_cast [payer]; ring⟩
  · exact ⟨upTo.trans (by norm_num [mostRupees]), by norm_num [phoneLoan, mostRupees]⟩

theorem owing_ready (balance : ℚ) : Ready rupees (owing balance) phoneLoan instalmentDays where
  idle _ _ := rfl
  fresh := by simp [owing, instalmentDays]
  distinct := by decide
  fits c mem actual balance := by
    simp only [instalmentDays, List.mem_cons, List.not_mem_nil, or_false] at mem
    have texts : (phoneLoan.repayment c.2 actual balance).texts = (phoneLoan.repayment c.2 0 0).texts := rfl
    rw [texts]
    rcases mem with rfl | rfl <;> decide +kernel

/-- With 1016 rupees the two instalments pay the loan off. -/
theorem phoneLoan_paysOff : PaysOff rupeeEnv rupees (owing ((1016 : ℤ) : ℚ)) phoneLoan instalmentDays ↔
    (phoneLoan.remainingEmis : ℚ) * phoneLoan.emiAmount ≤ (payer ((1016 : ℤ) : ℚ)).balance :=
  paysOff_iff rupeeEnv rupees_keepsUpTo (owing_funded (by norm_num) (by norm_num)) (owing_ready _) (by decide +kernel)

/-- With 1010 rupees the account can pay the debt of 1000, and the second instalment is refused with 492.49 left to pay
it, and 502.49 to pay it from. -/
theorem phoneLoan_stuck : phoneLoan.Funded wholePaise mostRupees (owing ((1010 : ℤ) : ℚ)).db (payer ((1010 : ℤ) : ℚ)) ∧
    Ready rupees (owing ((1010 : ℤ) : ℚ)) phoneLoan instalmentDays ∧ instalmentDays.length = phoneLoan.remainingEmis ∧
      ¬PaysOff rupeeEnv rupees (owing ((1010 : ℤ) : ℚ)) phoneLoan instalmentDays := by
  refine ⟨owing_funded (by norm_num) (by norm_num), owing_ready _, by decide +kernel, fun pays => ?_⟩
  have second := pays.succeed.2.1
  revert second
  decide +kernel

end Sample

end UnionBank
