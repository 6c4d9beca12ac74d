import UnionBank.Session

/-!
# Loan service

`LoanService` of `application/services.py`: applications, decisions and repayments. Every method commits once; a
decision and an application are followed by an audit entry with a commit of its own. None of them takes the lock of
the account.
-/

namespace UnionBank

set_option linter.unusedSectionVars false

open Programs Prog

variable {D : Type} [Zero D] [Add D] [Sub D] [LE D] [LT D] [DecidableLE D] [DecidableLT D]

namespace LoanService

variable (env : Env D)

/-- `_audit_log`. -/
def auditLog (actor action target details : String) (now : Time) : Svc D Unit := do
  auditLogRepo.log actor action (some target) (some details) none now
  auditLogRepo.commit

def applyLoan (draws : Draws) (accNo loanType : String) (principalAmount interestRate : D) (tenureMonths : Int)
    (purpose : String) : Svc D (ServiceResult D) := do
  let some account ← accountRepo.get accNo | return refused "Account not found."
  if !account.canTransact then
    return refused "Account is frozen or closed."
  if loanType ∉ loanTypes then
    let choices := ", ".intercalate loanTypes
    return refused s!"Invalid loan type. Choose from: {choices}"
  let minPrincipal := env.ofCents 100000
  let maxPrincipal := env.ofCents 1000000000
  if principalAmount < minPrincipal then
    return refused s!"Minimum loan amount is {env.fmtCurrency minPrincipal}."
  if maxPrincipal < principalAmount then
    return refused s!"Maximum loan amount is {env.fmtCurrency maxPrincipal}."
  let product := loanProduct loanType
  if tenureMonths < 1 ∨ product.maxTenure < tenureMonths then
    return refused s!"Tenure must be between 1 and {product.maxTenure} months for {loanType} loans."
  if interestRate < env.ofCents product.minRate ∨ env.ofCents product.maxRate < interestRate then
    return refused (s!"Interest rate must be between {rateText product.minRate}% and {rateText product.maxRate}% " ++
      s!"for {loanType} loans.")
  let emi := env.calculateEmi principalAmount interestRate tenureMonths
  loanRepo.create
    { loanId := draws.loanId, accountNumber := accNo, loanType, principalAmount, interestRate, tenureMonths,
      emiAmount := emi, amountPaid := 0, remainingAmount := principalAmount, status := .pending,
      applicationDate := draws.now, approvalDate := none, nextEmiDate := none, purpose, adminNotes := "" }
  loanRepo.commit
  auditLog accNo "loan_apply" draws.loanId s!"Applied for {loanType} loan of {env.fmtCurrency principalAmount}"
    draws.now
  return {
    success := true,
    message := s!"Loan application submitted! Your EMI would be {env.fmtCurrency emi}/month.",
    data := some [("loan_id", .text draws.loanId), ("emi_amount", .number (env.float emi))] }

/-- The loan as approved. -/
def approved (loan : Loan D) (now : Time) : Loan D :=
  { loan with status := .active, approvalDate := some now, nextEmiDate := some (now + days30) }

def approveLoan (draws : Draws) (loanId adminUser : String) : Svc D (ServiceResult D) := do
  let some loan ← loanRepo.get loanId | return refused "Loan not found."
  if loan.status ≠ .pending then
    return refused s!"Loan is already {loan.status.lower}. Only pending loans can be approved."
  let some account ← accountRepo.get loan.accountNumber | return refused "Customer account not found."
  if !account.canTransact then
    return refused "Customer account is frozen or closed."
  let loan := approved loan draws.now
  loanRepo.update loan
  let account := account.withBalance (account.balance + loan.principalAmount)
  accountRepo.update account
  txnRepo.create
    { txnId := draws.txnId, accountNumber := loan.accountNumber, type := .loanDisbursement,
      amount := loan.principalAmount, balance := account.balance,
      description := s!"{loan.loanType} loan disbursement ({loan.loanId})", category := "Loan", targetAccount := none,
      timestamp := draws.now }
  loanRepo.commit
  auditLog adminUser "loan_approve" loanId
    (s!"Approved {loan.loanType} loan of {env.fmtCurrency loan.principalAmount} " ++ s!"for {loan.accountNumber}")
    draws.now
  return {
    success := true,
    message := s!"Loan approved! {env.fmtCurrency loan.principalAmount} disbursed to account {loan.accountNumber}.",
    data := some [("balance", .number (env.float account.balance))] }

/-- The loan as rejected; an empty reason leaves the notes. -/
def rejected (loan : Loan D) (reason : String) : Loan D :=
  { loan with status := .rejected, adminNotes := if reason = "" then loan.adminNotes else reason }

def rejectLoan (draws : Draws) (loanId reason adminUser : String) : Svc D (ServiceResult D) := do
  let some loan ← loanRepo.get loanId | return refused "Loan not found."
  if loan.status ≠ .pending then
    return refused s!"Loan is already {loan.status.lower}. Only pending loans can be rejected."
  loanRepo.update (rejected loan reason)
  loanRepo.commit
  let given := if reason = "" then "No reason provided" else reason
  auditLog adminUser "loan_reject" loanId s!"Rejected {loan.loanType} loan: {given}" draws.now
  return {
    success := true,
    message := "Loan application rejected." ++ if reason = "" then "" else s!" Reason: {reason}" }

/-- The loan after a payment: the next date moves by a month, and a loan with nothing left is closed. -/
def paid (loan : Loan D) (actualPayment : D) (now : Time) : Loan D :=
  let amountPaid := loan.amountPaid + actualPayment
  let remainingAmount := loan.remainingAmount - actualPayment
  if remainingAmount ≤ 0 then
    { loan with amountPaid, remainingAmount := 0, status := .closed, nextEmiDate := none }
  else
    { loan with amountPaid, remainingAmount, nextEmiDate := some (loan.nextEmiDate.getD now + days30) }

@[simp] theorem paid_loanId (loan : Loan D) (actual : D) (now : Time) : (paid loan actual now).loanId = loan.loanId := by
  unfold paid; simp only; split <;> rfl

@[simp] theorem paid_accountNumber (loan : Loan D) (actual : D) (now : Time) :
    (paid loan actual now).accountNumber = loan.accountNumber := by
  unfold paid; simp only; split <;> rfl

@[simp] theorem paid_applicationDate (loan : Loan D) (actual : D) (now : Time) :
    (paid loan actual now).applicationDate = loan.applicationDate := by
  unfold paid; simp only; split <;> rfl

@[simp] theorem paid_loanType (loan : Loan D) (actual : D) (now : Time) :
    (paid loan actual now).loanType = loan.loanType := by
  unfold paid; simp only; split <;> rfl

def payEmi (draws : Draws) (accNo loanId : String) (amount : Option D) : Svc D (ServiceResult D) := do
  let some loan ← loanRepo.get loanId | return refused "Loan not found."
  if loan.status ≠ .approved ∧ loan.status ≠ .active then
    return refused s!"Loan is {loan.status.lower}. Only active loans can receive payments."
  if loan.accountNumber ≠ accNo then
    return refused "Loan does not belong to this account."
  let some account ← accountRepo.get accNo | return refused "Account not found."
  if !account.canTransact then
    return refused "Account is frozen or closed."
  let payment := amount.getD loan.emiAmount
  if payment ≤ 0 then
    return refused "Payment amount must be positive."
  if account.balance < payment then
    return refused s!"Insufficient balance. Available: {env.fmtCurrency account.balance}"
  -- `min(payment, remaining_debt)`
  let actualPayment := if loan.remainingAmount < payment then loan.remainingAmount else payment
  let account := account.withBalance (account.balance - actualPayment)
  accountRepo.update account
  let loan := paid loan actualPayment draws.now
  loanRepo.update loan
  txnRepo.create
    { txnId := draws.txnId, accountNumber := accNo, type := .loanRepayment, amount := actualPayment,
      balance := account.balance, description := s!"EMI payment for {loan.loanType} loan ({loan.loanId})",
      category := "Loan", targetAccount := none, timestamp := draws.now }
  loanRepo.commit
  let isClosed : Bool := loan.status = .closed
  return {
    success := true,
    message := s!"EMI of {env.fmtCurrency actualPayment} paid for {loan.loanType} loan." ++
      if isClosed then " 🎉 Loan fully paid off! Congratulations!" else "",
    data := some
      [("amount_paid", .number (env.float actualPayment)),
        ("remaining_amount", .number (env.float loan.remainingAmount)),
        ("balance", .number (env.float account.balance)), ("is_closed", .flag isClosed)] }

end LoanService

end UnionBank
