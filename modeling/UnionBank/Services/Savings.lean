import UnionBank.Session

/-!
# Savings goal service

`SavingsGoalService` of `application/services.py`. Neither `contribute` nor `deleteGoal` asks whose goal it is, and
neither takes the lock of the account.
-/

namespace UnionBank

open Programs Prog

variable {D : Type} [Zero D] [Add D] [Sub D] [LE D] [LT D] [DecidableLE D] [DecidableLT D]

namespace SavingsGoalService

variable (env : Env D)

def createGoal (draws : Draws) (accNo name : String) (targetAmount : D) (targetDate : Option String) :
    Svc D (ServiceResult D) := do
  if name.length < 2 then
    return refused "Goal name must be at least 2 characters."
  if targetAmount ≤ 0 then
    return refused "Target amount must be positive."
  goalRepo.create
    { goalId := draws.goalId, accountNumber := accNo, name, targetAmount, currentAmount := 0, targetDate,
      createdAt := draws.now, isCompleted := false }
  goalRepo.commit
  return { success := true, message := s!"Goal '{name}' created!" }

def contribute (draws : Draws) (accNo goalId : String) (amount : D) : Svc D (ServiceResult D) := do
  if amount ≤ 0 then
    return refused "Amount must be positive."
  let some account ← accountRepo.get accNo | return refused "Account not found."
  if account.balance < amount then
    return refused "Insufficient balance."
  let some goal ← goalRepo.get goalId | return refused "Goal not found."
  let account := account.withBalance (account.balance - amount)
  accountRepo.update account
  txnRepo.create
    { txnId := draws.txnId, accountNumber := accNo, type := .transferOut, amount, balance := account.balance,
      description := s!"Savings goal: {goal.name}", category := "Savings", targetAccount := none,
      timestamp := draws.now }
  let _ ← goalRepo.contribute goalId amount
  accountRepo.commit
  return { success := true, message := s!"{env.fmtCurrency amount} contributed to '{goal.name}'!" }

/-- The refund goes to whoever asks, and no row is written for it. -/
def deleteGoal (accNo goalId : String) : Svc D (ServiceResult D) := do
  let some goal ← goalRepo.get goalId | return refused "Goal not found."
  let refund := goal.currentAmount
  let _ ← goalRepo.delete goalId
  if 0 < refund then
    if let some account ← accountRepo.get accNo then
      accountRepo.update (account.withBalance (account.balance + refund))
  goalRepo.commit
  return { success := true, message := s!"Goal '{goal.name}' deleted. Amount refunded." }

end SavingsGoalService

end UnionBank
