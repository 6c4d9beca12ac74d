import UnionBank.Services.Transactions
import UnionBank.Services.Savings
import UnionBank.Services.Accounts

/-!
# Async services

The services of `application/async_services.py`. The account, admin and savings-goal services have the statements of
the sync ones with `await` before each repository call, and so has the interest of `AsyncTransactionService`. Its
deposits and withdrawals do what those of `TransactionService` do, and it has no savepoint: what fails inside a transfer
rolls the session back. Its lock is one for all accounts of an operation, so that a transfer and a deposit to one of its
accounts have different locks. A session of its sessionmaker flushes before a SELECT; what the store then refuses it
refuses at the commit here.
-/

namespace UnionBank

open Programs Prog TransactionService

variable {D : Type} [Zero D] [Add D] [Sub D] [LE D] [LT D] [DecidableLE D] [DecidableLT D]

namespace AsyncTransactionService

variable (env : Env D)

/-- `":".join(sorted(acc_nos))`. -/
def lockKey (accNos : List String) : String := ":".intercalate (accNos.insertionSort (· ≤ ·))

/-- `async with _get_account_lock(*acc_nos)`. -/
def withAccountLock {α : Type} (accNos : List String) (body : Svc D α) : Svc D α := do
  perform (Op.acquire (lockKey accNos))
  ensuring body (perform (Op.release (lockKey accNos)))

def deposit (draws : Draws) (accNo : String) (amount : D) (category : String) (idempotencyKey : Option String) :
    Svc D (ServiceResult D) := do
  if amount ≤ 0 then
    return refused "Amount must be positive."
  if let some cached ← checkIdempotency idempotencyKey then
    return cached
  match ← withAccountLock [accNo] (depositLocked draws accNo amount category) with
  | .error refusal => return refusal
  | .ok account =>
    let result : ServiceResult D :=
      { success := true,
        message := s!"{env.fmtCurrency amount} deposited successfully. " ++
          s!"New balance: {env.fmtCurrency account.balance}",
        data := some [("balance", .number (env.float account.balance))] }
    storeIdempotency idempotencyKey accNo "deposit" amount result (env.float account.balance)
    return result

def withdraw (draws : Draws) (accNo : String) (amount : D) (category : String) (idempotencyKey : Option String) :
    Svc D (ServiceResult D) := do
  if amount ≤ 0 then
    return refused "Amount must be positive."
  if let some cached ← checkIdempotency idempotencyKey then
    return cached
  match ← withAccountLock [accNo] (withdrawLocked env draws accNo amount category) with
  | .error refusal => return refusal
  | .ok account =>
    let result : ServiceResult D :=
      { success := true,
        message := s!"{env.fmtCurrency amount} withdrawn successfully. " ++
          s!"New balance: {env.fmtCurrency account.balance}",
        data := some [("balance", .number (env.float account.balance))] }
    storeIdempotency idempotencyKey accNo "withdraw" amount result (env.float account.balance)
    return result

/-- The writes of a transfer, and their commit. -/
def commitTransfer (draws : Draws) (sender receiver : Account D) (senderAccNo receiverAccNo : String) (amount : D)
    (cat : String) : Svc D (Except (TransferResult D) (D × D)) := do
  try
    let balances ← moveMoney draws sender receiver senderAccNo receiverAccNo amount cat
    accountRepo.commit
    pure (.ok balances)
  catch _ =>
    accountRepo.rollback
    pure (.error (transferRefused "Transfer failed due to a database error. Please try again."))

/-- What `transfer` does under its lock. -/
def transferLocked (draws : Draws) (senderAccNo receiverAccNo : String) (amount : D) (cat : String) :
    Svc D (Except (TransferResult D) (D × D)) := do
  let sender? ← accountRepo.get senderAccNo
  let receiver? ← accountRepo.get receiverAccNo
  let some sender := sender? | return .error (transferRefused "Sender account not found.")
  let some receiver := receiver? | return .error (transferRefused "Recipient account not found.")
  if !sender.canTransact then
    return .error (transferRefused "Your account is frozen or closed.")
  if !receiver.canTransact then
    return .error (transferRefused "Recipient account is frozen or closed.")
  if sender.balance < amount then
    return .error (transferRefused s!"Insufficient balance. Available: {env.fmtCurrency sender.balance}")
  commitTransfer draws sender receiver senderAccNo receiverAccNo amount cat

def transfer (draws : Draws) (senderAccNo receiverAccNo : String) (amount : D) (category : String)
    (idempotencyKey : Option String) : Svc D (TransferResult D) := do
  if amount ≤ 0 then
    return transferRefused "Amount must be positive."
  if senderAccNo = receiverAccNo then
    return transferRefused "Cannot transfer to your own account."
  if let some cached ← cachedTransfer idempotencyKey then
    return cached
  match ← withAccountLock [senderAccNo, receiverAccNo]
    (transferLocked env draws senderAccNo receiverAccNo amount (knownCategory category)) with
  | .error refusal => return refusal
  | .ok (senderBalance, receiverBalance) =>
    let result : TransferResult D := { success := true, senderBalance, receiverBalance }
    storeTransferIdempotency env idempotencyKey senderAccNo amount result
    return result

def applyInterest (draws : Draws) (accNo : String) : Svc D (ServiceResult D) :=
  TransactionService.applyInterest env draws accNo

end AsyncTransactionService

namespace AsyncAccountService

variable (env : Env D)

def updateProfile (accNo : String) (kwargs : List (AccountService.AccountField D)) : Svc D (ServiceResult D) :=
  AccountService.updateProfile accNo kwargs

def changePassword (accNo currentPwd newPwd : String) : Svc D (ServiceResult D) :=
  AccountService.changePassword env accNo currentPwd newPwd

def closeAccount (accNo password : String) : Svc D (ServiceResult D) := AccountService.closeAccount env accNo password

end AsyncAccountService

namespace AsyncAdminService

def freezeAccount (draws : Draws) (accNo actor : String) (reason : Option String) : Svc D (ServiceResult D) :=
  AdminService.freezeAccount draws accNo actor reason

def unfreezeAccount (draws : Draws) (accNo actor : String) (reason : Option String) : Svc D (ServiceResult D) :=
  AdminService.unfreezeAccount draws accNo actor reason

def deleteAccount (draws : Draws) (accNo actor : String) (reason : Option String) : Svc D (ServiceResult D) :=
  AdminService.deleteAccount draws accNo actor reason

end AsyncAdminService

namespace AsyncSavingsGoalService

variable (env : Env D)

def createGoal (draws : Draws) (accNo name : String) (targetAmount : D) (targetDate : Option String) :
    Svc D (ServiceResult D) :=
  SavingsGoalService.createGoal draws accNo name targetAmount targetDate

def contribute (draws : Draws) (accNo goalId : String) (amount : D) : Svc D (ServiceResult D) :=
  SavingsGoalService.contribute env draws accNo goalId amount

def deleteGoal (accNo goalId : String) : Svc D (ServiceResult D) := SavingsGoalService.deleteGoal accNo goalId

end AsyncSavingsGoalService

end UnionBank
