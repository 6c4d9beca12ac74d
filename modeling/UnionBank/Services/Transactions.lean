import UnionBank.Session

/-!
# Transaction service

`TransactionService` of `application/services.py`: deposits, withdrawals, transfers and interest. The three money
movements look an idempotency key up before they take their locks, and store it, after their own commit, in a second
one whose failure they swallow. The notifications that follow never run: the circuit breaker is handed the method
without its arguments and the error is logged.
-/

namespace UnionBank

open Programs Prog

variable {D : Type} [Zero D] [Add D] [Sub D] [LE D] [LT D] [DecidableLE D] [DecidableLT D]

namespace TransactionService

variable (env : Env D)

/-- `if not idempotency_key`: the empty key is no key. -/
def givenKey (idempotencyKey : Option String) : Option String := idempotencyKey.filter fun key => key ≠ ""

/-- `_ensure_non_negative_balance`. -/
def ensureNonNegativeBalance (balance : D) (operation : String) : Svc D Unit := do
  if balance < 0 then
    throw (.valueError s!"Insufficient balance for {operation}.")

/-- `_check_idempotency`: the stored result of the key. -/
def checkIdempotency (idempotencyKey : Option String) : Svc D (Option (ServiceResult D)) := do
  let some key := givenKey idempotencyKey | return none
  let some existing ← idempotencyRepo.get key | return none
  match existing.resultJson with
  | some data => return some {
      success := data.success.getD true, message := data.message.getD "Operation already completed.",
      data := data.balance.map fun balance => [("balance", .number balance)] }
  | none => return some { success := true, message := "Operation already completed." }

/-- `_store_idempotency`, for a result whose data is a balance. -/
def storeIdempotency (idempotencyKey : Option String) (accNo operation : String) (amount : D)
    (result : ServiceResult D) (balance : D) : Svc D Unit := do
  let some key := givenKey idempotencyKey | return ()
  let record : IdempotencyRecord D :=
    { idempotencyKey := key, accountNumber := accNo, operation, amount,
      resultJson := some
        { success := some result.success, message := some result.message, balance := some balance,
          senderBalance := none, receiverBalance := none, errorMessage := none } }
  try
    idempotencyRepo.create record
    idempotencyRepo.commit
  catch _ =>
    idempotencyRepo.rollback

/-- `"frozen" if account.is_frozen else "closed"`. -/
def blockedStatus (account : Account D) : String := if account.isFrozen then "frozen" else "closed"

/-- What `deposit` does under the lock of the account: a refusal, or the account as committed. -/
def depositLocked (draws : Draws) (accNo : String) (amount : D) (category : String) :
    Svc D (Except (ServiceResult D) (Account D)) := do
  let some account ← accountRepo.get accNo | return .error (refused "Account not found.")
  if !account.canTransact then
    return .error (refused s!"Account is {blockedStatus account}.")
  let account := account.withBalance (account.balance + amount)
  accountRepo.update account
  txnRepo.create
    { txnId := draws.txnId, accountNumber := accNo, type := .deposit, amount, balance := account.balance,
      description := "Deposit", category := knownCategory category, targetAccount := none, timestamp := draws.now }
  accountRepo.commit
  return .ok account

def deposit (draws : Draws) (accNo : String) (amount : D) (category : String) (idempotencyKey : Option String) :
    Svc D (ServiceResult D) := do
  if amount ≤ 0 then
    return refused "Amount must be positive."
  if let some cached ← checkIdempotency idempotencyKey then
    return cached
  match ← accountLock [accNo] (depositLocked draws accNo amount category) with
  | .error refusal => return refusal
  | .ok account =>
    let result : ServiceResult D :=
      { success := true,
        message := s!"{env.fmtCurrency amount} deposited successfully. " ++
          s!"New balance: {env.fmtCurrency account.balance}",
        data := some [("balance", .number (env.float account.balance))] }
    storeIdempotency idempotencyKey accNo "deposit" amount result (env.float account.balance)
    return result

/-- What `withdraw` does under the lock of the account. -/
def withdrawLocked (draws : Draws) (accNo : String) (amount : D) (category : String) :
    Svc D (Except (ServiceResult D) (Account D)) := do
  let some account ← accountRepo.get accNo | return .error (refused "Account not found.")
  if !account.canTransact then
    return .error (refused s!"Account is {blockedStatus account}.")
  if account.balance < amount then
    return .error (refused s!"Insufficient balance. Available: {env.fmtCurrency account.balance}")
  let account := account.withBalance (account.balance - amount)
  ensureNonNegativeBalance account.balance "withdraw"
  accountRepo.update account
  txnRepo.create
    { txnId := draws.txnId, accountNumber := accNo, type := .withdraw, amount, balance := account.balance,
      description := "Withdrawal", category := knownCategory category, targetAccount := none, timestamp := draws.now }
  accountRepo.commit
  return .ok account

def withdraw (draws : Draws) (accNo : String) (amount : D) (category : String) (idempotencyKey : Option String) :
    Svc D (ServiceResult D) := do
  if amount ≤ 0 then
    return refused "Amount must be positive."
  if let some cached ← checkIdempotency idempotencyKey then
    return cached
  match ← accountLock [accNo] (withdrawLocked env draws accNo amount category) with
  | .error refusal => return refusal
  | .ok account =>
    let result : ServiceResult D :=
      { success := true,
        message := s!"{env.fmtCurrency amount} withdrawn successfully. " ++
          s!"New balance: {env.fmtCurrency account.balance}",
        data := some [("balance", .number (env.float account.balance))] }
    storeIdempotency idempotencyKey accNo "withdraw" amount result (env.float account.balance)
    return result

/-! ## Transfers -/

/-- The outcome of a refused transfer. -/
def transferRefused (errorMessage : String) : TransferResult D :=
  { success := false, senderBalance := 0, receiverBalance := 0, errorMessage }

/-- The stored result of the key; a text that does not parse counts as none. -/
def cachedTransfer (idempotencyKey : Option String) : Svc D (Option (TransferResult D)) := do
  let some key := givenKey idempotencyKey | return none
  let some existing ← idempotencyRepo.get key | return none
  let some data := existing.resultJson | return none
  return some {
    success := data.success.getD true, senderBalance := data.senderBalance.getD 0,
    receiverBalance := data.receiverBalance.getD 0, errorMessage := data.errorMessage.getD "" }

/-- The writes of a transfer, inside the savepoint: the balances of both sides after it. -/
def moveMoney (draws : Draws) (sender receiver : Account D) (senderAccNo receiverAccNo : String) (amount : D)
    (cat : String) : Svc D (D × D) := do
  let sender := sender.withBalance (sender.balance - amount)
  ensureNonNegativeBalance sender.balance "transfer"
  let receiver := receiver.withBalance (receiver.balance + amount)
  accountRepo.update sender
  accountRepo.update receiver
  txnRepo.create
    { txnId := draws.txnId, accountNumber := senderAccNo, type := .transferOut, amount, balance := sender.balance,
      description := s!"Transfer to {receiverAccNo}", category := cat, targetAccount := some receiverAccNo,
      timestamp := draws.now }
  txnRepo.create
    { txnId := draws.txnId', accountNumber := receiverAccNo, type := .transferIn, amount, balance := receiver.balance,
      description := s!"Transfer from {senderAccNo}", category := cat, targetAccount := some senderAccNo,
      timestamp := draws.now }
  return (sender.balance, receiver.balance)

/-- What `transfer` does under the locks of both accounts. -/
def transferLocked (draws : Draws) (senderAccNo receiverAccNo : String) (amount : D) (cat : String) :
    Svc D (Except (TransferResult D) (D × D)) := do
  let sender? ← accountRepo.get senderAccNo
  let receiver? ← accountRepo.get receiverAccNo
  let some sender := sender? | return .error (transferRefused "Sender account not found.")
  let some receiver := receiver? | return .error (transferRefused "Recipient account not found.")
  if !sender.canTransact then
    return .error (transferRefused "Your account is frozen or closed.")
  if !receiver.canTransact then
    return .error (transferRefused "Recipient account is frozen or closed.")
  if sender.balance < amount then
    return .error (transferRefused s!"Insufficient balance. Available: {env.fmtCurrency sender.balance}")
  let balances ← beginNested (moveMoney draws sender receiver senderAccNo receiverAccNo amount cat)
  accountRepo.commit
  return .ok balances

/-- The key of a successful transfer. -/
def storeTransferIdempotency (idempotencyKey : Option String) (senderAccNo : String) (amount : D)
    (result : TransferResult D) : Svc D Unit := do
  let some key := givenKey idempotencyKey | return ()
  let record : IdempotencyRecord D :=
    { idempotencyKey := key, accountNumber := senderAccNo, operation := "transfer", amount,
      resultJson := some
        { success := some result.success, message := none, balance := none,
          senderBalance := some (env.float result.senderBalance),
          receiverBalance := some (env.float result.receiverBalance), errorMessage := some result.errorMessage } }
  try
    idempotencyRepo.create record
    idempotencyRepo.commit
  catch _ =>
    idempotencyRepo.rollback

def transfer (draws : Draws) (senderAccNo receiverAccNo : String) (amount : D) (category : String)
    (idempotencyKey : Option String) : Svc D (TransferResult D) := do
  if amount ≤ 0 then
    return transferRefused "Amount must be positive."
  if senderAccNo = receiverAccNo then
    return transferRefused "Cannot transfer to your own account."
  if let some cached ← cachedTransfer idempotencyKey then
    return cached
  let outcome ← tryCatch
    (accountLock [senderAccNo, receiverAccNo]
      (transferLocked env draws senderAccNo receiverAccNo amount (knownCategory category)))
    fun _ => do
      accountRepo.rollback
      return .error (transferRefused "Transfer failed due to a database error. Please try again.")
  match outcome with
  | .error refusal => return refusal
  | .ok (senderBalance, receiverBalance) =>
    let result : TransferResult D := { success := true, senderBalance, receiverBalance }
    storeTransferIdempotency env idempotencyKey senderAccNo amount result
    return result

/-! ## Interest -/

/-- Monthly interest, without the lock of the account. -/
def applyInterest (draws : Draws) (accNo : String) : Svc D (ServiceResult D) := do
  let some account ← accountRepo.get accNo | return refused "Account not found."
  if !account.canTransact then
    return refused "Account is frozen or closed."
  let interest := env.calculateMonthlyInterest account.balance
  if interest ≤ 0 then
    return refused "No interest to apply."
  let account := account.withBalance (account.balance + interest)
  accountRepo.update account
  txnRepo.create
    { txnId := draws.txnId, accountNumber := accNo, type := .interest, amount := interest, balance := account.balance,
      description := "Monthly interest credit", category := "Savings", targetAccount := none, timestamp := draws.now }
  accountRepo.commit
  return {
    success := true,
    message := s!"Interest of {env.fmtCurrency interest} credited! New balance: {env.fmtCurrency account.balance}",
    data := some [("interest", .number (env.float interest)), ("balance", .number (env.float account.balance))] }

end TransactionService

end UnionBank
