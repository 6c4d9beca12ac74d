import UnionBank.Services.Transactions
import UnionBank.Services.Loans
import UnionBank.Services.Savings
import UnionBank.Services.Accounts

/-!
# Service calls as data

- `Request`: the calls of the five services, `Call`: a request with its clock and its random ids, `Call.prog`;
- `Bank`: the store and the sessions of the threads, and `Bank.serve`: one call, run from start to end on the session
  of one thread.
-/

namespace UnionBank

open Programs Prog

variable {D : Type}

/-- The calls of the services that write. -/
inductive Request (D : Type) where
  | deposit (accNo : String) (amount : D) (category : String) (idempotencyKey : Option String)
  | withdraw (accNo : String) (amount : D) (category : String) (idempotencyKey : Option String)
  | transfer (senderAccNo receiverAccNo : String) (amount : D) (category : String) (idempotencyKey : Option String)
  | applyInterest (accNo : String)
  | applyLoan (accNo loanType : String) (principalAmount interestRate : D) (tenureMonths : Int) (purpose : String)
  | approveLoan (loanId adminUser : String)
  | rejectLoan (loanId reason adminUser : String)
  | payEmi (accNo loanId : String) (amount : Option D)
  | createGoal (accNo name : String) (targetAmount : D) (targetDate : Option String)
  | contribute (accNo goalId : String) (amount : D)
  | deleteGoal (accNo goalId : String)
  | freezeAccount (accNo actor : String) (reason : Option String)
  | unfreezeAccount (accNo actor : String) (reason : Option String)
  | deleteAccount (accNo actor : String) (reason : Option String)
  | updateProfile (accNo : String) (kwargs : List (AccountService.AccountField D))
  | changePassword (accNo currentPwd newPwd : String)
  | closeAccount (accNo password : String)

/-- The idempotency key a request carries; the empty key is none. -/
def Request.key : Request D → Option String
  | .deposit _ _ _ key | .withdraw _ _ _ key | .transfer _ _ _ _ key => TransactionService.givenKey key
  | _ => none

/-- A profile update, whose keyword arguments may name any attribute. -/
def Request.isProfile : Request D → Bool
  | .updateProfile .. => true
  | _ => false

/-- What a service returns. -/
inductive Reply (D : Type) where
  | service (result : ServiceResult D)
  | transfer (result : TransferResult D)
deriving DecidableEq

/-- The success flag. -/
def Reply.success : Reply D → Bool
  | service result => result.success
  | transfer result => result.success

/-- Whether a call was answered with a success. -/
def succeeds (r : Except Exn (Reply D)) : Bool :=
  match r with
  | .ok reply => reply.success
  | .error _ => false

/-- A request with the clock and the random ids of its run. -/
structure Call (D : Type) where
  request : Request D
  draws : Draws

section Programs

variable [Zero D] [Add D] [Sub D] [LE D] [LT D] [DecidableLE D] [DecidableLT D] (env : Env D)

/-- The program of a request. -/
def Request.prog (draws : Draws) : Request D → Svc D (Reply D)
  | .deposit accNo amount category key =>
    return .service (← TransactionService.deposit env draws accNo amount category key)
  | .withdraw accNo amount category key =>
    return .service (← TransactionService.withdraw env draws accNo amount category key)
  | .transfer sender receiver amount category key =>
    return .transfer (← TransactionService.transfer env draws sender receiver amount category key)
  | .applyInterest accNo => return .service (← TransactionService.applyInterest env draws accNo)
  | .applyLoan accNo loanType principal rate tenure purpose =>
    return .service (← LoanService.applyLoan env draws accNo loanType principal rate tenure purpose)
  | .approveLoan loanId adminUser => return .service (← LoanService.approveLoan env draws loanId adminUser)
  | .rejectLoan loanId reason adminUser => return .service (← LoanService.rejectLoan draws loanId reason adminUser)
  | .payEmi accNo loanId amount => return .service (← LoanService.payEmi env draws accNo loanId amount)
  | .createGoal accNo name target targetDate =>
    return .service (← SavingsGoalService.createGoal draws accNo name target targetDate)
  | .contribute accNo goalId amount =>
    return .service (← SavingsGoalService.contribute env draws accNo goalId amount)
  | .deleteGoal accNo goalId => return .service (← SavingsGoalService.deleteGoal accNo goalId)
  | .freezeAccount accNo actor reason => return .service (← AdminService.freezeAccount draws accNo actor reason)
  | .unfreezeAccount accNo actor reason => return .service (← AdminService.unfreezeAccount draws accNo actor reason)
  | .deleteAccount accNo actor reason => return .service (← AdminService.deleteAccount draws accNo actor reason)
  | .updateProfile accNo kwargs => return .service (← AccountService.updateProfile accNo kwargs)
  | .changePassword accNo currentPwd newPwd =>
    return .service (← AccountService.changePassword env accNo currentPwd newPwd)
  | .closeAccount accNo password => return .service (← AccountService.closeAccount env accNo password)

def Call.prog (c : Call D) : Svc D (Reply D) := c.request.prog env c.draws

end Programs

/-! ## One call after another -/

/-- The store and the session of every thread. -/
structure Bank (D : Type) where
  db : Db D
  sessions : ℕ → Session D

namespace Bank

variable [Zero D] [Add D] [Sub D] [LE D] [LT D] [DecidableEq D] [DecidableLE D] [DecidableLT D]
variable (env : Env D) (B : Backend D)

/-- A call served by a thread: its answer, and the bank after it. -/
def serve (bank : Bank D) (thread : ℕ) (c : Call D) : Except Exn (Reply D) × Bank D :=
  let (r, db, s) := exec (handle B) (c.prog env) (bank.db, bank.sessions thread)
  (r, { db, sessions := Function.update bank.sessions thread s })

/-- Calls one after another, each served by the thread it comes with. -/
def run (bank : Bank D) : List (ℕ × Call D) → Bank D
  | [] => bank
  | (thread, c) :: rest => (bank.serve env B thread c).2.run rest

end Bank

end UnionBank
