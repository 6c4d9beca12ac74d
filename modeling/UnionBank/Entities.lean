import UnionBank.Lib.Table

/-!
# Entities of the bank

The rows of the bank and the values the services return. Amounts of money are of any type `D` with the operations
the code uses on `Decimal`; account numbers, ids and idempotency keys are strings, instants are microseconds.

- `Account`, `Transaction`, `Loan`, `SavingsGoal`, `IdempotencyRecord`, as in `domain/entities.py`;
- `ServiceResult`, `TransferResult`;
- `Env`: what the code takes from outside the store (settings, float formulas, password hashing);
- `Draws`: the clock and the random ids of one call.
-/

namespace UnionBank

/-- An instant, in microseconds. -/
abbrev Time := ℕ

/-- `timedelta(days=30)`. -/
def days30 : Time := 30 * 24 * 60 * 60 * 1000000

inductive TransactionType where
  | deposit
  | withdraw
  | transferOut
  | transferIn
  | interest
  | loanDisbursement
  | loanRepayment
deriving DecidableEq, Repr

inductive LoanStatus where
  | pending
  | approved
  | active
  | closed
  | rejected
deriving DecidableEq, Repr

/-- `loan.status.lower()`. -/
def LoanStatus.lower : LoanStatus → String
  | .pending => "pending"
  | .approved => "approved"
  | .active => "active"
  | .closed => "closed"
  | .rejected => "rejected"

/-- Customer account: the source of truth for balances and status. -/
structure Account (D : Type) where
  accountNumber : String
  name : String
  age : Int
  gender : String
  mobile : String
  email : String
  password : String
  balance : D
  isActive : Bool
  isFrozen : Bool
  createdAt : Time
  deletedAt : Option Time
deriving DecidableEq, Repr

/-- Neither frozen nor closed. -/
def Account.canTransact {D : Type} (a : Account D) : Bool := a.isActive && !a.isFrozen

/-- The account with another balance. -/
def Account.withBalance {D : Type} (a : Account D) (balance : D) : Account D := { a with balance }

/-- A row of the log of all account activity. -/
structure Transaction (D : Type) where
  txnId : String
  accountNumber : String
  type : TransactionType
  amount : D
  balance : D
  description : String
  category : String
  targetAccount : Option String
  timestamp : Time
deriving DecidableEq, Repr

structure Loan (D : Type) where
  loanId : String
  accountNumber : String
  loanType : String
  principalAmount : D
  interestRate : D
  tenureMonths : Int
  emiAmount : D
  amountPaid : D
  remainingAmount : D
  status : LoanStatus
  applicationDate : Time
  approvalDate : Option Time
  nextEmiDate : Option Time
  purpose : String
  adminNotes : String
deriving DecidableEq, Repr

structure SavingsGoal (D : Type) where
  goalId : String
  accountNumber : String
  name : String
  targetAmount : D
  currentAmount : D
  targetDate : Option String
  createdAt : Time
  isCompleted : Bool
deriving DecidableEq, Repr

/-- What `json.loads` makes of a stored result: its keys, where they are present. -/
structure CachedResult (D : Type) where
  success : Option Bool
  message : Option String
  balance : Option D
  senderBalance : Option D
  receiverBalance : Option D
  errorMessage : Option String
deriving DecidableEq, Repr

/-- Idempotency key of a money movement; `resultJson` is `none` for a text that does not parse. -/
structure IdempotencyRecord (D : Type) where
  idempotencyKey : String
  accountNumber : String
  operation : String
  resultJson : Option (CachedResult D)
  amount : D
deriving DecidableEq, Repr

/-- Row of the audit log. -/
structure AuditEntry where
  actor : String
  action : String
  target : Option String
  details : Option String
  reason : Option String
  timestamp : Time
deriving DecidableEq, Repr

/-- Counter that invalidates the tokens issued before a password change. -/
structure TokenVersion where
  accountNumber : String
  version : ℕ
deriving DecidableEq, Repr

/-- The values a service puts under the names of `ServiceResult.data`. -/
inductive Datum (D : Type) where
  | number (d : D)
  | flag (b : Bool)
  | text (s : String)
deriving DecidableEq, Repr

structure ServiceResult (D : Type) where
  success : Bool
  message : String := ""
  data : Option (List (String × Datum D)) := none
deriving DecidableEq, Repr

/-- The outcome of a refused request. -/
def refused {D : Type} (message : String) : ServiceResult D := { success := false, message }

structure TransferResult (D : Type) where
  success : Bool
  senderBalance : D
  receiverBalance : D
  errorMessage : String := ""
deriving DecidableEq, Repr

/-- What the code takes from outside the store. `fmtCurrency`, `calculateMonthlyInterest` and `calculateEmi` are
formulas over floats, applied to `float(x)` and read back by `Decimal(str(y))`; `float` is that round trip alone. -/
structure Env (D : Type) where
  ofCents : ℤ → D
  float : D → D
  fmtCurrency : D → String
  calculateMonthlyInterest : D → D
  calculateEmi : D → D → Int → D
  verifyPassword : String → String → Bool
  hashPassword : String → String

/-- The random ids and the clock of one call. -/
structure Draws where
  txnId : String
  txnId' : String
  loanId : String
  goalId : String
  now : Time
deriving DecidableEq, Repr

/-- `settings.TRANSACTION_CATEGORIES`. -/
def transactionCategories : List String :=
  ["General", "Food & Dining", "Transport", "Shopping", "Bills & Utilities", "Entertainment", "Health", "Education",
    "Salary", "Savings", "Investment", "Rent", "Other"]

/-- `category if category in TRANSACTION_CATEGORIES else "General"`. -/
def knownCategory (category : String) : String :=
  if category ∈ transactionCategories then category else "General"

/-- The limits of a loan product: the rates are in hundredths of a percent. -/
structure LoanProduct where
  maxRate : ℤ
  minRate : ℤ
  maxTenure : Int

/-- `LOAN_PRODUCTS`, by loan type. -/
def loanProducts : List (String × LoanProduct) :=
  [("Personal", ⟨1500, 1000, 60⟩), ("Home", ⟨1000, 700, 360⟩), ("Vehicle", ⟨1200, 800, 84⟩),
    ("Education", ⟨1100, 750, 120⟩), ("Business", ⟨1800, 1200, 120⟩)]

/-- `LOAN_TYPES`. -/
def loanTypes : List String := loanProducts.map Prod.fst

/-- `LOAN_PRODUCTS.get(loan_type, {})`, with the defaults of its three limits. -/
def loanProduct (loanType : String) : LoanProduct := (loanProducts.lookup loanType).getD ⟨2000, 500, 60⟩

/-- A rate as Python prints it: the products have one decimal. -/
def rateText (rate : ℤ) : String := s!"{rate / 100}.{rate % 100 / 10}"

end UnionBank
