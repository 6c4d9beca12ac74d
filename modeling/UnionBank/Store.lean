import UnionBank.Entities

/-!
# The committed store

The tables behind the repositories and what one transaction makes of them.

- `Ledger`: accounts, transactions, loans and savings goals; `Db` adds the tables that hold no money;
- `Backend`: what a column keeps of a value, `Backend.Exact` where it keeps amounts as they are or refuses them;
- `Change`: a pending INSERT, UPDATE or DELETE; an UPDATE writes the columns in which `current` differs from `loaded`;
- `Change.apply` and `flush`, with the constraints of `persistence.py`, and what an applied change looks like
  (`apply_account_ok`, `apply_transaction_ok`, `apply_loan_ok`, `apply_goal_ok`, …).
-/

namespace UnionBank

open Keyed

/-- The exceptions a service call can meet. -/
inductive Exn where
  | valueError (message : String)
  | attributeError
  | integrityError
  | dataError
  | staleDataError
  | pendingRollbackError
  | operationalError
deriving DecidableEq, Repr

section Tables

variable (D : Type)

/-- The tables that hold money and its log. -/
structure Ledger where
  accounts : Table (Account.accountNumber (D := D))
  transactions : List (Transaction D)
  loans : Table (Loan.loanId (D := D))
  goals : Table (SavingsGoal.goalId (D := D))

/-- The committed tables. -/
structure Db extends Ledger D where
  idempotencyKeys : Table (IdempotencyRecord.idempotencyKey (D := D))
  tokenVersions : Table TokenVersion.accountNumber
  auditLog : List AuditEntry

/-- What the columns keep of a value: `numeric p x` is what a `Numeric(p, 2)` column stores for `x` (`none` when it is
out of range), `varchar n s` tells whether a `String(n)` column takes `s` (SQLite takes every text). -/
structure Backend where
  numeric : ℕ → D → Option D
  varchar : ℕ → String → Bool

/-- A row to insert. -/
inductive NewRow where
  | account (a : Account D)
  | transaction (t : Transaction D)
  | loan (l : Loan D)
  | goal (g : SavingsGoal D)
  | idempotencyKey (r : IdempotencyRecord D)
  | tokenVersion (v : TokenVersion)
  | auditEntry (e : AuditEntry)

/-- A pending statement of a session. -/
inductive Change where
  | insert (row : NewRow D)
  | account (loaded current : Account D)
  | loan (loaded current : Loan D)
  | goal (loaded current : SavingsGoal D)
  | deleteGoal (goalId : String)
  | tokenVersion (loaded current : TokenVersion)

end Tables

variable {D : Type}

/-- `filter_by(account_number=acc_no, deleted_at=None).first()`. -/
def Ledger.liveAccount? (db : Ledger D) (accNo : String) : Option (Account D) :=
  (db.accounts.find? accNo).filter fun a => a.deletedAt.isNone

theorem Ledger.liveAccount?_eq_some {db : Ledger D} {accNo : String} {a : Account D} :
    db.liveAccount? accNo = some a ↔ db.accounts.find? accNo = some a ∧ a.deletedAt = none := by
  simp [Ledger.liveAccount?, Option.filter_eq_some_iff]

/-- A live account is found under its own number. -/
theorem Ledger.accountNumber_of_live {db : Ledger D} {accNo : String} {a : Account D}
    (h : db.liveAccount? accNo = some a) : a.accountNumber = accNo :=
  Table.key_of_find? (Ledger.liveAccount?_eq_some.mp h).1

/-- A live account is stored under its number, and live under it. -/
theorem Ledger.find?_of_live {db : Ledger D} {accNo : String} {a : Account D} (h : db.liveAccount? accNo = some a) :
    db.accounts.find? a.accountNumber = some a := by
  rw [Ledger.accountNumber_of_live h]
  exact (Ledger.liveAccount?_eq_some.mp h).1

theorem Ledger.live_self {db : Ledger D} {accNo : String} {a : Account D} (h : db.liveAccount? accNo = some a) :
    db.liveAccount? a.accountNumber = some a := by
  rw [Ledger.accountNumber_of_live h]
  exact h

/-! ## Columns -/

/-- The texts of a row with the lengths of their columns. -/
def Account.texts (a : Account D) : List (ℕ × String) :=
  [(10, a.accountNumber), (100, a.name), (20, a.gender), (15, a.mobile), (100, a.email), (128, a.password)]

def Transaction.texts (t : Transaction D) : List (ℕ × String) :=
  [(20, t.txnId), (10, t.accountNumber), (200, t.description), (50, t.category), (10, t.targetAccount.getD "")]

def Loan.texts (l : Loan D) : List (ℕ × String) :=
  [(20, l.loanId), (10, l.accountNumber), (20, l.loanType), (500, l.purpose), (500, l.adminNotes)]

def SavingsGoal.texts (g : SavingsGoal D) : List (ℕ × String) :=
  [(20, g.goalId), (10, g.accountNumber), (100, g.name), (10, g.targetDate.getD "")]

def IdempotencyRecord.texts (r : IdempotencyRecord D) : List (ℕ × String) :=
  [(64, r.idempotencyKey), (10, r.accountNumber), (20, r.operation)]

/-- The texts an UPDATE writes. -/
def changedTexts (loaded current : List (ℕ × String)) : List (ℕ × String) :=
  (loaded.zip current).filterMap fun (x, y) => if y = x then none else some y

/-- An UPDATE that changes no text writes none. -/
theorem changedTexts_self (texts : List (ℕ × String)) : changedTexts texts texts = [] := by
  unfold changedTexts
  induction texts with
  | nil => rfl
  | cons text texts ih => simpa using ih

namespace Backend

variable (B : Backend D)

/-- Whether every column takes its text. -/
def fits (texts : List (ℕ × String)) : Bool := texts.all fun (n, s) => B.varchar n s

/-- What a `Numeric(p, 2)` column keeps. -/
def number (p : ℕ) (x : D) : Except Exn D :=
  match B.numeric p x with
  | some y => .ok y
  | none => .error .dataError

/-- What a `Numeric(14, 2)` column keeps. -/
def money (x : D) : Except Exn D := B.number 14 x

end Backend

/-- A column after an UPDATE: untouched when the session did not change it. -/
def column {α : Type} [DecidableEq α] (loaded current stored : α) : α := if current = loaded then stored else current

@[simp] theorem column_loaded {α : Type} [DecidableEq α] (loaded stored : α) :
    column loaded loaded stored = stored := if_pos rfl

@[simp] theorem column_stored {α : Type} [DecidableEq α] (loaded current : α) :
    column loaded current loaded = current := by
  unfold column
  split
  · exact Eq.symm ‹_›
  · rfl

/-- A `Numeric(p, 2)` column after an UPDATE. -/
def Backend.numberColumn [DecidableEq D] (B : Backend D) (p : ℕ) (loaded current stored : D) : Except Exn D :=
  if current = loaded then .ok stored else B.number p current

/-- A `Numeric(14, 2)` column after an UPDATE. -/
def Backend.moneyColumn [DecidableEq D] (B : Backend D) (loaded current stored : D) : Except Exn D :=
  B.numberColumn 14 loaded current stored

/-- The stored row after an UPDATE of the changed columns; `balance` is what the money column keeps. -/
def Account.merge (loaded current stored : Account D) (balance : D) : Account D where
  accountNumber := stored.accountNumber
  name := column loaded.name current.name stored.name
  age := column loaded.age current.age stored.age
  gender := column loaded.gender current.gender stored.gender
  mobile := column loaded.mobile current.mobile stored.mobile
  email := column loaded.email current.email stored.email
  password := column loaded.password current.password stored.password
  balance := balance
  isActive := column loaded.isActive current.isActive stored.isActive
  isFrozen := column loaded.isFrozen current.isFrozen stored.isFrozen
  createdAt := column loaded.createdAt current.createdAt stored.createdAt
  deletedAt := column loaded.deletedAt current.deletedAt stored.deletedAt

def Loan.merge (loaded current stored : Loan D) (principal rate emi paid remaining : D) : Loan D where
  loanId := stored.loanId
  accountNumber := column loaded.accountNumber current.accountNumber stored.accountNumber
  loanType := column loaded.loanType current.loanType stored.loanType
  principalAmount := principal
  interestRate := rate
  tenureMonths := column loaded.tenureMonths current.tenureMonths stored.tenureMonths
  emiAmount := emi
  amountPaid := paid
  remainingAmount := remaining
  status := column loaded.status current.status stored.status
  applicationDate := column loaded.applicationDate current.applicationDate stored.applicationDate
  approvalDate := column loaded.approvalDate current.approvalDate stored.approvalDate
  nextEmiDate := column loaded.nextEmiDate current.nextEmiDate stored.nextEmiDate
  purpose := column loaded.purpose current.purpose stored.purpose
  adminNotes := column loaded.adminNotes current.adminNotes stored.adminNotes

def SavingsGoal.merge (loaded current stored : SavingsGoal D) (target saved : D) : SavingsGoal D where
  goalId := stored.goalId
  accountNumber := column loaded.accountNumber current.accountNumber stored.accountNumber
  name := column loaded.name current.name stored.name
  targetAmount := target
  currentAmount := saved
  targetDate := column loaded.targetDate current.targetDate stored.targetDate
  createdAt := column loaded.createdAt current.createdAt stored.createdAt
  isCompleted := column loaded.isCompleted current.isCompleted stored.isCompleted

/-- An UPDATE of a row that nobody else changed gives the session's row. -/
theorem Account.merge_self {loaded current : Account D} (h : current.accountNumber = loaded.accountNumber) :
    loaded.merge current loaded current.balance = current := by
  cases current
  simp_all [Account.merge]

theorem Loan.merge_self {loaded current : Loan D} (h : current.loanId = loaded.loanId) :
    loaded.merge current loaded current.principalAmount current.interestRate current.emiAmount current.amountPaid
      current.remainingAmount = current := by
  cases current
  simp_all [Loan.merge]

theorem SavingsGoal.merge_self {loaded current : SavingsGoal D} (h : current.goalId = loaded.goalId) :
    loaded.merge current loaded current.targetAmount current.currentAmount = current := by
  cases current
  simp_all [SavingsGoal.merge]

/-! ## Steps of a statement -/

/-- `a`, where it is there. -/
def found {α : Type} (a : Option α) (e : Exn) : Except Exn α :=
  match a with
  | some a => .ok a
  | none => .error e

/-- A constraint. -/
def require (p : Prop) [Decidable p] (e : Exn) : Except Exn Unit := if p then .ok () else .error e

@[simp] theorem found_eq_ok {α : Type} {a : Option α} {e : Exn} {b : α} : found a e = .ok b ↔ a = some b := by
  cases a <;> simp [found]

@[simp] theorem require_eq_ok {p : Prop} [Decidable p] {e : Exn} {u : Unit} : require p e = .ok u ↔ p := by
  simp [require]

theorem bind_eq_ok {α β : Type} {x : Except Exn α} {f : α → Except Exn β} {b : β} :
    (x >>= f) = .ok b ↔ ∃ a, x = .ok a ∧ f a = .ok b := by
  cases x <;> simp [bind, Except.bind]

theorem pure_eq_ok {α : Type} {a b : α} : (pure a : Except Exn α) = .ok b ↔ b = a := by
  simp [pure, Except.pure, eq_comm]

namespace Db

/-- The store with other accounts. -/
def withAccounts (db : Db D) (accounts : Table (Account.accountNumber (D := D))) : Db D := { db with accounts }

def withLoans (db : Db D) (loans : Table (Loan.loanId (D := D))) : Db D := { db with loans }

def withGoals (db : Db D) (goals : Table (SavingsGoal.goalId (D := D))) : Db D := { db with goals }

/-- The store with one more row in the log. -/
def log (db : Db D) (t : Transaction D) : Db D := { db with transactions := db.transactions ++ [t] }

end Db

/-! ## Statements -/

section Statements

variable [Zero D] [LT D] [DecidableEq D] [DecidableLT D] (B : Backend D)

/-- INSERT, with the key, foreign key and CHECK constraints of the tables. -/
def NewRow.insert (db : Db D) : NewRow D → Except Exn (Db D)
  | .account a => do
    let balance ← B.money a.balance
    require (B.fits a.texts) .dataError
    require (¬balance < 0) .integrityError
    let accounts ← found (db.accounts.insert? { a with balance }) .integrityError
    return db.withAccounts accounts
  | .transaction t => do
    let amount ← B.money t.amount
    let balance ← B.money t.balance
    require (B.fits t.texts) .dataError
    require (db.accounts.find? t.accountNumber ≠ none) .integrityError
    require (t.txnId ∉ db.transactions.map Transaction.txnId) .integrityError
    return db.log { t with amount, balance }
  | .loan l => do
    let principalAmount ← B.money l.principalAmount
    let interestRate ← B.number 5 l.interestRate
    let emiAmount ← B.money l.emiAmount
    let amountPaid ← B.money l.amountPaid
    let remainingAmount ← B.money l.remainingAmount
    require (B.fits l.texts) .dataError
    require (db.accounts.find? l.accountNumber ≠ none) .integrityError
    let loans ← found (db.loans.insert?
      { l with principalAmount, interestRate, emiAmount, amountPaid, remainingAmount }) .integrityError
    return db.withLoans loans
  | .goal g => do
    let targetAmount ← B.money g.targetAmount
    let currentAmount ← B.money g.currentAmount
    require (B.fits g.texts) .dataError
    require (db.accounts.find? g.accountNumber ≠ none) .integrityError
    let goals ← found (db.goals.insert? { g with targetAmount, currentAmount }) .integrityError
    return db.withGoals goals
  | .idempotencyKey r => do
    let amount ← B.money r.amount
    require (B.fits r.texts) .dataError
    let idempotencyKeys ← found (db.idempotencyKeys.insert? { r with amount }) .integrityError
    return { db with idempotencyKeys }
  | .tokenVersion v => do
    let tokenVersions ← found (db.tokenVersions.insert? v) .integrityError
    return { db with tokenVersions }
  | .auditEntry e => return { db with auditLog := db.auditLog ++ [e] }

/-- One statement of a flush. An UPDATE of a row that is gone is a stale-data error; a DELETE of one is not. -/
def Change.apply (db : Db D) : Change D → Except Exn (Db D)
  | .insert row => row.insert B db
  | .account loaded current => do
    let stored ← found (db.accounts.find? loaded.accountNumber) .staleDataError
    let balance ← B.moneyColumn loaded.balance current.balance stored.balance
    require (B.fits (changedTexts loaded.texts current.texts)) .dataError
    require (¬balance < 0) .integrityError
    return db.withAccounts (db.accounts.set (loaded.merge current stored balance))
  | .loan loaded current => do
    let stored ← found (db.loans.find? loaded.loanId) .staleDataError
    let principal ← B.moneyColumn loaded.principalAmount current.principalAmount stored.principalAmount
    let rate ← B.numberColumn 5 loaded.interestRate current.interestRate stored.interestRate
    let emi ← B.moneyColumn loaded.emiAmount current.emiAmount stored.emiAmount
    let paid ← B.moneyColumn loaded.amountPaid current.amountPaid stored.amountPaid
    let remaining ← B.moneyColumn loaded.remainingAmount current.remainingAmount stored.remainingAmount
    require (B.fits (changedTexts loaded.texts current.texts)) .dataError
    return db.withLoans (db.loans.set (loaded.merge current stored principal rate emi paid remaining))
  | .goal loaded current => do
    let stored ← found (db.goals.find? loaded.goalId) .staleDataError
    let target ← B.moneyColumn loaded.targetAmount current.targetAmount stored.targetAmount
    let saved ← B.moneyColumn loaded.currentAmount current.currentAmount stored.currentAmount
    require (B.fits (changedTexts loaded.texts current.texts)) .dataError
    return db.withGoals (db.goals.set (loaded.merge current stored target saved))
  | .deleteGoal goalId => return db.withGoals (db.goals.erase goalId)
  | .tokenVersion loaded current => do
    let stored ← found (db.tokenVersions.find? loaded.accountNumber) .staleDataError
    return { db with
      tokenVersions := db.tokenVersions.set
        { stored with version := column loaded.version current.version stored.version } }

/-- The statements of a transaction, all or none of them. -/
def flush : List (Change D) → Db D → Except Exn (Db D)
  | [], db => .ok db
  | c :: cs, db => do flush cs (← c.apply B db)

@[simp] theorem flush_nil (db : Db D) : flush B [] db = .ok db := rfl

theorem flush_cons_ok {c : Change D} {cs : List (Change D)} {db db' : Db D} :
    flush B (c :: cs) db = .ok db' ↔ ∃ db₁, c.apply B db = .ok db₁ ∧ flush B cs db₁ = .ok db' := bind_eq_ok

theorem flush_append_ok {cs ds : List (Change D)} {db db' : Db D} :
    flush B (cs ++ ds) db = .ok db' ↔ ∃ db₁, flush B cs db = .ok db₁ ∧ flush B ds db₁ = .ok db' := by
  induction cs generalizing db with
  | nil => simp
  | cons c cs ih =>
    rw [List.cons_append, flush_cons_ok]
    simp only [ih, flush_cons_ok]
    constructor
    · rintro ⟨a, ha, b, hb, hd⟩
      exact ⟨b, ⟨a, ha, hb⟩, hd⟩
    · rintro ⟨b, ⟨a, ha, hb⟩, hd⟩
      exact ⟨a, ha, b, hb, hd⟩

section Short

variable {a b c d : Change D} {db db' : Db D}

theorem flush_one : flush B [a] db = .ok db' ↔ a.apply B db = .ok db' := by
  simp only [flush_cons_ok, flush_nil, Except.ok.injEq, exists_eq_right]

theorem flush_two : flush B [a, b] db = .ok db' ↔ ∃ db₁, a.apply B db = .ok db₁ ∧ b.apply B db₁ = .ok db' := by
  rw [flush_cons_ok]
  simp only [flush_one]

theorem flush_three : flush B [a, b, c] db = .ok db' ↔
    ∃ db₁, a.apply B db = .ok db₁ ∧ ∃ db₂, b.apply B db₁ = .ok db₂ ∧ c.apply B db₂ = .ok db' := by
  rw [flush_cons_ok]
  simp only [flush_two]

theorem flush_four : flush B [a, b, c, d] db = .ok db' ↔ ∃ db₁, a.apply B db = .ok db₁ ∧
    ∃ db₂, b.apply B db₁ = .ok db₂ ∧ ∃ db₃, c.apply B db₂ = .ok db₃ ∧ d.apply B db₃ = .ok db' := by
  rw [flush_cons_ok]
  simp only [flush_three]

end Short

/-! ## What an accepted statement has done -/

variable {B} {db db' : Db D}

theorem apply_account_ok {loaded current : Account D} :
    (Change.account loaded current).apply B db = .ok db' ↔
      ∃ stored, db.accounts.find? loaded.accountNumber = some stored ∧
        ∃ balance, B.moneyColumn loaded.balance current.balance stored.balance = .ok balance ∧
          B.fits (changedTexts loaded.texts current.texts) ∧ ¬balance < 0 ∧
          db' = db.withAccounts (db.accounts.set (loaded.merge current stored balance)) := by
  simp only [Change.apply, bind_eq_ok, found_eq_ok, require_eq_ok, pure_eq_ok, exists_and_left, exists_const]

theorem apply_loan_ok {loaded current : Loan D} :
    (Change.loan loaded current).apply B db = .ok db' ↔
      ∃ stored, db.loans.find? loaded.loanId = some stored ∧
        ∃ principal, B.moneyColumn loaded.principalAmount current.principalAmount stored.principalAmount = .ok principal ∧
        ∃ rate, B.numberColumn 5 loaded.interestRate current.interestRate stored.interestRate = .ok rate ∧
        ∃ emi, B.moneyColumn loaded.emiAmount current.emiAmount stored.emiAmount = .ok emi ∧
        ∃ paid, B.moneyColumn loaded.amountPaid current.amountPaid stored.amountPaid = .ok paid ∧
        ∃ remaining, B.moneyColumn loaded.remainingAmount current.remainingAmount stored.remainingAmount = .ok remaining ∧
          B.fits (changedTexts loaded.texts current.texts) ∧
          db' = db.withLoans (db.loans.set (loaded.merge current stored principal rate emi paid remaining)) := by
  simp only [Change.apply, bind_eq_ok, found_eq_ok, require_eq_ok, pure_eq_ok, exists_and_left, exists_const]

theorem apply_goal_ok {loaded current : SavingsGoal D} :
    (Change.goal loaded current).apply B db = .ok db' ↔
      ∃ stored, db.goals.find? loaded.goalId = some stored ∧
        ∃ target, B.moneyColumn loaded.targetAmount current.targetAmount stored.targetAmount = .ok target ∧
        ∃ saved, B.moneyColumn loaded.currentAmount current.currentAmount stored.currentAmount = .ok saved ∧
          B.fits (changedTexts loaded.texts current.texts) ∧
          db' = db.withGoals (db.goals.set (loaded.merge current stored target saved)) := by
  simp only [Change.apply, bind_eq_ok, found_eq_ok, require_eq_ok, pure_eq_ok, exists_and_left, exists_const]

theorem apply_deleteGoal_ok {goalId : String} :
    (Change.deleteGoal goalId).apply B db = .ok db' ↔ db' = db.withGoals (db.goals.erase goalId) := pure_eq_ok

theorem apply_insertTransaction_ok {t : Transaction D} :
    (Change.insert (.transaction t)).apply B db = .ok db' ↔
      ∃ amount, B.money t.amount = .ok amount ∧ ∃ balance, B.money t.balance = .ok balance ∧ B.fits t.texts ∧
        db.accounts.find? t.accountNumber ≠ none ∧ t.txnId ∉ db.transactions.map Transaction.txnId ∧
        db' = db.log { t with amount, balance } := by
  simp only [Change.apply, NewRow.insert, bind_eq_ok, require_eq_ok, pure_eq_ok, exists_and_left, exists_const]

theorem apply_insertGoal_ok {g : SavingsGoal D} :
    (Change.insert (.goal g)).apply B db = .ok db' ↔
      ∃ target, B.money g.targetAmount = .ok target ∧ ∃ saved, B.money g.currentAmount = .ok saved ∧
        B.fits g.texts ∧ db.accounts.find? g.accountNumber ≠ none ∧
        ∃ goals, db.goals.insert? { g with targetAmount := target, currentAmount := saved } = some goals ∧
          db' = db.withGoals goals := by
  simp only [Change.apply, NewRow.insert, bind_eq_ok, found_eq_ok, require_eq_ok, pure_eq_ok, exists_and_left,
    exists_const]

theorem apply_insertLoan_ok {l : Loan D} :
    (Change.insert (.loan l)).apply B db = .ok db' ↔
      ∃ principal, B.money l.principalAmount = .ok principal ∧ ∃ rate, B.number 5 l.interestRate = .ok rate ∧
        ∃ emi, B.money l.emiAmount = .ok emi ∧ ∃ paid, B.money l.amountPaid = .ok paid ∧
        ∃ remaining, B.money l.remainingAmount = .ok remaining ∧ B.fits l.texts ∧
        db.accounts.find? l.accountNumber ≠ none ∧
        ∃ loans, db.loans.insert?
          { l with
            principalAmount := principal, interestRate := rate, emiAmount := emi, amountPaid := paid,
            remainingAmount := remaining } = some loans ∧ db' = db.withLoans loans := by
  simp only [Change.apply, NewRow.insert, bind_eq_ok, found_eq_ok, require_eq_ok, pure_eq_ok, exists_and_left,
    exists_const]

/-! ## Statements about no money -/

/-- A statement on the tables beside the ledger. -/
def Change.isSupport : Change D → Bool
  | .insert (.idempotencyKey _) | .insert (.tokenVersion _) | .insert (.auditEntry _) | .tokenVersion .. => true
  | _ => false

/-- Such a statement leaves the ledger alone. -/
theorem apply_support {c : Change D} (hc : c.isSupport = true) (h : c.apply B db = .ok db') :
    db'.toLedger = db.toLedger := by
  rcases c with (_ | _ | _ | _ | _ | _ | _) | _ | _ | _ | _ | _
  all_goals first
    | exact Bool.noConfusion hc
    | simp only [Change.apply, NewRow.insert, bind_eq_ok, require_eq_ok, found_eq_ok, pure_eq_ok] at h
  · obtain ⟨_, _, _, _, _, _, rfl⟩ := h
    rfl
  · obtain ⟨_, _, rfl⟩ := h
    rfl
  · rw [h]
  · obtain ⟨_, _, rfl⟩ := h
    rfl

theorem flush_support {cs : List (Change D)} (hc : ∀ c ∈ cs, c.isSupport = true) (h : flush B cs db = .ok db') :
    db'.toLedger = db.toLedger := by
  induction cs generalizing db with
  | nil => cases h; rfl
  | cons c cs ih =>
    obtain ⟨db₁, h₁, h₂⟩ := (flush_cons_ok B).mp h
    rw [ih (fun c hm => hc c (List.mem_cons_of_mem _ hm)) h₂, apply_support (hc c List.mem_cons_self) h₁]

end Statements

/-! ## Exact columns -/

namespace Backend

variable [AddGroup D] {B : Backend D} {cents : AddSubgroup D} {x y : D}

/-- The columns keep the amounts in `cents` as they are, or refuse them. -/
def Exact (B : Backend D) (cents : AddSubgroup D) : Prop :=
  ∀ (p : ℕ) (x y : D), x ∈ cents → B.numeric p x = some y → y = x

theorem Exact.money_eq (hB : B.Exact cents) (hx : x ∈ cents) (h : B.money x = .ok y) : y = x := by
  unfold Backend.money Backend.number at h
  split at h
  · rename_i hn
    cases h
    exact hB _ _ _ hx hn
  · cases h

theorem Exact.moneyColumn_eq [DecidableEq D] (hB : B.Exact cents) {loaded current stored : D} (hc : current ∈ cents)
    (h : B.moneyColumn loaded current stored = .ok y) : y = column loaded current stored := by
  unfold Backend.moneyColumn Backend.numberColumn at h
  unfold column
  split at h
  · rename_i hs
    cases h
    rw [if_pos hs]
  · rename_i hs
    rw [if_neg hs, hB.money_eq hc h]

/-- What a money column holds after an UPDATE is exact when both what it held and what was written were. -/
theorem Exact.moneyColumn_mem [DecidableEq D] (hB : B.Exact cents) {loaded current stored : D} (hc : current ∈ cents)
    (hs : stored ∈ cents) (h : B.moneyColumn loaded current stored = .ok y) : y ∈ cents := by
  rw [hB.moneyColumn_eq hc h, column]
  split
  · exact hs
  · exact hc

end Backend

end UnionBank
