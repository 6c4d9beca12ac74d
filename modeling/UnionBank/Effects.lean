import UnionBank.Requests

/-!
# What a call does to the ledger

- `Posts`: for every request, the guards it passed and the changes its commit writes;
- `Settled`: a call ends with the ledger it found, or with exactly those changes and a success;
- the rules for the parts that services share: stored keys and audit entries leave the ledger alone.
-/

namespace UnionBank

open Keyed Programs Prog

set_option linter.unusedSectionVars false

variable {D : Type}

/-! ## Reads of a session -/

section Reads

variable {db : Db D} {i : Bool} {sp : Option ℕ} {held : List String}

@[simp] theorem Session.account?_nil (accNo : String) :
    (⟨[], i, sp, held⟩ : Session D).account? db accNo = db.liveAccount? accNo := Option.map_id'

@[simp] theorem Session.loan?_nil (loanId : String) :
    (⟨[], i, sp, held⟩ : Session D).loan? db loanId = db.loans.find? loanId := Option.map_id'

@[simp] theorem Session.goal?_nil (goalId : String) :
    (⟨[], i, sp, held⟩ : Session D).goal? db goalId = db.goals.find? goalId := Option.map_id'

@[simp] theorem Session.tokenVersion?_nil (accNo : String) :
    (⟨[], i, sp, held⟩ : Session D).tokenVersion? db accNo = db.tokenVersions.find? accNo := Option.map_id'

/-- Whether a change is about the row of an account. -/
def Change.onAccount (accNo : String) : Change D → Bool
  | .account _ current => current.accountNumber = accNo
  | _ => false

/-- An account that no pending change is about is read as it is stored. -/
theorem Session.account?_eq_live {s : Session D} {accNo : String}
    (h : ∀ c ∈ s.pending, c.onAccount accNo = false) : s.account? db accNo = db.liveAccount? accNo := by
  unfold Session.account?
  cases live : db.liveAccount? accNo with
  | none => rfl
  | some row =>
    have hn := Ledger.accountNumber_of_live live
    rw [Option.map_some, Session.ownAccount]
    congr 1
    generalize s.pending = p at h
    induction p with
    | nil => rfl
    | cons c p ih =>
      rw [List.foldl_cons]
      have hc := h c List.mem_cons_self
      cases c with
      | account loaded current =>
        have : ¬current.accountNumber = row.accountNumber := by simpa [Change.onAccount, hn] using hc
        simp only [this, if_false]
        exact ih fun c hm => h c (List.mem_cons_of_mem _ hm)
      | _ => exact ih fun c hm => h c (List.mem_cons_of_mem _ hm)

end Reads

variable [Zero D] [Add D] [Sub D] [LE D] [LT D] [DecidableLE D] [DecidableLT D]

/-! ## Postings -/

section Postings

variable (env : Env D) (draws : Draws) (db : Db D)

/-- The changes a request commits, with what it has checked. -/
inductive Posts : Request D → List (Change D) → Prop
  | deposit {accNo category : String} {amount : D} {key : Option String} {account : Account D}
      (positive : ¬amount ≤ 0) (live : db.liveAccount? accNo = some account) (can : account.canTransact = true) :
      Posts (.deposit accNo amount category key)
        [.account account (account.withBalance (account.balance + amount)),
          .insert (.transaction ⟨draws.txnId, accNo, .deposit, amount, account.balance + amount, "Deposit",
            knownCategory category, none, draws.now⟩)]
  | withdraw {accNo category : String} {amount : D} {key : Option String} {account : Account D}
      (positive : ¬amount ≤ 0) (live : db.liveAccount? accNo = some account) (can : account.canTransact = true)
      (covered : ¬account.balance < amount) :
      Posts (.withdraw accNo amount category key)
        [.account account (account.withBalance (account.balance - amount)),
          .insert (.transaction ⟨draws.txnId, accNo, .withdraw, amount, account.balance - amount, "Withdrawal",
            knownCategory category, none, draws.now⟩)]
  | transfer {senderAccNo receiverAccNo category : String} {amount : D} {key : Option String}
      {sender receiver : Account D} (positive : ¬amount ≤ 0) (distinct : senderAccNo ≠ receiverAccNo)
      (liveSender : db.liveAccount? senderAccNo = some sender)
      (liveReceiver : db.liveAccount? receiverAccNo = some receiver) (canSender : sender.canTransact = true)
      (canReceiver : receiver.canTransact = true) (covered : ¬sender.balance < amount) :
      Posts (.transfer senderAccNo receiverAccNo amount category key)
        [.account sender (sender.withBalance (sender.balance - amount)),
          .account receiver (receiver.withBalance (receiver.balance + amount)),
          .insert (.transaction ⟨draws.txnId, senderAccNo, .transferOut, amount, sender.balance - amount,
            s!"Transfer to {receiverAccNo}", knownCategory category, some receiverAccNo, draws.now⟩),
          .insert (.transaction ⟨draws.txnId', receiverAccNo, .transferIn, amount, receiver.balance + amount,
            s!"Transfer from {senderAccNo}", knownCategory category, some senderAccNo, draws.now⟩)]
  | applyInterest {accNo : String} {account : Account D} (live : db.liveAccount? accNo = some account)
      (can : account.canTransact = true) (positive : ¬env.calculateMonthlyInterest account.balance ≤ 0) :
      Posts (.applyInterest accNo)
        [.account account (account.withBalance (account.balance + env.calculateMonthlyInterest account.balance)),
          .insert (.transaction ⟨draws.txnId, accNo, .interest, env.calculateMonthlyInterest account.balance,
            account.balance + env.calculateMonthlyInterest account.balance, "Monthly interest credit", "Savings",
            none, draws.now⟩)]
  | applyLoan {accNo loanType purpose : String} {principal rate : D} {tenure : Int} {account : Account D}
      (live : db.liveAccount? accNo = some account) (can : account.canTransact = true) (known : loanType ∈ loanTypes)
      (least : ¬principal < env.ofCents 100000) (most : ¬env.ofCents 1000000000 < principal)
      (tenureOk : ¬(tenure < 1 ∨ (loanProduct loanType).maxTenure < tenure))
      (rateOk : ¬(rate < env.ofCents (loanProduct loanType).minRate ∨
        env.ofCents (loanProduct loanType).maxRate < rate)) :
      Posts (.applyLoan accNo loanType principal rate tenure purpose)
        [.insert (.loan ⟨draws.loanId, accNo, loanType, principal, rate, tenure,
          env.calculateEmi principal rate tenure, 0, principal, .pending, draws.now, none, none, purpose, ""⟩)]
  | approveLoan {loanId adminUser : String} {loan : Loan D} {account : Account D}
      (found : db.loans.find? loanId = some loan) (pending : loan.status = .pending)
      (live : db.liveAccount? loan.accountNumber = some account) (can : account.canTransact = true) :
      Posts (.approveLoan loanId adminUser)
        [.loan loan (LoanService.approved loan draws.now),
          .account account (account.withBalance (account.balance + loan.principalAmount)),
          .insert (.transaction ⟨draws.txnId, loan.accountNumber, .loanDisbursement, loan.principalAmount,
            account.balance + loan.principalAmount, s!"{loan.loanType} loan disbursement ({loan.loanId})", "Loan",
            none, draws.now⟩)]
  | rejectLoan {loanId reason adminUser : String} {loan : Loan D} (found : db.loans.find? loanId = some loan)
      (pending : loan.status = .pending) :
      Posts (.rejectLoan loanId reason adminUser) [.loan loan (LoanService.rejected loan reason)]
  | payEmi {accNo loanId : String} {amount : Option D} {loan : Loan D} {account : Account D} {payment actual : D}
      (found : db.loans.find? loanId = some loan) (running : ¬(loan.status ≠ .approved ∧ loan.status ≠ .active))
      (owner : loan.accountNumber = accNo) (live : db.liveAccount? accNo = some account)
      (can : account.canTransact = true) (asked : payment = amount.getD loan.emiAmount) (positive : ¬payment ≤ 0)
      (covered : ¬account.balance < payment)
      (least : actual = if loan.remainingAmount < payment then loan.remainingAmount else payment) :
      Posts (.payEmi accNo loanId amount)
        [.account account (account.withBalance (account.balance - actual)),
          .loan loan (LoanService.paid loan actual draws.now),
          .insert (.transaction ⟨draws.txnId, accNo, .loanRepayment, actual, account.balance - actual,
            s!"EMI payment for {loan.loanType} loan ({loan.loanId})", "Loan", none, draws.now⟩)]
  | createGoal {accNo name : String} {target : D} {targetDate : Option String} (named : ¬name.length < 2)
      (positive : ¬target ≤ 0) :
      Posts (.createGoal accNo name target targetDate)
        [.insert (.goal ⟨draws.goalId, accNo, name, target, 0, targetDate, draws.now, false⟩)]
  | contribute {accNo goalId : String} {amount : D} {account : Account D} {goal : SavingsGoal D}
      (positive : ¬amount ≤ 0) (live : db.liveAccount? accNo = some account) (covered : ¬account.balance < amount)
      (found : db.goals.find? goalId = some goal) :
      Posts (.contribute accNo goalId amount)
        [.account account (account.withBalance (account.balance - amount)),
          .insert (.transaction ⟨draws.txnId, accNo, .transferOut, amount, account.balance - amount,
            s!"Savings goal: {goal.name}", "Savings", none, draws.now⟩),
          .goal goal (Query.contributed goal amount)]
  | refundGoal {accNo goalId : String} {goal : SavingsGoal D} {account : Account D}
      (found : db.goals.find? goalId = some goal) (positive : 0 < goal.currentAmount)
      (live : db.liveAccount? accNo = some account) :
      Posts (.deleteGoal accNo goalId)
        [.deleteGoal goal.goalId, .account account (account.withBalance (account.balance + goal.currentAmount))]
  | deleteGoal {accNo goalId : String} {goal : SavingsGoal D} (found : db.goals.find? goalId = some goal)
      (nothing : ¬0 < goal.currentAmount ∨ db.liveAccount? accNo = none) :
      Posts (.deleteGoal accNo goalId) [.deleteGoal goal.goalId]
  | freezeAccount {accNo actor : String} {reason : Option String} {account : Account D}
      (live : db.liveAccount? accNo = some account) (closed : ¬(!account.isActive && !account.isFrozen) = true)
      (thawed : ¬account.isFrozen = true) :
      Posts (.freezeAccount accNo actor reason)
        [.account account { account with isFrozen := true },
          .account { account with isFrozen := true } { account with isFrozen := true, isActive := false }]
  | unfreezeAccount {accNo actor : String} {reason : Option String} {account : Account D}
      (live : db.liveAccount? accNo = some account) (frozen : account.isFrozen = true) :
      Posts (.unfreezeAccount accNo actor reason) [.account account { account with isFrozen := false }]
  | deleteAccount {accNo actor : String} {reason : Option String} {account : Account D}
      (live : db.liveAccount? accNo = some account) :
      Posts (.deleteAccount accNo actor reason)
        [.account account { account with deletedAt := some draws.now, isActive := false }]
  | updateProfile {accNo : String} {kwargs : List (AccountService.AccountField D)} {account account' : Account D}
      (live : db.liveAccount? accNo = some account)
      (assigned : kwargs.foldlM AccountService.AccountField.assign account = .ok account') :
      Posts (.updateProfile accNo kwargs) (Query.staged db {} (.updateAccount account'))
  | changePassword {accNo currentPwd newPwd : String} {account : Account D} {versions : Change D}
      (live : db.liveAccount? accNo = some account)
      (verified : env.verifyPassword currentPwd account.password = true) (support : versions.isSupport = true) :
      Posts (.changePassword accNo currentPwd newPwd)
        [.account account { account with password := env.hashPassword newPwd }, versions]
  | closeAccount {accNo password : String} {account : Account D} (live : db.liveAccount? accNo = some account)
      (verified : env.verifyPassword password account.password = true) :
      Posts (.closeAccount accNo password) [.account account { account with isActive := false }]

end Postings

/-- A session between two calls: it holds no lock, and it is inactive or has nothing pending. -/
structure Session.Idle (s : Session D) : Prop where
  held : s.held = []
  clean : s.inactive = false → s.pending = [] ∧ s.savepoint = none

variable [DecidableEq D]

/-- How a call ends. -/
inductive Settled (env : Env D) (B : Backend D) (c : Call D) (db : Db D) :
    Except Exn (Reply D) → Db D × Session D → Prop
  | unmoved {r : Except Exn (Reply D)} {db' : Db D} {s' : Session D} (ledger : db'.toLedger = db.toLedger)
      (idle : s'.Idle) : Settled env B c db r (db', s')
  | moved {reply : Reply D} {db₁ db' : Db D} {s' : Session D} {cs : List (Change D)}
      (posts : Posts env c.draws db c.request cs) (flushed : flush B cs db = .ok db₁)
      (ledger : db'.toLedger = db₁.toLedger) (idle : s'.Idle) (success : reply.success = true) :
      Settled env B c db (.ok reply) (db', s')

/-! ## Rules for the parts of the services -/

section Parts

variable (env : Env D) (B : Backend D) {db : Db D} {p : List (Change D)} {sp : Option ℕ} {held : List String}

/-- Updating an account that was read before. -/
theorem staged_updateAccount {s : Session D} {accNo : String} {account : Account D} (account' : Account D)
    (live : db.liveAccount? accNo = some account) (h : ∀ c ∈ s.pending, c.onAccount accNo = false)
    (hn : account'.accountNumber = account.accountNumber) (hc : account'.createdAt = account.createdAt) :
    Query.staged db s (.updateAccount account') = [.account account account'] := by
  have hs : s.account? db account'.accountNumber = some account := by
    rw [hn, Ledger.accountNumber_of_live live, Session.account?_eq_live h, live]
  simp only [Query.staged, hs]
  rw [← hc]

theorem staged_withBalance {s : Session D} {accNo : String} {account : Account D} {balance : D}
    (live : db.liveAccount? accNo = some account) (h : ∀ c ∈ s.pending, c.onAccount accNo = false) :
    Query.staged db s (.updateAccount (account.withBalance balance)) =
      [.account account (account.withBalance balance)] :=
  staged_updateAccount _ live h rfl rfl

/-- Updating a loan that the session reads. -/
theorem staged_updateLoan {s : Session D} (loan loan' : Loan D) (hs : s.loan? db loan'.loanId = some loan)
    (ha : loan'.accountNumber = loan.accountNumber) (hd : loan'.applicationDate = loan.applicationDate) :
    Query.staged db s (.updateLoan loan') = [.loan loan loan'] := by
  simp only [Query.staged, hs]
  rw [← ha, ← hd]

theorem staged_contributeGoal {s : Session D} {goalId : String} {goal : SavingsGoal D} {amount : D}
    (hs : s.goal? db goalId = some goal) :
    Query.staged db s (.contributeGoal goalId amount) = [.goal goal (Query.contributed goal amount)] := by
  simp only [Query.staged, hs]

theorem staged_deleteGoal {s : Session D} {goalId : String} {goal : SavingsGoal D}
    (hs : s.goal? db goalId = some goal) : Query.staged db s (.deleteGoal goalId) = [.deleteGoal goal.goalId] := by
  simp only [Query.staged, hs]

/-- A new token version is no money. -/
theorem staged_incrementTokenVersion (db : Db D) (s : Session D) (accNo : String) :
    ∃ c, c.isSupport = true ∧ Query.staged db s (.incrementTokenVersion accNo) = [c] := by
  simp only [Query.staged]
  split
  · exact ⟨_, rfl, rfl⟩
  · exact ⟨_, rfl, rfl⟩

theorem wp_checkIdempotency {key : Option String}
    {Q : Except Exn (Option (ServiceResult D)) → Db D × Session D → Prop}
    (h : ∀ cached, Q (.ok cached) (db, ⟨p, false, sp, held⟩)) :
    wp (runs B) (TransactionService.checkIdempotency key) Q (db, ⟨p, false, sp, held⟩) := by
  unfold TransactionService.checkIdempotency
  cases TransactionService.givenKey key with
  | none => exact h none
  | some k =>
    simp only [wp_bind, wp_idempotencyRepo_get, andThen_ok]
    cases db.idempotencyKeys.find? k with
    | none => exact h none
    | some existing =>
      cases hj : existing.resultJson with
      | none => simpa [hj] using h _
      | some data => simpa [hj] using h _

theorem wp_cachedTransfer {key : Option String}
    {Q : Except Exn (Option (TransferResult D)) → Db D × Session D → Prop}
    (h : ∀ cached, Q (.ok cached) (db, ⟨p, false, sp, held⟩)) :
    wp (runs B) (TransactionService.cachedTransfer key) Q (db, ⟨p, false, sp, held⟩) := by
  unfold TransactionService.cachedTransfer
  cases TransactionService.givenKey key with
  | none => exact h none
  | some k =>
    simp only [wp_bind, wp_idempotencyRepo_get, andThen_ok]
    cases db.idempotencyKeys.find? k with
    | none => exact h none
    | some existing =>
      cases hj : existing.resultJson with
      | none => simpa [hj] using h _
      | some data => simpa [hj] using h _

/-- Storing a key leaves the ledger alone, and a clean session, whether or not it succeeds. -/
theorem wp_storeKey {record : IdempotencyRecord D} {Q : Except Exn Unit → Db D × Session D → Prop}
    (h : ∀ db', db'.toLedger = db.toLedger → Q (.ok ()) (db', {})) :
    wp (runs B) (tryCatch (do idempotencyRepo.create record; idempotencyRepo.commit) fun _ => idempotencyRepo.rollback)
      Q (db, {}) := by
  rw [wp_tryCatch, wp_bind]
  simp only [wp_idempotencyRepo_create, List.nil_append, andThen_ok]
  refine wp_commit B _ (fun db' hf => ?_) fun e _ => ?_
  · exact h db' (flush_support (by simp [Change.isSupport]) hf)
  · exact h db rfl

theorem wp_storeIdempotency {key : Option String} {accNo operation : String} {amount : D} {result : ServiceResult D}
    {balance : D} {Q : Except Exn Unit → Db D × Session D → Prop}
    (h : ∀ db', db'.toLedger = db.toLedger → Q (.ok ()) (db', {})) :
    wp (runs B) (TransactionService.storeIdempotency key accNo operation amount result balance) Q (db, {}) := by
  unfold TransactionService.storeIdempotency
  cases TransactionService.givenKey key with
  | none => exact h db rfl
  | some k => exact wp_storeKey B h

theorem wp_storeTransferIdempotency {key : Option String} {accNo : String} {amount : D} {result : TransferResult D}
    {Q : Except Exn Unit → Db D × Session D → Prop} (h : ∀ db', db'.toLedger = db.toLedger → Q (.ok ()) (db', {})) :
    wp (runs B) (TransactionService.storeTransferIdempotency env key accNo amount result) Q (db, {}) := by
  unfold TransactionService.storeTransferIdempotency
  cases TransactionService.givenKey key with
  | none => exact h db rfl
  | some k => exact wp_storeKey B h

/-- An audit entry leaves the ledger alone. -/
theorem wp_auditLog {actor action : String} {target details reason : Option String} {now : Time}
    {Q : Except Exn Unit → Db D × Session D → Prop} (h : ∀ db', db'.toLedger = db.toLedger → Q (.ok ()) (db', {})) :
    wp (runs B) (do auditLogRepo.log actor action target details reason now; auditLogRepo.commit) Q (db, {}) := by
  simp only [wp_bind, wp_auditLogRepo_log, List.nil_append, andThen_ok]
  refine wp_commit B _ (fun db' hf => ?_) fun e he => ?_
  · exact h db' (flush_support (by simp [Change.isSupport]) hf)
  · cases he

end Parts

theorem Session.idle_nil {i : Bool} : (⟨[], i, none, []⟩ : Session D).Idle := ⟨rfl, fun _ => ⟨rfl, rfl⟩⟩

end UnionBank
