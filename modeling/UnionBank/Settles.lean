import UnionBank.Effects

/-!
# Every call settles

On a live session with nothing pending, every service call ends with the ledger it found or with the changes of its
posting (`settles`): one lemma for each service method, by running it symbolically.
-/

namespace UnionBank

open Keyed Programs Prog

set_option linter.unusedSectionVars false

variable {D : Type} [Zero D] [Add D] [Sub D] [LE D] [LT D] [DecidableEq D] [DecidableLE D] [DecidableLT D]
variable (env : Env D) (B : Backend D) (draws : Draws) (db : Db D)

/-- A call that ends before it has staged anything. -/
theorem Settled.same {c : Call D} {i : Bool} (r : Except Exn (Reply D)) :
    Settled env B c db r (db, ⟨[], i, none, []⟩) := .unmoved rfl Session.idle_nil

theorem deposit_settles (accNo : String) (amount : D) (category : String) (key : Option String) :
    wp (runs B) (Request.prog env draws (.deposit accNo amount category key))
      (Settled env B ⟨.deposit accNo amount category key, draws⟩ db) (db, {}) := by
  unfold Request.prog TransactionService.deposit
  rw [wp_bind]
  split
  · exact .same env B db _
  rename_i positive
  rw [wp_bind]
  refine wp_checkIdempotency B fun cached => ?_
  cases cached with
  | some cached => exact .same env B db _
  | none =>
    rw [andThen_ok, wp_bind]
    refine wp_accountLock B ?_
    simp only [TransactionService.depositLocked, wp_bind, wp_accountRepo_get, andThen_ok, Session.account?_nil]
    cases live : db.liveAccount? accNo with
    | none => exact ⟨rfl, .same env B db _⟩
    | some account =>
      simp only
      split
      · exact ⟨rfl, .same env B db _⟩
      rename_i can
      simp only [wp_bind, wp_accountRepo_update, wp_txnRepo_create, andThen_ok]
      refine wp_commit B _ (fun db₁ hf => ⟨rfl, ?_⟩) fun e _ => ⟨rfl, .same env B db _⟩
      rw [List.nil_append, staged_withBalance live (by simp)] at hf
      simp only [andThen_ok, wp_bind]
      exact wp_storeIdempotency B fun db' hl => .moved (.deposit positive live (by simpa using can)) hf hl Session.idle_nil rfl

theorem withdraw_settles (accNo : String) (amount : D) (category : String) (key : Option String) :
    wp (runs B) (Request.prog env draws (.withdraw accNo amount category key))
      (Settled env B ⟨.withdraw accNo amount category key, draws⟩ db) (db, {}) := by
  unfold Request.prog TransactionService.withdraw
  rw [wp_bind]
  split
  · exact .same env B db _
  rename_i positive
  rw [wp_bind]
  refine wp_checkIdempotency B fun cached => ?_
  cases cached with
  | some cached => exact .same env B db _
  | none =>
    rw [andThen_ok, wp_bind]
    refine wp_accountLock B ?_
    simp only [TransactionService.withdrawLocked, wp_bind, wp_accountRepo_get, andThen_ok, Session.account?_nil]
    cases live : db.liveAccount? accNo with
    | none => exact ⟨rfl, .same env B db _⟩
    | some account =>
      simp only
      split
      · exact ⟨rfl, .same env B db _⟩
      rename_i can
      split
      · exact ⟨rfl, .same env B db _⟩
      rename_i covered
      rw [wp_bind, TransactionService.ensureNonNegativeBalance]
      split
      · exact ⟨rfl, .same env B db _⟩
      simp only [wp_bind, wp_ret, pure_eq, wp_accountRepo_update, wp_txnRepo_create, andThen_ok]
      refine wp_commit B _ (fun db₁ hf => ⟨rfl, ?_⟩) fun e _ => ⟨rfl, .same env B db _⟩
      rw [List.nil_append, staged_withBalance live (by simp)] at hf
      simp only [andThen_ok, wp_bind]
      exact wp_storeIdempotency B fun db' hl =>
        .moved (.withdraw positive live (by simpa using can) covered) hf hl Session.idle_nil rfl

theorem transfer_settles (senderAccNo receiverAccNo : String) (amount : D) (category : String) (key : Option String) :
    wp (runs B) (Request.prog env draws (.transfer senderAccNo receiverAccNo amount category key))
      (Settled env B ⟨.transfer senderAccNo receiverAccNo amount category key, draws⟩ db) (db, {}) := by
  unfold Request.prog TransactionService.transfer
  rw [wp_bind]
  split
  · exact .same env B db _
  rename_i positive
  split
  · exact .same env B db _
  rename_i distinct
  rw [wp_bind]
  refine wp_cachedTransfer B fun cached => ?_
  cases cached with
  | some cached => exact .same env B db _
  | none =>
    rw [andThen_ok, wp_bind, wp_tryCatch]
    refine wp_accountLock B ?_
    simp only [TransactionService.transferLocked, wp_bind, wp_accountRepo_get, andThen_ok, Session.account?_nil]
    cases liveSender : db.liveAccount? senderAccNo with
    | none => exact ⟨rfl, .same env B db _⟩
    | some sender =>
    cases liveReceiver : db.liveAccount? receiverAccNo with
    | none => exact ⟨rfl, .same env B db _⟩
    | some receiver =>
      simp only
      split
      · exact ⟨rfl, .same env B db _⟩
      rename_i canSender
      split
      · exact ⟨rfl, .same env B db _⟩
      rename_i canReceiver
      split
      · exact ⟨rfl, .same env B db _⟩
      rename_i covered
      rw [wp_bind]
      refine wp_beginNested B ?_
      rw [TransactionService.moveMoney, wp_bind, TransactionService.ensureNonNegativeBalance]
      split
      · exact ⟨rfl, .same env B db _⟩
      simp only [wp_bind, wp_ret, pure_eq, wp_accountRepo_update, wp_txnRepo_create, andThen_ok]
      refine wp_commit B _ (fun db₁ hf => ⟨rfl, ?_⟩) fun e _ => ⟨rfl, .same env B db _⟩
      have other : ∀ b, (sender.withBalance b).accountNumber ≠ receiverAccNo := fun b e =>
        distinct ((Ledger.accountNumber_of_live liveSender).symm.trans e)
      rw [List.nil_append, staged_withBalance liveSender (by simp),
        staged_withBalance liveReceiver (by simpa [Change.onAccount] using other _)] at hf
      simp only [wp_bind]
      exact wp_storeTransferIdempotency env B fun db' hl =>
        .moved (.transfer positive distinct liveSender liveReceiver (by simpa using canSender)
          (by simpa using canReceiver) covered) hf hl Session.idle_nil rfl

theorem applyInterest_settles (accNo : String) :
    wp (runs B) (Request.prog env draws (.applyInterest accNo)) (Settled env B ⟨.applyInterest accNo, draws⟩ db)
      (db, {}) := by
  simp only [Request.prog, TransactionService.applyInterest, wp_bind, wp_accountRepo_get, andThen_ok,
    Session.account?_nil]
  cases live : db.liveAccount? accNo with
  | none => exact .same env B db _
  | some account =>
    simp only
    split
    · exact .same env B db _
    rename_i can
    split
    · exact .same env B db _
    rename_i positive
    simp only [wp_bind, wp_accountRepo_update, wp_txnRepo_create, andThen_ok]
    refine wp_commit B _ (fun db₁ hf => ?_) fun e _ => .same env B db _
    rw [List.nil_append, staged_withBalance live (by simp)] at hf
    exact .moved (.applyInterest live (by simpa using can) positive) hf rfl Session.idle_nil rfl

theorem applyLoan_settles (accNo loanType : String) (principal rate : D) (tenure : Int) (purpose : String) :
    wp (runs B) (Request.prog env draws (.applyLoan accNo loanType principal rate tenure purpose))
      (Settled env B ⟨.applyLoan accNo loanType principal rate tenure purpose, draws⟩ db) (db, {}) := by
  simp only [Request.prog, LoanService.applyLoan, wp_bind, wp_accountRepo_get, andThen_ok, Session.account?_nil]
  cases live : db.liveAccount? accNo with
  | none => exact .same env B db _
  | some account =>
    simp only
    split
    · exact .same env B db _
    rename_i can
    split
    · exact .same env B db _
    rename_i known
    split
    · exact .same env B db _
    rename_i least
    split
    · exact .same env B db _
    rename_i most
    split
    · exact .same env B db _
    rename_i tenureOk
    split
    · exact .same env B db _
    rename_i rateOk
    simp only [wp_bind, wp_loanRepo_create, List.nil_append, andThen_ok]
    refine wp_commit B _ (fun db₁ hf => ?_) fun e _ => .same env B db _
    simp only [andThen_ok, wp_bind]
    exact wp_auditLog B fun db' hl =>
      .moved (.applyLoan live (by simpa using can) (by simpa using known) least most tenureOk rateOk) hf hl
        Session.idle_nil rfl

theorem approveLoan_settles (loanId adminUser : String) :
    wp (runs B) (Request.prog env draws (.approveLoan loanId adminUser))
      (Settled env B ⟨.approveLoan loanId adminUser, draws⟩ db) (db, {}) := by
  simp only [Request.prog, LoanService.approveLoan, wp_bind, wp_loanRepo_get, andThen_ok, Session.loan?_nil]
  cases found : db.loans.find? loanId with
  | none => exact .same env B db _
  | some loan =>
    simp only
    split
    · exact .same env B db _
    rename_i pending
    simp only [wp_bind, wp_accountRepo_get, andThen_ok, Session.account?_nil]
    cases live : db.liveAccount? loan.accountNumber with
    | none => exact .same env B db _
    | some account =>
      simp only
      split
      · exact .same env B db _
      rename_i can
      simp only [wp_bind, wp_loanRepo_update, wp_accountRepo_update, wp_txnRepo_create, andThen_ok]
      refine wp_commit B _ (fun db₁ hf => ?_) fun e _ => .same env B db _
      have hid : loan.loanId = loanId := Table.key_of_find? found
      rw [List.nil_append, staged_updateLoan loan (LoanService.approved loan draws.now) (by simpa [LoanService.approved, hid] using found) rfl rfl,
        staged_withBalance live (by simp [Change.onAccount])] at hf
      simp only [andThen_ok, wp_bind]
      exact wp_auditLog B fun db' hl =>
        .moved (.approveLoan found (by simpa using pending) live (by simpa using can)) hf hl Session.idle_nil rfl

theorem rejectLoan_settles (loanId reason adminUser : String) :
    wp (runs B) (Request.prog env draws (.rejectLoan loanId reason adminUser))
      (Settled env B ⟨.rejectLoan loanId reason adminUser, draws⟩ db) (db, {}) := by
  simp only [Request.prog, LoanService.rejectLoan, wp_bind, wp_loanRepo_get, andThen_ok, Session.loan?_nil]
  cases found : db.loans.find? loanId with
  | none => exact .same env B db _
  | some loan =>
    simp only
    split
    · exact .same env B db _
    rename_i pending
    simp only [wp_bind, wp_loanRepo_update, andThen_ok]
    refine wp_commit B _ (fun db₁ hf => ?_) fun e _ => .same env B db _
    have hid : loan.loanId = loanId := Table.key_of_find? found
    rw [List.nil_append, staged_updateLoan loan (LoanService.rejected loan reason) (by simpa [LoanService.rejected, hid] using found) rfl rfl] at hf
    simp only [andThen_ok, wp_bind]
    exact wp_auditLog B fun db' hl =>
      .moved (.rejectLoan found (by simpa using pending)) hf hl Session.idle_nil rfl

theorem payEmi_settles (accNo loanId : String) (amount : Option D) :
    wp (runs B) (Request.prog env draws (.payEmi accNo loanId amount))
      (Settled env B ⟨.payEmi accNo loanId amount, draws⟩ db) (db, {}) := by
  simp only [Request.prog, LoanService.payEmi, wp_bind, wp_loanRepo_get, andThen_ok, Session.loan?_nil]
  cases found : db.loans.find? loanId with
  | none => exact .same env B db _
  | some loan =>
    simp only
    split
    · exact .same env B db _
    rename_i running
    split
    · exact .same env B db _
    rename_i owner
    simp only [wp_bind, wp_accountRepo_get, andThen_ok, Session.account?_nil]
    cases live : db.liveAccount? accNo with
    | none => exact .same env B db _
    | some account =>
      simp only
      split
      · exact .same env B db _
      rename_i can
      split
      · exact .same env B db _
      rename_i positive
      split
      · exact .same env B db _
      rename_i covered
      simp only [wp_bind, wp_loanRepo_update, wp_accountRepo_update, wp_txnRepo_create, andThen_ok]
      refine wp_commit B _ (fun db₁ hf => ?_) fun e _ => .same env B db _
      rw [List.nil_append, staged_withBalance live (by simp), staged_updateLoan loan _
        (by simpa [Session.loan?, Session.ownLoan, Table.key_of_find? found] using found) (by simp) (by simp)] at hf
      simp only [LoanService.paid_loanId, LoanService.paid_loanType] at hf
      exact .moved (.payEmi found running (by simpa using owner) live (by simpa using can) rfl positive covered rfl) hf
        rfl Session.idle_nil rfl

theorem createGoal_settles (accNo name : String) (target : D) (targetDate : Option String) :
    wp (runs B) (Request.prog env draws (.createGoal accNo name target targetDate))
      (Settled env B ⟨.createGoal accNo name target targetDate, draws⟩ db) (db, {}) := by
  simp only [Request.prog, SavingsGoalService.createGoal, wp_bind]
  split
  · exact .same env B db _
  rename_i named
  split
  · exact .same env B db _
  rename_i positive
  simp only [wp_bind, wp_goalRepo_create, List.nil_append, andThen_ok]
  exact wp_commit B _ (fun db₁ hf => .moved (.createGoal named positive) hf rfl Session.idle_nil rfl) fun e _ =>
    .same env B db _

theorem contribute_settles (accNo goalId : String) (amount : D) :
    wp (runs B) (Request.prog env draws (.contribute accNo goalId amount))
      (Settled env B ⟨.contribute accNo goalId amount, draws⟩ db) (db, {}) := by
  simp only [Request.prog, SavingsGoalService.contribute, wp_bind]
  split
  · exact .same env B db _
  rename_i positive
  simp only [wp_bind, wp_accountRepo_get, andThen_ok, Session.account?_nil]
  cases live : db.liveAccount? accNo with
  | none => exact .same env B db _
  | some account =>
    simp only
    split
    · exact .same env B db _
    rename_i covered
    simp only [wp_bind, wp_goalRepo_get, andThen_ok, Session.goal?_nil]
    cases found : db.goals.find? goalId with
    | none => exact .same env B db _
    | some goal =>
      simp only [wp_bind, wp_accountRepo_update, wp_txnRepo_create, wp_goalRepo_contribute, andThen_ok]
      refine wp_commit B _ (fun db₁ hf => ?_) fun e _ => .same env B db _
      rw [List.nil_append, staged_withBalance live (by simp), staged_contributeGoal
        (by simpa [Session.goal?, Session.ownGoal] using found)] at hf
      exact .moved (.contribute positive live covered found) hf rfl Session.idle_nil rfl

theorem deleteGoal_settles (accNo goalId : String) :
    wp (runs B) (Request.prog env draws (.deleteGoal accNo goalId))
      (Settled env B ⟨.deleteGoal accNo goalId, draws⟩ db) (db, {}) := by
  simp only [Request.prog, SavingsGoalService.deleteGoal, wp_bind, wp_goalRepo_get, andThen_ok, Session.goal?_nil]
  cases found : db.goals.find? goalId with
  | none => exact .same env B db _
  | some goal =>
    simp only [wp_bind, wp_goalRepo_delete, andThen_ok]
    rw [List.nil_append, staged_deleteGoal (by simpa using found)]
    split
    · rename_i positive
      simp only [wp_bind, wp_accountRepo_get, andThen_ok]
      rw [Session.account?_eq_live (by simp [Change.onAccount])]
      cases live : db.liveAccount? accNo with
      | none =>
        simp only [wp_bind]
        exact wp_commit B _ (fun db₁ hf => .moved (.deleteGoal found (.inr live)) hf rfl Session.idle_nil rfl)
          fun e _ => .same env B db _
      | some account =>
        simp only [wp_bind, wp_accountRepo_update, andThen_ok]
        refine wp_commit B _ (fun db₁ hf => ?_) fun e _ => .same env B db _
        rw [staged_withBalance live (by simp [Change.onAccount])] at hf
        exact .moved (.refundGoal found positive live) hf rfl Session.idle_nil rfl
    · rename_i nothing
      simp only [wp_bind]
      exact wp_commit B _ (fun db₁ hf => .moved (.deleteGoal found (.inl nothing)) hf rfl Session.idle_nil rfl)
        fun e _ => .same env B db _

theorem freezeAccount_settles (accNo actor : String) (reason : Option String) :
    wp (runs B) (Request.prog env draws (.freezeAccount accNo actor reason))
      (Settled env B ⟨.freezeAccount accNo actor reason, draws⟩ db) (db, {}) := by
  simp only [Request.prog, AdminService.freezeAccount, wp_bind, wp_accountRepo_get, andThen_ok, Session.account?_nil]
  cases live : db.liveAccount? accNo with
  | none => exact .same env B db _
  | some account =>
    simp only
    split
    · exact .same env B db _
    rename_i closed
    split
    · exact .same env B db _
    rename_i thawed
    simp only [wp_bind, wp_accountRepo_setFrozen, wp_accountRepo_setActive, andThen_ok]
    refine wp_commit B _ (fun db₁ hf => ?_) fun e _ => .same env B db _
    have hn := Ledger.accountNumber_of_live live
    simp only [Query.staged, List.nil_append, Session.account?, Session.ownAccount, live, Option.map_some,
      List.foldl_cons, List.foldl_nil, if_true, List.singleton_append] at hf
    simp only [andThen_ok, wp_bind]
    exact wp_auditLog B fun db' hl => .moved (.freezeAccount live closed thawed) hf hl Session.idle_nil rfl

theorem unfreezeAccount_settles (accNo actor : String) (reason : Option String) :
    wp (runs B) (Request.prog env draws (.unfreezeAccount accNo actor reason))
      (Settled env B ⟨.unfreezeAccount accNo actor reason, draws⟩ db) (db, {}) := by
  simp only [Request.prog, AdminService.unfreezeAccount, wp_bind, wp_accountRepo_get, andThen_ok,
    Session.account?_nil]
  cases live : db.liveAccount? accNo with
  | none => exact .same env B db _
  | some account =>
    simp only
    split
    · exact .same env B db _
    rename_i frozen
    simp only [wp_bind, wp_accountRepo_setFrozen, andThen_ok]
    refine wp_commit B _ (fun db₁ hf => ?_) fun e _ => .same env B db _
    simp only [Query.staged, List.nil_append, Session.account?_nil, live] at hf
    simp only [andThen_ok, wp_bind]
    exact wp_auditLog B fun db' hl =>
      .moved (.unfreezeAccount live (by simpa using frozen)) hf hl Session.idle_nil rfl

theorem deleteAccount_settles (accNo actor : String) (reason : Option String) :
    wp (runs B) (Request.prog env draws (.deleteAccount accNo actor reason))
      (Settled env B ⟨.deleteAccount accNo actor reason, draws⟩ db) (db, {}) := by
  simp only [Request.prog, AdminService.deleteAccount, wp_bind, wp_accountRepo_get, andThen_ok, Session.account?_nil]
  cases live : db.liveAccount? accNo with
  | none => exact .same env B db _
  | some account =>
    simp only [wp_bind, wp_accountRepo_delete, andThen_ok]
    refine wp_commit B _ (fun db₁ hf => ?_) fun e _ => .same env B db _
    simp only [Query.staged, List.nil_append, Session.account?_nil, live] at hf
    simp only [andThen_ok, wp_bind]
    exact wp_auditLog B fun db' hl => .moved (.deleteAccount live) hf hl Session.idle_nil rfl

theorem updateProfile_settles (accNo : String) (kwargs : List (AccountService.AccountField D)) :
    wp (runs B) (Request.prog env draws (.updateProfile accNo kwargs))
      (Settled env B ⟨.updateProfile accNo kwargs, draws⟩ db) (db, {}) := by
  simp only [Request.prog, AccountService.updateProfile, wp_bind, wp_accountRepo_get, andThen_ok,
    Session.account?_nil]
  cases live : db.liveAccount? accNo with
  | none => exact .same env B db _
  | some account =>
    simp only [wp_bind, wp_ofExcept]
    cases assigned : kwargs.foldlM AccountService.AccountField.assign account with
    | error e => exact .same env B db _
    | ok account' =>
      simp only [wp_bind, wp_accountRepo_update, List.nil_append, andThen_ok]
      exact wp_commit B _ (fun db₁ hf => .moved (.updateProfile live assigned) hf rfl Session.idle_nil rfl)
        fun e _ => .same env B db _

theorem changePassword_settles (accNo currentPwd newPwd : String) :
    wp (runs B) (Request.prog env draws (.changePassword accNo currentPwd newPwd))
      (Settled env B ⟨.changePassword accNo currentPwd newPwd, draws⟩ db) (db, {}) := by
  simp only [Request.prog, AccountService.changePassword, wp_bind, wp_accountRepo_get, andThen_ok,
    Session.account?_nil]
  cases live : db.liveAccount? accNo with
  | none => exact .same env B db _
  | some account =>
    simp only
    split
    · exact .same env B db _
    rename_i verified
    simp only [wp_bind, wp_accountRepo_update, wp_tokenVersionRepo_increment, andThen_ok]
    refine wp_commit B _ (fun db₁ hf => ?_) fun e _ => .same env B db _
    obtain ⟨versions, support, hv⟩ := staged_incrementTokenVersion db
      ⟨[] ++ Query.staged db ⟨[], false, none, []⟩
        (.updateAccount { account with password := env.hashPassword newPwd }), false, none, []⟩ accNo
    rw [hv, List.nil_append, staged_updateAccount { account with password := env.hashPassword newPwd } live (by simp)
      rfl rfl] at hf
    exact .moved (.changePassword live (by simpa using verified) support) hf rfl Session.idle_nil rfl

theorem closeAccount_settles (accNo password : String) :
    wp (runs B) (Request.prog env draws (.closeAccount accNo password))
      (Settled env B ⟨.closeAccount accNo password, draws⟩ db) (db, {}) := by
  simp only [Request.prog, AccountService.closeAccount, wp_bind, wp_accountRepo_get, andThen_ok,
    Session.account?_nil]
  cases live : db.liveAccount? accNo with
  | none => exact .same env B db _
  | some account =>
    simp only
    split
    · exact .same env B db _
    rename_i verified
    simp only [wp_bind, wp_accountRepo_update, andThen_ok]
    refine wp_commit B _ (fun db₁ hf => ?_) fun e _ => .same env B db _
    rw [List.nil_append, staged_updateAccount { account with isActive := false } live (by simp) rfl rfl] at hf
    exact .moved (.closeAccount live (by simpa using verified)) hf rfl Session.idle_nil rfl

/-- **Every call settles**: the ledger is as the call found it, or has taken exactly the changes of its posting. -/
theorem settles (c : Call D) : wp (runs B) (c.prog env) (Settled env B c db) (db, {}) := by
  obtain ⟨request, draws⟩ := c
  cases request with
  | deposit => exact deposit_settles ..
  | withdraw => exact withdraw_settles ..
  | transfer => exact transfer_settles ..
  | applyInterest => exact applyInterest_settles ..
  | applyLoan => exact applyLoan_settles ..
  | approveLoan => exact approveLoan_settles ..
  | rejectLoan => exact rejectLoan_settles ..
  | payEmi => exact payEmi_settles ..
  | createGoal => exact createGoal_settles ..
  | contribute => exact contribute_settles ..
  | deleteGoal => exact deleteGoal_settles ..
  | freezeAccount => exact freezeAccount_settles ..
  | unfreezeAccount => exact unfreezeAccount_settles ..
  | deleteAccount => exact deleteAccount_settles ..
  | updateProfile => exact updateProfile_settles ..
  | changePassword => exact changePassword_settles ..
  | closeAccount => exact closeAccount_settles ..

end UnionBank
