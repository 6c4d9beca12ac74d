import UnionBank.Serving

/-!
# The money movements as functions

What `deposit`, `withdraw` and `transfer` are for, as one function of the store and of whether the session is inactive
(`tell`): refuse what is asked wrongly, answer a known key from its record, post, commit, keep the answer under the key.

- `Order`: a movement without its key, `Errand`: an order with its key and its draws;
- `Order.refusal`, `Order.replay`, `Order.post`: the answers before the locks, under a known key, and under the locks;
- `exec_order`: the services compute this function, from every session between two calls.
-/

namespace UnionBank

open Keyed Programs Prog TransactionService

set_option linter.unusedSectionVars false

variable {D : Type}

/-- A money movement, without its key. -/
inductive Order (D : Type) where
  | deposit (accNo : String) (amount : D) (category : String)
  | withdraw (accNo : String) (amount : D) (category : String)
  | transfer (senderAccNo receiverAccNo : String) (amount : D) (category : String)

/-- What a movement commits, what it answers, and what it keeps of the answer under its key. -/
structure Posting (D : Type) where
  changes : List (Change D)
  reply : Reply D
  result : CachedResult D

/-- The end of a movement: the answer, the store, and whether the session is inactive. -/
structure Told (D : Type) where
  reply : Except Exn (Reply D)
  db : Db D
  inactive : Bool

namespace Order

/-- The request, with its key. -/
def request (key : Option String) : Order D → Request D
  | deposit accNo amount category => .deposit accNo amount category key
  | withdraw accNo amount category => .withdraw accNo amount category key
  | transfer senderAccNo receiverAccNo amount category => .transfer senderAccNo receiverAccNo amount category key

/-- Whose request it is: the account that the record of its key names. -/
def customer : Order D → String
  | deposit accNo _ _ => accNo
  | withdraw accNo _ _ => accNo
  | transfer senderAccNo _ _ _ => senderAccNo

def amount : Order D → D
  | deposit _ amount _ => amount
  | withdraw _ amount _ => amount
  | transfer _ _ amount _ => amount

def operation : Order D → String
  | deposit .. => "deposit"
  | withdraw .. => "withdraw"
  | transfer .. => "transfer"

/-- The record of an answer under a key. -/
def record (o : Order D) (key : String) (result : CachedResult D) : IdempotencyRecord D :=
  { idempotencyKey := key, accountNumber := o.customer, operation := o.operation, resultJson := some result,
    amount := o.amount }

/-- The answer to a request under a key that has a record. -/
def replay [Zero D] (record : IdempotencyRecord D) : Order D → Option (Reply D)
  | deposit .. | withdraw .. => some (.service (match record.resultJson with
    | some data =>
      { success := data.success.getD true, message := data.message.getD "Operation already completed.",
        data := data.balance.map fun balance => [("balance", .number balance)] }
    | none => { success := true, message := "Operation already completed." }))
  | transfer .. => record.resultJson.map fun data => .transfer
    { success := data.success.getD true, senderBalance := data.senderBalance.getD 0,
      receiverBalance := data.receiverBalance.getD 0, errorMessage := data.errorMessage.getD "" }

/-- How an exception of the database ends a movement: only `transfer` answers it. -/
def failure [Zero D] (db : Db D) (e : Exn) : Order D → Told D
  | deposit .. | withdraw .. => ⟨.error e, db, true⟩
  | transfer .. =>
    ⟨.ok (.transfer (transferRefused "Transfer failed due to a database error. Please try again.")), db, false⟩

end Order

/-- The record that a request with this key finds. -/
def Db.kept (db : Db D) (key : Option String) : Option (IdempotencyRecord D) :=
  (givenKey key).bind db.idempotencyKeys.find?

section Tell

variable [Zero D] [Add D] [Sub D] [LE D] [LT D] [DecidableEq D] [DecidableLE D] [DecidableLT D]

/-- The refusals before the key is looked up. -/
def Order.refusal : Order D → Option (Reply D)
  | .deposit _ amount _ | .withdraw _ amount _ =>
    if amount ≤ 0 then some (.service (refused "Amount must be positive.")) else none
  | .transfer senderAccNo receiverAccNo amount _ =>
    if amount ≤ 0 then some (.transfer (transferRefused "Amount must be positive."))
    else if senderAccNo = receiverAccNo then
      some (.transfer (transferRefused "Cannot transfer to your own account."))
    else none

variable (env : Env D) (B : Backend D)

/-- The store with a record, where the tables take it. -/
def Db.keep (db : Db D) (record : IdempotencyRecord D) : Db D :=
  match flush B [.insert (.idempotencyKey record)] db with
  | .ok db' => db'
  | .error _ => db

/-- What a deposit posts. -/
def depositPosting (draws : Draws) (account : Account D) (accNo : String) (amount : D) (category : String) : Posting D :=
  let balance := account.balance + amount
  let message := s!"{env.fmtCurrency amount} deposited successfully. " ++ s!"New balance: {env.fmtCurrency balance}"
  { changes := [.account account (account.withBalance balance),
      .insert (.transaction ⟨draws.txnId, accNo, .deposit, amount, balance, "Deposit", knownCategory category, none,
        draws.now⟩)],
    reply := .service ⟨true, message, some [("balance", .number (env.float balance))]⟩,
    result := ⟨some true, some message, some (env.float balance), none, none, none⟩ }

/-- What a withdrawal posts. -/
def withdrawPosting (draws : Draws) (account : Account D) (accNo : String) (amount : D) (category : String) : Posting D :=
  let balance := account.balance - amount
  let message := s!"{env.fmtCurrency amount} withdrawn successfully. " ++ s!"New balance: {env.fmtCurrency balance}"
  { changes := [.account account (account.withBalance balance),
      .insert (.transaction ⟨draws.txnId, accNo, .withdraw, amount, balance, "Withdrawal", knownCategory category, none,
        draws.now⟩)],
    reply := .service ⟨true, message, some [("balance", .number (env.float balance))]⟩,
    result := ⟨some true, some message, some (env.float balance), none, none, none⟩ }

/-- What a transfer posts. -/
def transferPosting (draws : Draws) (sender receiver : Account D) (senderAccNo receiverAccNo : String) (amount : D)
    (category : String) : Posting D :=
  let senderBalance := sender.balance - amount
  let receiverBalance := receiver.balance + amount
  { changes := [.account sender (sender.withBalance senderBalance),
      .account receiver (receiver.withBalance receiverBalance),
      .insert (.transaction ⟨draws.txnId, senderAccNo, .transferOut, amount, senderBalance,
        s!"Transfer to {receiverAccNo}", knownCategory category, some receiverAccNo, draws.now⟩),
      .insert (.transaction ⟨draws.txnId', receiverAccNo, .transferIn, amount, receiverBalance,
        s!"Transfer from {senderAccNo}", knownCategory category, some senderAccNo, draws.now⟩)],
    reply := .transfer ⟨true, senderBalance, receiverBalance, ""⟩,
    result := ⟨some true, none, none, some (env.float senderBalance), some (env.float receiverBalance), some ""⟩ }

/-- A movement under its locks: how it ends without a commit, or what it posts. -/
def Order.post (draws : Draws) (db : Db D) : Order D → Except (Except Exn (Reply D)) (Posting D)
  | .deposit accNo amount category =>
    match db.liveAccount? accNo with
    | none => .error (.ok (.service (refused "Account not found.")))
    | some account =>
      if !account.canTransact then .error (.ok (.service (refused s!"Account is {blockedStatus account}.")))
      else .ok (depositPosting env draws account accNo amount category)
  | .withdraw accNo amount category =>
    match db.liveAccount? accNo with
    | none => .error (.ok (.service (refused "Account not found.")))
    | some account =>
      if !account.canTransact then .error (.ok (.service (refused s!"Account is {blockedStatus account}.")))
      else if account.balance < amount then
        .error (.ok (.service (refused s!"Insufficient balance. Available: {env.fmtCurrency account.balance}")))
      else if account.balance - amount < 0 then
        .error (.error (.valueError "Insufficient balance for withdraw."))
      else .ok (withdrawPosting env draws account accNo amount category)
  | .transfer senderAccNo receiverAccNo amount category =>
    match db.liveAccount? senderAccNo, db.liveAccount? receiverAccNo with
    | none, _ => .error (.ok (.transfer (transferRefused "Sender account not found.")))
    | some _, none => .error (.ok (.transfer (transferRefused "Recipient account not found.")))
    | some sender, some receiver =>
      if !sender.canTransact then .error (.ok (.transfer (transferRefused "Your account is frozen or closed.")))
      else if !receiver.canTransact then
        .error (.ok (.transfer (transferRefused "Recipient account is frozen or closed.")))
      else if sender.balance < amount then
        .error (.ok (.transfer (transferRefused s!"Insufficient balance. Available: {env.fmtCurrency sender.balance}")))
      else if sender.balance - amount < 0 then
        .error (.ok (.transfer (transferRefused "Transfer failed due to a database error. Please try again.")))
      else .ok (transferPosting env draws sender receiver senderAccNo receiverAccNo amount category)

/-- A movement that finds no answer under its key. -/
def Order.execute (draws : Draws) (db : Db D) (key : Option String) (o : Order D) : Told D :=
  match o.post env draws db with
  | .error r => ⟨r, db, false⟩
  | .ok posting => match flush B posting.changes db with
    | .error e => o.failure db e
    | .ok db₁ =>
      ⟨.ok posting.reply, ((givenKey key).map fun k => db₁.keep B (o.record k posting.result)).getD db₁, false⟩

/-- A movement, from a session between two calls. -/
def tell (draws : Draws) (db : Db D) (inactive : Bool) (key : Option String) (o : Order D) : Told D :=
  match o.refusal with
  | some reply => ⟨.ok reply, db, inactive⟩
  | none =>
    if inactive then
      if (givenKey key).isSome then ⟨.error .pendingRollbackError, db, true⟩
      else o.failure db .pendingRollbackError
    else match (db.kept key).bind fun record => o.replay record with
      | some reply => ⟨.ok reply, db, false⟩
      | none => o.execute env B draws db key

/-! ## The ways through it -/

section Ways

variable {env B} {draws : Draws} {db : Db D} {inactive : Bool} {key : Option String} {o : Order D}

theorem tell_refused {reply : Reply D} (h : o.refusal = some reply) :
    tell env B draws db inactive key o = ⟨.ok reply, db, inactive⟩ := by
  simp only [tell, h]

theorem tell_pending (h : o.refusal = none) (given : (givenKey key).isSome = true) :
    tell env B draws db true key o = ⟨.error .pendingRollbackError, db, true⟩ := by
  simp only [tell, h, given, if_true]

theorem tell_inactive (h : o.refusal = none) (none : (givenKey key).isSome = false) :
    tell env B draws db true key o = o.failure db .pendingRollbackError := by
  simp only [tell, h, none, if_true, Bool.false_eq_true, if_false]

theorem tell_replayed {reply : Reply D} (h : o.refusal = none)
    (known : ((db.kept key).bind fun record => o.replay record) = some reply) :
    tell env B draws db false key o = ⟨.ok reply, db, false⟩ := by
  simp only [tell, h, known, Bool.false_eq_true, if_false]

theorem tell_executed (h : o.refusal = none) (new : ((db.kept key).bind fun record => o.replay record) = none) :
    tell env B draws db false key o = o.execute env B draws db key := by
  simp only [tell, h, new, Bool.false_eq_true, if_false]

theorem execute_stopped {r : Except Exn (Reply D)} (h : o.post env draws db = .error r) :
    o.execute env B draws db key = ⟨r, db, false⟩ := by
  simp only [Order.execute, h]

theorem execute_failed {posting : Posting D} {e : Exn} (h : o.post env draws db = .ok posting)
    (flushed : flush B posting.changes db = .error e) : o.execute env B draws db key = o.failure db e := by
  simp only [Order.execute, h, flushed]

theorem execute_posted {posting : Posting D} {db₁ : Db D} (h : o.post env draws db = .ok posting)
    (flushed : flush B posting.changes db = .ok db₁) : o.execute env B draws db key = ⟨.ok posting.reply,
      ((givenKey key).map fun k => db₁.keep B (o.record k posting.result)).getD db₁, false⟩ := by
  simp only [Order.execute, h, flushed]

end Ways

end Tell

/-! ## The services compute it -/

section Refinement

variable [Zero D] [Add D] [Sub D] [LE D] [LT D] [DecidableEq D] [DecidableLE D] [DecidableLT D]
variable (env : Env D) (B : Backend D) (draws : Draws) (db : Db D)

/-- A run ended as told, with a session that is between two calls. -/
def Told.Ends (t : Told D) (r : Except Exn (Reply D)) (w : Db D × Session D) : Prop :=
  r = t.reply ∧ w = (t.db, ⟨[], t.inactive, none, []⟩)

section Rules

variable {db} {p : List (Change D)} {sp : Option ℕ} {held : List String} {inactive : Bool}

/-- The lookup of a key in an active session. -/
theorem wp_checkIdempotency_eq (key : Option String) (Q : Except Exn (Option (ServiceResult D)) → Db D × Session D → Prop) :
    wp (runs B) (checkIdempotency key) Q (db, ⟨p, false, sp, held⟩) =
      Q (.ok ((db.kept key).map fun record => match record.resultJson with
        | some data =>
          { success := data.success.getD true, message := data.message.getD "Operation already completed.",
            data := data.balance.map fun balance => [("balance", .number balance)] }
        | none => { success := true, message := "Operation already completed." })) (db, ⟨p, false, sp, held⟩) := by
  unfold checkIdempotency Db.kept
  cases givenKey key with
  | none => rfl
  | some k =>
    simp only [wp_bind, wp_idempotencyRepo_get, andThen_ok, Option.bind_some]
    cases db.idempotencyKeys.find? k with
    | none => rfl
    | some existing =>
      rw [Option.map_some]
      cases hj : existing.resultJson <;> simp only [hj] <;> rfl

theorem wp_cachedTransfer_eq (key : Option String) (Q : Except Exn (Option (TransferResult D)) → Db D × Session D → Prop) :
    wp (runs B) (cachedTransfer key) Q (db, ⟨p, false, sp, held⟩) =
      Q (.ok ((db.kept key).bind fun record => record.resultJson.map fun data =>
        { success := data.success.getD true, senderBalance := data.senderBalance.getD 0,
          receiverBalance := data.receiverBalance.getD 0, errorMessage := data.errorMessage.getD "" }))
        (db, ⟨p, false, sp, held⟩) := by
  unfold cachedTransfer Db.kept
  cases givenKey key with
  | none => rfl
  | some k =>
    simp only [wp_bind, wp_idempotencyRepo_get, andThen_ok, Option.bind_some]
    cases db.idempotencyKeys.find? k with
    | none => rfl
    | some existing =>
      rw [Option.bind_some]
      cases hj : existing.resultJson <;> simp only [hj] <;> rfl

/-- An inactive session refuses every query. -/
theorem wp_ask_inactive (q : Query D) (Q : Except Exn q.Res → Db D × Session D → Prop) :
    wp (runs B) (ask q) Q (db, ⟨p, true, sp, held⟩) = Q (.error .pendingRollbackError) (db, ⟨p, true, sp, held⟩) :=
  wp_perform ..

theorem wp_checkIdempotency_inactive (key : Option String)
    (Q : Except Exn (Option (ServiceResult D)) → Db D × Session D → Prop) :
    wp (runs B) (checkIdempotency key) Q (db, ⟨p, true, sp, held⟩) =
      Q (if (givenKey key).isSome then .error .pendingRollbackError else .ok none) (db, ⟨p, true, sp, held⟩) := by
  unfold checkIdempotency
  cases givenKey key with
  | none => rfl
  | some k =>
    simp only [wp_bind, idempotencyRepo.get]
    rw [wp_ask_inactive]
    rfl

theorem wp_cachedTransfer_inactive (key : Option String)
    (Q : Except Exn (Option (TransferResult D)) → Db D × Session D → Prop) :
    wp (runs B) (cachedTransfer key) Q (db, ⟨p, true, sp, held⟩) =
      Q (if (givenKey key).isSome then .error .pendingRollbackError else .ok none) (db, ⟨p, true, sp, held⟩) := by
  unfold cachedTransfer
  cases givenKey key with
  | none => rfl
  | some k =>
    simp only [wp_bind, idempotencyRepo.get]
    rw [wp_ask_inactive]
    rfl

/-- Keeping an answer: the record where the tables take it, and a clean session. -/
theorem wp_storeKey_eq {record : IdempotencyRecord D} {Q : Except Exn Unit → Db D × Session D → Prop}
    (h : Q (.ok ()) (db.keep B record, {})) :
    wp (runs B) (tryCatch (do idempotencyRepo.create record; idempotencyRepo.commit) fun _ => idempotencyRepo.rollback)
      Q (db, {}) := by
  rw [wp_tryCatch, wp_bind]
  simp only [wp_idempotencyRepo_create, List.nil_append, andThen_ok]
  refine wp_commit B _ (fun db' hf => ?_) fun e hf => ?_
  · rw [Db.keep, hf] at h
    exact h
  · rw [Db.keep, hf] at h
    exact h

end Rules

/-- An inactive session: a key is looked up in vain, and without one the account is. -/
theorem wp_order_inactive (key : Option String) (o : Order D) :
    wp (runs B) ((o.request key).prog env draws) (tell env B draws db true key o).Ends (db, ⟨[], true, none, []⟩) := by
  cases o with
  | deposit accNo amount category =>
    unfold Order.request Request.prog deposit
    rw [wp_bind]
    split
    · rename_i negative
      rw [tell_refused (show (Order.deposit accNo amount category).refusal = some _ from if_pos negative)]
      exact ⟨rfl, rfl⟩
    rename_i positive
    have asked : (Order.deposit accNo amount category).refusal = none := if_neg positive
    rw [wp_bind, wp_checkIdempotency_inactive]
    cases given : (givenKey key).isSome with
    | true =>
      rw [tell_pending asked given]
      exact ⟨rfl, rfl⟩
    | false =>
      rw [tell_inactive asked given]
      simp only [Bool.false_eq_true, if_false, andThen_ok, wp_bind]
      refine wp_accountLock B ?_
      simp only [depositLocked, wp_bind, accountRepo.get]
      rw [wp_ask_inactive]
      exact ⟨rfl, rfl, rfl⟩
  | withdraw accNo amount category =>
    unfold Order.request Request.prog withdraw
    rw [wp_bind]
    split
    · rename_i negative
      rw [tell_refused (show (Order.withdraw accNo amount category).refusal = some _ from if_pos negative)]
      exact ⟨rfl, rfl⟩
    rename_i positive
    have asked : (Order.withdraw accNo amount category).refusal = none := if_neg positive
    rw [wp_bind, wp_checkIdempotency_inactive]
    cases given : (givenKey key).isSome with
    | true =>
      rw [tell_pending asked given]
      exact ⟨rfl, rfl⟩
    | false =>
      rw [tell_inactive asked given]
      simp only [Bool.false_eq_true, if_false, andThen_ok, wp_bind]
      refine wp_accountLock B ?_
      simp only [withdrawLocked, wp_bind, accountRepo.get]
      rw [wp_ask_inactive]
      exact ⟨rfl, rfl, rfl⟩
  | transfer senderAccNo receiverAccNo amount category =>
    unfold Order.request Request.prog transfer
    rw [wp_bind]
    split
    · rename_i negative
      rw [tell_refused (show (Order.transfer senderAccNo receiverAccNo amount category).refusal = some _ from
        if_pos negative)]
      exact ⟨rfl, rfl⟩
    rename_i positive
    split
    · rename_i own
      rw [tell_refused (show (Order.transfer senderAccNo receiverAccNo amount category).refusal = some _ from
        (if_neg positive).trans (if_pos own))]
      exact ⟨rfl, rfl⟩
    rename_i distinct
    have asked : (Order.transfer senderAccNo receiverAccNo amount category).refusal = none :=
      (if_neg positive).trans (if_neg distinct)
    rw [wp_bind, wp_cachedTransfer_inactive]
    cases given : (givenKey key).isSome with
    | true =>
      rw [tell_pending asked given]
      exact ⟨rfl, rfl⟩
    | false =>
      rw [tell_inactive asked given]
      simp only [Bool.false_eq_true, if_false, andThen_ok, wp_bind, wp_tryCatch]
      refine wp_accountLock B ?_
      simp only [transferLocked, wp_bind, accountRepo.get]
      rw [wp_ask_inactive]
      exact ⟨rfl, rfl, rfl⟩

/-- What follows the commit: the answer is kept under its key. -/
theorem wp_storeIdempotency_eq (key : Option String) (accNo operation message : String) (amount balance : D) {db₁ : Db D}
    {data : Option (List (String × Datum D))} {Q : Except Exn Unit → Db D × Session D → Prop}
    (h : Q (.ok ()) (((givenKey key).map fun k => db₁.keep B ⟨k, accNo, operation,
      some ⟨some true, some message, some balance, none, none, none⟩, amount⟩).getD db₁, {})) :
    wp (runs B) (storeIdempotency key accNo operation amount ⟨true, message, data⟩ balance) Q (db₁, {}) := by
  unfold storeIdempotency
  cases hk : givenKey key with
  | none =>
    rw [hk] at h
    exact h
  | some k =>
    rw [hk] at h
    exact wp_storeKey_eq B h

theorem wp_storeTransferIdempotency_eq (key : Option String) (senderAccNo : String) (amount : D) {db₁ : Db D}
    {result : TransferResult D} {Q : Except Exn Unit → Db D × Session D → Prop}
    (h : Q (.ok ()) (((givenKey key).map fun k => db₁.keep B ⟨k, senderAccNo, "transfer",
      some ⟨some result.success, none, none, some (env.float result.senderBalance),
        some (env.float result.receiverBalance), some result.errorMessage⟩, amount⟩).getD db₁, {})) :
    wp (runs B) (storeTransferIdempotency env key senderAccNo amount result) Q (db₁, {}) := by
  unfold storeTransferIdempotency
  cases hk : givenKey key with
  | none =>
    rw [hk] at h
    exact h
  | some k =>
    rw [hk] at h
    exact wp_storeKey_eq B h

theorem wp_deposit (key : Option String) (accNo : String) (amount : D) (category : String) :
    wp (runs B) (((Order.deposit accNo amount category).request key).prog env draws)
      (tell env B draws db false key (.deposit accNo amount category)).Ends (db, {}) := by
  unfold Order.request Request.prog deposit
  rw [wp_bind]
  split
  · rename_i negative
    rw [tell_refused (show (Order.deposit accNo amount category).refusal = some _ from if_pos negative)]
    exact ⟨rfl, rfl⟩
  rename_i positive
  have asked : (Order.deposit accNo amount category).refusal = none := if_neg positive
  rw [wp_bind, wp_checkIdempotency_eq]
  cases known : db.kept key with
  | some record =>
    rw [tell_replayed asked (by rw [known]; rfl)]
    exact ⟨rfl, rfl⟩
  | none =>
    rw [tell_executed asked (by rw [known]; rfl), Option.map_none, andThen_ok, wp_bind]
    refine wp_accountLock B ?_
    simp only [depositLocked, wp_bind, wp_accountRepo_get, andThen_ok, Session.account?_nil]
    cases live : db.liveAccount? accNo with
    | none =>
      rw [execute_stopped (by simp only [Order.post, live]; rfl)]
      exact ⟨rfl, rfl, rfl⟩
    | some account =>
      simp only
      split
      · rename_i cannot
        rw [execute_stopped (by simp only [Order.post, live, cannot, if_true]; rfl)]
        exact ⟨rfl, rfl, rfl⟩
      rename_i can
      have posted : (Order.deposit accNo amount category).post env draws db =
          .ok (depositPosting env draws account accNo amount category) := by
        simp only [Order.post, live]
        exact if_neg can
      simp only [wp_bind, wp_accountRepo_update, wp_txnRepo_create, andThen_ok]
      rw [List.nil_append, staged_withBalance live (by simp)]
      refine wp_commit B _ (fun db₁ flushed => ⟨rfl, ?_⟩) fun e flushed => ⟨rfl, ?_⟩
      · rw [execute_posted posted flushed]
        simp only [pure_eq, andThen_ok, wp_bind]
        exact wp_storeIdempotency_eq B key accNo "deposit" _ amount _ ⟨rfl, rfl⟩
      · rw [execute_failed posted flushed]
        exact ⟨rfl, rfl⟩

theorem wp_withdraw (key : Option String) (accNo : String) (amount : D) (category : String) :
    wp (runs B) (((Order.withdraw accNo amount category).request key).prog env draws)
      (tell env B draws db false key (.withdraw accNo amount category)).Ends (db, {}) := by
  unfold Order.request Request.prog withdraw
  rw [wp_bind]
  split
  · rename_i negative
    rw [tell_refused (show (Order.withdraw accNo amount category).refusal = some _ from if_pos negative)]
    exact ⟨rfl, rfl⟩
  rename_i positive
  have asked : (Order.withdraw accNo amount category).refusal = none := if_neg positive
  rw [wp_bind, wp_checkIdempotency_eq]
  cases known : db.kept key with
  | some record =>
    rw [tell_replayed asked (by rw [known]; rfl)]
    exact ⟨rfl, rfl⟩
  | none =>
    rw [tell_executed asked (by rw [known]; rfl), Option.map_none, andThen_ok, wp_bind]
    refine wp_accountLock B ?_
    simp only [withdrawLocked, wp_bind, wp_accountRepo_get, andThen_ok, Session.account?_nil]
    cases live : db.liveAccount? accNo with
    | none =>
      rw [execute_stopped (by simp only [Order.post, live]; rfl)]
      exact ⟨rfl, rfl, rfl⟩
    | some account =>
      have post : (Order.withdraw accNo amount category).post env draws db =
          if !account.canTransact then .error (.ok (.service (refused s!"Account is {blockedStatus account}.")))
          else if account.balance < amount then
            .error (.ok (.service (refused s!"Insufficient balance. Available: {env.fmtCurrency account.balance}")))
          else if account.balance - amount < 0 then .error (.error (.valueError "Insufficient balance for withdraw."))
          else .ok (withdrawPosting env draws account accNo amount category) := by
        simp only [Order.post, live]
      simp only
      split
      · rename_i cannot
        rw [if_pos cannot] at post
        rw [execute_stopped post]
        exact ⟨rfl, rfl, rfl⟩
      rename_i can
      rw [if_neg can] at post
      split
      · rename_i short
        rw [if_pos short] at post
        rw [execute_stopped post]
        exact ⟨rfl, rfl, rfl⟩
      rename_i covered
      rw [if_neg covered] at post
      rw [wp_bind, ensureNonNegativeBalance]
      split
      · have below : account.balance - amount < 0 := by assumption
        rw [if_pos below] at post
        rw [execute_stopped post]
        exact ⟨rfl, rfl, rfl⟩
      have above : ¬account.balance - amount < 0 := by assumption
      rw [if_neg above] at post
      simp only [wp_bind, wp_ret, pure_eq, wp_accountRepo_update, wp_txnRepo_create, andThen_ok]
      rw [List.nil_append, staged_withBalance live (by simp)]
      refine wp_commit B _ (fun db₁ flushed => ⟨rfl, ?_⟩) fun e flushed => ⟨rfl, ?_⟩
      · rw [execute_posted post flushed]
        simp only [andThen_ok, wp_bind]
        exact wp_storeIdempotency_eq B key accNo "withdraw" _ amount _ ⟨rfl, rfl⟩
      · rw [execute_failed post flushed]
        exact ⟨rfl, rfl⟩

theorem wp_transfer (key : Option String) (senderAccNo receiverAccNo : String) (amount : D) (category : String) :
    wp (runs B) (((Order.transfer senderAccNo receiverAccNo amount category).request key).prog env draws)
      (tell env B draws db false key (.transfer senderAccNo receiverAccNo amount category)).Ends (db, {}) := by
  unfold Order.request Request.prog transfer
  rw [wp_bind]
  split
  · rename_i negative
    rw [tell_refused (show (Order.transfer senderAccNo receiverAccNo amount category).refusal = some _ from
      if_pos negative)]
    exact ⟨rfl, rfl⟩
  rename_i positive
  split
  · rename_i own
    rw [tell_refused (show (Order.transfer senderAccNo receiverAccNo amount category).refusal = some _ from
      (if_neg positive).trans (if_pos own))]
    exact ⟨rfl, rfl⟩
  rename_i distinct
  have asked : (Order.transfer senderAccNo receiverAccNo amount category).refusal = none :=
    (if_neg positive).trans (if_neg distinct)
  rw [wp_bind, wp_cachedTransfer_eq]
  cases known : (db.kept key).bind fun record =>
      (Order.transfer senderAccNo receiverAccNo amount category).replay record with
  | some reply =>
    obtain ⟨record, kept, parsed⟩ := Option.bind_eq_some_iff.mp known
    obtain ⟨data, json, rfl⟩ := Option.map_eq_some_iff.mp parsed
    rw [tell_replayed asked known, kept, Option.bind_some, json]
    exact ⟨rfl, rfl⟩
  | none =>
    have nothing : ((db.kept key).bind fun record => record.resultJson.map fun data =>
        ({ success := data.success.getD true, senderBalance := data.senderBalance.getD 0,
           receiverBalance := data.receiverBalance.getD 0,
           errorMessage := data.errorMessage.getD "" } : TransferResult D)) = none := by
      cases kept : db.kept key with
      | none => rfl
      | some record =>
        rw [kept, Option.bind_some] at known
        rw [Option.bind_some, Option.map_eq_none_iff.mp known, Option.map_none]
    rw [tell_executed asked known, nothing, andThen_ok, wp_bind, wp_tryCatch]
    refine wp_accountLock B ?_
    simp only [transferLocked, wp_bind, wp_accountRepo_get, andThen_ok, Session.account?_nil]
    cases liveSender : db.liveAccount? senderAccNo with
    | none =>
      rw [execute_stopped (by simp only [Order.post, liveSender]; rfl)]
      exact ⟨rfl, rfl, rfl⟩
    | some sender =>
    cases liveReceiver : db.liveAccount? receiverAccNo with
    | none =>
      rw [execute_stopped (by simp only [Order.post, liveSender, liveReceiver]; rfl)]
      exact ⟨rfl, rfl, rfl⟩
    | some receiver =>
      have post : (Order.transfer senderAccNo receiverAccNo amount category).post env draws db =
          if !sender.canTransact then .error (.ok (.transfer (transferRefused "Your account is frozen or closed.")))
          else if !receiver.canTransact then
            .error (.ok (.transfer (transferRefused "Recipient account is frozen or closed.")))
          else if sender.balance < amount then .error (.ok (.transfer (transferRefused
            s!"Insufficient balance. Available: {env.fmtCurrency sender.balance}")))
          else if sender.balance - amount < 0 then .error (.ok (.transfer (transferRefused
            "Transfer failed due to a database error. Please try again.")))
          else .ok (transferPosting env draws sender receiver senderAccNo receiverAccNo amount category) := by
        simp only [Order.post, liveSender, liveReceiver]
      simp only
      split
      · rename_i cannot
        rw [if_pos cannot] at post
        rw [execute_stopped post]
        exact ⟨rfl, rfl, rfl⟩
      rename_i canSender
      rw [if_neg canSender] at post
      split
      · rename_i cannot
        rw [if_pos cannot] at post
        rw [execute_stopped post]
        exact ⟨rfl, rfl, rfl⟩
      rename_i canReceiver
      rw [if_neg canReceiver] at post
      split
      · rename_i short
        rw [if_pos short] at post
        rw [execute_stopped post]
        exact ⟨rfl, rfl, rfl⟩
      rename_i covered
      rw [if_neg covered] at post
      rw [wp_bind]
      refine wp_beginNested B ?_
      rw [moveMoney, wp_bind, ensureNonNegativeBalance]
      split
      · have below : sender.balance - amount < 0 := by assumption
        rw [if_pos below] at post
        rw [execute_stopped post]
        exact ⟨rfl, rfl, rfl⟩
      have above : ¬sender.balance - amount < 0 := by assumption
      rw [if_neg above] at post
      have other : ∀ b, (sender.withBalance b).accountNumber ≠ receiverAccNo := fun b e =>
        distinct ((Ledger.accountNumber_of_live liveSender).symm.trans e)
      simp only [wp_bind, wp_ret, pure_eq, wp_accountRepo_update, wp_txnRepo_create, andThen_ok]
      rw [List.nil_append, staged_withBalance liveSender (by simp),
        staged_withBalance liveReceiver (by simpa [Change.onAccount] using other _)]
      refine wp_commit B _ (fun db₁ flushed => ⟨rfl, ?_⟩) fun e flushed => ⟨rfl, ?_⟩
      · rw [execute_posted post flushed]
        simp only [wp_bind]
        exact wp_storeTransferIdempotency_eq env B key senderAccNo amount ⟨rfl, rfl⟩
      · rw [execute_failed post flushed]
        exact ⟨rfl, rfl⟩

/-- **The services compute `tell`**, from every session between two calls. -/
theorem exec_order (inactive : Bool) (key : Option String) (o : Order D) :
    exec (handle B) ((o.request key).prog env draws) (db, ⟨[], inactive, none, []⟩) =
      ((tell env B draws db inactive key o).reply, (tell env B draws db inactive key o).db,
        ⟨[], (tell env B draws db inactive key o).inactive, none, []⟩) := by
  have ends : wp (runs B) ((o.request key).prog env draws) (tell env B draws db inactive key o).Ends
      (db, ⟨[], inactive, none, []⟩) := by
    cases inactive with
    | true => exact wp_order_inactive env B draws db key o
    | false =>
      cases o with
      | deposit => exact wp_deposit env B draws db key _ _ _
      | withdraw => exact wp_withdraw env B draws db key _ _ _
      | transfer => exact wp_transfer env B draws db key _ _ _ _
  obtain ⟨hr, hw⟩ := (wp_handler _ _ _ _).mp ends
  exact Prod.ext hr hw

end Refinement

/-! ## Errands -/

/-- An order with its key, its clock and its random ids. -/
structure Errand (D : Type) where
  order : Order D
  key : Option String
  draws : Draws

/-- The call of an errand. -/
def Errand.call (e : Errand D) : Call D := ⟨e.order.request e.key, e.draws⟩

section Errands

variable [Zero D] [Add D] [Sub D] [LE D] [LT D] [DecidableEq D] [DecidableLE D] [DecidableLT D]
variable (env : Env D) (B : Backend D)

/-- How an errand ends that a thread runs on a bank. -/
def Bank.told (bank : Bank D) (thread : ℕ) (e : Errand D) : Told D :=
  tell env B e.draws bank.db (bank.sessions thread).inactive e.key e.order

/-- Every session is clean or inactive with nothing pending. -/
def Bank.Rested (bank : Bank D) : Prop := ∀ t, bank.sessions t = ⟨[], (bank.sessions t).inactive, none, []⟩

/-- An errand, served. -/
theorem serve_errand {bank : Bank D} (rested : bank.Rested) (thread : ℕ) (e : Errand D) :
    bank.serve env B thread e.call = ((bank.told env B thread e).reply,
      ⟨(bank.told env B thread e).db,
        Function.update bank.sessions thread ⟨[], (bank.told env B thread e).inactive, none, []⟩⟩) := by
  have run := exec_order env B e.draws bank.db (bank.sessions thread).inactive e.key e.order
  rw [← rested thread] at run
  rw [Bank.serve]
  show (_, _) = _
  rw [Errand.call, Call.prog, run]
  rfl

theorem serve_rested {bank : Bank D} (rested : bank.Rested) (thread : ℕ) (e : Errand D) :
    (bank.serve env B thread e.call).2.Rested := by
  intro t
  rw [serve_errand env B rested]
  by_cases h : t = thread
  · subst h
    simp only [Function.update_self]
  · simp only [Function.update_of_ne h]
    exact rested t

/-- The calls of errands. -/
def calls (errands : List (ℕ × Errand D)) : List (ℕ × Call D) := errands.map fun te => (te.1, te.2.call)

end Errands

end UnionBank
