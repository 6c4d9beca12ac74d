import UnionBank.Failures
import UnionBank.Services.Async
import UnionBank.Lib.Coupling

/-!
# Async services refine the sync ones

The same requests, one after another, once on the sync and once on the async services, with the same faults of the
repository calls that write and a rollback after each call that raises: equal answers, exceptions included, and equal
stores after every call (`async_refines`). A transfer is the one that differs: the sync one works inside a savepoint and
catches what its whole locked section raises, the async one catches what the writes and the commit raise.

- `AsyncCall`: the requests both versions offer;
- `InStep`: worlds that differ in their locks and savepoints only; `Op.Unnested` operations keep it;
- `Agrees`, `Follows`: programs that answer alike; `transferLocked_coupled` for the locked sections of the transfers;
- `prog_follows`: every request; `rounds`: calls one after another.
-/

namespace UnionBank

open Keyed Programs Prog TransactionService

set_option linter.unusedSectionVars false

variable {D : Type} [Zero D] [Add D] [Sub D] [LE D] [LT D] [DecidableEq D] [DecidableLE D] [DecidableLT D]

/-! ## Requests that both versions offer -/

/-- There is no async loan service. -/
def Request.isLoan : Request D → Bool
  | .applyLoan .. | .approveLoan .. | .rejectLoan .. | .payEmi .. => true
  | _ => false

/-- A call of a service that has both versions. -/
structure AsyncCall (D : Type) extends Call D where
  offered : request.isLoan = false

/-- The program of a request on the async services. -/
def Request.asyncProg (env : Env D) (draws : Draws) : (request : Request D) → request.isLoan = false → Svc D (Reply D)
  | .deposit accNo amount category key, _ => do
    return .service (← AsyncTransactionService.deposit env draws accNo amount category key)
  | .withdraw accNo amount category key, _ => do
    return .service (← AsyncTransactionService.withdraw env draws accNo amount category key)
  | .transfer sender receiver amount category key, _ => do
    return .transfer (← AsyncTransactionService.transfer env draws sender receiver amount category key)
  | .applyInterest accNo, _ => do return .service (← AsyncTransactionService.applyInterest env draws accNo)
  | .createGoal accNo name target targetDate, _ => do
    return .service (← AsyncSavingsGoalService.createGoal draws accNo name target targetDate)
  | .contribute accNo goalId amount, _ => do
    return .service (← AsyncSavingsGoalService.contribute env draws accNo goalId amount)
  | .deleteGoal accNo goalId, _ => do return .service (← AsyncSavingsGoalService.deleteGoal accNo goalId)
  | .freezeAccount accNo actor reason, _ => do
    return .service (← AsyncAdminService.freezeAccount draws accNo actor reason)
  | .unfreezeAccount accNo actor reason, _ => do
    return .service (← AsyncAdminService.unfreezeAccount draws accNo actor reason)
  | .deleteAccount accNo actor reason, _ => do
    return .service (← AsyncAdminService.deleteAccount draws accNo actor reason)
  | .updateProfile accNo kwargs, _ => do return .service (← AsyncAccountService.updateProfile accNo kwargs)
  | .changePassword accNo currentPwd newPwd, _ => do
    return .service (← AsyncAccountService.changePassword env accNo currentPwd newPwd)
  | .closeAccount accNo password, _ => do return .service (← AsyncAccountService.closeAccount env accNo password)
  | .applyLoan .., offered | .approveLoan .., offered | .rejectLoan .., offered | .payEmi .., offered =>
    Bool.noConfusion offered

/-- The program of a call on the async services. -/
def AsyncCall.prog (env : Env D) (c : AsyncCall D) : Svc D (Reply D) := c.request.asyncProg env c.draws c.offered

/-! ## Runs with faults of the calls that write -/

/-- A repository call that may fail: one that writes, or a commit. -/
def Op.isWrite : Op D → Bool
  | .query q => !q.isRead
  | .create _ | .commit => true
  | _ => false

/-- The store, a session, and the faults to come. -/
abbrev Faulted (D : Type) := (Db D × Session D) × List (Option Exn)

/-- The session, with a fault where one is due. -/
def striking (B : Backend D) : Handler (Op.Res (D := D)) Exn (Faulted D) := struckBy (handle B) failed Op.isWrite

/-- A call with its faults: the answer and the world after it, rolled back when the call has raised. -/
def round (B : Backend D) (p : Svc D (Reply D)) (faults : List (Option Exn)) (w : Db D × Session D) :
    Except Exn (Reply D) × Db D × Session D :=
  match exec (striking B) p (w, faults) with
  | (.ok reply, (w', _)) => (.ok reply, w')
  | (.error e, (w', _)) => (.error e, (w'.1, w'.2.clear))

/-- Calls one after another, on one session: the answers, and the store after each. -/
def rounds (B : Backend D) (prog : AsyncCall D → Svc D (Reply D)) :
    Db D × Session D → List (AsyncCall D × List (Option Exn)) → List (Except Exn (Reply D) × Db D)
  | _, [] => []
  | w, (c, faults) :: rest =>
    let (r, w') := round B (prog c) faults w
    (r, w'.1) :: rounds B prog w' rest

/-! ## Worlds that differ in locks and savepoints -/

/-- The same store and the same pending changes. -/
structure InStep (w v : Db D × Session D) : Prop where
  store : w.1 = v.1
  pending : w.2.pending = v.2.pending
  inactive : w.2.inactive = v.2.inactive

/-- Such worlds between two calls. -/
structure Unbegun (w v : Db D × Session D) : Prop extends InStep w v where
  clean : w.2.pending = []
  live : w.2.inactive = false

theorem inStep_of_unbegun (x y : Faulted D) (ready : SameFaults Unbegun x y) : SameFaults InStep x y :=
  ⟨ready.1, ready.2.toInStep⟩

/-- An operation that looks at neither locks nor savepoints. -/
def Op.Unnested : Op D → Prop
  | .query _ | .create _ | .commit | .rollback => True
  | _ => False

section Unnested

variable {B : Backend D} {w v : Db D × Session D}

theorem failed_inStep {o : Op D} (alike : InStep w v) : InStep (failed o w) (failed o v) := by
  obtain ⟨db, p, inactive, sp, held⟩ := w
  obtain ⟨_, _, _, sp', held'⟩ := v
  obtain ⟨rfl, rfl, rfl⟩ := alike
  cases flushes : o.flushes with
  | true => simp only [failed, flushes, if_true]; exact ⟨rfl, rfl, rfl⟩
  | false => simp only [failed, flushes, Bool.false_eq_true, if_false]; exact ⟨rfl, rfl, rfl⟩

theorem handle_inStep {o : Op D} (plain : o.Unnested) : Paired (handle B) (handle B) InStep o := by
  rintro ⟨db, p, inactive, sp, held⟩ ⟨_, _, _, sp', held'⟩ ⟨rfl, rfl, rfl⟩
  cases o with
  | query q =>
    have answers : q.answer db ⟨p, inactive, sp, held⟩ = q.answer db ⟨p, inactive, sp', held'⟩ := by cases q <;> rfl
    have stages : q.staged db ⟨p, inactive, sp, held⟩ = q.staged db ⟨p, inactive, sp', held'⟩ := by cases q <;> rfl
    cases inactive with
    | true => exact ⟨rfl, rfl, rfl, rfl⟩
    | false => exact ⟨congrArg Except.ok answers, rfl, congrArg (p ++ ·) stages, rfl⟩
  | create row => exact ⟨rfl, rfl, rfl, rfl⟩
  | commit =>
    cases inactive with
    | true => exact ⟨rfl, rfl, rfl, rfl⟩
    | false =>
      simp only [handle]
      cases flush B p db with
      | ok db' => exact ⟨rfl, rfl, rfl, rfl⟩
      | error e => exact ⟨rfl, rfl, rfl, rfl⟩
  | rollback => exact ⟨rfl, rfl, rfl, rfl⟩
  | acquire | release | beginNested | releaseNested | rollbackNested => exact plain.elim

/-- A program of plain operations does the same from worlds that are alike. -/
theorem unnested_coupled {α : Type} {p : Svc D α} (plain : p.All Op.Unnested) :
    Coupled (striking B) (striking B) (SameFaults InStep) p p (Same (SameFaults InStep)) :=
  .refl (all_mono (fun _ here => (handle_inStep here).struckBy fun _ _ _ alike => failed_inStep alike) plain)

end Unnested

/-! ## Locked sections -/

section Locked

variable {B : Backend D} {α β : Type}

/-- The world with other locks. -/
def Faulted.holding (x : Faulted D) (held : List String) : Faulted D := ((x.1.1, { x.1.2 with held }), x.2)

theorem exec_acquire (accNo : String) (x : Faulted D) :
    exec (striking B) (perform (Op.acquire accNo)) x = (.ok (), x.holding (x.1.2.held ++ [accNo])) :=
  exec_struckBy_uncounted rfl _ _

theorem exec_release (accNo : String) (x : Faulted D) :
    exec (striking B) (perform (Op.release accNo)) x = (.ok (), x.holding (x.1.2.held.erase accNo)) :=
  exec_struckBy_uncounted rfl _ _

theorem exec_acquireAll (accNos : List String) (x : Faulted D) :
    exec (striking B) (acquireAll accNos) x = (.ok (), x.holding (x.1.2.held ++ accNos)) := by
  induction accNos generalizing x with
  | nil =>
    rw [acquireAll, List.append_nil]
    rfl
  | cons accNo accNos ih =>
    rw [acquireAll, exec_bind, exec_acquire]
    exact (ih _).trans (by simp only [Faulted.holding, List.append_assoc, List.singleton_append])

theorem exec_releaseAll (accNos : List String) (x : Faulted D) :
    exec (striking B) (releaseAll accNos) x = (.ok (), x.holding (accNos.foldl List.erase x.1.2.held)) := by
  induction accNos generalizing x with
  | nil =>
    rw [releaseAll]
    rfl
  | cons accNo accNos ih =>
    rw [releaseAll, exec_bind, exec_release]
    exact ih _

theorem exec_ensuring (p : Svc D α) (cleanup : Svc D Unit) (x : Faulted D) {held : Faulted D → List String}
    (releases : ∀ y, exec (striking B) cleanup y = (.ok (), y.holding (held y))) :
    exec (striking B) (p.ensuring cleanup) x =
      ((exec (striking B) p x).1, (exec (striking B) p x).2.holding (held (exec (striking B) p x).2)) := by
  rw [ensuring, exec_bind, exec_attempt]
  simp only
  rw [exec_bind, releases]
  simp only [exec_ofExcept]

/-- A locked section is its body, but for the locks. -/
theorem exec_accountLock (accNos : List String) (body : Svc D α) (x : Faulted D) :
    ∃ held held', exec (striking B) (accountLock accNos body) x =
      ((exec (striking B) body (x.holding held)).1, (exec (striking B) body (x.holding held)).2.holding held') := by
  have enter : exec (striking B) (accountLock accNos body) x =
      exec (striking B) (body.ensuring (releaseAll (accNos.insertionSort (· ≤ ·))))
        (x.holding (x.1.2.held ++ accNos.insertionSort (· ≤ ·))) := by
    rw [accountLock, exec_bind, exec_acquireAll]
  exact ⟨_, _, enter.trans (exec_ensuring _ _ _ (exec_releaseAll _))⟩

theorem exec_withAccountLock (accNos : List String) (body : Svc D α) (x : Faulted D) :
    ∃ held held', exec (striking B) (AsyncTransactionService.withAccountLock accNos body) x =
      ((exec (striking B) body (x.holding held)).1, (exec (striking B) body (x.holding held)).2.holding held') := by
  have enter : exec (striking B) (AsyncTransactionService.withAccountLock accNos body) x =
      exec (striking B) (body.ensuring (perform (Op.release (AsyncTransactionService.lockKey accNos))))
        (x.holding (x.1.2.held ++ [AsyncTransactionService.lockKey accNos])) := by
    rw [AsyncTransactionService.withAccountLock, exec_bind, exec_acquire]
  exact ⟨_, _, enter.trans (exec_ensuring _ _ _ (exec_release _))⟩

/-- What does not look at locks relates locked sections as it relates their bodies. -/
theorem locked_coupled {Φ : Faulted D → Faulted D → Prop}
    {Ψ : Except Exn α × Faulted D → Except Exn β × Faulted D → Prop}
    (before : ∀ x y held held', Φ x y → Φ (x.holding held) (y.holding held'))
    (after : ∀ r r' x y held held', Ψ (r, x) (r', y) → Ψ (r, x.holding held) (r', y.holding held'))
    {body : Svc D α} {body' : Svc D β} (inner : Coupled (striking B) (striking B) Φ body body' Ψ)
    (accNos : List String) :
    Coupled (striking B) (striking B) Φ (accountLock accNos body)
      (AsyncTransactionService.withAccountLock accNos body') Ψ := by
  intro x y related
  obtain ⟨held, left, run⟩ := exec_accountLock accNos body x (B := B)
  obtain ⟨held', left', run'⟩ := exec_withAccountLock accNos body' y (B := B)
  rw [run, run']
  exact after _ _ _ _ _ _ (inner _ _ (before x y held held' related))

/-- Plain bodies. -/
theorem unnested_locked {body : Svc D α} (plain : body.All Op.Unnested) (accNos : List String) :
    Coupled (striking B) (striking B) (SameFaults InStep) (accountLock accNos body)
      (AsyncTransactionService.withAccountLock accNos body) (Same (SameFaults InStep)) := by
  refine locked_coupled (fun x y held held' related => ?_) (fun r r' x y held held' same => ?_) (unnested_coupled plain)
    accNos
  · exact ⟨related.1, related.2.store, related.2.pending, related.2.inactive⟩
  · exact ⟨same.1, same.2.1, same.2.2.store, same.2.2.pending, same.2.2.inactive⟩

end Locked

/-! ## Movements -/

section Movements

variable (env : Env D) (draws : Draws)

theorem ask_unnested (q : Query D) : (ask q).All Op.Unnested := all_perform trivial
theorem add_unnested (row : NewRow D) : (add row).All Op.Unnested := all_perform trivial
theorem commit_unnested : (perform Op.commit : Svc D Unit).All Op.Unnested := all_perform trivial
theorem rollback_unnested : (perform Op.rollback : Svc D Unit).All Op.Unnested := all_perform trivial

theorem storeKey_unnested (record : IdempotencyRecord D) :
    (tryCatch (do idempotencyRepo.create record; idempotencyRepo.commit) fun _ => idempotencyRepo.rollback :
      Svc D Unit).All Op.Unnested :=
  all_tryCatch (all_bind (add_unnested _) fun _ => commit_unnested) fun _ => rollback_unnested

theorem checkIdempotency_unnested (key : Option String) : (checkIdempotency key : Svc D _).All Op.Unnested := by
  unfold checkIdempotency
  split
  · refine all_bind (ask_unnested _) fun existing => ?_
    split
    · split <;> trivial
    · trivial
  · trivial

theorem cachedTransfer_unnested (key : Option String) : (cachedTransfer key : Svc D _).All Op.Unnested := by
  unfold cachedTransfer
  split
  · refine all_bind (ask_unnested _) fun existing => ?_
    split
    · split <;> trivial
    · trivial
  · trivial

theorem storeIdempotency_unnested (key : Option String) (accNo operation : String) (amount : D)
    (result : ServiceResult D) (balance : D) :
    (storeIdempotency key accNo operation amount result balance).All Op.Unnested := by
  unfold storeIdempotency
  split
  · exact storeKey_unnested _
  · trivial

theorem storeTransferIdempotency_unnested (key : Option String) (senderAccNo : String) (amount : D)
    (result : TransferResult D) : (storeTransferIdempotency env key senderAccNo amount result).All Op.Unnested := by
  unfold storeTransferIdempotency
  split
  · exact storeKey_unnested _
  · trivial

theorem ensureNonNegativeBalance_unnested (balance : D) (operation : String) :
    (ensureNonNegativeBalance balance operation).All Op.Unnested := by
  unfold ensureNonNegativeBalance
  split <;> trivial

theorem depositLocked_unnested (accNo : String) (amount : D) (category : String) :
    (depositLocked draws accNo amount category).All Op.Unnested := by
  unfold depositLocked
  refine all_bind (ask_unnested _) fun account => ?_
  split
  · split
    · trivial
    · exact all_bind (ask_unnested _) fun _ => all_bind (add_unnested _) fun _ =>
        all_bind commit_unnested fun _ => trivial
  · trivial

theorem withdrawLocked_unnested (accNo : String) (amount : D) (category : String) :
    (withdrawLocked env draws accNo amount category).All Op.Unnested := by
  unfold withdrawLocked
  refine all_bind (ask_unnested _) fun account => ?_
  split
  · split
    · trivial
    · split
      · trivial
      · exact all_bind (ensureNonNegativeBalance_unnested _ _) fun _ => all_bind (ask_unnested _) fun _ =>
          all_bind (add_unnested _) fun _ => all_bind commit_unnested fun _ => trivial
  · trivial

theorem moveMoney_unnested (sender receiver : Account D) (senderAccNo receiverAccNo : String) (amount : D)
    (cat : String) : (moveMoney draws sender receiver senderAccNo receiverAccNo amount cat).All Op.Unnested := by
  unfold moveMoney
  exact all_bind (ensureNonNegativeBalance_unnested _ _) fun _ => all_bind (ask_unnested _) fun _ =>
    all_bind (ask_unnested _) fun _ => all_bind (add_unnested _) fun _ => all_bind (add_unnested _) fun _ => trivial

variable (B : Backend D)

/-- Two programs that answer alike in worlds that are alike. -/
abbrev Agrees {α : Type} (p q : Svc D α) : Prop :=
  Coupled (striking B) (striking B) (SameFaults InStep) p q (Same (SameFaults InStep))

/-- The same, from sessions with nothing pending. -/
abbrev Follows {α : Type} (p q : Svc D α) : Prop :=
  Coupled (striking B) (striking B) (SameFaults Unbegun) p q (Same (SameFaults InStep))

variable {B}

theorem Agrees.follows {α : Type} {p q : Svc D α} (agrees : Agrees B p q) : Follows B p q :=
  fun x y ready => agrees x y (inStep_of_unbegun x y ready)

theorem deposit_agrees (accNo : String) (amount : D) (category : String) (key : Option String) :
    Agrees B (TransactionService.deposit env draws accNo amount category key)
      (AsyncTransactionService.deposit env draws accNo amount category key) := by
  unfold TransactionService.deposit AsyncTransactionService.deposit
  split
  · exact .ret
  refine .bind (unnested_coupled (checkIdempotency_unnested key)) (fun _ _ => id) fun cached => ?_
  cases cached with
  | some cached => exact .ret
  | none =>
    refine .bind (unnested_locked (depositLocked_unnested ..) _) (fun _ _ => id) fun outcome => ?_
    cases outcome with
    | error refusal => exact .ret
    | ok account => exact unnested_coupled (all_bind (storeIdempotency_unnested ..) fun _ => trivial)

theorem withdraw_agrees (accNo : String) (amount : D) (category : String) (key : Option String) :
    Agrees B (TransactionService.withdraw env draws accNo amount category key)
      (AsyncTransactionService.withdraw env draws accNo amount category key) := by
  unfold TransactionService.withdraw AsyncTransactionService.withdraw
  split
  · exact .ret
  refine .bind (unnested_coupled (checkIdempotency_unnested key)) (fun _ _ => id) fun cached => ?_
  cases cached with
  | some cached => exact .ret
  | none =>
    refine .bind (unnested_locked (withdrawLocked_unnested ..) _) (fun _ _ => id) fun outcome => ?_
    cases outcome with
    | error refusal => exact .ret
    | ok account => exact unnested_coupled (all_bind (storeIdempotency_unnested ..) fun _ => trivial)

/-! ### Transfers -/

/-- How the locked sections of a transfer end: alike, or the sync one raises where the async one has rolled back. -/
inductive Transferred {α β : Type} (refusal : β) :
    Except Exn (Except β α) × Faulted D → Except Exn (Except β α) × Faulted D → Prop
  | alike {r : Except β α} {x y : Faulted D} (worlds : SameFaults InStep x y) :
    Transferred refusal (.ok r, x) (.ok r, y)
  | failed {e : Exn} {x y : Faulted D} (faults : x.2 = y.2) (store : x.1.1 = y.1.1) (clean : y.1.2.pending = [])
      (live : y.1.2.inactive = false) : Transferred refusal (.error e, x) (.ok (.error refusal), y)

theorem exec_beginNested {α : Type} (p : Svc D α) (db : Db D) (sp : Option ℕ) (held : List String)
    (faults : List (Option Exn)) :
    exec (striking B) (beginNested p) ((db, ⟨[], false, sp, held⟩), faults) =
      match exec (striking B) p ((db, ⟨[], false, some 0, held⟩), faults) with
      | (.ok a, v) => (.ok a, ((v.1.1, { v.1.2 with savepoint := none }), v.2))
      | (.error e, v) => (.error e, ((v.1.1, { v.1.2 with
          pending := v.1.2.pending.take (v.1.2.savepoint.getD v.1.2.pending.length), savepoint := none }), v.2)) := by
  have begins : exec (striking B) (perform Op.beginNested) ((db, ⟨[], false, sp, held⟩), faults) =
      (.ok (), ((db, ⟨[], false, some 0, held⟩), faults)) := exec_struckBy_uncounted rfl _ _
  rw [beginNested, exec_bind, begins]
  dsimp only
  rw [exec_bind, exec_attempt]
  rcases exec (striking B) p ((db, ⟨[], false, some 0, held⟩), faults) with ⟨_ | _, v⟩
  · dsimp only
    rw [exec_bind, striking, exec_struckBy_uncounted rfl]
    rfl
  · dsimp only
    rw [exec_bind, striking, exec_struckBy_uncounted rfl]
    rfl

theorem commit_agrees : Agrees B (accountRepo.commit) (accountRepo.commit) := unnested_coupled commit_unnested

/-- A savepoint and a commit, and the same without a savepoint but with a rollback of what fails. -/
theorem nested_coupled {α β : Type} {p : Svc D α} (plain : p.All Op.Unnested) (refusal : β) :
    Coupled (striking B) (striking B) (SameFaults Unbegun)
      (do
        let a ← beginNested p
        accountRepo.commit
        return Except.ok a)
      (tryCatch
        (do
          let a ← p
          accountRepo.commit
          pure (Except.ok a))
        fun _ => do
          accountRepo.rollback
          pure (Except.error refusal)) (Transferred refusal) := by
  rintro ⟨⟨db, p₀, inactive, sp, held⟩, faults⟩ ⟨⟨_, _, _, sp', held'⟩, _⟩ ⟨rfl, ⟨rfl, rfl, rfl⟩, clean, live⟩
  dsimp only at clean live
  subst clean live
  obtain ⟨same, worlds⟩ := unnested_coupled (B := B) plain ((db, ⟨[], false, some 0, held⟩), faults)
    ((db, ⟨[], false, sp', held'⟩), faults) ⟨rfl, rfl, rfl, rfl⟩
  rw [exec_bind, exec_beginNested, exec_tryCatch, exec_bind]
  rcases run : exec (striking B) p ((db, ⟨[], false, some 0, held⟩), faults) with ⟨r, v⟩
  rcases run' : exec (striking B) p ((db, ⟨[], false, sp', held'⟩), faults) with ⟨r', v'⟩
  rw [run, run'] at same worlds
  dsimp only at same worlds ⊢
  subst same
  cases r with
  | error e =>
    dsimp only
    exact .failed worlds.1 worlds.2.store rfl rfl
  | ok a =>
    dsimp only
    obtain ⟨same, worlds'⟩ := commit_agrees (B := B) ((v.1.1, { v.1.2 with savepoint := none }), v.2) v'
      ⟨worlds.1, worlds.2.store, worlds.2.pending, worlds.2.inactive⟩
    rw [exec_bind, exec_bind]
    rcases left : exec (striking B) accountRepo.commit ((v.1.1, { v.1.2 with savepoint := none }), v.2) with ⟨r, u⟩
    rcases right : exec (striking B) accountRepo.commit v' with ⟨r', u'⟩
    rw [left, right] at same worlds'
    dsimp only at same worlds' ⊢
    subst same
    cases r with
    | error e => exact .failed worlds'.1 worlds'.2.store rfl rfl
    | ok => exact .alike worlds'

theorem exec_get (accNo : String) (db : Db D) (sp : Option ℕ) (held : List String) (faults : List (Option Exn)) :
    exec (striking B) (accountRepo.get accNo) ((db, ⟨[], false, sp, held⟩), faults) =
      (.ok (db.liveAccount? accNo), ((db, ⟨[], false, sp, held⟩), faults)) := by
  rw [accountRepo.get, ask, striking, exec_struckBy_uncounted rfl]
  simp only [handle, Bool.false_eq_true, if_false, Query.answer, Session.account?_nil]
  rfl

theorem transferLocked_coupled (senderAccNo receiverAccNo : String) (amount : D) (cat : String) :
    Coupled (striking B) (striking B) (SameFaults Unbegun)
      (TransactionService.transferLocked env draws senderAccNo receiverAccNo amount cat)
      (AsyncTransactionService.transferLocked env draws senderAccNo receiverAccNo amount cat)
      (Transferred (transferRefused "Transfer failed due to a database error. Please try again.")) := by
  intro x y ready
  have both := ready
  obtain ⟨⟨db, p₀, inactive, sp, held⟩, faults⟩ := x
  obtain ⟨⟨_, _, _, sp', held'⟩, _⟩ := y
  obtain ⟨rfl, ⟨rfl, rfl, rfl⟩, clean, live⟩ := ready
  dsimp only at clean live
  subst clean live
  have alike : SameFaults InStep ((db, ⟨[], false, sp, held⟩), faults) ((db, ⟨[], false, sp', held'⟩), faults) :=
    ⟨rfl, rfl, rfl, rfl⟩
  unfold TransactionService.transferLocked AsyncTransactionService.transferLocked
  rw [exec_bind, exec_get, exec_bind, exec_get]
  dsimp only
  rw [exec_bind, exec_get, exec_bind, exec_get]
  dsimp only
  cases db.liveAccount? senderAccNo with
  | none => exact .alike alike
  | some sender =>
  cases db.liveAccount? receiverAccNo with
  | none => exact .alike alike
  | some receiver =>
    dsimp only
    split
    · exact .alike alike
    split
    · exact .alike alike
    split
    · exact .alike alike
    · exact nested_coupled (moveMoney_unnested draws sender receiver senderAccNo receiverAccNo amount cat) _ _ _ both

/-- What the sync transfer catches around its locks, the async one has caught inside. -/
theorem guarded_follows (senderAccNo receiverAccNo : String) (amount : D) (cat : String) :
    Follows B
      (tryCatch
        (accountLock [senderAccNo, receiverAccNo]
          (TransactionService.transferLocked env draws senderAccNo receiverAccNo amount cat))
        fun _ => do
          accountRepo.rollback
          return .error (transferRefused "Transfer failed due to a database error. Please try again."))
      (AsyncTransactionService.withAccountLock [senderAccNo, receiverAccNo]
        (AsyncTransactionService.transferLocked env draws senderAccNo receiverAccNo amount cat)) := by
  intro x y ready
  have ends := locked_coupled (fun x y held held' ready => ?_) (fun r r' x y held held' ends => ?_)
    (transferLocked_coupled env draws senderAccNo receiverAccNo amount cat (B := B)) [senderAccNo, receiverAccNo]
    x y ready
  · rw [exec_tryCatch]
    rcases left : exec (striking B) (accountLock [senderAccNo, receiverAccNo]
      (TransactionService.transferLocked env draws senderAccNo receiverAccNo amount cat)) x with ⟨r, u⟩
    rcases right : exec (striking B) (AsyncTransactionService.withAccountLock [senderAccNo, receiverAccNo]
      (AsyncTransactionService.transferLocked env draws senderAccNo receiverAccNo amount cat)) y with ⟨r', v⟩
    rw [left, right] at ends
    cases ends with
    | alike worlds => exact ⟨rfl, worlds⟩
    | failed faults store clean live => exact ⟨rfl, faults, store, clean.symm, live.symm⟩
  · exact ⟨ready.1, ⟨ready.2.store, ready.2.pending, ready.2.inactive⟩, ready.2.clean, ready.2.live⟩
  · cases ends with
    | alike worlds => exact .alike ⟨worlds.1, worlds.2.store, worlds.2.pending, worlds.2.inactive⟩
    | failed faults store clean live => exact .failed faults store clean live

/-- A read between two calls. -/
theorem cachedTransfer_unbegun (key : Option String) :
    Coupled (striking B) (striking B) (SameFaults Unbegun) (cachedTransfer key) (cachedTransfer key)
      (Same (SameFaults Unbegun)) := by
  have read : ∀ key, Coupled (striking B) (striking B) (SameFaults Unbegun) (idempotencyRepo.get key)
      (idempotencyRepo.get key) (Same (SameFaults Unbegun)) := by
    rintro key ⟨⟨db, p₀, inactive, sp, held⟩, faults⟩ ⟨⟨_, _, _, sp', held'⟩, _⟩ ⟨rfl, ⟨rfl, rfl, rfl⟩, clean, live⟩
    dsimp only at clean live
    subst clean live
    exact ⟨rfl, rfl, ⟨rfl, rfl, rfl⟩, rfl, rfl⟩
  unfold cachedTransfer
  split
  · refine .bind (read _) (fun _ _ => id) fun existing => ?_
    split
    · split <;> exact .ret
    · exact .ret
  · exact .ret

theorem transfer_follows (senderAccNo receiverAccNo : String) (amount : D) (category : String) (key : Option String) :
    Follows B (TransactionService.transfer env draws senderAccNo receiverAccNo amount category key)
      (AsyncTransactionService.transfer env draws senderAccNo receiverAccNo amount category key) := by
  have ended : ∀ r : TransferResult D, Follows B (ret r) (ret r) :=
    fun r x y ready => ⟨rfl, inStep_of_unbegun x y ready⟩
  unfold TransactionService.transfer AsyncTransactionService.transfer
  split
  · exact ended _
  split
  · exact ended _
  refine .bind (cachedTransfer_unbegun key) inStep_of_unbegun fun cached => ?_
  cases cached with
  | some cached => exact ended _
  | none =>
    refine .bind (guarded_follows env draws senderAccNo receiverAccNo amount (knownCategory category)) (fun _ _ => id)
      fun outcome => ?_
    cases outcome with
    | error refusal => exact .ret
    | ok balances => exact unnested_coupled (all_bind (storeTransferIdempotency_unnested ..) fun _ => trivial)

end Movements

/-! ## Every request -/

section Requests

variable (env : Env D) (draws : Draws)

theorem applyInterest_unnested (accNo : String) :
    (TransactionService.applyInterest env draws accNo).All Op.Unnested := by
  refine all_bind (ask_unnested _) fun account => ?_
  cases account with
  | none => trivial
  | some account =>
    dsimp only
    split
    · trivial
    split
    · trivial
    · exact all_bind (ask_unnested _) fun _ => all_bind (add_unnested _) fun _ =>
        all_bind commit_unnested fun _ => trivial

theorem createGoal_unnested (accNo name : String) (target : D) (targetDate : Option String) :
    (SavingsGoalService.createGoal draws accNo name target targetDate).All Op.Unnested := by
  unfold SavingsGoalService.createGoal
  split
  · trivial
  split
  · trivial
  · exact all_bind (add_unnested _) fun _ => all_bind commit_unnested fun _ => trivial

theorem contribute_unnested (accNo goalId : String) (amount : D) :
    (SavingsGoalService.contribute env draws accNo goalId amount).All Op.Unnested := by
  unfold SavingsGoalService.contribute
  split
  · trivial
  refine all_bind (ask_unnested _) fun account => ?_
  cases account with
  | none => trivial
  | some account =>
    dsimp only
    split
    · trivial
    refine all_bind (ask_unnested _) fun goal => ?_
    cases goal with
    | none => trivial
    | some goal =>
      exact all_bind (ask_unnested _) fun _ => all_bind (add_unnested _) fun _ => all_bind (ask_unnested _) fun _ =>
        all_bind commit_unnested fun _ => trivial

theorem deleteGoal_unnested (accNo goalId : String) :
    (SavingsGoalService.deleteGoal (D := D) accNo goalId).All Op.Unnested := by
  refine all_bind (ask_unnested _) fun goal => ?_
  cases goal with
  | none => trivial
  | some goal =>
    refine all_bind (ask_unnested _) fun _ => ?_
    dsimp only
    split
    · refine all_bind (ask_unnested _) fun account => ?_
      cases account with
      | none => exact all_bind commit_unnested fun _ => trivial
      | some account => exact all_bind (ask_unnested _) fun _ => all_bind commit_unnested fun _ => trivial
    · exact all_bind commit_unnested fun _ => trivial

theorem auditLog_unnested (actor action target details : String) (reason : Option String) (now : Time) :
    (AdminService.auditLog (D := D) actor action target details reason now).All Op.Unnested :=
  all_bind (add_unnested _) fun _ => commit_unnested

theorem freezeAccount_unnested (accNo actor : String) (reason : Option String) :
    (AdminService.freezeAccount (D := D) draws accNo actor reason).All Op.Unnested := by
  refine all_bind (ask_unnested _) fun account => ?_
  cases account with
  | none => trivial
  | some account =>
    dsimp only
    split
    · trivial
    split
    · trivial
    · exact all_bind (ask_unnested _) fun _ => all_bind (ask_unnested _) fun _ => all_bind commit_unnested fun _ =>
        all_bind (auditLog_unnested ..) fun _ => trivial

theorem unfreezeAccount_unnested (accNo actor : String) (reason : Option String) :
    (AdminService.unfreezeAccount (D := D) draws accNo actor reason).All Op.Unnested := by
  refine all_bind (ask_unnested _) fun account => ?_
  cases account with
  | none => trivial
  | some account =>
    dsimp only
    split
    · trivial
    · exact all_bind (ask_unnested _) fun _ => all_bind commit_unnested fun _ =>
        all_bind (auditLog_unnested ..) fun _ => trivial

theorem deleteAccount_unnested (accNo actor : String) (reason : Option String) :
    (AdminService.deleteAccount (D := D) draws accNo actor reason).All Op.Unnested := by
  refine all_bind (ask_unnested _) fun account => ?_
  cases account with
  | none => trivial
  | some account =>
    exact all_bind (ask_unnested _) fun _ => all_bind commit_unnested fun _ =>
      all_bind (auditLog_unnested ..) fun _ => trivial

theorem updateProfile_unnested (accNo : String) (kwargs : List (AccountService.AccountField D)) :
    (AccountService.updateProfile accNo kwargs).All Op.Unnested := by
  refine all_bind (ask_unnested _) fun account => ?_
  cases account with
  | none => trivial
  | some account =>
    refine all_bind ?_ fun _ => all_bind (ask_unnested _) fun _ => all_bind commit_unnested fun _ => trivial
    cases kwargs.foldlM AccountService.AccountField.assign account <;> trivial

theorem changePassword_unnested (accNo currentPwd newPwd : String) :
    (AccountService.changePassword (D := D) env accNo currentPwd newPwd).All Op.Unnested := by
  refine all_bind (ask_unnested _) fun account => ?_
  cases account with
  | none => trivial
  | some account =>
    dsimp only
    split
    · trivial
    · exact all_bind (ask_unnested _) fun _ => all_bind (ask_unnested _) fun _ =>
        all_bind commit_unnested fun _ => trivial

theorem closeAccount_unnested (accNo password : String) :
    (AccountService.closeAccount (D := D) env accNo password).All Op.Unnested := by
  refine all_bind (ask_unnested _) fun account => ?_
  cases account with
  | none => trivial
  | some account =>
    dsimp only
    split
    · trivial
    · exact all_bind (ask_unnested _) fun _ => all_bind commit_unnested fun _ => trivial

variable {B : Backend D}

/-- **A call on the two services**, from sessions with nothing pending. -/
theorem prog_follows (c : AsyncCall D) : Follows B (c.toCall.prog env) (c.prog env) := by
  have answered : ∀ {α : Type} {p q : Svc D α} (f : α → Reply D), Follows B p q →
      Follows B (do return f (← p)) (do return f (← q)) :=
    fun f follows => follows.bind (fun _ _ => id) fun _ => .ret
  have plain : ∀ {α : Type} {p : Svc D α} (f : α → Reply D), p.All Op.Unnested →
      Follows B (do return f (← p)) (do return f (← p)) :=
    fun f all => answered f (Agrees.follows (unnested_coupled all))
  obtain ⟨⟨request, draws⟩, offered⟩ := c
  cases request with
  | deposit => exact answered _ (Agrees.follows (deposit_agrees env draws _ _ _ _))
  | withdraw => exact answered _ (Agrees.follows (withdraw_agrees env draws _ _ _ _))
  | transfer => exact answered _ (transfer_follows env draws _ _ _ _ _)
  | applyInterest => exact plain _ (applyInterest_unnested env draws _)
  | createGoal => exact plain _ (createGoal_unnested draws ..)
  | contribute => exact plain _ (contribute_unnested env draws ..)
  | deleteGoal => exact plain _ (deleteGoal_unnested ..)
  | freezeAccount => exact plain _ (freezeAccount_unnested draws ..)
  | unfreezeAccount => exact plain _ (unfreezeAccount_unnested draws ..)
  | deleteAccount => exact plain _ (deleteAccount_unnested draws ..)
  | updateProfile => exact plain _ (updateProfile_unnested ..)
  | changePassword => exact plain _ (changePassword_unnested env ..)
  | closeAccount => exact plain _ (closeAccount_unnested env ..)
  | applyLoan | approveLoan | rejectLoan | payEmi => cases offered

end Requests

/-! ## Calls one after another -/

section Rounds

variable (env : Env D) (B : Backend D)

/-- A call that returns on the sync services leaves nothing pending, whatever failed in it. -/
theorem returns_live (c : Call D) (faults : List (Option Exn)) {w w' : Db D × Session D} {left : List (Option Exn)}
    {reply : Reply D} (clean : w.2.pending = []) (live : w.2.inactive = false) (unnested : w.2.savepoint = none)
    (run : exec (striking B) (c.prog env) (w, faults) = (.ok reply, (w', left))) :
    w'.2.pending = [] ∧ w'.2.inactive = false ∧ w'.2.savepoint = none := by
  have strike : Strikes failed cleans (fun o : Op D => o.isWrite = true) Cleanly Cleanly := by
    intro o w s Q e writes
    refine strikes_cleanly o w s Q e ?_
    cases o with
    | query | create | commit => rfl
    | acquire | release | beginNested | releaseNested | rollbackNested | rollback => cases writes
  obtain ⟨s, cleanly, ends⟩ := exec_of_wp_struckBy (w := w) keeps_cleanly strike
    (fun _ => ⟨clean, live, unnested⟩) (returns_clean env c false) faults
  rw [striking] at run
  rw [run] at cleanly ends
  rcases ends with isClean | ⟨⟨e, raised⟩, -⟩
  · exact cleanly isClean
  · cases raised

/-- One call: equal answers and stores, and sessions as they were. -/
theorem round_eq (c : AsyncCall D) (faults : List (Option Exn)) {w v : Db D × Session D} (ready : Unbegun w v)
    (unnested : w.2.savepoint = none) :
    (round B (c.toCall.prog env) faults w).1 = (round B (c.prog env) faults v).1 ∧
      Unbegun (round B (c.toCall.prog env) faults w).2 (round B (c.prog env) faults v).2 ∧
      (round B (c.toCall.prog env) faults w).2.2.savepoint = none := by
  obtain ⟨same, -, alike⟩ := prog_follows env (B := B) c (w, faults) (v, faults) ⟨rfl, ready⟩
  unfold round
  rcases left : exec (striking B) (c.toCall.prog env) (w, faults) with ⟨r, w', rest⟩
  rcases right : exec (striking B) (c.prog env) (v, faults) with ⟨r', v', rest'⟩
  rw [left, right] at same alike
  dsimp only at same alike
  subst same
  cases r with
  | ok reply =>
    obtain ⟨clean, live, none⟩ := returns_live env B c.toCall faults ready.clean ready.live unnested left
    exact ⟨rfl, ⟨alike, clean, live⟩, none⟩
  | error e => exact ⟨rfl, ⟨⟨alike.store, rfl, rfl⟩, rfl, rfl⟩, rfl⟩

theorem rounds_eq (calls : List (AsyncCall D × List (Option Exn))) {w v : Db D × Session D} (ready : Unbegun w v)
    (unnested : w.2.savepoint = none) :
    rounds B (fun c => c.toCall.prog env) w calls = rounds B (fun c => c.prog env) v calls := by
  induction calls generalizing w v with
  | nil => rfl
  | cons call calls ih =>
    obtain ⟨c, faults⟩ := call
    obtain ⟨answers, ready', unnested'⟩ := round_eq env B c faults ready unnested
    simp only [rounds]
    rw [answers, ready'.store, ih ready' unnested']

/-- **The async services refine the sync ones**: the same requests with the same faults get the same answers, and leave
the same store after each of them. -/
theorem async_refines (db : Db D) (calls : List (AsyncCall D × List (Option Exn))) :
    rounds B (fun c => c.toCall.prog env) (db, {}) calls = rounds B (fun c => c.prog env) (db, {}) calls :=
  rounds_eq env B calls ⟨⟨rfl, rfl, rfl⟩, rfl, rfl⟩ rfl

end Rounds

end UnionBank
