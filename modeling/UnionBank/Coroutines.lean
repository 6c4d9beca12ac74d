import UnionBank.Services.Async
import UnionBank.LockedReads
import UnionBank.Exactness

/-!
# Coroutines on sessions of their own

Deposits, withdrawals and transfers of `AsyncTransactionService` without keys, each in a coroutine with a session of its
own, which may be suspended between any two operations. The lock of an operation is named by all its accounts, so that
two operations with some accounts in common, and not all of them, do not wait for each other.

- `coroutines`: the system before its first step;
- `HitsNoRead`: no commit hits what a coroutine under another lock has read; `async_serial`: the coroutines end as if they
  had run one after another then;
- `Sample.deposit_overwritten`: a deposit that a transfer overwrites.
-/

namespace UnionBank

open Keyed Programs Prog TransactionService

set_option linter.unusedSectionVars false

variable {D : Type}

/-- The accounts of a movement. -/
def Order.accNos : Order D → List String
  | deposit accNo _ _ => [accNo]
  | withdraw accNo _ _ => [accNo]
  | transfer senderAccNo receiverAccNo _ _ => [senderAccNo, receiverAccNo]

variable [Zero D] [Add D] [Sub D] [LE D] [LT D] [DecidableEq D] [DecidableLE D] [DecidableLT D]

/-- A movement by `AsyncTransactionService`. -/
def Order.asyncProg (env : Env D) (draws : Draws) (key : Option String) : Order D → Svc D (Reply D)
  | .deposit accNo amount category =>
    return .service (← AsyncTransactionService.deposit env draws accNo amount category key)
  | .withdraw accNo amount category =>
    return .service (← AsyncTransactionService.withdraw env draws accNo amount category key)
  | .transfer sender receiver amount category =>
    return .transfer (← AsyncTransactionService.transfer env draws sender receiver amount category key)

def Errand.asyncProg (env : Env D) (e : Errand D) : Svc D (Reply D) := e.order.asyncProg env e.draws e.key

/-- The lock of a movement. -/
def Order.lockKey (o : Order D) : String := AsyncTransactionService.lockKey o.accNos

/-! ## Stages -/

section Stages

variable {α : Type} {faults : Bool} {key : Option String} (env : Env D) (draws : Draws)

theorem stages_withAccountLock {accNos : List String} {body : Svc D α} {Q : Except Exn α → Stage × List String → Prop}
    {g : Stage}
    (h : wp (stages faults key) body (fun r s => s.2 = [AsyncTransactionService.lockKey accNos] ∧ Q r (s.1, []))
      (g, [AsyncTransactionService.lockKey accNos])) :
    wp (stages faults key) (AsyncTransactionService.withAccountLock accNos body) Q (g, []) := by
  rw [AsyncTransactionService.withAccountLock, wp_bind, wp_perform]
  show wp (stages faults key) (ensuring body _) Q (g, [AsyncTransactionService.lockKey accNos])
  rw [wp_ensuring]
  refine wp_mono stages_mono ?_ h
  rintro r ⟨g', held⟩ ⟨rfl, hQ⟩
  have released : [AsyncTransactionService.lockKey accNos].erase (AsyncTransactionService.lockKey accNos) = [] :=
    List.erase_cons_head ..
  rw [wp_perform]
  simp only [stages, released, andThen_ok, wp_ofExcept]
  exact hQ

/-- A transfer without a savepoint commits everything, or rolls everything back. -/
theorem asyncTransferLocked_disciplined {held : List String} (senderAccNo receiverAccNo : String) (amount : D)
    (cat : String) : wp (stages faults key)
      (AsyncTransactionService.transferLocked env draws senderAccNo receiverAccNo amount cat)
      (EndsSection TransferResult.success held) (.before, held) := by
  rw [AsyncTransactionService.transferLocked, wp_bind]
  refine stages_ask (by simp) (fun sender => ?_) fun e => .inr rfl
  rw [andThen_ok, wp_bind]
  refine stages_ask (by simp) (fun receiver => ?_) fun e => .inr rfl
  rw [andThen_ok]
  cases sender with
  | none => exact ⟨.inl rfl, rfl⟩
  | some sender =>
  cases receiver with
  | none => exact ⟨.inl rfl, rfl⟩
  | some receiver =>
    simp only
    split
    · exact ⟨.inl rfl, rfl⟩
    split
    · exact ⟨.inl rfl, rfl⟩
    split
    · exact ⟨.inl rfl, rfl⟩
    have undone : ∀ s : Stage × List String, s = (.before, held) ∨ s = (.quit, held) →
        wp (stages (D := D) faults key)
          (do accountRepo.rollback
              pure (.error (transferRefused (D := D) "Transfer failed due to a database error. Please try again.")))
          (EndsSection (β := D × D) TransferResult.success held) s := by
      rintro s (rfl | rfl)
      · rw [wp_bind, accountRepo.rollback, wp_perform]
        exact ⟨by simp, .inr rfl, rfl⟩
      · rw [wp_bind, accountRepo.rollback, wp_perform]
        exact ⟨by simp, .inr rfl, rfl⟩
    rw [AsyncTransactionService.commitTransfer, wp_tryCatch, wp_bind]
    refine wp_mono stages_mono ?_ (moveMoney_disciplined draws ..)
    rintro (e | balances) s hr
    · exact undone s hr
    · obtain rfl : s = (.before, held) := hr
      rw [andThen_ok, wp_bind]
      exact stages_commit rfl fun e => undone _ (.inr rfl)

/-- **A movement of the async service obeys the stages.** -/
theorem async_disciplined (e : Errand D) :
    wp (stages faults (givenKey e.key)) (e.asyncProg env) (Ends faults (e.order.request e.key)) (.before, []) := by
  obtain ⟨order, key, draws⟩ := e
  cases order with
  | deposit accNo amount category =>
    simp only [Errand.asyncProg, Order.asyncProg, AsyncTransactionService.deposit, wp_bind]
    split
    · exact .refused _
    rw [wp_bind]
    refine stages_checkIdempotency ?_ (fun cached hk => .cached hk) fun e => .quit e
    rw [andThen_ok, wp_bind]
    refine stages_withAccountLock (wp_mono stages_mono ?_ (depositLocked_disciplined draws ..))
    rintro (e | refusal | account) s hr
    · exact EndsSection.failed e hr
    · exact EndsSection.refused hr.1 hr.2
    · obtain rfl : s = (.done, [AsyncTransactionService.lockKey [accNo]]) := hr
      refine ⟨rfl, ?_⟩
      rw [andThen_ok, wp_bind]
      exact stages_storeIdempotency rfl (.success rfl)
  | withdraw accNo amount category =>
    simp only [Errand.asyncProg, Order.asyncProg, AsyncTransactionService.withdraw, wp_bind]
    split
    · exact .refused _
    rw [wp_bind]
    refine stages_checkIdempotency ?_ (fun cached hk => .cached hk) fun e => .quit e
    rw [andThen_ok, wp_bind]
    refine stages_withAccountLock (wp_mono stages_mono ?_ (withdrawLocked_disciplined env draws ..))
    rintro (e | refusal | account) s hr
    · exact EndsSection.failed e hr
    · exact EndsSection.refused hr.1 hr.2
    · obtain rfl : s = (.done, [AsyncTransactionService.lockKey [accNo]]) := hr
      refine ⟨rfl, ?_⟩
      rw [andThen_ok, wp_bind]
      exact stages_storeIdempotency rfl (.success rfl)
  | transfer senderAccNo receiverAccNo amount category =>
    simp only [Errand.asyncProg, Order.asyncProg, AsyncTransactionService.transfer, wp_bind]
    split
    · exact .transferRefused _ (by simp) (by simp)
    split
    · exact .transferRefused _ (by simp) (by simp)
    rw [wp_bind]
    refine stages_cachedTransfer ?_ (fun cached hk => .cached hk) fun e => .quit e
    rw [andThen_ok, wp_bind]
    refine stages_withAccountLock (wp_mono stages_mono ?_ (asyncTransferLocked_disciplined env draws ..))
    rintro (e | refusal | balances) s hr
    · exact EndsSection.failed e hr
    · exact EndsSection.refused hr.1 hr.2
    · obtain rfl : s = (.done, [AsyncTransactionService.lockKey [senderAccNo, receiverAccNo]]) := hr
      refine ⟨rfl, ?_⟩
      rw [andThen_ok, wp_bind]
      exact stages_storeTransferIdempotency rfl (.success rfl)

end Stages

/-! ## Locks -/

section Guards

variable {α : Type} (env : Env D)

/-- A section under the lock of its accounts, which is given back at its end. -/
theorem guarded_withAccountLock {accNos : List String} {body : Svc D α} {Q : Except Exn α → List String × Bool → Prop}
    (hbody : wp (guarded accNos [AsyncTransactionService.lockKey accNos]) body
      (fun _ s => s = ([AsyncTransactionService.lockKey accNos], false)) ([AsyncTransactionService.lockKey accNos], false))
    (h : ∀ r, Q r ([], true)) :
    wp (guarded accNos [AsyncTransactionService.lockKey accNos]) (AsyncTransactionService.withAccountLock accNos body) Q
      ([], false) := by
  have released : [AsyncTransactionService.lockKey accNos].erase (AsyncTransactionService.lockKey accNos) = [] :=
    List.erase_cons_head ..
  rw [AsyncTransactionService.withAccountLock, wp_bind, wp_perform]
  refine ⟨rfl, ?_⟩
  rw [andThen_ok, List.nil_append, wp_ensuring]
  refine wp_mono guarded_mono ?_ hbody
  rintro r s rfl
  rw [wp_perform]
  simp only [guarded, released, andThen_ok, wp_ofExcept]
  exact h r

theorem asyncTransferLocked_guarded {accNos locks held : List String} (holds : locks ⊆ held)
    {senderAccNo receiverAccNo : String} (hs : senderAccNo ∈ accNos) (hr : receiverAccNo ∈ accNos) (draws : Draws)
    (amount : D) (cat : String) :
    wp (guarded accNos locks) (AsyncTransactionService.transferLocked env draws senderAccNo receiverAccNo amount cat)
      (fun _ s => s = (held, false)) (held, false) := by
  rw [AsyncTransactionService.transferLocked, wp_bind]
  refine guarded_get holds hs (fun sender named => ?_) fun e => rfl
  rw [andThen_ok, wp_bind]
  refine guarded_get holds hr (fun receiver named' => ?_) fun e => rfl
  rw [andThen_ok]
  cases sender with
  | none => rfl
  | some sender =>
  cases receiver with
  | none => rfl
  | some receiver =>
    simp only
    split
    · rfl
    split
    · rfl
    split
    · rfl
    have own : sender.accountNumber ∈ accNos := (named sender rfl).symm ▸ hs
    have own' : receiver.accountNumber ∈ accNos := (named' receiver rfl).symm ▸ hr
    rw [AsyncTransactionService.commitTransfer, wp_tryCatch, wp_bind]
    refine wp_mono guarded_mono ?_ (moveMoney_guarded draws holds own own' amount cat)
    rintro (e | balances) s rfl
    · rfl
    · rw [andThen_ok, wp_bind]
      refine guarded_commit holds fun r => ?_
      cases r <;> rfl

/-- **A movement of the async service without a key** reads and commits under the lock of its accounts. -/
theorem async_guarded (e : Errand D) (keyless : givenKey e.key = none) :
    wp (guarded e.order.accNos [e.order.lockKey]) (e.asyncProg env) (fun _ _ => True) ([], false) := by
  obtain ⟨order, key, draws⟩ := e
  cases order with
  | deposit accNo amount category =>
    simp only [Errand.asyncProg, Order.asyncProg, AsyncTransactionService.deposit, wp_bind]
    split
    · trivial
    rw [checkIdempotency_keyless keyless, bind_ret, wp_bind]
    refine guarded_withAccountLock (depositLocked_guarded draws (List.Subset.refl _) (List.mem_singleton_self _) ..) ?_
    rintro (e | refusal | account)
    · trivial
    · trivial
    · rw [andThen_ok]
      simp only [storeIdempotency_keyless keyless]
      trivial
  | withdraw accNo amount category =>
    simp only [Errand.asyncProg, Order.asyncProg, AsyncTransactionService.withdraw, wp_bind]
    split
    · trivial
    rw [checkIdempotency_keyless keyless, bind_ret, wp_bind]
    refine guarded_withAccountLock
      (withdrawLocked_guarded env draws (List.Subset.refl _) (List.mem_singleton_self _) ..) ?_
    rintro (e | refusal | account)
    · trivial
    · trivial
    · rw [andThen_ok]
      simp only [storeIdempotency_keyless keyless]
      trivial
  | transfer senderAccNo receiverAccNo amount category =>
    simp only [Errand.asyncProg, Order.asyncProg, AsyncTransactionService.transfer, wp_bind]
    split
    · trivial
    split
    · trivial
    rw [cachedTransfer_keyless keyless, bind_ret, wp_bind]
    refine guarded_withAccountLock
      (asyncTransferLocked_guarded env (List.Subset.refl _) List.mem_cons_self (by simp) draws ..) ?_
    rintro (e | refusal | balances)
    · trivial
    · trivial
    · rw [andThen_ok]
      simp only [storeTransferIdempotency_keyless keyless]
      trivial

end Guards

/-! ## Runs -/

variable {ι : Type} [Fintype ι] [DecidableEq ι]

/-- The coroutines before their first step, each on a fresh session. -/
def coroutines (env : Env D) (db : Db D) (errands : ι → Errand D) : Desk D ι (Reply D) :=
  ⟨db, fun i => ⟨(errands i).asyncProg env, {}⟩⟩

/-- A commit hits no row that a coroutine under another lock has read. -/
def HitsNoRead (errands : ι → Errand D) (c : Desk D ι (Reply D)) (journal : Journals D ι) (i : ι) : Prop :=
  match (c.threads i).prog with
  | .call o _ => o.isCommit = true → ∀ j, (errands j).order.lockKey ≠ (errands i).order.lockKey →
    (c.threads j).own.held ≠ [] → ∀ kv ∈ journal j, ∀ accNo ∈ (errands i).order.accNos, kv.1 ≠ .account accNo
  | _ => True

instance decidableHitsNoRead (errands : ι → Errand D) (c : Desk D ι (Reply D)) (journal : Journals D ι) (i : ι) :
    Decidable (HitsNoRead errands c journal i) := by
  unfold HitsNoRead
  split <;> infer_instance

/-- Coroutines under one lock exclude one another. -/
theorem clear_of_hitsNoRead {errands : ι → Errand D} {Q : ι → Except Exn (Reply D) → List String × Bool → Prop}
    (c : Desk D ι (Reply D)) (journal : Journals D ι) (i : ι)
    (locked : Locked (fun i => (errands i).order.accNos) (fun i => [(errands i).order.lockKey]) Q c journal)
    (unhit : HitsNoRead errands c journal i) :
    Clear (fun i => (errands i).order.accNos) (fun i => [(errands i).order.lockKey]) c journal i := by
  unfold HitsNoRead at unhit
  unfold Clear
  split
  next o k here =>
    rw [here] at unhit
    intro commit j hj held kv hkv accNo mem
    have holds : (errands j).order.lockKey ∈ (c.threads j).own.held := held (List.mem_singleton_self _)
    refine unhit commit j ?_ (List.ne_nil_of_mem holds) kv hkv accNo mem
    intro same
    obtain ⟨gone, sheltered⟩ := locked.sheltered i
    have thread : c.threads i = ⟨.call o k, (c.threads i).own⟩ := by rw [← here]
    rw [thread] at sheltered
    have holds' := (sheltered.holds (.inl commit)).2 (List.mem_singleton_self _)
    rw [← same] at holds'
    exact locked.exclusive j i hj holds holds'
  next => trivial

/-- **The async movements are serializable** as long as no commit hits an account that a coroutine under another lock
has read: they leave what they would leave one after another, and return what they would return. -/
theorem async_serial (env : Env D) (B : Backend D) (db : Db D) (errands : ι → Errand D)
    (keyless : ∀ i, givenKey (errands i).key = none) (schedule : List ι)
    (unhit : Throughout B (HitsNoRead errands) (coroutines env db errands) (fun _ => []) schedule)
    (done : ∀ i, (((threads B).run (coroutines env db errands) (steps schedule)).threads i).result ≠ none) :
    ∃ order : List ι, order.Nodup ∧ (∀ i, i ∈ order) ∧
      ((threads B).run (coroutines env db errands) (steps schedule)).store.unaudited =
        (serial (handle B) (fun i => (errands i).asyncProg env) (fun _ => {}) db order).unaudited ∧
      ∀ before i after, order = before ++ i :: after →
        (((threads B).run (coroutines env db errands) (steps schedule)).threads i).result =
          some (outcome (handle B) (fun i => (errands i).asyncProg env) (fun _ => {})
            (serial (handle B) (fun i => (errands i).asyncProg env) (fun _ => {}) db before) i) := by
  have start : Locked (fun i => (errands i).order.accNos) (fun i => [(errands i).order.lockKey]) (fun _ _ _ => True)
      (coroutines env db errands) fun _ => [] := by
    refine ⟨fun i => ⟨false, async_guarded env (errands i) (keyless i), ?_, ?_, ?_, ?_⟩, ?_⟩
    · simp [coroutines]
    · simp
    · simp [Meets]
    · simp
    · simp [Exclusive, coroutines]
  refine current_serial B _ db (fun i => Ends false ((errands i).order.request (errands i).key)) (fun i => ?_) schedule
    (start.throughout clear_of_hitsNoRead unhit) done
  rw [← keyless i]
  exact async_disciplined env (errands i)

/-! ## A transfer and a deposit -/

namespace Sample

local instance twoCoroutines : NeZero 2 := ⟨by decide⟩

/-- A transfer from the first account, and a deposit to it. -/
def crossing (i : Fin 2) : Errand ℤ :=
  ⟨if i = 0 then .transfer "1001" "1002" 3000 "Rent" else .deposit "1001" 500 "Salary", none, draws i⟩

/-- The coroutines before their first step. -/
def pair : Desk ℤ (Fin 2) (Reply ℤ) := coroutines paiseEnv (store 10000 5000 0) crossing

/-- Both are under their locks when the transfer commits, and the deposit has read nothing yet. -/
def commitFirst : List (Fin 2) := [0, 1] ++ List.replicate 7 0 ++ List.replicate 5 1 ++ [0]

theorem async_serial_pair : ∃ order : List (Fin 2), order.Nodup ∧ (∀ i, i ∈ order) ∧
    ((threads paise).run pair (steps commitFirst)).store.unaudited =
      (serial (handle paise) (fun i => (crossing i).asyncProg paiseEnv) (fun _ => {}) (store 10000 5000 0)
        order).unaudited ∧
    ∀ before i after, order = before ++ i :: after →
      (((threads paise).run pair (steps commitFirst)).threads i).result =
        some (outcome (handle paise) (fun i => (crossing i).asyncProg paiseEnv) (fun _ => {})
          (serial (handle paise) (fun i => (crossing i).asyncProg paiseEnv) (fun _ => {}) (store 10000 5000 0)
            before) i) :=
  async_serial paiseEnv paise (store 10000 5000 0) crossing (by decide) commitFirst (by decide) (by decide)

/-- The deposit falls between the reads and the commit of the transfer. -/
def depositBetween : List (Fin 2) := List.replicate 3 0 ++ List.replicate 6 1 ++ List.replicate 6 0

/-- What is in the first account. -/
def first (db : Db ℤ) : Option ℤ := (db.accounts.find? "1001").map Account.balance

/-- Both report success, and the deposit is overwritten: no order of the two leaves this balance. -/
theorem deposit_overwritten :
    (∀ i, (((threads paise).run pair (steps depositBetween)).threads i).result.map succeeds = some true) ∧
      first ((threads paise).run pair (steps depositBetween)).store = some 7000 ∧
      ∀ order : List (Fin 2), order.Nodup → (∀ i, i ∈ order) →
        first (serial (handle paise) (fun i => (crossing i).asyncProg paiseEnv) (fun _ => {}) (store 10000 5000 0)
          order) = some 7500 := by
  refine ⟨by decide, by decide, ?_⟩
  intro order nodup all
  have perm : order.Perm [0, 1] := by
    rw [List.perm_ext_iff_of_nodup nodup (by decide)]
    intro i
    constructor
    · intro _
      fin_cases i <;> decide
    · intro _
      exact all i
  obtain ⟨i, j, rfl⟩ := List.length_eq_two.mp perm.length_eq
  fin_cases i <;> fin_cases j
  · simp at nodup
  · decide
  · decide
  · simp at nodup

end Sample

end UnionBank
