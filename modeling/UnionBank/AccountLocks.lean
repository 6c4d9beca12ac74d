import UnionBank.Lib.Locks
import UnionBank.Teller

/-!
# The locks of the accounts

Threads that make deposits, withdrawals and transfers, one after another, over one store: every operation may fail on
its own, and a lock is waited for while any thread holds it.

- `threads`: the system, and `counter`: its threads before their first step;
- `errand_once`: a movement takes its locks in ascending order, none of them twice, and gives all of them back;
- `locks_deadlock_free`: some thread can always step until all have finished.
-/

namespace UnionBank

open Keyed Programs Prog TransactionService

set_option linter.unusedSectionVars false

variable {D : Type}

/-- What an operation does with the account locks. -/
def Op.lock : Op D → LockUse String
  | .acquire accNo => .takes accNo
  | .release accNo => .gives accNo
  | _ => .neither

section System

variable [Zero D] [Add D] [Sub D] [LE D] [LT D] [DecidableEq D] [DecidableLE D] [DecidableLT D]
variable (env : Env D) (B : Backend D)

/-- The threads of the bank: `threading.Lock` waits for any holder, its own thread too. -/
def threads : System (Op.Res (D := D)) Exn (Db D) (Session D) where
  handle := handle B
  fail := failed
  fallible := Op.fallible
  blocks
    | .acquire accNo, s => s.held.contains accNo
    | _, _ => false

/-- Movements one after another; an exception ends one of them and not the thread. -/
def repeatedly : List (Errand D) → Svc D (List (Except Exn (Reply D)))
  | [] => return []
  | e :: errands => do
    let r ← (e.call.prog env).attempt
    let rs ← repeatedly errands
    return r :: rs

/-- The threads before their first step. -/
def counter {ι : Type} (db : Db D) (errands : ι → List (Errand D)) :
    Config ι (Op.Res (D := D)) Exn (List (Except Exn (Reply D))) (Db D) (Session D) where
  store := db
  threads i := ⟨repeatedly env (errands i), {}⟩

theorem threads_locks : Locks (threads B) Op.lock Session.held where
  takes {o k} w h := by
    cases o <;> cases h
    exact ⟨⟨(), rfl⟩, rfl⟩
  gives {o k} w h := by
    cases o <;> cases h
    exact ⟨⟨(), rfl⟩, rfl⟩
  neither {o} w h := by
    obtain ⟨db, s⟩ := w
    cases o with
    | acquire => cases h
    | release => cases h
    | query | beginNested =>
      simp only [threads, handle]
      split <;> rfl
    | commit =>
      simp only [threads, handle]
      split
      · rfl
      · split <;> rfl
    | _ => rfl
  fails {o} w h := by
    obtain ⟨db, s⟩ := w
    constructor
    · cases o <;> first
        | rfl
        | cases h
    · simp only [threads, failed]
      split <;> rfl
  blocks {o l} := by
    cases o <;> simp [threads, Op.lock]

end System

/-! ## Operations without locks -/

section Lockless

variable {α : Type}

theorem ask_lockless (q : Query D) : (ask q).All (Lockless Op.lock) := all_perform rfl
theorem add_lockless (row : NewRow D) : (add row).All (Lockless Op.lock) := all_perform rfl
theorem commit_lockless : (perform Op.commit : Svc D Unit).All (Lockless Op.lock) := all_perform rfl
theorem rollback_lockless : (perform Op.rollback : Svc D Unit).All (Lockless Op.lock) := all_perform rfl

theorem beginNested_lockless {body : Svc D α} (h : body.All (Lockless Op.lock)) :
    (beginNested body).All (Lockless Op.lock) := by
  unfold beginNested
  refine all_bind (all_perform rfl) fun _ => all_bind (all_attempt h) fun r => ?_
  cases r with
  | ok a => exact all_bind (all_perform rfl) fun _ => trivial
  | error e => exact all_bind (all_perform rfl) fun _ => trivial

theorem storeKey_lockless (record : IdempotencyRecord D) :
    (tryCatch (do idempotencyRepo.create record; idempotencyRepo.commit) fun _ => idempotencyRepo.rollback :
      Svc D Unit).All (Lockless Op.lock) :=
  all_tryCatch (all_bind (add_lockless _) fun _ => commit_lockless) fun _ => rollback_lockless

variable [Zero D] [Add D] [Sub D] [LE D] [LT D] [DecidableLE D] [DecidableLT D] (env : Env D)

theorem checkIdempotency_lockless (key : Option String) :
    (checkIdempotency key : Svc D _).All (Lockless Op.lock) := by
  unfold checkIdempotency
  split
  · refine all_bind (ask_lockless _) fun existing => ?_
    split
    · split <;> trivial
    · trivial
  · trivial

theorem cachedTransfer_lockless (key : Option String) : (cachedTransfer key : Svc D _).All (Lockless Op.lock) := by
  unfold cachedTransfer
  split
  · refine all_bind (ask_lockless _) fun existing => ?_
    split
    · split <;> trivial
    · trivial
  · trivial

theorem storeIdempotency_lockless (key : Option String) (accNo operation : String) (amount : D)
    (result : ServiceResult D) (balance : D) :
    (storeIdempotency key accNo operation amount result balance).All (Lockless Op.lock) := by
  unfold storeIdempotency
  split
  · exact storeKey_lockless _
  · trivial

theorem storeTransferIdempotency_lockless (key : Option String) (senderAccNo : String) (amount : D)
    (result : TransferResult D) : (storeTransferIdempotency env key senderAccNo amount result).All (Lockless Op.lock) := by
  unfold storeTransferIdempotency
  split
  · exact storeKey_lockless _
  · trivial

theorem ensureNonNegativeBalance_lockless (balance : D) (operation : String) :
    (ensureNonNegativeBalance balance operation).All (Lockless Op.lock) := by
  unfold ensureNonNegativeBalance
  split <;> trivial

theorem depositLocked_lockless (draws : Draws) (accNo : String) (amount : D) (category : String) :
    (depositLocked draws accNo amount category).All (Lockless Op.lock) := by
  unfold depositLocked
  refine all_bind (ask_lockless _) fun account => ?_
  split
  · split
    · trivial
    · exact all_bind (ask_lockless _) fun _ => all_bind (add_lockless _) fun _ =>
        all_bind commit_lockless fun _ => trivial
  · trivial

theorem withdrawLocked_lockless (draws : Draws) (accNo : String) (amount : D) (category : String) :
    (withdrawLocked env draws accNo amount category).All (Lockless Op.lock) := by
  unfold withdrawLocked
  refine all_bind (ask_lockless _) fun account => ?_
  split
  · split
    · trivial
    · split
      · trivial
      · exact all_bind (ensureNonNegativeBalance_lockless _ _) fun _ => all_bind (ask_lockless _) fun _ =>
          all_bind (add_lockless _) fun _ => all_bind commit_lockless fun _ => trivial
  · trivial

theorem moveMoney_lockless (draws : Draws) (sender receiver : Account D) (senderAccNo receiverAccNo : String)
    (amount : D) (cat : String) :
    (moveMoney draws sender receiver senderAccNo receiverAccNo amount cat).All (Lockless Op.lock) := by
  unfold moveMoney
  exact all_bind (ensureNonNegativeBalance_lockless _ _) fun _ => all_bind (ask_lockless _) fun _ =>
    all_bind (ask_lockless _) fun _ => all_bind (add_lockless _) fun _ => all_bind (add_lockless _) fun _ => trivial

theorem transferLocked_lockless (draws : Draws) (senderAccNo receiverAccNo : String) (amount : D) (cat : String) :
    (transferLocked env draws senderAccNo receiverAccNo amount cat).All (Lockless Op.lock) := by
  unfold transferLocked
  refine all_bind (ask_lockless _) fun sender? => all_bind (ask_lockless _) fun receiver? => ?_
  split
  · split
    · split
      · trivial
      · split
        · trivial
        · split
          · trivial
          · exact all_bind (beginNested_lockless (moveMoney_lockless ..)) fun _ =>
              all_bind commit_lockless fun _ => trivial
    · trivial
  · trivial

end Lockless

/-! ## Locked sections -/

section Sections

variable {α : Type}

theorem once_acquireAll {accNos held : List String} {Q : Except Exn Unit → List String × List String → Prop}
    (sorted : (held ++ accNos).Pairwise (· < ·)) (h : Q (.ok ()) (held ++ accNos, held ++ accNos)) :
    wp (ascendingOnce Op.lock) (acquireAll (D := D) accNos) Q (held, held) := by
  induction accNos generalizing held with
  | nil => simpa [acquireAll] using h
  | cons accNo accNos ih =>
    rw [acquireAll, wp_bind, wp_perform]
    have above : ∀ k ∈ held ++ held, k < accNo := by
      intro k hk
      have mem : k ∈ held := by simpa using hk
      exact (List.pairwise_append.mp sorted).2.2 k mem accNo List.mem_cons_self
    refine ⟨above, fun _ => ?_⟩
    rw [andThen_ok]
    exact ih (by simpa using sorted) (by simpa using h)

theorem once_releaseAll {accNos log : List String} {Q : Except Exn Unit → List String × List String → Prop}
    (h : Q (.ok ()) ([], log)) : wp (ascendingOnce Op.lock) (releaseAll (D := D) accNos) Q (accNos, log) := by
  induction accNos with
  | nil => simpa [releaseAll] using h
  | cons accNo accNos ih =>
    rw [releaseAll, wp_bind, wp_perform]
    refine ⟨List.mem_cons_self, fun _ => ?_⟩
    rw [andThen_ok, List.erase_cons_head]
    exact ih

/-- A locked section over different accounts. -/
theorem once_accountLock {accNos : List String} {body : Svc D α} {Q : Except Exn α → List String × List String → Prop}
    (distinct : accNos.Nodup) (hbody : body.All (Lockless Op.lock))
    (h : ∀ r, Q r ([], accNos.insertionSort (· ≤ ·))) :
    wp (ascendingOnce Op.lock) (accountLock accNos body) Q ([], []) := by
  have sorted : (accNos.insertionSort (· ≤ ·)).Pairwise (· < ·) := by
    have nodup := (List.perm_insertionSort (· ≤ ·) accNos).nodup_iff.mpr distinct
    have ascending := List.pairwise_insertionSort (· ≤ ·) accNos
    exact (ascending.and nodup).imp fun ⟨le, ne⟩ => lt_of_le_of_ne le ne
  rw [accountLock, wp_bind]
  refine once_acquireAll (by simpa using sorted) ?_
  rw [andThen_ok, wp_ensuring]
  refine wp_lockless hbody fun r => ?_
  refine once_releaseAll ?_
  rw [andThen_ok, wp_ofExcept]
  exact h r

end Sections

section Errands

variable [Zero D] [Add D] [Sub D] [LE D] [LT D] [DecidableEq D] [DecidableLE D] [DecidableLT D]
variable (env : Env D) (B : Backend D)

/-- **A movement** takes its locks in ascending order, none of them twice, and holds none at its end. -/
theorem errand_once (e : Errand D) :
    wp (ascendingOnce Op.lock) (e.call.prog env) (fun _ s => s.1 = []) ([], []) := by
  obtain ⟨order, key, draws⟩ := e
  cases order with
  | deposit accNo amount category =>
    simp only [Errand.call, Order.request, Call.prog, Request.prog, wp_bind]
    unfold deposit
    split
    · rfl
    · rw [wp_bind]
      refine wp_lockless (checkIdempotency_lockless key) fun cached => ?_
      rcases cached with e | _ | cached
      · rfl
      · rw [andThen_ok, wp_bind]
        refine once_accountLock (List.nodup_singleton _) (depositLocked_lockless ..) fun r => ?_
        rcases r with e | refusal | account
        · rfl
        · rfl
        · rw [andThen_ok, wp_bind]
          refine wp_lockless (storeIdempotency_lockless ..) fun r => ?_
          cases r <;> rfl
      · rfl
  | withdraw accNo amount category =>
    simp only [Errand.call, Order.request, Call.prog, Request.prog, wp_bind]
    unfold withdraw
    split
    · rfl
    · rw [wp_bind]
      refine wp_lockless (checkIdempotency_lockless key) fun cached => ?_
      rcases cached with e | _ | cached
      · rfl
      · rw [andThen_ok, wp_bind]
        refine once_accountLock (List.nodup_singleton _) (withdrawLocked_lockless ..) fun r => ?_
        rcases r with e | refusal | account
        · rfl
        · rfl
        · rw [andThen_ok, wp_bind]
          refine wp_lockless (storeIdempotency_lockless ..) fun r => ?_
          cases r <;> rfl
      · rfl
  | transfer senderAccNo receiverAccNo amount category =>
    simp only [Errand.call, Order.request, Call.prog, Request.prog, wp_bind]
    unfold transfer
    split
    · rfl
    · split
      · rfl
      rename_i different
      rw [wp_bind]
      refine wp_lockless (cachedTransfer_lockless key) fun cached => ?_
      rcases cached with e | _ | cached
      · rfl
      · rw [andThen_ok, wp_bind, wp_tryCatch]
        refine once_accountLock (by simpa using different) (transferLocked_lockless ..) fun r => ?_
        rcases r with e | refusal | balances
        · -- the exception is answered after the locks are given back
          simp only [wp_bind]
          refine wp_lockless rollback_lockless fun r => ?_
          cases r <;> rfl
        · rfl
        · simp only [andThen_ok, wp_bind]
          refine wp_lockless (storeTransferIdempotency_lockless ..) fun r => ?_
          cases r <;> rfl
      · rfl

/-- Movements one after another keep to the order. -/
theorem repeatedly_disciplined (errands : List (Errand D)) : Disciplined Op.lock (repeatedly env errands) [] := by
  induction errands with
  | nil => rfl
  | cons e errands ih =>
    unfold Disciplined repeatedly
    rw [wp_bind, wp_attempt]
    refine wp_mono ascending_mono ?_ (disciplined_of_once (errand_once env e))
    rintro r held rfl
    rw [andThen_ok, wp_bind]
    refine wp_mono ascending_mono ?_ ih
    rintro r' held rfl
    cases r' <;> rfl

/-- A run of a movement gives back every lock it takes, once. -/
theorem errand_gives_back (e : Errand D) {os : List (Op D)} {x : Except Exn (Reply D)}
    (t : Trace (LockAnswers Op.lock) (e.call.prog env) os x) :
    (os.filterMap fun o => o.lock.taken?).Perm (os.filterMap fun o => o.lock.given?) ∧
      (os.filterMap fun o => o.lock.given?).Nodup := by
  have perm := trace_perm (disciplined_of_once (errand_once env e)) t
  have once := trace_once (errand_once env e) t List.Pairwise.nil
  have taken : (os.filterMap fun o => o.lock.taken?).Nodup := once.imp ne_of_lt
  exact ⟨perm, perm.nodup_iff.mp taken⟩

variable {ι : Type} [Fintype ι] [DecidableEq ι]

/-- **The locks of the accounts are free of deadlock.** However threads of movements interleave and whatever fails, some
thread can step until all have finished; and every lock that a movement takes it has given back at its end, once. -/
theorem locks_deadlock_free (db : Db D) (errands : ι → List (Errand D)) :
    (∀ es : List (Event ι Exn), (∃ i, (((threads B).run (counter env db errands) es).threads i).result = none) →
      ∃ j, (threads B).Enabled ((threads B).run (counter env db errands) es) j) ∧
    ∀ (e : Errand D) (os : List (Op D)) (x : Except Exn (Reply D)),
      Trace (LockAnswers Op.lock) (e.call.prog env) os x →
        (os.filterMap fun o => o.lock.taken?).Perm (os.filterMap fun o => o.lock.given?) ∧
          (os.filterMap fun o => o.lock.given?).Nodup := by
  constructor
  · rintro es ⟨i, running⟩
    have start : Ordered Op.lock Session.held (counter env db errands) := by
      constructor
      · intro i
        exact repeatedly_disciplined env (errands i)
      · intro i j _
        exact List.disjoint_nil_left _
    exact (start.run (threads_locks B) es).exists_enabled (threads_locks B) running
  · intro e os x t
    exact errand_gives_back env e t

end Errands

end UnionBank
