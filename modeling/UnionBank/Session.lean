import UnionBank.Lib.Prog
import UnionBank.Store

/-!
# Sessions and repositories

A service call is a program over the operations its repositories ask of the session. A session does not flush before
queries: changes stay pending, visible to its own queries through the identity map, until a commit writes all of them.

- `Session`: the pending changes of a thread and the account locks it holds;
- `Query`: the repository methods that begin with a SELECT, with their answer (`Query.answer`) and the changes they
  leave pending (`Query.staged`);
- `Op` and its handler `handle`: after a failed flush every query is refused until `rollback`;
- `accountRepo.get`, `txnRepo.create`, …: the repository methods, and `accountLock`, `beginNested`.
-/

namespace UnionBank

open Keyed Programs Prog

variable {D : Type}

/-- What a thread keeps between two operations. The constraints of pending changes are checked when they are
committed; `savepoint` is the number of changes that were pending when the savepoint began. -/
structure Session (D : Type) where
  pending : List (Change D) := []
  inactive : Bool := false
  savepoint : Option ℕ := none
  held : List String := []

namespace Session

/-- The session's own version of an account row. -/
def ownAccount (s : Session D) (row : Account D) : Account D :=
  s.pending.foldl (fun own c => match c with
    | .account _ current => if current.accountNumber = row.accountNumber then current else own
    | _ => own) row

def ownLoan (s : Session D) (row : Loan D) : Loan D :=
  s.pending.foldl (fun own c => match c with
    | .loan _ current => if current.loanId = row.loanId then current else own
    | _ => own) row

def ownGoal (s : Session D) (row : SavingsGoal D) : SavingsGoal D :=
  s.pending.foldl (fun own c => match c with
    | .goal _ current => if current.goalId = row.goalId then current else own
    | _ => own) row

def ownTokenVersion (s : Session D) (row : TokenVersion) : TokenVersion :=
  s.pending.foldl (fun own c => match c with
    | .tokenVersion _ current => if current.accountNumber = row.accountNumber then current else own
    | _ => own) row

/-- The row is filtered in the database and read through the identity map. -/
def account? (s : Session D) (db : Db D) (accNo : String) : Option (Account D) :=
  (db.liveAccount? accNo).map s.ownAccount

def loan? (s : Session D) (db : Db D) (loanId : String) : Option (Loan D) :=
  (db.loans.find? loanId).map s.ownLoan

def goal? (s : Session D) (db : Db D) (goalId : String) : Option (SavingsGoal D) :=
  (db.goals.find? goalId).map s.ownGoal

def tokenVersion? (s : Session D) (db : Db D) (accNo : String) : Option TokenVersion :=
  (db.tokenVersions.find? accNo).map s.ownTokenVersion

/-- More pending changes. -/
def stage (s : Session D) (cs : List (Change D)) : Session D := { s with pending := s.pending ++ cs }

/-- No pending change, no savepoint. -/
def clear (s : Session D) : Session D := { s with pending := [], inactive := false, savepoint := none }

end Session

/-! ## Queries -/

/-- The repository methods that begin with a SELECT. -/
inductive Query (D : Type) where
  | getAccount (accNo : String)
  | updateAccount (account : Account D)
  | setActive (accNo : String) (active : Bool)
  | setFrozen (accNo : String) (frozen : Bool)
  | deleteAccount (accNo : String) (now : Time)
  | getLoan (loanId : String)
  | updateLoan (loan : Loan D)
  | getGoal (goalId : String)
  | updateGoal (goal : SavingsGoal D)
  | contributeGoal (goalId : String) (amount : D)
  | deleteGoal (goalId : String)
  | getIdempotencyKey (idempotencyKey : String)
  | getTokenVersion (accNo : String)
  | incrementTokenVersion (accNo : String)

namespace Query

/-- The type of a method's answer. -/
@[reducible] def Res : Query D → Type
  | getAccount _ => Option (Account D)
  | updateAccount _ => Unit
  | setActive .. => Bool
  | setFrozen .. => Bool
  | deleteAccount .. => Bool
  | getLoan _ => Option (Loan D)
  | updateLoan _ => Unit
  | getGoal _ => Option (SavingsGoal D)
  | updateGoal _ => Unit
  | contributeGoal .. => Option (SavingsGoal D)
  | deleteGoal _ => Option (SavingsGoal D)
  | getIdempotencyKey _ => Option (IdempotencyRecord D)
  | getTokenVersion _ => ℕ
  | incrementTokenVersion _ => ℕ

variable [Add D] [LE D] [DecidableLE D]

/-- `model.current_amount += amount`, and the flag once the target is reached. -/
def contributed (goal : SavingsGoal D) (amount : D) : SavingsGoal D :=
  let currentAmount := goal.currentAmount + amount
  { goal with currentAmount, isCompleted := if goal.targetAmount ≤ currentAmount then true else goal.isCompleted }

/-- What a method returns. -/
def answer (db : Db D) (s : Session D) : (q : Query D) → q.Res
  | getAccount accNo => s.account? db accNo
  | updateAccount _ => ()
  | setActive accNo _ => (s.account? db accNo).isSome
  | setFrozen accNo _ => (s.account? db accNo).isSome
  | deleteAccount accNo _ => (s.account? db accNo).isSome
  | getLoan loanId => s.loan? db loanId
  | updateLoan _ => ()
  | getGoal goalId => s.goal? db goalId
  | updateGoal _ => ()
  | contributeGoal goalId amount => (s.goal? db goalId).map fun row => contributed row amount
  | deleteGoal goalId => s.goal? db goalId
  | getIdempotencyKey idempotencyKey => db.idempotencyKeys.find? idempotencyKey
  | getTokenVersion accNo => ((s.tokenVersion? db accNo).map TokenVersion.version).getD 0
  | incrementTokenVersion accNo => ((s.tokenVersion? db accNo).map TokenVersion.version).getD 0 + 1

/-- What a method leaves pending. `update` keeps `created_at`, and creates an account that is not there. -/
def staged (db : Db D) (s : Session D) : Query D → List (Change D)
  | updateAccount account => match s.account? db account.accountNumber with
    | none => [.insert (.account account)]
    | some row => [.account row { account with createdAt := row.createdAt }]
  | setActive accNo active => match s.account? db accNo with
    | none => []
    | some row => [.account row { row with isActive := active }]
  | setFrozen accNo frozen => match s.account? db accNo with
    | none => []
    | some row => [.account row { row with isFrozen := frozen }]
  | deleteAccount accNo now => match s.account? db accNo with
    | none => []
    | some row => [.account row { row with deletedAt := some now, isActive := false }]
  | updateLoan loan => match s.loan? db loan.loanId with
    | none => []
    | some row => [.loan row
        { loan with accountNumber := row.accountNumber, applicationDate := row.applicationDate }]
  | updateGoal goal => match s.goal? db goal.goalId with
    | none => []
    | some row => [.goal row { goal with accountNumber := row.accountNumber, createdAt := row.createdAt }]
  | contributeGoal goalId amount => match s.goal? db goalId with
    | none => []
    | some row => [.goal row (contributed row amount)]
  | deleteGoal goalId => match s.goal? db goalId with
    | none => []
    | some row => [.deleteGoal row.goalId]
  | incrementTokenVersion accNo => match s.tokenVersion? db accNo with
    | none => [.insert (.tokenVersion ⟨accNo, 1⟩)]
    | some row => [.tokenVersion row { row with version := row.version + 1 }]
  | getAccount _ | getLoan _ | getGoal _ | getIdempotencyKey _ | getTokenVersion _ => []

end Query

/-! ## Operations -/

/-- What a service asks of its session, and of the account locks. -/
inductive Op (D : Type) where
  | acquire (accNo : String)
  | release (accNo : String)
  | query (q : Query D)
  | create (row : NewRow D)
  | beginNested
  | releaseNested
  | rollbackNested
  | commit
  | rollback

/-- The type of an operation's answer. -/
@[reducible] def Op.Res : Op D → Type
  | .query q => q.Res
  | _ => Unit

/-- A service call. -/
abbrev Svc (D α : Type) := Prog (Op.Res (D := D)) Exn α

section Handler

variable [Zero D] [Add D] [LE D] [LT D] [DecidableEq D] [DecidableLE D] [DecidableLT D]

/-- The session's answer to an operation. Only a commit touches the store. -/
def handle (B : Backend D) : Handler (Op.Res (D := D)) Exn (Db D × Session D)
  | .acquire accNo, (db, s) => (.ok (), (db, { s with held := s.held ++ [accNo] }))
  | .release accNo, (db, s) => (.ok (), (db, { s with held := s.held.erase accNo }))
  | .query q, (db, s) =>
    if s.inactive then (.error .pendingRollbackError, (db, s)) else (.ok (q.answer db s), (db, s.stage (q.staged db s)))
  | .create row, (db, s) => (.ok (), (db, s.stage [.insert row]))
  | .beginNested, (db, s) =>
    if s.inactive then (.error .pendingRollbackError, (db, s))
    else (.ok (), (db, { s with savepoint := some s.pending.length }))
  | .releaseNested, (db, s) => (.ok (), (db, { s with savepoint := none }))
  | .rollbackNested, (db, s) =>
    (.ok (), (db, { s with pending := s.pending.take (s.savepoint.getD s.pending.length), savepoint := none }))
  | .commit, (db, s) =>
    if s.inactive then (.error .pendingRollbackError, (db, s))
    else match flush B s.pending db with
      | .ok db' => (.ok (), (db', s.clear))
      | .error e => (.error e, (db, { s.clear with inactive := true }))
  | .rollback, (db, s) => (.ok (), (db, s.clear))

/-- Whether an operation sends the pending changes to the database. -/
def Op.flushes : Op D → Bool
  | .beginNested | .releaseNested | .commit => true
  | _ => false

/-- Whether an operation can raise on its own: locks and `rollback` do not. -/
def Op.fallible : Op D → Bool
  | .acquire _ | .release _ | .rollback => false
  | _ => true

/-- What a failing operation leaves: nothing of its own, and after a failed flush an inactive session. -/
def failed (o : Op D) : Db D × Session D → Db D × Session D
  | (db, s) => if o.flushes then (db, { s.clear with inactive := true }) else (db, s)

end Handler

/-! ## Repositories -/

/-- A repository method that begins with a SELECT. -/
def ask (q : Query D) : Svc D q.Res := perform (Op.query q)

/-- `session.add`. -/
def add (row : NewRow D) : Svc D Unit := perform (Op.create row)


namespace accountRepo

def get (accNo : String) : Svc D (Option (Account D)) := ask (.getAccount accNo)
def create (account : Account D) : Svc D Unit := add (.account account)
def update (account : Account D) : Svc D Unit := ask (.updateAccount account)
def setActive (accNo : String) (active : Bool) : Svc D Bool := ask (.setActive accNo active)
def setFrozen (accNo : String) (frozen : Bool) : Svc D Bool := ask (.setFrozen accNo frozen)
def delete (accNo : String) (now : Time) : Svc D Bool := ask (.deleteAccount accNo now)
def commit : Svc D Unit := perform Op.commit
def rollback : Svc D Unit := perform Op.rollback

end accountRepo

namespace txnRepo

def create (transaction : Transaction D) : Svc D Unit := add (.transaction transaction)

end txnRepo

namespace loanRepo

def get (loanId : String) : Svc D (Option (Loan D)) := ask (.getLoan loanId)
def create (loan : Loan D) : Svc D Unit := add (.loan loan)
def update (loan : Loan D) : Svc D Unit := ask (.updateLoan loan)
def commit : Svc D Unit := perform Op.commit

end loanRepo

namespace goalRepo

def get (goalId : String) : Svc D (Option (SavingsGoal D)) := ask (.getGoal goalId)
def create (goal : SavingsGoal D) : Svc D Unit := add (.goal goal)
def update (goal : SavingsGoal D) : Svc D Unit := ask (.updateGoal goal)
def contribute (goalId : String) (amount : D) : Svc D (Option (SavingsGoal D)) :=
  ask (.contributeGoal goalId amount)
def delete (goalId : String) : Svc D (Option (SavingsGoal D)) := ask (.deleteGoal goalId)
def commit : Svc D Unit := perform Op.commit

end goalRepo

namespace idempotencyRepo

def get (idempotencyKey : String) : Svc D (Option (IdempotencyRecord D)) :=
  ask (.getIdempotencyKey idempotencyKey)
def create (record : IdempotencyRecord D) : Svc D Unit := add (.idempotencyKey record)
def commit : Svc D Unit := perform Op.commit
def rollback : Svc D Unit := perform Op.rollback

end idempotencyRepo

namespace tokenVersionRepo

def getVersion (accNo : String) : Svc D ℕ := ask (.getTokenVersion accNo)
def increment (accNo : String) : Svc D ℕ := ask (.incrementTokenVersion accNo)

end tokenVersionRepo

namespace auditLogRepo

/-- The details and the reason are cut to the length of their columns. -/
def log (actor action : String) (target details reason : Option String) (timestamp : Time) : Svc D Unit :=
  add (.auditEntry
    { actor, action, target, details := details.map fun d => (d.take 500).toString,
      reason := reason.map fun r => (r.take 200).toString, timestamp })
def commit : Svc D Unit := perform Op.commit

end auditLogRepo

/-! ## Locks and savepoints -/

/-- The locks of the accounts, one after the other. -/
def acquireAll : List String → Svc D Unit
  | [] => return ()
  | accNo :: accNos => do
    perform (Op.acquire accNo)
    acquireAll accNos

def releaseAll : List String → Svc D Unit
  | [] => return ()
  | accNo :: accNos => do
    perform (Op.release accNo)
    releaseAll accNos

/-- `_account_lock`: acquires in ascending order, and releases in the same order whatever the body does. -/
def accountLock {α : Type} (accNos : List String) (body : Svc D α) : Svc D α := do
  let sortedNos := accNos.insertionSort (· ≤ ·)
  acquireAll sortedNos
  ensuring body (releaseAll sortedNos)

/-- `with session.begin_nested()`. -/
def beginNested {α : Type} (body : Svc D α) : Svc D α := do
  perform Op.beginNested
  match ← body.attempt with
  | .ok a =>
    perform Op.releaseNested
    return a
  | .error e =>
    perform Op.rollbackNested
    throw e

/-! ## Rules for a live session -/

section Rules

variable [Zero D] [Add D] [LE D] [LT D] [DecidableEq D] [DecidableLE D] [DecidableLT D]
variable (B : Backend D) {α : Type} {db : Db D} {p : List (Change D)} {sp : Option ℕ} {held : List String}

/-- The handler as a specification. -/
abbrev runs : Spec (Op.Res (D := D)) Exn (Db D × Session D) := Handler.toSpec (handle B)

theorem wp_ask (q : Query D) (Q : Except Exn q.Res → Db D × Session D → Prop) :
    wp (runs B) (ask q) Q (db, ⟨p, false, sp, held⟩) =
      Q (.ok (q.answer db ⟨p, false, sp, held⟩)) (db, ⟨p ++ q.staged db ⟨p, false, sp, held⟩, false, sp, held⟩) :=
  wp_perform ..

@[simp] theorem wp_accountRepo_get (accNo : String) (Q : Except Exn (Option (Account D)) → Db D × Session D → Prop) :
    wp (runs B) (accountRepo.get accNo) Q (db, ⟨p, false, sp, held⟩) =
      Q (.ok (Session.account? ⟨p, false, sp, held⟩ db accNo)) (db, ⟨p, false, sp, held⟩) := by
  rw [accountRepo.get, wp_ask]
  simp only [Query.answer, Query.staged, List.append_nil]

@[simp] theorem wp_accountRepo_update (account : Account D) (Q : Except Exn Unit → Db D × Session D → Prop) :
    wp (runs B) (accountRepo.update account) Q (db, ⟨p, false, sp, held⟩) =
      Q (.ok ()) (db, ⟨p ++ Query.staged db ⟨p, false, sp, held⟩ (.updateAccount account), false, sp, held⟩) := by
  rw [accountRepo.update, wp_ask]

@[simp] theorem wp_accountRepo_setActive (accNo : String) (active : Bool) (Q : Except Exn Bool → Db D × Session D → Prop) :
    wp (runs B) (accountRepo.setActive accNo active) Q (db, ⟨p, false, sp, held⟩) =
      Q (.ok (Session.account? ⟨p, false, sp, held⟩ db accNo).isSome) (db, ⟨p ++ Query.staged db ⟨p, false, sp, held⟩ (.setActive accNo active), false, sp, held⟩) := by
  rw [accountRepo.setActive, wp_ask]
  rfl

@[simp] theorem wp_accountRepo_setFrozen (accNo : String) (frozen : Bool) (Q : Except Exn Bool → Db D × Session D → Prop) :
    wp (runs B) (accountRepo.setFrozen accNo frozen) Q (db, ⟨p, false, sp, held⟩) =
      Q (.ok (Session.account? ⟨p, false, sp, held⟩ db accNo).isSome) (db, ⟨p ++ Query.staged db ⟨p, false, sp, held⟩ (.setFrozen accNo frozen), false, sp, held⟩) := by
  rw [accountRepo.setFrozen, wp_ask]
  rfl

@[simp] theorem wp_accountRepo_delete (accNo : String) (now : Time) (Q : Except Exn Bool → Db D × Session D → Prop) :
    wp (runs B) (accountRepo.delete accNo now) Q (db, ⟨p, false, sp, held⟩) =
      Q (.ok (Session.account? ⟨p, false, sp, held⟩ db accNo).isSome) (db, ⟨p ++ Query.staged db ⟨p, false, sp, held⟩ (.deleteAccount accNo now), false, sp, held⟩) := by
  rw [accountRepo.delete, wp_ask]
  rfl

@[simp] theorem wp_loanRepo_get (loanId : String) (Q : Except Exn (Option (Loan D)) → Db D × Session D → Prop) :
    wp (runs B) (loanRepo.get loanId) Q (db, ⟨p, false, sp, held⟩) =
      Q (.ok (Session.loan? ⟨p, false, sp, held⟩ db loanId)) (db, ⟨p, false, sp, held⟩) := by
  rw [loanRepo.get, wp_ask]
  simp only [Query.answer, Query.staged, List.append_nil]

@[simp] theorem wp_loanRepo_update (loan : Loan D) (Q : Except Exn Unit → Db D × Session D → Prop) :
    wp (runs B) (loanRepo.update loan) Q (db, ⟨p, false, sp, held⟩) =
      Q (.ok ()) (db, ⟨p ++ Query.staged db ⟨p, false, sp, held⟩ (.updateLoan loan), false, sp, held⟩) := by
  rw [loanRepo.update, wp_ask]

@[simp] theorem wp_goalRepo_get (goalId : String) (Q : Except Exn (Option (SavingsGoal D)) → Db D × Session D → Prop) :
    wp (runs B) (goalRepo.get goalId) Q (db, ⟨p, false, sp, held⟩) =
      Q (.ok (Session.goal? ⟨p, false, sp, held⟩ db goalId)) (db, ⟨p, false, sp, held⟩) := by
  rw [goalRepo.get, wp_ask]
  simp only [Query.answer, Query.staged, List.append_nil]

@[simp] theorem wp_goalRepo_contribute (goalId : String) (amount : D) (Q : Except Exn (Option (SavingsGoal D)) → Db D × Session D → Prop) :
    wp (runs B) (goalRepo.contribute goalId amount) Q (db, ⟨p, false, sp, held⟩) =
      Q (.ok ((Session.goal? ⟨p, false, sp, held⟩ db goalId).map fun row => Query.contributed row amount)) (db, ⟨p ++ Query.staged db ⟨p, false, sp, held⟩ (.contributeGoal goalId amount), false, sp, held⟩) := by
  rw [goalRepo.contribute, wp_ask]
  rfl

@[simp] theorem wp_goalRepo_delete (goalId : String) (Q : Except Exn (Option (SavingsGoal D)) → Db D × Session D → Prop) :
    wp (runs B) (goalRepo.delete goalId) Q (db, ⟨p, false, sp, held⟩) =
      Q (.ok (Session.goal? ⟨p, false, sp, held⟩ db goalId)) (db, ⟨p ++ Query.staged db ⟨p, false, sp, held⟩ (.deleteGoal goalId), false, sp, held⟩) := by
  rw [goalRepo.delete, wp_ask]
  rfl

@[simp] theorem wp_idempotencyRepo_get (key : String) (Q : Except Exn (Option (IdempotencyRecord D)) → Db D × Session D → Prop) :
    wp (runs B) (idempotencyRepo.get key) Q (db, ⟨p, false, sp, held⟩) =
      Q (.ok (db.idempotencyKeys.find? key)) (db, ⟨p, false, sp, held⟩) := by
  rw [idempotencyRepo.get, wp_ask]
  simp only [Query.answer, Query.staged, List.append_nil]

@[simp] theorem wp_tokenVersionRepo_increment (accNo : String) (Q : Except Exn ℕ → Db D × Session D → Prop) :
    wp (runs B) (tokenVersionRepo.increment accNo) Q (db, ⟨p, false, sp, held⟩) =
      Q (.ok (((Session.tokenVersion? ⟨p, false, sp, held⟩ db accNo).map TokenVersion.version).getD 0 + 1)) (db, ⟨p ++ Query.staged db ⟨p, false, sp, held⟩ (.incrementTokenVersion accNo), false, sp, held⟩) := by
  rw [tokenVersionRepo.increment, wp_ask]
  rfl

@[simp] theorem wp_txnRepo_create (t : Transaction D) (Q : Except Exn Unit → Db D × Session D → Prop) {inactive : Bool} :
    wp (runs B) (txnRepo.create t) Q (db, ⟨p, inactive, sp, held⟩) =
      Q (.ok ()) (db, ⟨p ++ [.insert (.transaction t)], inactive, sp, held⟩) := wp_perform ..

@[simp] theorem wp_loanRepo_create (l : Loan D) (Q : Except Exn Unit → Db D × Session D → Prop) {inactive : Bool} :
    wp (runs B) (loanRepo.create l) Q (db, ⟨p, inactive, sp, held⟩) =
      Q (.ok ()) (db, ⟨p ++ [.insert (.loan l)], inactive, sp, held⟩) := wp_perform ..

@[simp] theorem wp_goalRepo_create (g : SavingsGoal D) (Q : Except Exn Unit → Db D × Session D → Prop) {inactive : Bool} :
    wp (runs B) (goalRepo.create g) Q (db, ⟨p, inactive, sp, held⟩) =
      Q (.ok ()) (db, ⟨p ++ [.insert (.goal g)], inactive, sp, held⟩) := wp_perform ..

@[simp] theorem wp_idempotencyRepo_create (r : IdempotencyRecord D) (Q : Except Exn Unit → Db D × Session D → Prop) {inactive : Bool} :
    wp (runs B) (idempotencyRepo.create r) Q (db, ⟨p, inactive, sp, held⟩) =
      Q (.ok ()) (db, ⟨p ++ [.insert (.idempotencyKey r)], inactive, sp, held⟩) := wp_perform ..

@[simp] theorem wp_auditLogRepo_log (actor action : String) (target details reason : Option String) (timestamp : Time)
    (Q : Except Exn Unit → Db D × Session D → Prop) {inactive : Bool} :
    wp (runs B) (auditLogRepo.log actor action target details reason timestamp) Q (db, ⟨p, inactive, sp, held⟩) =
      Q (.ok ()) (db, ⟨p ++ [.insert (.auditEntry
        { actor, action, target, details := details.map fun d => (d.take 500).toString,
          reason := reason.map fun r => (r.take 200).toString, timestamp })], inactive, sp, held⟩) := wp_perform ..

@[simp] theorem wp_rollback (Q : Except Exn Unit → Db D × Session D → Prop) {inactive : Bool} :
    wp (runs B) (perform Op.rollback) Q (db, ⟨p, inactive, sp, held⟩) = Q (.ok ()) (db, ⟨[], false, none, held⟩) :=
  wp_perform ..

/-- A commit writes everything or leaves the session inactive. -/
theorem wp_commit (Q : Except Exn Unit → Db D × Session D → Prop)
    (hok : ∀ db', flush B p db = .ok db' → Q (.ok ()) (db', ⟨[], false, none, held⟩))
    (herr : ∀ e, flush B p db = .error e → Q (.error e) (db, ⟨[], true, none, held⟩)) :
    wp (runs B) (perform Op.commit) Q (db, ⟨p, false, sp, held⟩) := by
  rw [wp_perform]
  cases hf : flush B p db with
  | ok db' => simpa [Handler.toSpec, handle, hf, Session.clear] using hok db' hf
  | error e => simpa [Handler.toSpec, handle, hf, Session.clear] using herr e hf

@[simp] theorem wp_acquireAll (accNos : List String) (Q : Except Exn Unit → Db D × Session D → Prop)
    {inactive : Bool} : wp (runs B) (acquireAll accNos) Q (db, ⟨p, inactive, sp, held⟩) =
      Q (.ok ()) (db, ⟨p, inactive, sp, held ++ accNos⟩) := by
  induction accNos generalizing held with
  | nil => simp [acquireAll]
  | cons accNo accNos ih =>
    rw [acquireAll, wp_bind, wp_perform]
    simp only [Handler.toSpec, handle, andThen_ok]
    rw [ih, List.append_assoc, List.singleton_append]

@[simp] theorem wp_releaseAll (accNos : List String) (Q : Except Exn Unit → Db D × Session D → Prop)
    {inactive : Bool} : wp (runs B) (releaseAll accNos) Q (db, ⟨p, inactive, sp, held⟩) =
      Q (.ok ()) (db, ⟨p, inactive, sp, accNos.foldl List.erase held⟩) := by
  induction accNos generalizing held with
  | nil => simp [releaseAll]
  | cons accNo accNos ih =>
    rw [releaseAll, wp_bind, wp_perform]
    simp only [Handler.toSpec, handle, andThen_ok]
    rw [ih, List.foldl_cons]

/-- Releasing what was acquired. -/
theorem foldl_erase_self (accNos : List String) : accNos.foldl List.erase accNos = [] := by
  induction accNos with
  | nil => rfl
  | cons accNo accNos ih => rw [List.foldl_cons, List.erase_cons_head, ih]

/-- A locked section, from a session that holds nothing: the body keeps the locks and leaves without them. -/
theorem wp_accountLock {accNos : List String} {body : Svc D α} {inactive : Bool}
    {Q : Except Exn α → Db D × Session D → Prop}
    (h : wp (runs B) body (fun r w => w.2.held = accNos.insertionSort (· ≤ ·) ∧ Q r (w.1, { w.2 with held := [] }))
      (db, ⟨p, inactive, sp, accNos.insertionSort (· ≤ ·)⟩)) :
    wp (runs B) (accountLock accNos body) Q (db, ⟨p, inactive, sp, []⟩) := by
  rw [accountLock, wp_bind, wp_acquireAll, andThen_ok, List.nil_append, wp_ensuring]
  refine wp_mono (toSpec_mono _) ?_ h
  rintro r ⟨db', p', inactive', sp', held'⟩ ⟨rfl, hQ⟩
  rw [wp_releaseAll, andThen_ok, wp_ofExcept, foldl_erase_self]
  exact hQ

/-- A savepoint around a body: an exception takes the session back to where it began. -/
theorem wp_beginNested {body : Svc D α} {Q : Except Exn α → Db D × Session D → Prop}
    (h : wp (runs B) body (fun
      | .ok a, w => Q (.ok a) (w.1, { w.2 with savepoint := none })
      | .error e, w => Q (.error e) (w.1, { w.2 with
          pending := w.2.pending.take (w.2.savepoint.getD w.2.pending.length), savepoint := none }))
      (db, ⟨p, false, some p.length, held⟩)) :
    wp (runs B) (beginNested body) Q (db, ⟨p, false, sp, held⟩) := by
  rw [beginNested, wp_bind, wp_perform]
  show wp (runs B) (body.attempt >>= _) Q (db, ⟨p, false, some p.length, held⟩)
  rw [wp_bind, wp_attempt]
  refine wp_mono (toSpec_mono _) ?_ h
  intro r w hQ
  cases r <;> rw [andThen_ok, wp_bind, wp_perform] <;> exact hQ

end Rules

end UnionBank
