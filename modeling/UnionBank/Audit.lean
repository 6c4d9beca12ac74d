import UnionBank.Lib.Faults
import UnionBank.Freezing

/-!
# The audit log

Every admin request that changes something commits the change and then, in a second transaction, the row of the audit
log. The account endpoints name "admin" as the actor, whoever is logged in; the loan endpoints name the username.

- `AdminChange`: the audited changes, `AdminChange.Happened`: what they make of the tables;
- `AdminVisit`, `Bank.administer`: a request of an admin, with the failure or the crash that strikes it;
- `Audited`: exactly the changes that a request has committed are in the log, under its username;
- `audit_complete`: runs in which the username is "admin" where the endpoint says so, and in which nothing strikes
  between the two commits or behind a staged change, keep the log complete.
-/

namespace UnionBank

open Keyed Programs Prog

set_option linter.unusedSectionVars false

variable {D : Type}

/-! ## Changes -/

/-- The changes that the log is about. -/
inductive AdminChange where
  | freeze (accNo : String)
  | unfreeze (accNo : String)
  | delete (accNo : String)
  | approve (loanId : String)
  | reject (loanId : String)
deriving DecidableEq

namespace AdminChange

/-- The action of its row. -/
def action : AdminChange → String
  | freeze _ => "freeze"
  | unfreeze _ => "unfreeze"
  | delete _ => "delete"
  | approve _ => "loan_approve"
  | reject _ => "loan_reject"

/-- The target of its row. -/
def target : AdminChange → String
  | freeze accNo => accNo
  | unfreeze accNo => accNo
  | delete accNo => accNo
  | approve loanId => loanId
  | reject loanId => loanId

def onLoan : AdminChange → Bool
  | approve _ => true
  | reject _ => true
  | _ => false

end AdminChange

namespace Ledger

def frozen (l : Ledger D) (accNo : String) : Option Bool := (l.accounts.find? accNo).map Account.isFrozen

def deleted (l : Ledger D) (accNo : String) : Option Bool := (l.accounts.find? accNo).map fun a => a.deletedAt.isSome

def loanStatus (l : Ledger D) (loanId : String) : Option LoanStatus := (l.loans.find? loanId).map Loan.status

end Ledger

/-- Between the two stores the change was made. -/
def AdminChange.Happened (db db' : Ledger D) : AdminChange → Prop
  | freeze accNo => db.frozen accNo = some false ∧ db'.frozen accNo = some true
  | unfreeze accNo => db.frozen accNo = some true ∧ db'.frozen accNo = some false
  | delete accNo => db.deleted accNo = some false ∧ db'.deleted accNo = some true
  | approve loanId => db.loanStatus loanId = some .pending ∧ db'.loanStatus loanId = some .active
  | reject loanId => db.loanStatus loanId = some .pending ∧ db'.loanStatus loanId = some .rejected

/-- The row is about the change. -/
def AdminChange.Matches (change : AdminChange) (row : AuditEntry) : Prop :=
  row.action = change.action ∧ row.target = some change.target

instance (change : AdminChange) (row : AuditEntry) : Decidable (change.Matches row) :=
  inferInstanceAs (Decidable (_ ∧ _))

/-- The log has got one row for each change that was made, which names the actor, and no other row. -/
def Audited (username : String) (db db' : Db D) : Prop :=
  ∃ rows, db'.auditLog = db.auditLog ++ rows ∧
    (∀ change : AdminChange, change.Happened db.toLedger db'.toLedger →
      ∃ row, rows.filter (fun row => change.Matches row) = [row] ∧ row.actor = username) ∧
    ∀ row ∈ rows, ∃ change : AdminChange, change.Matches row ∧ change.Happened db.toLedger db'.toLedger

/-! ## Requests -/

/-- A request of the admin API: who makes it, and the change it asks for. Only a rejection has a reason. -/
structure AdminRequest where
  username : String
  change : AdminChange
  reason : String := ""

/-- The call of the endpoint. -/
def AdminRequest.request (r : AdminRequest) : Request D :=
  match r.change with
  | .freeze accNo => .freezeAccount accNo "admin" none
  | .unfreeze accNo => .unfreezeAccount accNo "admin" none
  | .delete accNo => .deleteAccount accNo "admin" none
  | .approve loanId => .approveLoan loanId r.username
  | .reject loanId => .rejectLoan loanId r.reason r.username

/-- The actor that the endpoint names. -/
def AdminRequest.actor (r : AdminRequest) : String := if r.change.onLoan then r.username else "admin"

/-- A request, the thread that serves it, its clock and ids, and what strikes it: an operation that raises, or a crash. -/
structure AdminVisit where
  thread : ℕ
  admin : AdminRequest
  draws : Draws
  fault : Option (ℕ × Fault Exn) := none

section Runs

variable [Zero D] [Add D] [Sub D] [LE D] [LT D] [DecidableEq D] [DecidableLE D] [DecidableLT D]
variable (env : Env D) (B : Backend D)

def AdminVisit.prog (v : AdminVisit) : Svc D (Reply D) := v.admin.request.prog env v.draws

/-- The bank after a visit. A crash takes all sessions with it. -/
def Bank.administer (bank : Bank D) (v : AdminVisit) : Bank D :=
  match v.fault with
  | none => (bank.serve env B v.thread ⟨v.admin.request, v.draws⟩).2
  | some (n, fault) =>
    match execFault (handle B) failed fault n (v.prog env) (bank.db, bank.sessions v.thread) with
    | (.done _, db, s) => { db, sessions := Function.update bank.sessions v.thread s }
    | (.died, db, _) => { db, sessions := fun _ => {} }

/-- Visits one after another. -/
def Bank.administerAll (bank : Bank D) : List AdminVisit → Bank D
  | [] => bank
  | v :: visits => (bank.administer env B v).administerAll visits

/-- After every visit of the run the log is complete. -/
def AuditComplete (bank : Bank D) (visits : List AdminVisit) : Prop :=
  ∀ before v after, visits = before ++ v :: after →
    Audited v.admin.username (bank.administerAll env B before).db (bank.administerAll env B (before ++ [v])).db

/-- A visit that keeps the log complete: a request about an account that has something to write is one of "admin", and
what strikes it finds the store as it was, and is a crash, or finds nothing staged, or strikes the commit. -/
structure Accountable (bank : Bank D) (v : AdminVisit) : Prop where
  actor : (∃ cs, Posts env v.draws bank.db v.admin.request cs) →
    v.admin.change.onLoan = true ∨ v.admin.username = "admin"
  early : ∀ n fault o w, v.fault = some (n, fault) →
    struck (handle B) n (v.prog env) (bank.db, bank.sessions v.thread) = some (o, w) →
    w.1 = bank.db ∧ (fault = .die ∨ w.2.pending = [] ∨ o = .commit)

/-- Every visit of the run does. -/
def AllAccountable (bank : Bank D) (visits : List AdminVisit) : Prop :=
  ∀ before v after, visits = before ++ v :: after → Accountable env B (bank.administerAll env B before) v

end Runs

/-! ## One change -/

/-- What the changes are changes of. -/
inductive Aspect where
  | frozen
  | deleted
  | loan
deriving DecidableEq

/-- Its values. -/
inductive Mark where
  | flag (b : Bool)
  | status (s : LoanStatus)
deriving DecidableEq

namespace Ledger

def mark (l : Ledger D) : Aspect × String → Option Mark
  | (.frozen, accNo) => (l.frozen accNo).map .flag
  | (.deleted, accNo) => (l.deleted accNo).map .flag
  | (.loan, loanId) => (l.loanStatus loanId).map .status

end Ledger

namespace AdminChange

/-- Where a change takes place. -/
def place : AdminChange → Aspect × String
  | freeze accNo => (.frozen, accNo)
  | unfreeze accNo => (.frozen, accNo)
  | delete accNo => (.deleted, accNo)
  | approve loanId => (.loan, loanId)
  | reject loanId => (.loan, loanId)

def oldMark : AdminChange → Mark
  | freeze _ => .flag false
  | unfreeze _ => .flag true
  | delete _ => .flag false
  | approve _ => .status .pending
  | reject _ => .status .pending

def newMark : AdminChange → Mark
  | freeze _ => .flag true
  | unfreeze _ => .flag false
  | delete _ => .flag true
  | approve _ => .status .active
  | reject _ => .status .rejected

theorem happened_iff (c : AdminChange) (db db' : Ledger D) :
    c.Happened db db' ↔ db.mark c.place = some c.oldMark ∧ db'.mark c.place = some c.newMark := by
  cases c <;> simp [Happened, Ledger.mark, place, oldMark, newMark]

theorem oldMark_ne (c : AdminChange) : c.oldMark ≠ c.newMark := by
  cases c <;> simp [oldMark, newMark]

/-- A change is known by its place and its marks. -/
theorem eq_of_marks {c c' : AdminChange} (place : c.place = c'.place) (old : c.oldMark = c'.oldMark)
    (new : c.newMark = c'.newMark) : c = c' := by
  cases c <;> cases c' <;> simp_all [AdminChange.place, oldMark, newMark]

/-- A change is known by its row. -/
theorem eq_of_matches {c c' : AdminChange} {row : AuditEntry} (m : c.Matches row) (m' : c'.Matches row) : c = c' := by
  have action : c.action = c'.action := m.1.symm.trans m'.1
  have target : c.target = c'.target := Option.some.inj (m.2.symm.trans m'.2)
  cases c <;> cases c' <;> simp_all [AdminChange.action, AdminChange.target]

end AdminChange

section Changes

variable {db db' : Ledger D}

/-- Where no mark changes nothing happened. -/
theorem not_happened (same : db'.mark = db.mark) (c : AdminChange) : ¬ c.Happened db db' := by
  rw [c.happened_iff, same]
  rintro ⟨old, new⟩
  rw [old] at new
  exact c.oldMark_ne (Option.some.inj new)

/-- Where one mark changes, its change happened and no other one. -/
theorem happened_of_update {c : AdminChange} (old : db.mark c.place = some c.oldMark)
    (update : db'.mark = Function.update db.mark c.place (some c.newMark)) (c' : AdminChange) :
    c'.Happened db db' ↔ c' = c := by
  rw [c'.happened_iff, update]
  constructor
  · rintro ⟨old', new'⟩
    by_cases place : c'.place = c.place
    · rw [place, old] at old'
      rw [place, Function.update_self] at new'
      exact AdminChange.eq_of_marks place (Option.some.inj old').symm (Option.some.inj new').symm
    · rw [Function.update_of_ne place, old'] at new'
      exact absurd (Option.some.inj new') c'.oldMark_ne
  · rintro rfl
    exact ⟨old, Function.update_self ..⟩

variable {username : String} {store store' : Db D}

/-- Nothing to log, and nothing logged. -/
theorem audited_same : Audited username store store := by
  refine ⟨[], by simp, ?_, by simp⟩
  intro c happened
  exact absurd happened (not_happened rfl c)

/-- One change, with its row. -/
theorem audited_one {c : AdminChange} {row : AuditEntry} (old : store.mark c.place = some c.oldMark)
    (update : store'.mark = Function.update store.mark c.place (some c.newMark)) (log : store'.auditLog = store.auditLog ++ [row])
    (about : c.Matches row) (actor : row.actor = username) : Audited username store store' := by
  have only := happened_of_update old update
  refine ⟨[row], log, ?_, ?_⟩
  · intro c' happened
    rw [(only c').mp happened]
    refine ⟨row, ?_, actor⟩
    simp [about]
  · intro row' mem
    rw [List.mem_singleton.mp mem]
    exact ⟨c, about, (only c).mpr rfl⟩

end Changes

/-! ## The marks after an UPDATE -/

section Marks

variable [AddCommGroup D] [LinearOrder D] {B : Backend D} {db db' : Db D}

/-- The rows of a table, looked at through a function, after one of them is replaced. -/
theorem map_find?_set {κ ρ β : Type} [DecidableEq κ] {key : ρ → κ} {t : Table key} {r r₀ : ρ}
    (found : t.find? (key r) = some r₀) (f : ρ → β) (k : κ) :
    ((t.set r).find? k).map f = if k = key r then some (f r) else (t.find? k).map f := by
  rw [Table.find?_set]
  split_ifs with own
  · rw [own, found]
    rfl
  · rfl

/-- The marks after an account has been written. -/
theorem mark_setAccount {loaded current : Account D} (found : db.accounts.find? loaded.accountNumber = some loaded)
    (number : current.accountNumber = loaded.accountNumber) :
    (db.withAccounts (db.accounts.set current)).mark = Function.update (Function.update db.mark
      (.frozen, loaded.accountNumber) (some (.flag current.isFrozen)))
      (.deleted, loaded.accountNumber) (some (.flag current.deletedAt.isSome)) := by
  have there : db.accounts.find? current.accountNumber = some loaded := by
    rw [number]
    exact found
  funext ⟨aspect, k⟩
  cases aspect with
  | frozen =>
    show (((db.accounts.set current).find? k).map Account.isFrozen).map Mark.flag = _
    rw [map_find?_set there, number]
    by_cases own : k = loaded.accountNumber
    · simp [own]
    · simp [own, Ledger.mark, Ledger.frozen]
  | deleted =>
    show (((db.accounts.set current).find? k).map fun a => a.deletedAt.isSome).map Mark.flag = _
    rw [map_find?_set there, number]
    by_cases own : k = loaded.accountNumber
    · simp [own]
    · simp [own, Ledger.mark, Ledger.deleted]
  | loan =>
    simp only [ne_eq, Prod.mk.injEq, reduceCtorEq, false_and, not_false_eq_true, Function.update_of_ne]
    rfl

/-- The marks of an account as it is stored. -/
theorem mark_account {a : Account D} (found : db.accounts.find? a.accountNumber = some a) :
    db.mark (.frozen, a.accountNumber) = some (.flag a.isFrozen) ∧
      db.mark (.deleted, a.accountNumber) = some (.flag a.deletedAt.isSome) := by
  simp [Ledger.mark, Ledger.frozen, Ledger.deleted, found]

/-- An UPDATE of an account that keeps its deletion. -/
theorem mark_frozen {loaded current : Account D} (h : (Change.account loaded current).apply B db = .ok db')
    (found : db.accounts.find? loaded.accountNumber = some loaded)
    (number : current.accountNumber = loaded.accountNumber) (balance : current.balance = loaded.balance)
    (deleted : current.deletedAt = loaded.deletedAt) :
    db'.mark = Function.update db.mark (.frozen, loaded.accountNumber) (some (.flag current.isFrozen)) ∧
      db'.auditLog = db.auditLog ∧ db'.accounts.find? current.accountNumber = some current := by
  have stored := apply_account_stored h found number balance
  have there : db.accounts.find? current.accountNumber = some loaded := by
    rw [number]
    exact found
  refine ⟨?_, by rw [stored]; rfl, by rw [stored]; exact Table.find?_set_self there⟩
  have apart : ((.frozen, loaded.accountNumber) : Aspect × String) ≠ (.deleted, loaded.accountNumber) := by simp
  rw [stored, mark_setAccount found number, Function.update_comm apart, deleted, ← (mark_account found).2,
    Function.update_eq_self]

/-- An UPDATE of an account that keeps whether it is frozen. -/
theorem mark_deleted {loaded current : Account D} (h : (Change.account loaded current).apply B db = .ok db')
    (found : db.accounts.find? loaded.accountNumber = some loaded)
    (number : current.accountNumber = loaded.accountNumber) (balance : current.balance = loaded.balance)
    (frozen : current.isFrozen = loaded.isFrozen) :
    db'.mark = Function.update db.mark (.deleted, loaded.accountNumber) (some (.flag current.deletedAt.isSome)) ∧
      db'.auditLog = db.auditLog := by
  have stored := apply_account_stored h found number balance
  refine ⟨?_, by rw [stored]; rfl⟩
  rw [stored, mark_setAccount found number, frozen, ← (mark_account found).1, Function.update_eq_self]

/-- The marks and the log after an UPDATE of a loan. -/
theorem mark_loan {loan loan' : Loan D} (found : db.loans.find? loan.loanId = some loan)
    (h : (Change.loan loan loan').apply B db = .ok db') :
    db.mark (.loan, loan.loanId) = some (.status loan.status) ∧
      db'.mark = Function.update db.mark (.loan, loan.loanId) (some (.status loan'.status)) ∧
      db'.accounts = db.accounts ∧ db'.auditLog = db.auditLog := by
  obtain ⟨stored, found', principal, -, rate, -, emi, -, paid, -, remaining, -, -, rfl⟩ := apply_loan_ok.mp h
  rw [found] at found'
  obtain rfl := Option.some.inj found'
  refine ⟨by simp [Ledger.mark, Ledger.loanStatus, found], ?_, rfl, rfl⟩
  funext place
  obtain ⟨aspect, k⟩ := place
  cases aspect with
  | loan =>
    show (((db.loans.set (loan.merge loan' loan principal rate emi paid remaining)).find? k).map Loan.status).map
      Mark.status = _
    have there : db.loans.find? (loan.merge loan' loan principal rate emi paid remaining).loanId = some loan := found
    rw [map_find?_set there]
    by_cases own : k = loan.loanId
    · simp [own, Loan.merge]
    · simp [own, Loan.merge, Ledger.mark, Ledger.loanStatus]
  | frozen =>
    simp only [ne_eq, Prod.mk.injEq, reduceCtorEq, false_and, not_false_eq_true, Function.update_of_ne]
    rfl
  | deleted =>
    simp only [ne_eq, Prod.mk.injEq, reduceCtorEq, false_and, not_false_eq_true, Function.update_of_ne]
    rfl

/-- The marks and the log after an UPDATE of a balance. -/
theorem mark_balance {a : Account D} {balance : D} (found : db.accounts.find? a.accountNumber = some a)
    (h : (Change.account a (a.withBalance balance)).apply B db = .ok db') :
    db'.mark = db.mark ∧ db'.auditLog = db.auditLog := by
  obtain ⟨stored, found', column, -, -, -, rfl⟩ := apply_account_ok.mp h
  rw [found] at found'
  obtain rfl := Option.some.inj found'
  refine ⟨?_, rfl⟩
  obtain ⟨frozen, deleted⟩ := mark_account found
  have same : a.merge (a.withBalance balance) a column = { a with balance := column } := by
    simp [Account.merge, Account.withBalance]
  have set : (db.withAccounts (db.accounts.set { a with balance := column })).mark = _ := mark_setAccount found rfl
  rw [same, set]
  have first : Function.update db.mark (.frozen, a.accountNumber) (some (.flag a.isFrozen)) = db.mark := by
    rw [← frozen, Function.update_eq_self]
  show Function.update (Function.update db.mark _ (some (.flag a.isFrozen))) _ (some (.flag a.deletedAt.isSome)) = _
  rw [first, ← deleted, Function.update_eq_self]

end Marks

/-! ## A request on its own -/

section Request

variable [AddCommGroup D] [LinearOrder D]
variable {env : Env D} {B : Backend D} {db db₁ : Db D} {draws : Draws} {r : AdminRequest} {cs : List (Change D)}

/-- What a request commits is its change, and no row of the log. -/
theorem posts_marks (posts : Posts env draws db r.request cs) (flushed : flush B cs db = .ok db₁) :
    db.mark r.change.place = some r.change.oldMark ∧
      db₁.mark = Function.update db.mark r.change.place (some r.change.newMark) ∧ db₁.auditLog = db.auditLog := by
  obtain ⟨username, change, reason⟩ := r
  cases change with
  | freeze accNo =>
    cases posts with
    | @freezeAccount _ _ _ account live closed thawed =>
      have number := Ledger.accountNumber_of_live live
      have before := Ledger.find?_of_live live
      obtain ⟨db₂, h₁, h₂⟩ := (flush_two B).mp flushed
      obtain ⟨marks₁, log₁, there⟩ := mark_frozen h₁ before rfl rfl rfl
      obtain ⟨marks₂, log₂, -⟩ := mark_frozen h₂ there rfl rfl rfl
      have melted : account.isFrozen = false := by simpa using thawed
      have old := (mark_account before).1
      rw [melted] at old
      subst number
      refine ⟨old, ?_, log₂.trans log₁⟩
      rw [marks₂, marks₁]
      exact Function.update_idem ..
  | unfreeze accNo =>
    cases posts with
    | @unfreezeAccount _ _ _ account live frozen =>
      have number := Ledger.accountNumber_of_live live
      have before := Ledger.find?_of_live live
      obtain ⟨marks, log, -⟩ := mark_frozen ((flush_one B).mp flushed) before rfl rfl rfl
      have old := (mark_account before).1
      rw [frozen] at old
      subst number
      exact ⟨old, marks, log⟩
  | delete accNo =>
    cases posts with
    | @deleteAccount _ _ _ account live =>
      have number := Ledger.accountNumber_of_live live
      have before := Ledger.find?_of_live live
      obtain ⟨marks, log⟩ := mark_deleted ((flush_one B).mp flushed) before rfl rfl rfl
      have old := (mark_account before).2
      rw [(Ledger.liveAccount?_eq_some.mp live).2] at old
      subst number
      exact ⟨old, marks, log⟩
  | approve loanId =>
    cases posts with
    | @approveLoan _ _ loan account found pending live can =>
      obtain ⟨db₂, h₁, db₃, h₂, h₃⟩ := (flush_three B).mp flushed
      have number : loan.loanId = loanId := Table.key_of_find? found
      subst number
      obtain ⟨old, marks₁, accounts, log₁⟩ := mark_loan found h₁
      have there : db₂.accounts.find? account.accountNumber = some account := by
        rw [accounts]
        exact Ledger.find?_of_live live
      obtain ⟨marks₂, log₂⟩ := mark_balance there h₂
      obtain ⟨row, _, rfl⟩ := apply_row h₃
      rw [pending] at old
      exact ⟨old, marks₂.trans marks₁, log₂.trans log₁⟩
  | reject loanId =>
    cases posts with
    | @rejectLoan _ _ _ loan found pending =>
      have number : loan.loanId = loanId := Table.key_of_find? found
      subst number
      obtain ⟨old, marks, -, log⟩ := mark_loan found ((flush_one B).mp flushed)
      rw [pending] at old
      exact ⟨old, marks, log⟩

/-- The end of a request: nothing, or its change and behind it the row of the log. -/
inductive Administered (env : Env D) (B : Backend D) (draws : Draws) (r : AdminRequest) (db : Db D) : Db D → Prop
  | same : Administered env B draws r db db
  | made {cs : List (Change D)} {db₁ : Db D} {row : AuditEntry} (posts : Posts env draws db r.request cs)
      (flushed : flush B cs db = .ok db₁) (about : r.change.Matches row) (actor : row.actor = r.actor) :
      Administered env B draws r db { db₁ with auditLog := db₁.auditLog ++ [row] }

/-- The row of the log always goes in. -/
theorem wp_logs {actor action target details : String} {reason : Option String} {now : Time}
    {Q : Except Exn Unit → Db D × Session D → Prop}
    (h : ∀ row : AuditEntry, row.actor = actor → row.action = action → row.target = some target →
      Q (.ok ()) ({ db with auditLog := db.auditLog ++ [row] }, {})) :
    wp (runs B) (do auditLogRepo.log actor action (some target) (some details) reason now; auditLogRepo.commit) Q
      (db, {}) := by
  simp only [wp_bind, wp_auditLogRepo_log, List.nil_append, andThen_ok]
  refine wp_commit B _ (fun db' hf => ?_) fun e he => ?_
  · cases hf
    exact h _ rfl rfl rfl
  · cases he

variable (env B draws db r) in
/-- A request on a clean session. -/
theorem wp_admin : wp (runs B) (Request.prog env draws r.request) (fun _ w => Administered env B draws r db w.1)
    (db, {}) := by
  obtain ⟨username, change, reason⟩ := r
  cases change with
  | freeze accNo =>
    simp only [AdminRequest.request, Request.prog, AdminService.freezeAccount, wp_bind, wp_accountRepo_get, andThen_ok,
      Session.account?_nil]
    cases live : db.liveAccount? accNo with
    | none => exact .same
    | some account =>
      simp only
      split
      · exact .same
      rename_i closed
      split
      · exact .same
      rename_i thawed
      simp only [wp_bind, wp_accountRepo_setFrozen, wp_accountRepo_setActive, andThen_ok]
      refine wp_commit B _ (fun db₁ hf => ?_) fun e _ => .same
      simp only [Query.staged, List.nil_append, Session.account?, Session.ownAccount, live, Option.map_some,
        List.foldl_cons, List.foldl_nil, if_true, List.singleton_append] at hf
      simp only [andThen_ok, wp_bind]
      exact wp_logs fun row actor action target => .made (.freezeAccount live closed thawed) hf ⟨action, target⟩ actor
  | unfreeze accNo =>
    simp only [AdminRequest.request, Request.prog, AdminService.unfreezeAccount, wp_bind, wp_accountRepo_get,
      andThen_ok, Session.account?_nil]
    cases live : db.liveAccount? accNo with
    | none => exact .same
    | some account =>
      simp only
      split
      · exact .same
      rename_i frozen
      simp only [wp_bind, wp_accountRepo_setFrozen, andThen_ok]
      refine wp_commit B _ (fun db₁ hf => ?_) fun e _ => .same
      simp only [Query.staged, List.nil_append, Session.account?_nil, live] at hf
      simp only [andThen_ok, wp_bind]
      exact wp_logs fun row actor action target =>
        .made (.unfreezeAccount live (by simpa using frozen)) hf ⟨action, target⟩ actor
  | delete accNo =>
    simp only [AdminRequest.request, Request.prog, AdminService.deleteAccount, wp_bind, wp_accountRepo_get,
      andThen_ok, Session.account?_nil]
    cases live : db.liveAccount? accNo with
    | none => exact .same
    | some account =>
      simp only [wp_bind, wp_accountRepo_delete, andThen_ok]
      refine wp_commit B _ (fun db₁ hf => ?_) fun e _ => .same
      simp only [Query.staged, List.nil_append, Session.account?_nil, live] at hf
      simp only [andThen_ok, wp_bind]
      exact wp_logs fun row actor action target => .made (.deleteAccount live) hf ⟨action, target⟩ actor
  | approve loanId =>
    simp only [AdminRequest.request, Request.prog, LoanService.approveLoan, wp_bind, wp_loanRepo_get, andThen_ok,
      Session.loan?_nil]
    cases found : db.loans.find? loanId with
    | none => exact .same
    | some loan =>
      simp only
      split
      · exact .same
      rename_i pending
      simp only [wp_bind, wp_accountRepo_get, andThen_ok, Session.account?_nil]
      cases live : db.liveAccount? loan.accountNumber with
      | none => exact .same
      | some account =>
        simp only
        split
        · exact .same
        rename_i can
        simp only [wp_bind, wp_loanRepo_update, wp_accountRepo_update, wp_txnRepo_create, andThen_ok]
        refine wp_commit B _ (fun db₁ hf => ?_) fun e _ => .same
        have hid : loan.loanId = loanId := Table.key_of_find? found
        rw [List.nil_append, staged_updateLoan loan (LoanService.approved loan draws.now)
          (by simpa [LoanService.approved, hid] using found) rfl rfl,
          staged_withBalance live (by simp [Change.onAccount])] at hf
        simp only [andThen_ok, wp_bind]
        exact wp_logs fun row actor action target =>
          .made (.approveLoan found (by simpa using pending) live (by simpa using can)) hf ⟨action, target⟩ actor
  | reject loanId =>
    simp only [AdminRequest.request, Request.prog, LoanService.rejectLoan, wp_bind, wp_loanRepo_get, andThen_ok,
      Session.loan?_nil]
    cases found : db.loans.find? loanId with
    | none => exact .same
    | some loan =>
      simp only
      split
      · exact .same
      rename_i pending
      simp only [wp_bind, wp_loanRepo_update, andThen_ok]
      refine wp_commit B _ (fun db₁ hf => ?_) fun e _ => .same
      have hid : loan.loanId = loanId := Table.key_of_find? found
      rw [List.nil_append, staged_updateLoan loan (LoanService.rejected loan reason)
        (by simpa [LoanService.rejected, hid] using found) rfl rfl] at hf
      simp only [andThen_ok, wp_bind]
      exact wp_logs fun row actor action target =>
        .made (.rejectLoan found (by simpa using pending)) hf ⟨action, target⟩ actor

/-- What a request leaves is in the log, if the actor is who made it. -/
theorem Administered.audited {db' : Db D} (done : Administered env B draws r db db')
    (actor : (∃ cs, Posts env draws db r.request cs) → r.actor = r.username) : Audited r.username db db' := by
  cases done with
  | same => exact audited_same
  | made posts flushed about named =>
    obtain ⟨old, update, log⟩ := posts_marks posts flushed
    refine audited_one old ?_ (by rw [log]) about (named.trans (actor ⟨_, posts⟩))
    exact update

end Request

/-! ## Visits -/

section Visits

variable [AddCommGroup D] [LinearOrder D] {env : Env D} {B : Backend D} {bank : Bank D}

/-- The operations of the admin requests: neither locks nor savepoints. -/
def Op.plain : Op D → Prop
  | .query _ => True
  | .create _ => True
  | .commit => True
  | _ => False

variable (env) in
/-- The services catch nothing on the way of an admin request. -/
theorem admin_straight (v : AdminVisit) : (v.prog env : Svc D (Reply D)).Straight Op.plain := by
  have ask : ∀ q : Query D, (ask q).Straight Op.plain := fun q => Straight.perform trivial
  have create : ∀ row : NewRow D, (add row).Straight Op.plain := fun row => Straight.perform trivial
  have commit : (perform Op.commit : Svc D Unit).Straight Op.plain := Straight.perform trivial
  unfold AdminVisit.prog
  obtain ⟨_, ⟨username, change, reason⟩, draws, _⟩ := v
  cases change with
  | freeze accNo =>
    refine Straight.bind (Straight.bind (ask _) fun account => ?_) fun _ => trivial
    cases account with
    | none => trivial
    | some account =>
      simp only
      split
      · trivial
      split
      · trivial
      exact Straight.bind (ask _) fun _ => Straight.bind (ask _) fun _ => Straight.bind commit fun _ =>
        Straight.bind (Straight.bind (create _) fun _ => commit) fun _ => trivial
  | unfreeze accNo =>
    refine Straight.bind (Straight.bind (ask _) fun account => ?_) fun _ => trivial
    cases account with
    | none => trivial
    | some account =>
      simp only
      split
      · trivial
      exact Straight.bind (ask _) fun _ => Straight.bind commit fun _ =>
        Straight.bind (Straight.bind (create _) fun _ => commit) fun _ => trivial
  | delete accNo =>
    refine Straight.bind (Straight.bind (ask _) fun account => ?_) fun _ => trivial
    cases account with
    | none => trivial
    | some account =>
      exact Straight.bind (ask _) fun _ => Straight.bind commit fun _ =>
        Straight.bind (Straight.bind (create _) fun _ => commit) fun _ => trivial
  | approve loanId =>
    refine Straight.bind (Straight.bind (ask _) fun loan => ?_) fun _ => trivial
    cases loan with
    | none => trivial
    | some loan =>
      simp only
      split
      · trivial
      refine Straight.bind (ask _) fun account => ?_
      cases account with
      | none => trivial
      | some account =>
        simp only
        split
        · trivial
        exact Straight.bind (ask _) fun _ => Straight.bind (ask _) fun _ => Straight.bind (create _) fun _ =>
          Straight.bind commit fun _ => Straight.bind (Straight.bind (create _) fun _ => commit) fun _ => trivial
  | reject loanId =>
    refine Straight.bind (Straight.bind (ask _) fun loan => ?_) fun _ => trivial
    cases loan with
    | none => trivial
    | some loan =>
      simp only
      split
      · trivial
      exact Straight.bind (ask _) fun _ => Straight.bind commit fun _ =>
        Straight.bind (Straight.bind (create _) fun _ => commit) fun _ => trivial

/-- A session without locks, and without a savepoint unless it is inactive. -/
def Bare (w : Db D × Session D) : Prop := w.2.held = [] ∧ (w.2.inactive = false → w.2.savepoint = none)

theorem handle_bare {o : Op D} {w : Db D × Session D} (plain : o.plain) (bare : Bare w) : Bare (handle B o w).2 := by
  obtain ⟨db, s⟩ := w
  obtain ⟨held, savepoint⟩ := bare
  cases o with
  | query q =>
    by_cases asleep : s.inactive = true
    · rw [handle, if_pos asleep]
      exact ⟨held, savepoint⟩
    · rw [handle, if_neg asleep]
      exact ⟨held, savepoint⟩
  | create row => exact ⟨held, savepoint⟩
  | commit =>
    by_cases asleep : s.inactive = true
    · rw [handle, if_pos asleep]
      exact ⟨held, savepoint⟩
    · rw [handle, if_neg asleep]
      split
      · exact ⟨held, fun _ => rfl⟩
      · exact ⟨held, fun _ => rfl⟩
  | _ => exact absurd plain id

/-- A failure that finds nothing staged, or strikes the commit, leaves the store and a session between two calls. -/
theorem failed_rest {o : Op D} {w : Db D × Session D} (bare : Bare w) (harmless : w.2.pending = [] ∨ o = .commit) :
    (failed o w).1 = w.1 ∧ (failed o w).2.Idle := by
  obtain ⟨db, s⟩ := w
  by_cases flushes : o.flushes = true
  · rw [failed, if_pos flushes]
    exact ⟨rfl, bare.1, fun active => Bool.noConfusion active⟩
  · rw [failed, if_neg flushes]
    rcases harmless with nothing | commit
    · exact ⟨rfl, bare.1, fun active => ⟨nothing, bare.2 active⟩⟩
    · rw [commit] at flushes
      exact absurd rfl flushes

/-- A request that nothing strikes. -/
theorem exec_admin {r : AdminRequest} {draws : Draws} {db : Db D} {s : Session D} (idle : s.Idle) :
    Administered env B draws r db (exec (handle B) (Request.prog env draws r.request) (db, s)).2.1 := by
  obtain ⟨pending, asleep, savepoint, held⟩ := s
  obtain rfl : held = [] := idle.held
  cases asleep with
  | true =>
    have same := (exec_inactive env B db ⟨r.request, draws⟩ (s := ⟨pending, true, savepoint, []⟩) rfl rfl).1
    have unmoved : (exec (handle B) (Request.prog env draws r.request) (db, ⟨pending, true, savepoint, []⟩)).2.1 = db :=
      same
    rw [unmoved]
    exact .same
  | false =>
    obtain ⟨rfl, rfl⟩ := idle.clean rfl
    exact (wp_handler (handle B) _ (fun _ w => Administered env B draws r db w.1) _).mp (wp_admin env B db draws r)

/-- The actor that the endpoint names is the admin, where the condition says so. -/
theorem Accountable.named {v : AdminVisit} (accountable : Accountable env B bank v)
    (writes : ∃ cs, Posts env v.draws bank.db v.admin.request cs) : v.admin.actor = v.admin.username := by
  rcases accountable.actor writes with loan | admin
  · exact if_pos loan
  · unfold AdminRequest.actor
    split
    · rfl
    · exact admin.symm

/-- **One visit** keeps the log complete, and leaves every session between two calls. -/
theorem administer_audited (idle : bank.Idle) {v : AdminVisit} (accountable : Accountable env B bank v) :
    Audited v.admin.username bank.db (bank.administer env B v).db ∧ (bank.administer env B v).Idle := by
  have served : Audited v.admin.username bank.db (bank.serve env B v.thread ⟨v.admin.request, v.draws⟩).2.db ∧
      (bank.serve env B v.thread ⟨v.admin.request, v.draws⟩).2.Idle := by
    have done : Administered env B v.draws v.admin bank.db
        (bank.serve env B v.thread ⟨v.admin.request, v.draws⟩).2.db := exec_admin (idle v.thread)
    exact ⟨done.audited accountable.named, (serve_settles env B idle v.thread _).2⟩
  unfold Bank.administer
  cases hf : v.fault with
  | none => exact served
  | some strike =>
    obtain ⟨n, fault⟩ := strike
    cases hs : struck (handle B) n (v.prog env) (bank.db, bank.sessions v.thread) with
    | none =>
      simp only [execFault_of_struck_none _ _ hs]
      exact served
    | some found =>
      obtain ⟨o, w⟩ := found
      obtain ⟨same, harmless⟩ := accountable.early n fault o w hf hs
      cases fault with
      | die =>
        simp only [execFault_die hs, same]
        exact ⟨audited_same, fun _ => Session.idle_nil⟩
      | raise e =>
        have straight := admin_straight env v
        have before : Bare (bank.db, bank.sessions v.thread) := ⟨(idle v.thread).held, fun active => ((idle v.thread).clean active).2⟩
        have bare : Bare w := straight.struck (fun o w => handle_bare) hs before
        have quiet : w.2.pending = [] ∨ o = .commit := harmless.resolve_left (by simp)
        obtain ⟨store, rest⟩ := failed_rest bare quiet
        simp only [straight.execFault hs]
        refine ⟨by rw [store, same]; exact audited_same, fun t => ?_⟩
        show (Function.update bank.sessions v.thread (failed o w).2 t).Idle
        rw [Function.update_apply]
        split
        · exact rest
        · exact idle t

/-- The run before a visit. -/
theorem administerAll_append (visits visits' : List AdminVisit) :
    bank.administerAll env B (visits ++ visits') = (bank.administerAll env B visits).administerAll env B visits' := by
  induction visits generalizing bank with
  | nil => rfl
  | cons v visits ih => exact ih

/-- **The audit log.** In a run of admin requests from idle sessions, whose visits are all accountable, every change
that is committed has got exactly one row, which names the admin, and every row is of a change that was committed. -/
theorem audit_complete (env : Env D) (B : Backend D) (bank : Bank D) (visits : List AdminVisit) (idle : bank.Idle)
    (accountable : AllAccountable env B bank visits) : AuditComplete env B bank visits := by
  have still : ∀ before after, visits = before ++ after → (bank.administerAll env B before).Idle := by
    intro before
    induction before using List.reverseRecOn with
    | nil => exact fun _ _ => idle
    | append_singleton before v ih =>
      intro after split
      have here : visits = before ++ v :: after := by simpa using split
      rw [administerAll_append]
      exact (administer_audited (ih (v :: after) here) (accountable before v after here)).2
  intro before v after split
  rw [administerAll_append]
  exact (administer_audited (still before (v :: after) split) (accountable before v after split)).1

end Visits

/-! ## Admins and failures -/

namespace Sample

/-- A freeze whose first query fails, and the same request again. -/
def freezes : List AdminVisit :=
  [⟨0, ⟨"admin", .freeze "1001", ""⟩, draws 0, some (0, .raise .operationalError)⟩,
    ⟨0, ⟨"admin", .freeze "1001", ""⟩, draws 0, none⟩]

theorem freezes_logged : AuditComplete paiseEnv paise (bank 10000 5000 0) freezes := by
  refine audit_complete paiseEnv paise (bank 10000 5000 0) freezes (bank_idle 10000 5000 0) ?_
  intro before v after split
  rcases List.cons_eq_append_iff.mp split with ⟨rfl, here⟩ | ⟨before', rfl, later⟩
  · obtain ⟨rfl, -⟩ := List.cons.inj here
    refine ⟨fun _ => .inr rfl, ?_⟩
    intro n fault o w hf hs
    obtain ⟨rfl, rfl⟩ : 0 = n ∧ Fault.raise Exn.operationalError = fault := by simpa using hf
    cases hs
    exact ⟨rfl, .inr (.inl rfl)⟩
  · rcases List.cons_eq_append_iff.mp later with ⟨rfl, here⟩ | ⟨before'', rfl, last⟩
    · obtain ⟨rfl, -⟩ := List.cons.inj here
      refine ⟨fun _ => .inr rfl, ?_⟩
      intro n fault o w hf
      cases hf
    · simp at last

/-- A freeze by another admin. -/
def byRoot : AdminVisit := ⟨0, ⟨"root", .freeze "1001", ""⟩, draws 0, none⟩

/-- A crash between the commit of a freeze and that of its row. -/
def crashed : AdminVisit := ⟨0, ⟨"admin", .freeze "1001", ""⟩, draws 0, some (4, .die)⟩

/-- The log names another actor for the first one, and nobody for the second one. -/
theorem freezes_unaccounted : ¬ AuditComplete paiseEnv paise (bank 10000 5000 0) [byRoot] ∧
    ¬ AuditComplete paiseEnv paise (bank 10000 5000 0) [crashed] := by
  constructor
  · intro complete
    obtain ⟨rows, log, logged, -⟩ := complete [] byRoot [] rfl
    obtain ⟨row, only, actor⟩ := logged (.freeze "1001") (by constructor <;> decide)
    have all : (((bank 10000 5000 0).administerAll paiseEnv paise [byRoot]).db.auditLog.map AuditEntry.actor) =
        ["admin"] := by decide +kernel
    have mem : row ∈ rows := by
      have inside : row ∈ rows.filter fun row => (AdminChange.freeze "1001").Matches row := by
        rw [only]
        exact List.mem_cons_self
      exact List.mem_of_mem_filter inside
    have there : row ∈ ((bank 10000 5000 0).administerAll paiseEnv paise [byRoot]).db.auditLog := by
      show row ∈ ((bank 10000 5000 0).administerAll paiseEnv paise ([] ++ [byRoot])).db.auditLog
      rw [log]
      exact List.mem_append_right _ mem
    have named := List.mem_map_of_mem (f := AuditEntry.actor) there
    rw [all, List.mem_singleton, actor] at named
    exact absurd named (by decide)
  · intro complete
    obtain ⟨rows, log, logged, -⟩ := complete [] crashed [] rfl
    obtain ⟨row, only, -⟩ := logged (.freeze "1001") (by constructor <;> decide)
    have none : ((bank 10000 5000 0).administerAll paiseEnv paise ([] ++ [crashed])).db.auditLog = [] := by
      decide +kernel
    rw [none] at log
    obtain ⟨-, rfl⟩ := List.append_eq_nil_iff.mp log.symm
    cases only

end Sample

end UnionBank
