import UnionBank.Auth.Lockout
import UnionBank.Auth.Tokens
import UnionBank.Visits
import UnionBank.Amortisation
import UnionBank.Dormancy

/-!
# Instants with and without a time zone

`utcnow()` knows its time zone. A `DateTime(timezone=True)` column gives an instant back with its time zone on PostgreSQL
and without it on SQLite, and Python raises a `TypeError` when one of each is compared.

- `Stamp.compare`: a comparison with `utcnow()`; `Loan.isOverdue`, `LoginAttempt.isLocked`, `RefreshToken.isExpired`;
- `Branch`: the ledger and the authentication tables of one database; `Deed`: what writes them and what compares;
- `Deed.Comparable`: on SQLite the loans that are looked at are not running, a wrong password is not recorded on a row
  with a lock, and there is no refresh token and no lock to look at;
- `clashless_iff`: in a run from an empty database no comparison raises exactly when all deeds are comparable.
-/

namespace UnionBank

open Keyed Programs

set_option linter.unusedSectionVars false

/-! ## Comparisons -/

namespace Auth

/-- A comparison of `utcnow()` with an instant. -/
def Stamp.compare (s : Stamp) (holds : Time → Bool) : Except Exn Bool :=
  if s.aware then .ok (holds s.time) else .error .typeError

/-- `LoginAttempt.is_locked`. -/
def LoginAttempt.isLocked (attempt : LoginAttempt) (now : Time) : Except Exn Bool :=
  match attempt.lockoutUntil with
  | none => .ok false
  | some lockoutUntil => lockoutUntil.compare fun t => now < t

/-- `RefreshToken.is_expired`, of a token that was loaded from a database. -/
def RefreshToken.isExpired (database : Database) (token : RefreshToken) (now : Time) : Except Exn Bool :=
  (database.stamp ⟨token.expiresAt, true⟩).compare fun t => t < now

/-- `is_locked` of `login_attempt_repo.get(key)`. -/
def attemptIsLocked (key : String) (now : Time) : Svc Bool := do
  let some attempt ← selectAttempt key | return false
  Prog.ofExcept (attempt.isLocked now)

/-- `is_expired` of `refresh_token_repo.get(token_id)`. -/
def tokenIsExpired (database : Database) (tokenId : String) (now : Time) : Svc Bool := do
  let some token ← refreshTokenRepo.get tokenId | return false
  Prog.ofExcept (token.isExpired database now)

end Auth

open Auth (Database Login LoginTimes LoginSettings)

variable {D : Type}

/-- A loan that is repaid. -/
def Loan.isActive (loan : Loan D) : Bool := loan.status = .approved || loan.status = .active

/-- `Loan.is_overdue`, of a loan that was loaded from a database; v2 writes the same comparison out twice. -/
def Loan.isOverdue (database : Database) (loan : Loan D) (now : Time) : Except Auth.Exn Bool :=
  match loan.nextEmiDate with
  | some nextEmiDate =>
    if loan.isActive then (database.stamp ⟨nextEmiDate, true⟩).compare fun t => t < now else .ok false
  | none => .ok false

namespace Api

variable (database : Database) (bank : Bank D) (thread : ℕ)

/-- `loan_repo.get_by_account`, the latest application first. -/
def loansOf (accNo : String) : List (Loan D) :=
  (bank.db.loans.rows.filter fun loan => loan.accountNumber = accNo).mergeSort fun a b =>
    b.applicationDate ≤ a.applicationDate

/-- `v2_list_loans`: which loans are overdue. -/
def listLoans (accNo : String) (now : Time) : Except Auth.Exn (List Bool) :=
  if (bank.sessions thread).inactive then .error .pendingRollbackError
  else (loansOf bank accNo).mapM fun loan => loan.isOverdue database now

/-- `v2_get_loan`. -/
def getLoan (loanId accNo : String) (now : Time) : Except Auth.Exn Bool :=
  if (bank.sessions thread).inactive then .error .pendingRollbackError
  else match bank.db.loans.find? loanId with
    | none => .error (.httpException 404 "Loan not found.")
    | some loan =>
      if loan.accountNumber ≠ accNo then .error (.httpException 404 "Loan not found for this account.")
      else loan.isOverdue database now

/-- `is_overdue` of `loan_repo.get(loan_id)`. -/
def loanIsOverdue (loanId : String) (now : Time) : Except Auth.Exn Bool :=
  if (bank.sessions thread).inactive then .error .pendingRollbackError
  else match bank.db.loans.find? loanId with
    | none => .ok false
    | some loan => loan.isOverdue database now

end Api

/-! ## Runs -/

/-- The two sides of one database: the ledger and the tables of authentication. -/
structure Branch (D : Type) where
  bank : Bank D
  auth : Auth.Bank

/-- What is done at a branch: visits, logins and refresh tokens, which write, and what compares instants. -/
inductive Deed (τ D : Type) where
  | visit (thread : ℕ) (v : Visit D)
  | login (thread : ℕ) (settings : LoginSettings) (times : LoginTimes) (login : Login)
  | createTokenPair (thread : ℕ) (settings : Auth.Settings τ) (draws : Auth.Draws) (subject role : String)
  | revokeRefreshToken (thread : ℕ) (settings : Auth.Settings τ) (refreshTokenId : String) (now : Time)
  | listLoans (thread : ℕ) (accNo : String) (now : Time)
  | getLoan (thread : ℕ) (loanId accNo : String) (now : Time)
  | loanIsOverdue (thread : ℕ) (loanId : String) (now : Time)
  | attemptIsLocked (thread : ℕ) (key : String) (now : Time)
  | tokenIsExpired (thread : ℕ) (tokenId : String) (now : Time)

section Runs

variable {τ : Type} [Zero D] [Add D] [Sub D] [LE D] [LT D] [DecidableEq D] [DecidableLE D] [DecidableLT D]
variable (env : Env D) (checks : Checks) (B : Backend D) (A : Auth.Backend)

/-- The branch after a deed. -/
def Branch.step (branch : Branch D) : Deed τ D → Branch D
  | .visit thread v => { branch with bank := (branch.bank.attend env checks B thread v).2 }
  | .login thread settings times login =>
    { branch with auth := (branch.auth.serve A thread (login.prog settings times)).2 }
  | .createTokenPair thread settings draws subject role =>
    { branch with auth := (branch.auth.serve A thread (Auth.createTokenPair settings draws subject role)).2 }
  | .revokeRefreshToken thread settings refreshTokenId now =>
    { branch with auth := (branch.auth.serve A thread (Auth.revokeRefreshToken settings refreshTokenId now)).2 }
  | .attemptIsLocked thread key now => { branch with auth := (branch.auth.serve A thread (Auth.attemptIsLocked key now)).2 }
  | .tokenIsExpired thread tokenId now =>
    { branch with auth := (branch.auth.serve A thread (Auth.tokenIsExpired A.database tokenId now)).2 }
  | .listLoans .. | .getLoan .. | .loanIsOverdue .. => branch

/-- A comparison of the deed raises. -/
def Branch.Clashes (branch : Branch D) : Deed τ D → Prop
  | .login thread settings times login =>
    (branch.auth.serve A thread (login.prog settings times)).1 = .error .typeError
  | .listLoans thread accNo now => Api.listLoans A.database branch.bank thread accNo now = .error .typeError
  | .getLoan thread loanId accNo now => Api.getLoan A.database branch.bank thread loanId accNo now = .error .typeError
  | .loanIsOverdue thread loanId now => Api.loanIsOverdue A.database branch.bank thread loanId now = .error .typeError
  | .attemptIsLocked thread key now =>
    (branch.auth.serve A thread (Auth.attemptIsLocked key now)).1 = .error .typeError
  | .tokenIsExpired thread tokenId now =>
    (branch.auth.serve A thread (Auth.tokenIsExpired A.database tokenId now)).1 = .error .typeError
  | .visit .. | .createTokenPair .. | .revokeRefreshToken .. => False

/-- No comparison of the run raises. -/
def Branch.Clashless (branch : Branch D) : List (Deed τ D) → Prop
  | [] => True
  | deed :: deeds => ¬branch.Clashes A deed ∧ (branch.step env checks B A deed).Clashless deeds

/-- The wrong password of a login is recorded, once it is not refused for a lock: that of an account that may log in, or
of any admin name. -/
def Auth.Login.Records (A : Auth.Backend) (db : Auth.Db) (login : Login) : Prop :=
  login.right A db = false ∧ match login with
    | .customer .. => login.hashed db ≠ none
    | .admin .. => True

/-- The deed compares nothing that has lost its time zone: it is made on PostgreSQL or on a dead session, or it looks at
loans that are not running, at a row without a lock, or at no token; and a wrong password is not recorded on a row whose
lock is over. -/
def Branch.Comparable (branch : Branch D) (deed : Deed τ D) : Prop :=
  A.database = .postgresql ∨ match deed with
    | .visit .. | .createTokenPair .. | .revokeRefreshToken .. => True
    | .listLoans thread accNo _ => (branch.bank.sessions thread).inactive = true ∨
        ∀ loan ∈ branch.bank.db.loans.rows, loan.accountNumber = accNo → loan.isActive = false
    | .getLoan thread loanId accNo _ => (branch.bank.sessions thread).inactive = true ∨
        ∀ loan, branch.bank.db.loans.find? loanId = some loan → loan.accountNumber = accNo → loan.isActive = false
    | .loanIsOverdue thread loanId _ => (branch.bank.sessions thread).inactive = true ∨
        ∀ loan, branch.bank.db.loans.find? loanId = some loan → loan.isActive = false
    | .login thread _ times login => (branch.auth.sessions thread).inactive = true ∨
        ∀ row lockoutUntil, branch.auth.db.rows .loginAttempts login.key = some row →
          row.lockoutUntil = some lockoutUntil → (row.count < 5 ∨ lockoutUntil.time ≤ times.checked) →
          ¬login.Records A branch.auth.db
    | .attemptIsLocked thread key _ => (branch.auth.sessions thread).inactive = true ∨
        ∀ row, branch.auth.db.rows .loginAttempts key = some row → row.lockoutUntil = none
    | .tokenIsExpired thread tokenId _ => (branch.auth.sessions thread).inactive = true ∨
        branch.auth.db.rows .refreshTokens tokenId = none

/-- All deeds of the run are comparable. -/
def Branch.AllComparable (branch : Branch D) : List (Deed τ D) → Prop
  | [] => True
  | deed :: deeds => branch.Comparable A deed ∧ (branch.step env checks B A deed).AllComparable deeds

/-- A branch that opens: no loan, no failed login and nothing under way. -/
structure Branch.Opened (branch : Branch D) : Prop where
  idle : branch.bank.Idle
  loans : branch.bank.db.loans.rows = []
  attempts : ∀ key, branch.auth.db.rows .loginAttempts key = none
  clean : branch.auth.Clean

end Runs

/-! ## Loans -/

section Loans

variable {B : Backend D} {db db' : Db D} {loan : Loan D} {database : Database} {now : Time}

/-- A loan that is repaid has the date of its next instalment. -/
def Loan.Dated (loan : Loan D) : Prop := loan.isActive = true → loan.nextEmiDate.isSome = true

/-- The comparison of a dated loan raises exactly on SQLite, while it is repaid. -/
theorem isOverdue_clashes (dated : loan.Dated) :
    loan.isOverdue database now = .error .typeError ↔ database = .sqlite ∧ loan.isActive = true := by
  unfold Loan.isOverdue
  cases next : loan.nextEmiDate with
  | none =>
    constructor
    · intro h
      cases h
    · rintro ⟨-, active⟩
      have some_ := dated active
      rw [next] at some_
      cases some_
  | some nextEmiDate =>
    cases active : loan.isActive with
    | false => simp
    | true => cases database <;> simp [Database.stamp, Auth.Stamp.compare]

theorem isOverdue_error {e : Auth.Exn} (h : loan.isOverdue database now = .error e) : e = .typeError := by
  unfold Loan.isOverdue at h
  split at h
  · split at h
    · unfold Auth.Stamp.compare at h
      split at h
      · cases h
      · cases h; rfl
    · cases h
  · cases h

/-- A list of comparisons raises exactly when one of them does. -/
theorem mapM_isOverdue_clashes (loans : List (Loan D)) :
    (loans.mapM fun loan : Loan D => loan.isOverdue database now) = .error .typeError ↔
      ∃ loan ∈ loans, loan.isOverdue database now = .error .typeError := by
  induction loans with
  | nil =>
    constructor
    · intro h
      cases h
    · rintro ⟨loan, mem, -⟩
      cases mem
  | cons loan loans ih =>
    rw [List.mapM_cons]
    cases first : loan.isOverdue database now with
    | error e =>
      obtain rfl := isOverdue_error first
      exact ⟨fun _ => ⟨loan, List.mem_cons_self, first⟩, fun _ => rfl⟩
    | ok overdue =>
      have rest : (do let b ← Except.ok (ε := Auth.Exn) overdue
                      let bs ← loans.mapM fun loan : Loan D => loan.isOverdue database now
                      pure (b :: bs)) = .error .typeError ↔
          (loans.mapM fun loan : Loan D => loan.isOverdue database now) = .error .typeError := by
        cases loans.mapM fun loan : Loan D => loan.isOverdue database now with
        | error e =>
          constructor
          · intro h
            cases h
            rfl
          · intro h
            cases h
            rfl
        | ok bs =>
          constructor
          · intro h
            cases h
          · intro h
            cases h
      rw [rest, ih]
      constructor
      · rintro ⟨other, mem, clashes⟩
        exact ⟨other, List.mem_cons_of_mem _ mem, clashes⟩
      · rintro ⟨other, mem, clashes⟩
        rcases List.mem_cons.mp mem with rfl | mem
        · rw [first] at clashes
          cases clashes
        · exact ⟨other, mem, clashes⟩

end Loans

section Dated

variable [AddCommGroup D] [LinearOrder D] {env : Env D} {checks : Checks} {B : Backend D} {db db' : Db D}

/-- Every loan that is repaid has its next date. -/
def Ledger.LoansDated (l : Ledger D) : Prop := ∀ loanId loan, l.loans.find? loanId = some loan → loan.Dated

/-- Statements that are not about loans. -/
theorem flush_loansDated {cs : List (Change D)} (dated : db.LoansDated) (elsewhere : ∀ c ∈ cs, ∀ loanId, c.onLoan loanId = false)
    (flushed : flush B cs db = .ok db') : db'.LoansDated := by
  intro loanId loan found
  rw [flush_otherLoan (fun c hc => elsewhere c hc loanId) flushed] at found
  exact dated loanId loan found

/-- An UPDATE of a loan as it is stored. -/
theorem apply_loan_dated {loan loan' : Loan D} (dated : db.LoansDated) (found : db.loans.find? loan.loanId = some loan)
    (dated' : loan'.Dated) (h : (Change.loan loan loan').apply B db = .ok db') : db'.LoansDated := by
  intro loanId row stored
  by_cases same : loan.loanId = loanId
  · subst same
    obtain ⟨stored', found', principal, -, rate, -, emi, -, paid, -, remaining, -, -, rfl⟩ := apply_loan_ok.mp h
    rw [found] at found'
    obtain rfl := Option.some.inj found'
    have here : db.loans.find? (loan.merge loan' loan principal rate emi paid remaining).loanId = some loan := found
    have row' : some (loan.merge loan' loan principal rate emi paid remaining) = some row :=
      (Table.find?_set_self here).symm.trans stored
    obtain rfl := Option.some.inj row'
    simpa [Loan.Dated, Loan.isActive, Loan.merge] using dated'
  · rw [apply_otherLoan (by simpa [Change.onLoan] using same) h] at stored
    exact dated loanId row stored

theorem apply_insertLoan_dated {loan : Loan D} (dated : db.LoansDated) (dated' : loan.Dated)
    (h : (Change.insert (.loan loan)).apply B db = .ok db') : db'.LoansDated := by
  obtain ⟨principal, -, rate, -, emi, -, paid, -, remaining, -, -, -, loans, inserted, rfl⟩ := apply_insertLoan_ok.mp h
  obtain ⟨new, rfl⟩ := Table.insert?_eq_some.mp inserted
  intro loanId row stored
  have stored : (Table.insert _ _ new).find? loanId = some row := stored
  rw [Table.find?_insert] at stored
  split at stored
  · obtain rfl := Option.some.inj stored
    exact dated'
  · exact dated loanId row stored

theorem dated_paid {loan : Loan D} {actual : D} {now : Time} : (LoanService.paid loan actual now).Dated := by
  unfold LoanService.paid Loan.Dated
  simp only
  split
  · intro active
    cases active
  · intro _
    rfl

/-- A posting keeps the dates of the loans. -/
theorem posts_loansDated {draws : Draws} {request : Request D} {cs : List (Change D)} (dated : db.LoansDated)
    (posts : Posts env draws db request cs) (flushed : flush B cs db = .ok db') : db'.LoansDated := by
  have elsewhere : (∀ c ∈ cs, ∀ loanId, c.onLoan loanId = false) → db'.LoansDated :=
    fun h => flush_loansDated dated h flushed
  cases posts with
  | deposit | withdraw | transfer | applyInterest | createGoal | contribute | refundGoal | deleteGoal | freezeAccount
    | unfreezeAccount | deleteAccount | closeAccount => exact elsewhere (by simp [Change.onLoan])
  | updateProfile =>
    refine elsewhere ?_
    simp only [Query.staged]
    split <;> simp [Change.onLoan]
  | @changePassword _ _ _ account versions live verified support =>
    refine elsewhere ?_
    intro c hc
    rcases List.mem_pair.mp hc with rfl | rfl
    · exact fun _ => rfl
    · rcases c with (_ | _ | _ | _ | _ | _ | _) | _ | _ | _ | _ | _ <;> first
        | exact Bool.noConfusion support
        | exact fun _ => rfl
  | applyLoan => exact apply_insertLoan_dated dated (fun active => by cases active) ((flush_one _).mp flushed)
  | @approveLoan id adminUser loan account found pending live can =>
    obtain ⟨db₁, h₁, rest⟩ := (flush_cons_ok _).mp flushed
    have dated₁ := apply_loan_dated dated (by rw [Table.key_of_find? found]; exact found) (fun _ => rfl) h₁
    exact flush_loansDated dated₁ (by simp [Change.onLoan]) rest
  | @rejectLoan id reason adminUser loan found pending =>
    exact apply_loan_dated dated (by rw [Table.key_of_find? found]; exact found) (fun active => by cases active)
      ((flush_one _).mp flushed)
  | @payEmi accNo id amount loan account payment actual found running owner live can asked positive covered least =>
    obtain ⟨db₁, h₁, db₂, h₂, h₃⟩ := (flush_three _).mp flushed
    have found₁ : db₁.loans.find? loan.loanId = some loan := by
      rw [apply_otherLoan rfl h₁, Table.key_of_find? found]
      exact found
    have dated₁ : db₁.LoansDated := by
      intro loanId row stored
      rw [apply_otherLoan rfl h₁] at stored
      exact dated loanId row stored
    have dated₂ := apply_loan_dated dated₁ found₁ dated_paid h₂
    intro loanId row stored
    rw [apply_otherLoan rfl h₃] at stored
    exact dated₂ loanId row stored

/-- A visit keeps the dates of the loans. -/
theorem attend_loansDated {bank : Bank D} (idle : bank.Idle) (dated : bank.db.LoansDated) (thread : ℕ) (v : Visit D) :
    (bank.attend env checks B thread v).2.db.LoansDated := by
  have attended := (attend_settles env checks B idle thread v).1
  generalize (bank.attend env checks B thread v).2.db = db' at attended ⊢
  cases attended with
  | unmoved ledger =>
    show db'.toLedger.LoansDated
    rw [ledger]
    exact dated
  | @moved db₁ cs writes flushed ledger =>
    show db'.toLedger.LoansDated
    rw [ledger]
    show db₁.LoansDated
    cases writes with
    | call posts => exact posts_loansDated dated posts flushed
    | register => exact flush_loansDated dated (by simp [Change.onLoan]) flushed
    | updateProfile => exact flush_loansDated dated (by simp [Change.onLoan]) flushed
    | updateSavingsGoal => exact flush_loansDated dated (by simp [Change.onLoan]) flushed
    | changePassword => exact flush_loansDated dated (by simp [Change.onLoan]) flushed

end Dated

/-! ## Failed logins and refresh tokens -/

namespace Auth

section Sessions

variable {B : Backend} {db db' : Db} {p : List Change} {key : String} {settings : LoginSettings} {times : LoginTimes}

/-- The instants of the failed logins are as the database gives them. -/
def Db.Loaded (database : Database) (db : Db) : Prop :=
  ∀ key row lockoutUntil, db.rows .loginAttempts key = some row → row.lockoutUntil = some lockoutUntil →
    (lockoutUntil.aware = true ↔ database = .postgresql)

/-- A change that no SELECT of the logins sees: a deletion, or one of a refresh token. -/
def Change.Unseen (c : Change) : Prop := c.isDelete = true ∨ c.tab = .refreshTokens

/-- What a thread is left with between two deeds. -/
def Rests (database : Database) (w : Db × Session) : Prop := w.1.Loaded database ∧ ∀ c ∈ w.2.pending, c.Unseen

theorem stamp_aware (database : Database) (s : Stamp) : (database.stamp s).aware = true ↔ database = .postgresql := by
  cases database <;> simp [Database.stamp]

theorem apply_loaded {c : Change} {database : Database} (loaded : db.Loaded database) (h : c.apply database db = .ok db') :
    db'.Loaded database := by
  have kept : ∀ (key : String) (row : LoginAttempt),
      (db.set .loginAttempts key (some (database.keeps .loginAttempts row))).Loaded database := by
    intro key row name row' lockoutUntil stored until_
    by_cases same : name = key
    · subst same
      rw [Db.set_self] at stored
      obtain rfl := Option.some.inj stored
      obtain ⟨s, -, rfl⟩ := Option.map_eq_some_iff.mp until_
      exact stamp_aware database s
    · rw [Db.set_of_key_ne _ _ same] at stored
      exact loaded name row' lockoutUntil stored until_
  have other : ∀ (t : Tab) (key : String) (row : Option (Row t)), t ≠ .loginAttempts →
      (db.set t key row).Loaded database := by
    intro t key row apart name row' lockoutUntil stored until_
    rw [Db.set_of_tab_ne _ _ apart.symm] at stored
    exact loaded name row' lockoutUntil stored until_
  cases c with
  | insert t key row =>
    simp only [Change.apply] at h
    split at h
    · cases h
    split at h
    · cases h
    cases h
    by_cases attempts : t = .loginAttempts
    · subst attempts
      exact kept key row
    · exact other t key _ attempts
  | update t key loaded' current =>
    simp only [Change.apply] at h
    split at h
    · cases h
    split at h
    · cases h
    cases h
    by_cases attempts : t = .loginAttempts
    · subst attempts
      exact kept key _
    · exact other t key _ attempts
  | delete t key =>
    cases h
    by_cases attempts : t = .loginAttempts
    · subst attempts
      intro name row' lockoutUntil stored until_
      by_cases same : name = key
      · subst same
        rw [Db.set_self] at stored
        cases stored
      · rw [Db.set_of_key_ne _ _ same] at stored
        exact loaded name row' lockoutUntil stored until_
    · exact other t key _ attempts

theorem foldlM_loaded {cs : List Change} {database : Database} (loaded : db.Loaded database)
    (h : cs.foldlM (fun db c => c.apply database db) db = .ok db') : db'.Loaded database := by
  induction cs generalizing db with
  | nil => cases h; exact loaded
  | cons c cs ih =>
    rw [List.foldlM_cons] at h
    cases first : c.apply database db with
    | error e => rw [first] at h; cases h
    | ok db₁ =>
      rw [first] at h
      exact ih (apply_loaded loaded first) h

/-- A flush keeps the instants as the database gives them. -/
theorem flush_loaded {database : Database} (loaded : db.Loaded database) (h : flush database p db = .ok db') :
    db'.Loaded database := foldlM_loaded loaded h

theorem foldlM_ne_typeError {cs : List Change} {database : Database} {e : Exn}
    (h : cs.foldlM (fun db c => c.apply database db) db = .error e) : e ≠ .typeError := by
  induction cs generalizing db with
  | nil => cases h
  | cons c cs ih =>
    rw [List.foldlM_cons] at h
    cases first : c.apply database db with
    | ok db₁ =>
      rw [first] at h
      exact ih h
    | error e' =>
      rw [first] at h
      cases h
      cases c with
      | insert t key row =>
        simp only [Change.apply] at first
        split at first
        · cases first; simp
        split at first
        · cases first; simp
        · cases first
      | update t key loaded current =>
        simp only [Change.apply] at first
        split at first
        · cases first; simp
        split at first
        · cases first; simp
        · cases first
      | delete t key => cases first

/-- No statement compares instants. -/
theorem flush_ne_typeError {database : Database} {e : Exn} (h : flush database p db = .error e) : e ≠ .typeError :=
  foldlM_ne_typeError h

/-- A commit of a live session. -/
theorem wp_commit_either {Q : Except Exn Unit → Db × Session → Prop}
    (ok : ∀ db', flush B.database p db = .ok db' → Q (.ok ()) (db', {}))
    (error : ∀ e, flush B.database p db = .error e → Q (.error e) (db, ⟨[], true⟩)) :
    Prog.wp (runs B) commit Q (db, ⟨p, false⟩) := by
  unfold commit
  rw [Prog.wp_perform]
  show Q _ _
  simp only [handle]
  cases flushed : flush B.database p db with
  | ok db' => exact ok db' flushed
  | error e => exact error e flushed

/-- A SELECT does not see what is unseen. -/
theorem find?_unseen (unseen : ∀ c ∈ p, c.Unseen) {t : Tab} (apart : t ≠ .refreshTokens) (key : String) :
    Session.find? ⟨p, false⟩ db t key = db.find? t key := by
  have own : ∀ row, Session.own ⟨p, false⟩ t key row = row := by
    intro row
    unfold Session.own
    show p.foldl (Session.changed t key) row = row
    induction p generalizing row with
    | nil => rfl
    | cons c p ih =>
      rw [List.foldl_cons]
      have same : Session.changed t key row c = row := by
        rcases unseen c List.mem_cons_self with deletes | token
        · cases c with
          | insert => rfl
          | delete => rfl
          | update => cases deletes
        · cases c with
          | insert => rfl
          | delete => rfl
          | update u key' loaded current =>
            have token : u = .refreshTokens := token
            have ne : ¬u = t := by
              rw [token]
              exact fun e => apart e.symm
            simp only [Session.changed, dif_neg ne]
      rw [same]
      exact ih (fun c hc => unseen c (List.mem_cons_of_mem _ hc)) row
  unfold Session.find?
  cases db.find? t key with
  | none => rfl
  | some row => rw [Option.map_some, own]

/-- A call ends at rest, and raises a `TypeError` exactly when it compares a lock without a time zone. -/
def Compares (database : Database) (clashes : Prop) {α : Type} (r : Except Exn α) (w : Db × Session) : Prop :=
  (r = .error .typeError ↔ clashes) ∧ Rests database w

/-- A row with a lock that was loaded from SQLite. -/
def Naive (database : Database) (db : Db) (key : String) : Prop :=
  database = .sqlite ∧ ∃ row lockoutUntil, db.rows .loginAttempts key = some row ∧ row.lockoutUntil = some lockoutUntil

theorem Compares.quiet {database : Database} {α : Type} {a : α} {w : Db × Session} (rests : Rests database w) :
    Compares database False (.ok a : Except Exn α) w := ⟨by simp, rests⟩

theorem Compares.of_iff {database : Database} {P P' : Prop} {α : Type} {r : Except Exn α} {w : Db × Session} (h : P ↔ P')
    (compares : Compares database P r w) : Compares database P' r w := ⟨compares.1.trans h, compares.2⟩

theorem Compares.error {database : Database} {α : Type} {e : Exn} {w : Db × Session} (other : e ≠ .typeError)
    (rests : Rests database w) : Compares database False (.error e : Except Exn α) w :=
  ⟨by simpa using other, rests⟩

/-- A commit leaves the session at rest, and compares nothing. -/
theorem wp_commit_rests {Q : Except Exn Unit → Db × Session → Prop} (loaded : db.Loaded B.database)
    (ok : ∀ w, Rests B.database w → Q (.ok ()) w)
    (error : ∀ e w, e ≠ .typeError → Rests B.database w → Q (.error e) w) :
    Prog.wp (runs B) commit Q (db, ⟨p, false⟩) := by
  refine wp_commit_either (fun db' flushed => ?_) fun e flushed => ?_
  · exact ok _ ⟨flush_loaded loaded flushed, by simp⟩
  · exact error e _ (flush_ne_typeError flushed) ⟨loaded, by simp⟩

/-- The comparison of a lock raises exactly without a time zone. -/
theorem lockoutOver_error {model : LoginAttempt} {now : Time} {e : Exn} (loaded : db.Loaded B.database)
    (stored : db.rows .loginAttempts key = some model) (h : loginAttemptRepo.lockoutOver model now = .error e) :
    e = .typeError ∧ Naive B.database db key := by
  unfold loginAttemptRepo.lockoutOver at h
  split at h
  · cases h
  rename_i lockoutUntil until_
  split at h
  · cases h
  rename_i naive
  cases h
  refine ⟨rfl, ?_, model, lockoutUntil, stored, until_⟩
  have aware := loaded key model lockoutUntil stored until_
  cases database : B.database with
  | sqlite => rfl
  | postgresql => exact absurd (aware.mpr database) naive

theorem lockoutOver_ok {model : LoginAttempt} {now : Time} {expired : Bool} (loaded : db.Loaded B.database)
    (stored : db.rows .loginAttempts key = some model) (h : loginAttemptRepo.lockoutOver model now = .ok expired) :
    ¬Naive B.database db key := by
  rintro ⟨database, row, lockoutUntil, stored', until_⟩
  rw [stored] at stored'
  obtain rfl := Option.some.inj stored'
  have aware := loaded key model lockoutUntil stored until_
  rw [database] at aware
  simp only [loginAttemptRepo.lockoutOver, until_] at h
  split at h
  · rename_i zone
    have clash := aware.mp zone
    cases clash
  · cases h

/-- A wrong password that is recorded compares the lock of its row, where there is one. -/
theorem recordWrong_compares (loaded : db.Loaded B.database) (unseen : ∀ c ∈ p, c.Unseen) :
    Prog.wp (runs B) (recordWrong settings times key) (Compares B.database (Naive B.database db key)) (db, ⟨p, false⟩) := by
  have found : Session.find? ⟨p, false⟩ db .loginAttempts key = db.rows .loginAttempts key :=
    find?_unseen unseen (by decide) key
  unfold recordWrong loginAttemptRepo.recordFailure
  rw [Prog.wp_bind, Prog.wp_bind]
  simp only [wp_selectAttempt, found, Prog.andThen_ok]
  cases stored : db.rows .loginAttempts key with
  | none =>
    have nothing : False ↔ Naive B.database db key := by
      constructor
      · exact False.elim
      · rintro ⟨-, row, until_, some_, -⟩
        rw [stored] at some_
        cases some_
    simp only [Prog.wp_bind, wp_stage, Prog.andThen_ok, Prog.pure_eq, Prog.wp_ret]
    refine wp_commit_rests loaded (fun w rests => ?_) fun e w other rests => ?_
    · exact .of_iff nothing (.quiet rests)
    · exact .of_iff nothing (.error other rests)
  | some model =>
    simp only [Prog.wp_bind, wp_selectAttempt, found, stored, Prog.andThen_ok, Prog.wp_ofExcept]
    cases compared : loginAttemptRepo.lockoutOver model times.recorded with
    | error e =>
      obtain ⟨rfl, naive⟩ := lockoutOver_error loaded stored compared
      exact ⟨⟨fun _ => naive, fun _ => rfl⟩, loaded, unseen⟩
    | ok expired =>
      have goesOn := lockoutOver_ok loaded stored compared
      simp only [Prog.wp_bind, wp_stage, Prog.andThen_ok, Prog.pure_eq, Prog.wp_ret]
      refine wp_commit_rests loaded (fun w rests => ?_) fun e w other rests => ?_
      · exact .of_iff (iff_of_false not_false goesOn) (.quiet rests)
      · exact .of_iff (iff_of_false not_false goesOn) (.error other rests)

/-- A right password compares nothing. -/
theorem recordSuccess_compares (loaded : db.Loaded B.database) (unseen : ∀ c ∈ p, c.Unseen) :
    Prog.wp (runs B) (recordSuccess key) (Compares B.database False) (db, ⟨p, false⟩) := by
  have found : Session.find? ⟨p, false⟩ db .loginAttempts key = db.rows .loginAttempts key :=
    find?_unseen unseen (by decide) key
  unfold recordSuccess loginAttemptRepo.reset
  rw [Prog.wp_bind, Prog.wp_bind]
  simp only [wp_selectAttempt, found, Prog.andThen_ok]
  cases db.rows .loginAttempts key with
  | none =>
    simp only [Prog.wp_bind, Prog.pure_eq, Prog.wp_ret, Prog.andThen_ok]
    refine wp_commit_rests loaded (fun w rests => ?_) fun e w other rests => ?_
    · exact .quiet rests
    · exact .error other rests
  | some row =>
    simp only [Prog.wp_bind, wp_stage, Prog.pure_eq, Prog.andThen_ok]
    refine wp_commit_rests loaded (fun w rests => ?_) fun e w other rests => ?_
    · exact .quiet rests
    · exact .error other rests

/-- When a login compares the lock of a row: it is not refused for it, and records a wrong password on it. -/
def Login.Stumbles (A : Backend) (db : Db) (times : LoginTimes) (login : Login) : Prop :=
  A.database = .sqlite ∧ ∃ row lockoutUntil, db.rows .loginAttempts login.key = some row ∧
    row.lockoutUntil = some lockoutUntil ∧ (row.count < 5 ∨ lockoutUntil.time ≤ times.checked) ∧ login.Records A db

/-- What follows the look at the lock. -/
def Login.body (settings : LoginSettings) (times : LoginTimes) : Login → Svc LoginOutcome
  | customer accNo password => do
    let some account ← accountRepo.get accNo | return .notFound
    if account.isFrozen then
      return .frozen
    if !account.isActive then
      return .closed
    if !(← verifyPassword password account.password) then
      recordWrong settings times accNo
    else
      recordSuccess accNo
  | admin username password => do
    match ← selectAdmin username with
    | some adminUser =>
      if ← verifyPassword password adminUser.password then
        recordSuccess (lockKey username)
      else
        recordWrong settings times (lockKey username)
    | none => recordWrong settings times (lockKey username)

theorem Login.prog_eq (login : Login) : login.prog settings times = (do
    let (isLocked, remaining) ← loginAttemptRepo.isLocked login.key times.checked
    if isLocked then
      return .locked remaining
    login.body settings times) := by
  cases login <;> rfl

/-- Behind the lock a login compares the lock of its row when it records a wrong password. -/
theorem body_compares (login : Login) (loaded : db.Loaded B.database) (unseen : ∀ c ∈ p, c.Unseen) :
    Prog.wp (runs B) (login.body settings times)
      (Compares B.database (Naive B.database db login.key ∧ login.Records B db)) (db, ⟨p, false⟩) := by
  cases login with
  | customer accNo password =>
    have found : Session.find? ⟨p, false⟩ db .accounts accNo = db.find? .accounts accNo :=
      find?_unseen unseen (by decide) accNo
    simp only [Login.body, accountRepo.get, Prog.wp_bind, wp_selectAccount, found, Prog.andThen_ok]
    cases live : db.find? .accounts accNo with
    | none =>
      refine .of_iff (iff_of_false not_false ?_) (.quiet ⟨loaded, unseen⟩)
      rintro ⟨-, -, hashed⟩
      exact hashed (by simp [Login.hashed, live])
    | some account =>
      simp only
      split
      · rename_i frozen
        refine .of_iff (iff_of_false not_false ?_) (.quiet ⟨loaded, unseen⟩)
        rintro ⟨-, -, hashed⟩
        exact hashed (by simp [Login.hashed, live, Option.filter, frozen])
      rename_i thawed
      split
      · rename_i closed
        refine .of_iff (iff_of_false not_false ?_) (.quiet ⟨loaded, unseen⟩)
        rintro ⟨-, -, hashed⟩
        have closed : account.isActive = false := by simpa using closed
        exact hashed (by simp [Login.hashed, live, Option.filter, closed])
      rename_i active
      have hashed : (Login.customer accNo password).hashed db = some account.password := by
        have free : (!account.isFrozen && account.isActive) = true := by
          simp only [Bool.not_eq_true', Bool.not_eq_false] at thawed active
          simp [thawed, active]
        simp [Login.hashed, live, Option.filter, free]
      simp only [Prog.wp_bind, wp_verifyPassword, Prog.andThen_ok]
      cases right : B.verifyPassword password account.password with
      | true =>
        have no : ¬(Naive B.database db accNo ∧ (Login.customer accNo password).Records B db) := by
          rintro ⟨-, wrong, -⟩
          simp [Login.right, hashed, right] at wrong
        exact Prog.wp_mono (Prog.toSpec_mono _) (fun r w => .of_iff (iff_of_false not_false no))
          (recordSuccess_compares loaded unseen)
      | false =>
        have records : (Login.customer accNo password).Records B db := by
          refine ⟨by simp [Login.right, hashed, right], ?_⟩
          show _ ≠ none
          rw [hashed]
          simp
        exact Prog.wp_mono (Prog.toSpec_mono _) (fun r w => .of_iff (by simp [records, Login.key]))
          (recordWrong_compares loaded unseen)
  | admin username password =>
    have found : Session.find? ⟨p, false⟩ db .admins username = db.rows .admins username :=
      find?_unseen unseen (by decide) username
    simp only [Login.body, Prog.wp_bind, wp_selectAdmin, found, Prog.andThen_ok]
    cases stored : db.rows .admins username with
    | none =>
      have records : (Login.admin username password).Records B db := by
        refine ⟨?_, trivial⟩
        simp [Login.right, Login.hashed, stored]
      exact Prog.wp_mono (Prog.toSpec_mono _) (fun r w => .of_iff (by simp [records, Login.key]))
        (recordWrong_compares loaded unseen)
    | some admin =>
      simp only [Prog.wp_bind, wp_verifyPassword, Prog.andThen_ok]
      cases right : B.verifyPassword password admin.password with
      | true =>
        have no : ¬(Naive B.database db (lockKey username) ∧ (Login.admin username password).Records B db) := by
          rintro ⟨-, wrong, -⟩
          simp [Login.right, Login.hashed, stored, right] at wrong
        exact Prog.wp_mono (Prog.toSpec_mono _) (fun r w => .of_iff (iff_of_false not_false no))
          (recordSuccess_compares loaded unseen)
      | false =>
        have records : (Login.admin username password).Records B db := by
          refine ⟨?_, trivial⟩
          simp [Login.right, Login.hashed, stored, right]
        exact Prog.wp_mono (Prog.toSpec_mono _) (fun r w => .of_iff (by simp [records, Login.key]))
          (recordWrong_compares loaded unseen)

/-- **A login** compares the lock of its row exactly when it stumbles over it. -/
theorem login_compares (login : Login) (loaded : db.Loaded B.database) (unseen : ∀ c ∈ p, c.Unseen) :
    Prog.wp (runs B) (login.prog settings times) (Compares B.database (login.Stumbles B db times)) (db, ⟨p, false⟩) := by
  have found : Session.find? ⟨p, false⟩ db .loginAttempts login.key = db.rows .loginAttempts login.key :=
    find?_unseen unseen (by decide) login.key
  have through : ∀ {q : List Change}, (∀ c ∈ q, c.Unseen) →
      (Naive B.database db login.key ∧ login.Records B db ↔ login.Stumbles B db times) →
      Prog.wp (runs B) (login.body settings times) (Compares B.database (login.Stumbles B db times)) (db, ⟨q, false⟩) :=
    fun hq h => Prog.wp_mono (Prog.toSpec_mono _) (fun r w => .of_iff h) (body_compares login loaded hq)
  rw [Login.prog_eq, Prog.wp_bind]
  unfold loginAttemptRepo.isLocked
  simp only [Prog.wp_bind, wp_selectAttempt, found, Prog.andThen_ok]
  cases stored : db.rows .loginAttempts login.key with
  | none =>
    refine through unseen ?_
    constructor
    · rintro ⟨⟨-, row, lockoutUntil, some_, -⟩, -⟩
      rw [stored] at some_
      cases some_
    · rintro ⟨-, row, lockoutUntil, some_, -⟩
      rw [stored] at some_
      cases some_
  | some model =>
    have stumbles : (∀ u, model.lockoutUntil = some u → model.count < 5 ∨ u.time ≤ times.checked) →
        (Naive B.database db login.key ∧ login.Records B db ↔ login.Stumbles B db times) := by
      intro over_
      constructor
      · rintro ⟨⟨database, row, u, some_, until_⟩, records⟩
        have same := some_
        rw [stored] at same
        obtain rfl := Option.some.inj same
        exact ⟨database, model, u, some_, until_, over_ u until_, records⟩
      · rintro ⟨database, row, u, some_, until_, -, records⟩
        exact ⟨⟨database, row, u, some_, until_⟩, records⟩
    have deleted : ∀ c ∈ p ++ [Change.delete .loginAttempts login.key], c.Unseen := by
      intro c hc
      rcases List.mem_append.mp hc with hc | hc
      · exact unseen c hc
      · rw [List.mem_singleton.mp hc]
        exact .inl rfl
    simp only
    split
    · rename_i few
      exact through unseen (stumbles fun _ _ => .inl few)
    · rename_i many
      split
      · rename_i lockoutUntil until_
        split
        · -- the login is refused for the lock
          rename_i holds
          refine .of_iff (iff_of_false not_false ?_) (.quiet ⟨loaded, unseen⟩)
          rintro ⟨-, row, u, some_, until', past, -⟩
          rw [stored] at some_
          obtain rfl := Option.some.inj some_
          rw [until_] at until'
          obtain rfl := Option.some.inj until'
          rcases past with few | past
          · exact many few
          · exact absurd holds (Nat.not_lt.mpr past)
        · rename_i past
          simp only [Prog.wp_bind, wp_stage, Prog.andThen_ok, Prog.pure_eq, Prog.wp_ret, Bool.false_eq_true, if_false]
          refine through deleted (stumbles fun u until' => .inr ?_)
          rw [until_] at until'
          obtain rfl := Option.some.inj until'
          exact Nat.not_lt.mp past
      · rename_i unlocked
        simp only [Prog.wp_bind, wp_stage, Prog.andThen_ok, Prog.pure_eq, Prog.wp_ret, Bool.false_eq_true, if_false]
        refine through deleted (stumbles fun u until' => ?_)
        rw [unlocked] at until'
        cases until'

/-- A dead session refuses the first SELECT of a login. -/
theorem exec_login_inactive (login : Login) :
    Prog.exec (handle B) (login.prog settings times) (db, ⟨p, true⟩) = (.error .pendingRollbackError, (db, ⟨p, true⟩)) := by
  cases login <;> rfl

variable {τ : Type} {tokens : Settings τ} {draws : Draws} {s : Session}

theorem persisted_rests {c : Change} (rests : Rests B.database (db, s)) (unseen : c.Unseen) :
    Rests B.database (persisted B db s c) := by
  obtain ⟨loaded, rest⟩ := rests
  unfold persisted
  split
  · refine ⟨loaded, ?_⟩
    intro d hd
    rcases List.mem_append.mp hd with hd | hd
    · exact rest d hd
    · rw [List.mem_singleton.mp hd]
      exact unseen
  · split
    · rename_i flushed
      exact ⟨flush_loaded loaded flushed, by simp⟩
    · exact ⟨loaded, by simp⟩

/-- A pair of tokens. -/
theorem createTokenPair_rests (subject role : String) (rests : Rests B.database (db, s)) :
    Rests B.database (Prog.exec (handle B) (createTokenPair tokens draws subject role) (db, s)).2 := by
  unfold createTokenPair
  rw [Prog.exec_bind, exec_createToken, exec_encode]
  cases access : tokens.jwt.encode (newPayload tokens db s subject role "access" draws.accessNow) tokens.signingKey
      tokens.jwtAlgorithm with
  | none => exact rests
  | some accessToken =>
    simp only
    rw [Prog.exec_bind, exec_createToken, exec_encode]
    cases refresh : tokens.jwt.encode (newPayload tokens db s (subject ++ ":" ++ draws.refreshTokenId) role "refresh"
        draws.refreshNow) tokens.signingKey tokens.jwtAlgorithm with
    | none => exact rests
    | some refreshToken =>
      simp only
      rw [Prog.exec_bind, exec_persistRefreshToken]
      exact persisted_rests rests (.inr rfl)

/-- The revocation of a refresh token. -/
theorem revokeRefreshToken_rests (refreshTokenId : String) (now : Time) (rests : Rests B.database (db, s)) :
    Rests B.database (Prog.exec (handle B) (revokeRefreshToken tokens refreshTokenId now) (db, s)).2 := by
  have select := exec_select B db s .refreshTokens (tokens.hashTokenId refreshTokenId)
  unfold revokeRefreshToken refreshTokenRepo.revoke selectRefreshToken
  rw [Prog.tryCatch_eq, Prog.exec_bind, Prog.exec_attempt, Prog.exec_bind, select]
  cases s.inactive with
  | true => exact rests
  | false =>
    simp only [Bool.false_eq_true, if_false]
    cases s.find? db .refreshTokens (tokens.hashTokenId refreshTokenId) with
    | none => exact rests
    | some model =>
      refine ⟨rests.1, ?_⟩
      intro c hc
      rcases List.mem_append.mp hc with hc | hc
      · exact rests.2 c hc
      · rw [List.mem_singleton.mp hc]
        exact .inr rfl

variable (key) in
/-- The lock of a row that is looked at. -/
theorem exec_attemptIsLocked (rests : Rests B.database (db, s)) (now : Time) :
    (Prog.exec (handle B) (attemptIsLocked key now) (db, s)).2 = (db, s) ∧
      ((Prog.exec (handle B) (attemptIsLocked key now) (db, s)).1 = .error .typeError ↔
        s.inactive = false ∧ Naive B.database db key) := by
  obtain ⟨pending, inactive⟩ := s
  have select := exec_select B db ⟨pending, inactive⟩ .loginAttempts key
  unfold attemptIsLocked selectAttempt
  rw [Prog.exec_bind, select]
  cases inactive with
  | true => exact ⟨rfl, by simp⟩
  | false =>
    have found : Session.find? ⟨pending, false⟩ db .loginAttempts key = db.rows .loginAttempts key :=
      find?_unseen rests.2 (by decide) key
    simp only [Bool.false_eq_true, if_false, found, true_and]
    cases stored : db.rows .loginAttempts key with
    | none =>
      refine ⟨rfl, ?_⟩
      constructor
      · intro h
        cases h
      · rintro ⟨-, row, u, some_, -⟩
        rw [stored] at some_
        cases some_
    | some model =>
      simp only [Prog.exec_ofExcept, true_and]
      cases until_ : model.lockoutUntil with
      | none =>
        constructor
        · intro h
          simp [LoginAttempt.isLocked, until_] at h
        · rintro ⟨-, row, u, some_, until'⟩
          rw [stored] at some_
          obtain rfl := Option.some.inj some_
          rw [until_] at until'
          cases until'
      | some u =>
        have aware := rests.1 key model u stored until_
        simp only [LoginAttempt.isLocked, until_, Stamp.compare]
        constructor
        · intro h
          split at h
          · cases h
          · rename_i naive
            refine ⟨?_, model, u, stored, until_⟩
            cases database : B.database with
            | sqlite => rfl
            | postgresql => exact absurd (aware.mpr database) naive
        · rintro ⟨database, -⟩
          have naive : ¬u.aware = true := by
            intro zone
            rw [aware.mp zone] at database
            cases database
          rw [if_neg naive]

/-- The expiry of a refresh token that is looked at. -/
theorem exec_tokenIsExpired (tokenId : String) (now : Time) :
    (Prog.exec (handle B) (tokenIsExpired B.database tokenId now) (db, s)).2 = (db, s) ∧
      ((Prog.exec (handle B) (tokenIsExpired B.database tokenId now) (db, s)).1 = .error .typeError ↔
        s.inactive = false ∧ B.database = .sqlite ∧ db.rows .refreshTokens tokenId ≠ none) := by
  have select := exec_select B db s .refreshTokens tokenId
  unfold tokenIsExpired refreshTokenRepo.get selectRefreshToken
  rw [Prog.exec_bind, select]
  cases s.inactive with
  | true => exact ⟨rfl, by simp⟩
  | false =>
    simp only [Bool.false_eq_true, if_false, true_and]
    show _ ∧ (_ ↔ _ ∧ db.find? .refreshTokens tokenId ≠ none)
    unfold Session.find?
    cases db.find? .refreshTokens tokenId with
    | none => exact ⟨rfl, by simp⟩
    | some token =>
      simp only [Option.map_some, Prog.exec_ofExcept, true_and, RefreshToken.isExpired, Stamp.compare]
      cases B.database <;> simp [Database.stamp]

end Sessions

end Auth

/-! ## Deeds -/

section Deeds

variable {τ : Type} [AddCommGroup D] [LinearOrder D] {env : Env D} {checks : Checks} {B : Backend D} {A : Auth.Backend}
variable {branch : Branch D}

/-- What holds between two deeds. -/
structure Branch.Kept (A : Auth.Backend) (branch : Branch D) : Prop where
  idle : branch.bank.Idle
  dated : branch.bank.db.LoansDated
  rests : ∀ thread, Auth.Rests A.database (branch.auth.db, branch.auth.sessions thread)

theorem Branch.Opened.kept (opened : branch.Opened) : branch.Kept A where
  idle := opened.idle
  dated := by
    intro loanId loan found
    have mem := Table.mem_of_find? found
    rw [opened.loans] at mem
    cases mem
  rests thread := by
    rw [opened.clean thread]
    refine ⟨?_, by simp⟩
    intro key row lockoutUntil stored
    rw [opened.attempts key] at stored
    cases stored

/-- A program of the authentication services that leaves its thread at rest leaves all threads at rest. -/
theorem Branch.Kept.serve (kept : branch.Kept A) {α : Type} {thread : ℕ} {p : Auth.Svc α}
    (h : Auth.Rests A.database
      (Prog.exec (Auth.handle A) p (branch.auth.db, branch.auth.sessions thread)).2) :
    Branch.Kept A { branch with auth := (branch.auth.serve A thread p).2 } where
  idle := kept.idle
  dated := kept.dated
  rests other := by
    refine ⟨h.1, ?_⟩
    intro c hc
    by_cases same : other = thread
    · subst same
      have hc : c ∈ (Function.update branch.auth.sessions other
          (Prog.exec (Auth.handle A) p (branch.auth.db, branch.auth.sessions other)).2.2 other).pending := hc
      rw [Function.update_self] at hc
      exact h.2 c hc
    · have hc : c ∈ (Function.update branch.auth.sessions thread
          (Prog.exec (Auth.handle A) p (branch.auth.db, branch.auth.sessions thread)).2.2 other).pending := hc
      rw [Function.update_of_ne same] at hc
      exact (kept.rests other).2 c hc

/-- A login at a branch. -/
theorem Branch.Kept.login (kept : branch.Kept A) (thread : ℕ) (settings : LoginSettings) (times : LoginTimes) (login : Login) :
    Auth.Compares A.database ((branch.auth.sessions thread).inactive = false ∧ login.Stumbles A branch.auth.db times)
      (Prog.exec (Auth.handle A) (login.prog settings times) (branch.auth.db, branch.auth.sessions thread)).1
      (Prog.exec (Auth.handle A) (login.prog settings times) (branch.auth.db, branch.auth.sessions thread)).2 := by
  have rests := kept.rests thread
  rcases hs : branch.auth.sessions thread with ⟨pending, inactive⟩
  rw [hs] at rests
  cases inactive with
  | true =>
    rw [Auth.exec_login_inactive]
    exact ⟨by simp, rests⟩
  | false =>
    have compares := (Prog.wp_handler _ _ _ _).mp (@Auth.login_compares A branch.auth.db pending settings times login
      rests.1 rests.2)
    exact .of_iff (by simp) compares

/-- **A deed** keeps what holds between deeds. -/
theorem Branch.Kept.step (kept : branch.Kept A) (deed : Deed τ D) : (branch.step env checks B A deed).Kept A := by
  cases deed with
  | visit thread v =>
    exact ⟨(attend_settles env checks B kept.idle thread v).2, attend_loansDated kept.idle kept.dated thread v, kept.rests⟩
  | login thread settings times login => exact kept.serve (kept.login thread settings times login).2
  | createTokenPair thread settings draws subject role =>
    exact kept.serve (Auth.createTokenPair_rests subject role (kept.rests thread))
  | revokeRefreshToken thread settings refreshTokenId now =>
    exact kept.serve (Auth.revokeRefreshToken_rests refreshTokenId now (kept.rests thread))
  | attemptIsLocked thread key now =>
    refine kept.serve ?_
    rw [(Auth.exec_attemptIsLocked key (kept.rests thread) now).1]
    exact kept.rests thread
  | tokenIsExpired thread tokenId now =>
    refine kept.serve ?_
    rw [(Auth.exec_tokenIsExpired tokenId now).1]
    exact kept.rests thread
  | listLoans | getLoan | loanIsOverdue => exact kept

theorem sqlite_iff {database : Database} : database = .sqlite ↔ ¬database = .postgresql := by
  cases database <;> simp

/-- **A comparison** does not raise exactly when the deed is comparable. -/
theorem Branch.Kept.clashes_iff (kept : branch.Kept A) (deed : Deed τ D) :
    ¬branch.Clashes A deed ↔ branch.Comparable A deed := by
  cases deed with
  | visit | createTokenPair | revokeRefreshToken => simp [Branch.Clashes, Branch.Comparable]
  | login thread settings times login =>
    have raises : branch.Clashes A (.login thread settings times login : Deed τ D) ↔
        (branch.auth.sessions thread).inactive = false ∧ login.Stumbles A branch.auth.db times :=
      (kept.login thread settings times login).1
    simp only [raises, Branch.Comparable, Auth.Login.Stumbles, sqlite_iff]
    by_cases pg : A.database = .postgresql
    · simp [pg]
    cases (branch.auth.sessions thread).inactive with
    | true => simp
    | false =>
      simp only [pg, not_false_eq_true, true_and, false_or, Bool.false_eq_true]
      constructor
      · intro none_ row u stored until_ past records
        exact none_ ⟨row, u, stored, until_, past, records⟩
      · rintro all ⟨row, u, stored, until_, past, records⟩
        exact all row u stored until_ past records
  | listLoans thread accNo now =>
    simp only [Branch.Clashes, Branch.Comparable, Api.listLoans]
    cases (branch.bank.sessions thread).inactive with
    | true => simp
    | false =>
      simp only [Bool.false_eq_true, if_false, mapM_isOverdue_clashes, false_or]
      have mem : ∀ loan, loan ∈ Api.loansOf branch.bank accNo ↔
          loan ∈ branch.bank.db.loans.rows ∧ loan.accountNumber = accNo := by
        intro loan
        simp [Api.loansOf, List.mem_mergeSort]
      constructor
      · intro quiet
        by_cases pg : A.database = .postgresql
        · exact .inl pg
        refine .inr fun loan there own => ?_
        have dated := kept.dated _ _ (Table.find?_of_mem there)
        by_contra active
        exact quiet ⟨loan, (mem loan).mpr ⟨there, own⟩,
          (isOverdue_clashes dated).mpr ⟨sqlite_iff.mpr pg, by simpa using active⟩⟩
      · rintro comparable ⟨loan, listed, clash⟩
        obtain ⟨there, own⟩ := (mem loan).mp listed
        obtain ⟨sqlite, active⟩ := (isOverdue_clashes (kept.dated _ _ (Table.find?_of_mem there))).mp clash
        rcases comparable with pg | quiet
        · exact sqlite_iff.mp sqlite pg
        · rw [quiet loan there own] at active
          cases active
  | getLoan thread loanId accNo now =>
    simp only [Branch.Clashes, Branch.Comparable, Api.getLoan]
    cases (branch.bank.sessions thread).inactive with
    | true => simp
    | false =>
      simp only [Bool.false_eq_true, if_false, false_or]
      cases found : branch.bank.db.loans.find? loanId with
      | none => simp
      | some loan =>
        simp only [Option.some.injEq, forall_eq']
        by_cases own : loan.accountNumber = accNo
        · simp only [own, ne_eq, not_true_eq_false, if_false, true_implies,
            isOverdue_clashes (kept.dated _ _ found), sqlite_iff]
          by_cases pg : A.database = .postgresql <;> simp [pg]
        · simp [own]
  | loanIsOverdue thread loanId now =>
    simp only [Branch.Clashes, Branch.Comparable, Api.loanIsOverdue]
    cases (branch.bank.sessions thread).inactive with
    | true => simp
    | false =>
      simp only [Bool.false_eq_true, if_false, false_or]
      cases found : branch.bank.db.loans.find? loanId with
      | none => simp
      | some loan =>
        simp only [Option.some.injEq, forall_eq', isOverdue_clashes (kept.dated _ _ found), sqlite_iff]
        by_cases pg : A.database = .postgresql <;> simp [pg]
  | attemptIsLocked thread key now =>
    have raises : branch.Clashes A (.attemptIsLocked thread key now : Deed τ D) ↔ _ :=
      (Auth.exec_attemptIsLocked key (kept.rests thread) now).2
    simp only [raises, Branch.Comparable, Auth.Naive, sqlite_iff]
    by_cases pg : A.database = .postgresql
    · simp [pg]
    cases (branch.auth.sessions thread).inactive with
    | true => simp
    | false =>
      simp only [pg, not_false_eq_true, true_and, false_or, Bool.false_eq_true]
      constructor
      · intro none_ row stored
        cases until_ : row.lockoutUntil with
        | none => rfl
        | some u => exact absurd ⟨row, u, stored, until_⟩ none_
      · rintro all ⟨row, u, stored, until_⟩
        rw [all row stored] at until_
        cases until_
  | tokenIsExpired thread tokenId now =>
    have raises : branch.Clashes A (.tokenIsExpired thread tokenId now : Deed τ D) ↔ _ :=
      (Auth.exec_tokenIsExpired tokenId now).2
    simp only [raises, Branch.Comparable, sqlite_iff]
    by_cases pg : A.database = .postgresql
    · simp [pg]
    cases (branch.auth.sessions thread).inactive with
    | true => simp
    | false => simp [pg]

theorem Branch.Kept.quiet_iff {deeds : List (Deed τ D)} (kept : branch.Kept A) :
    branch.Clashless env checks B A deeds ↔ branch.AllComparable env checks B A deeds := by
  induction deeds generalizing branch with
  | nil => exact Iff.rfl
  | cons deed deeds ih => exact and_congr (kept.clashes_iff deed) (ih (kept.step deed))

/-- **Naive and aware instants**: in a run from an empty database no comparison raises exactly when every deed is made
on PostgreSQL or compares nothing that has lost its time zone. -/
theorem clashless_iff (env : Env D) (checks : Checks) (B : Backend D) (A : Auth.Backend) (opened : branch.Opened)
    (deeds : List (Deed τ D)) : branch.Clashless env checks B A deeds ↔ branch.AllComparable env checks B A deeds :=
  opened.kept.quiet_iff

end Deeds

/-! ## A loan that is approved -/

namespace Sample

/-- Two accounts, a login and an admin, with which nothing has been done. -/
def newBranch : Branch ℤ := ⟨bank 10000 5000 0, Auth.Sample.doors⟩

theorem newBranch_opened : newBranch.Opened where
  idle := bank_idle _ _ _
  loans := rfl
  attempts _ := rfl
  clean _ := rfl

/-- A loan is applied for and looked at. -/
def roofLoan : List (Deed Unit ℤ) :=
  [.visit 0 (.call ⟨.applyLoan "1001" "Personal" 10000000 1200 12 "Roof", draws 0⟩), .listLoans 0 "1001" 1]

/-- It is approved, and looked at again. -/
def roofApproval : List (Deed Unit ℤ) :=
  roofLoan ++ [.visit 0 (.call ⟨.approveLoan "L0" "admin", draws 1⟩), .listLoans 0 "1001" 2]

theorem clashless_roofLoan : newBranch.Clashless paiseEnv lenient paise (Auth.Sample.plain .sqlite) roofLoan := by
  refine (clashless_iff paiseEnv lenient paise _ newBranch_opened roofLoan).mpr ⟨.inr trivial, .inr (.inr ?_), trivial⟩
  decide +kernel

theorem roofApproval_raises :
    ¬newBranch.Clashless paiseEnv lenient paise (Auth.Sample.plain .sqlite) roofApproval := by
  rintro ⟨-, -, -, quiet, -⟩
  refine quiet ?_
  show Api.listLoans _ _ _ _ _ = _
  decide +kernel

end Sample

end UnionBank
