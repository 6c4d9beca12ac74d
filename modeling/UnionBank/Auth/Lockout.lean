import UnionBank.Auth.Logins

/-!
# The lockout automaton

What the lock of a key is meant to be, and the calls that keep to it.

- `Phase`: failures since the last success or expiry, or a lock; `Phase.next`, `Phase.refuses`;
- `Keeps`: the calls that leave the row of their key in step with its phase;
- `login_step`: what one call does; `lockout_automaton`: every run of calls that keep.
-/

namespace UnionBank.Auth

open Programs Prog

/-! ## The automaton -/

/-- What is known of a key: the failures since the last success or expiry, or when the lock began. -/
inductive Phase where
  | counting (failures : ℕ)
  | locked (since : Time)

namespace Phase

variable (settings : LoginSettings)

/-- The end of a lock that began at `since`. -/
def lockEnd (since : Time) : Time := since + settings.loginLockoutMinutes * minute

/-- Whether a call at this time is refused. -/
def refuses (now : Time) : Phase → Bool
  | counting _ => false
  | locked since => now < lockEnd settings since

/-- The failures that still count. -/
def failures : Phase → ℕ
  | counting k => k
  | locked _ => 0

/-- The phase after a call with a right or a wrong password. -/
def next (phase : Phase) (times : LoginTimes) (right : Bool) : Phase :=
  if phase.refuses settings times.checked then phase
  else if right then counting 0
  else if phase.failures + 1 < settings.maxLoginAttempts then counting (phase.failures + 1)
  else locked times.recorded

/-- The row of a key in step with its phase. -/
inductive Shows : Phase → Option LoginAttempt → Prop
  | none : Shows (counting 0) none
  | counting {k : ℕ} {firstFailed : Option Stamp} (few : k < settings.maxLoginAttempts) :
      Shows (counting k) (some ⟨k, firstFailed, none⟩)
  | locked {k : ℕ} {since : Time} {firstFailed : Option Stamp} {lockoutUntil : Stamp}
      (many : settings.maxLoginAttempts ≤ k) (until_ : lockoutUntil.time = lockEnd settings since) :
      Shows (locked since) (some ⟨k, firstFailed, some lockoutUntil⟩)

end Phase

/-! ## Calls -/

/-- The calls that take a password. -/
inductive Login where
  | customer (accNo password : String)
  | admin (username password : String)

namespace Login

/-- The key of the lock. -/
def key : Login → String
  | customer accNo _ => accNo
  | admin username _ => lockKey username

def prog (settings : LoginSettings) (times : LoginTimes) : Login → Svc LoginOutcome
  | customer accNo password => customerLogin settings times accNo password
  | admin username password => adminLogin settings times username password

/-- The stored password of an account that may log in, or of an admin. -/
def hashed (db : Db) : Login → Option String
  | customer accNo _ => ((db.find? .accounts accNo).filter fun row => !row.isFrozen && row.isActive).map
      AccountRow.password
  | admin username _ => (db.rows .admins username).map AdminRow.password

/-- Whether the password is right. -/
def right (B : Backend) (db : Db) : Login → Bool
  | customer accNo password => (hashed db (customer accNo password)).any (B.verifyPassword password)
  | admin username password => (hashed db (admin username password)).any (B.verifyPassword password)

end Login

/-- A call keeps the automaton: a first failure does not lock at once; below five failures a lock is over, and a wrong
password then finds the instants with their time zone; from five on the lock holds, or the password is right. -/
def Keeps (settings : LoginSettings) (times : LoginTimes) (right : Bool) (row : Option LoginAttempt) : Prop :=
  match row with
  | none => right = true ∨ settings.maxLoginAttempts ≠ 1
  | some ⟨count, _, lockoutUntil⟩ =>
    if count < 5 then ∀ u ∈ lockoutUntil, u.time ≤ times.checked ∧ (right = true ∨ u.aware = true)
    else right = true ∨ ∃ u ∈ lockoutUntil, times.checked < u.time

instance (settings : LoginSettings) (times : LoginTimes) (right : Bool) (row : Option LoginAttempt) :
    Decidable (Keeps settings times right row) := by
  unfold Keeps
  split <;> infer_instance

section Step

variable (B : Backend) (settings : LoginSettings) {times : LoginTimes} {db : Db} {key : String} {phase : Phase}

/-- How a call is to end: with the answer of the automaton, a clean session and the row of the next phase. -/
def Ends (times : LoginTimes) (db : Db) (key : String) (phase : Phase) (right : Bool) :
    Except Exn LoginOutcome → Db × Session → Prop := fun r w =>
  ∃ outcome row, r = .ok outcome ∧ w = (db.set .loginAttempts key row, {}) ∧
    (phase.next settings times right).Shows settings row ∧
    ((∃ minutes, outcome = .locked minutes) ↔ phase.refuses settings times.checked = true)

variable {B settings}

theorem fits_attempt {B : Database} (h : B.takes 100 key = true) (row : LoginAttempt) :
    B.fits .loginAttempts key row = true := h

/-- A wrong password is recorded, without anything pending. -/
theorem recordWrong_ends (positive : 1 ≤ settings.maxLoginAttempts) (ordered : times.checked ≤ times.recorded)
    (takes : B.database.takes 100 key = true) (inStep : phase.Shows settings (db.rows .loginAttempts key))
    (keeps : Keeps settings times false (db.rows .loginAttempts key))
    (few : ∀ row, db.rows .loginAttempts key = some row → row.count < 5) :
    wp (runs B) (recordWrong settings times key) (Ends settings times db key phase false) (db, ⟨[], false⟩) := by
  unfold recordWrong loginAttemptRepo.recordFailure
  generalize hr : db.rows .loginAttempts key = row? at inStep keeps few
  have found : Session.find? ⟨[], false⟩ db .loginAttempts key = row? := by
    rw [Session.find?_clean]
    exact hr
  cases inStep with
  | none =>
    have many : 1 < settings.maxLoginAttempts := by
      rcases keeps with h | h
      · cases h
      · omega
    simp only [wp_bind, wp_selectAttempt, found, andThen_ok, wp_stage, pure_eq, wp_ret, List.nil_append]
    rw [wp_commit B (flush_insert (fits_attempt takes _) hr)]
    refine ⟨_, _, rfl, rfl, ?_, by simp [Phase.refuses]⟩
    have next : (Phase.counting 0).next settings times false = .counting 1 := by
      simp [Phase.next, Phase.refuses, Phase.failures, many]
    rw [next]
    exact .counting many
  | @counting k firstFailed fewer =>
    simp only [wp_bind, wp_selectAttempt, found, andThen_ok, loginAttemptRepo.lockoutOver, Prog.ofExcept, wp_ret, wp_stage,
      pure_eq, List.nil_append]
    rw [wp_commit B (flush_update hr (fits_attempt takes _))]
    refine ⟨_, _, rfl, rfl, ?_, by simp [Phase.refuses]⟩
    by_cases last : k + 1 < settings.maxLoginAttempts
    · have next : (Phase.counting k).next settings times false = .counting (k + 1) := by
        simp [Phase.next, Phase.refuses, Phase.failures, last]
      rw [next]
      simp only [loginAttemptRepo.failedOnce, Database.keeps]
      rw [if_neg (by simpa using last)]
      exact .counting last
    · have next : (Phase.counting k).next settings times false = .locked times.recorded := by
        simp [Phase.next, Phase.refuses, Phase.failures, last]
      rw [next]
      simp only [loginAttemptRepo.failedOnce, Database.keeps]
      rw [if_pos (by simpa using last)]
      exact .locked (by simpa using last) (by cases B.database <;> rfl)
  | @locked k since firstFailed lockoutUntil many until_ =>
    have small : k < 5 := few _ rfl
    obtain ⟨past, aware⟩ : lockoutUntil.time ≤ times.checked ∧ lockoutUntil.aware = true := by
      unfold Keeps at keeps
      simpa [small] using keeps
    have expired : lockoutUntil.time ≤ times.recorded := past.trans ordered
    have open_ : (Phase.locked since).refuses settings times.checked = false := by
      rw [until_] at past
      simpa [Phase.refuses] using past
    simp only [wp_bind, wp_selectAttempt, found, andThen_ok, loginAttemptRepo.lockoutOver, aware, if_true, Prog.ofExcept, wp_ret,
      wp_stage, pure_eq, List.nil_append, expired, decide_true]
    rw [wp_commit B (flush_update hr (fits_attempt takes _))]
    refine ⟨_, _, rfl, rfl, ?_, by simp [open_]⟩
    by_cases last : 1 < settings.maxLoginAttempts
    · have next : (Phase.locked since).next settings times false = .counting 1 := by
        simp [Phase.next, open_, Phase.failures, last]
      rw [next]
      simp only [loginAttemptRepo.failedOnce, Database.keeps, if_true]
      rw [if_neg (by simpa using last)]
      exact .counting last
    · have next : (Phase.locked since).next settings times false = .locked times.recorded := by
        simp [Phase.next, open_, Phase.failures, last]
      rw [next]
      simp only [loginAttemptRepo.failedOnce, Database.keeps, if_true]
      rw [if_pos (by simpa using last)]
      exact .locked (by simpa using last) (by cases B.database <;> rfl)

/-- A right password removes the row, which may be staged for deletion already. -/
theorem recordSuccess_ends {p : List Change} (staged : p = [] ∨ p = [.delete .loginAttempts key])
    (open_ : phase.refuses settings times.checked = false) :
    wp (runs B) (recordSuccess key) (Ends settings times db key phase true) (db, ⟨p, false⟩) := by
  have next : phase.next settings times true = .counting 0 := by simp [Phase.next, open_]
  have ends : ∀ w, w = (db.set .loginAttempts key none, ({} : Session)) →
      Ends settings times db key phase true (.ok .success) w := by
    rintro w rfl
    refine ⟨_, none, rfl, rfl, ?_, by simp [open_]⟩
    rw [next]
    exact .none
  unfold recordSuccess loginAttemptRepo.reset
  cases hr : db.rows .loginAttempts key with
  | none =>
    have found : Session.find? ⟨p, false⟩ db .loginAttempts key = none := by simp [Session.find?, Db.find?, hr]
    have absent : db.set .loginAttempts key none = db := db.set_same hr
    simp only [wp_bind, wp_selectAttempt, found, andThen_ok, pure_eq, wp_ret]
    rcases staged with rfl | rfl
    · rw [wp_commit B (show flush B.database [] db = .ok db from rfl)]
      exact ends _ (by rw [absent])
    · rw [wp_commit B flush_delete]
      exact ends _ rfl
  | some row =>
    obtain ⟨own, found⟩ : ∃ own, Session.find? ⟨p, false⟩ db .loginAttempts key = some own := by
      exact ⟨_, by simp only [Session.find?, Db.find?, hr, Option.map_some]; rfl⟩
    simp only [wp_bind, wp_selectAttempt, found, andThen_ok, wp_stage, pure_eq]
    rcases staged with rfl | rfl
    · rw [List.nil_append, wp_commit B flush_delete]
      exact ends _ rfl
    · rw [List.singleton_append, wp_commit B flush_delete_twice]
      exact ends _ rfl

/-- What follows the look at the lock: the password is right or wrong, whatever is staged. -/
def Verifies (B : Backend) (settings : LoginSettings) (times : LoginTimes) (db : Db) (key : String) (right : Bool)
    (body : Svc LoginOutcome) : Prop :=
  ∀ p Q, p = [] ∨ p = [.delete .loginAttempts key] →
    wp (runs B) (if right then recordSuccess key else recordWrong settings times key) Q (db, ⟨p, false⟩) →
    wp (runs B) body Q (db, ⟨p, false⟩)

/-- A call that keeps ends as the automaton says. -/
theorem guarded_ends {right : Bool} {body : Svc LoginOutcome} (positive : 1 ≤ settings.maxLoginAttempts)
    (ordered : times.checked ≤ times.recorded) (takes : B.database.takes 100 key = true)
    (inStep : phase.Shows settings (db.rows .loginAttempts key))
    (keeps : Keeps settings times right (db.rows .loginAttempts key))
    (verifies : Verifies B settings times db key right body) :
    wp (runs B) (do
      let (isLocked, remaining) ← loginAttemptRepo.isLocked key times.checked
      if isLocked then
        return .locked remaining
      body) (Ends settings times db key phase right) (db, ⟨[], false⟩) := by
  have found : Session.find? ⟨[], false⟩ db .loginAttempts key = db.rows .loginAttempts key := Session.find?_clean ..
  -- with nothing staged, and the row below five failures
  have few : (∀ row, db.rows .loginAttempts key = some row → row.count < 5) →
      phase.refuses settings times.checked = false →
      wp (runs B) body (Ends settings times db key phase right) (db, ⟨[], false⟩) := by
    intro few open_
    refine verifies [] _ (.inl rfl) ?_
    cases right with
    | true => exact recordSuccess_ends (.inl rfl) open_
    | false => exact recordWrong_ends positive ordered takes inStep keeps few
  unfold loginAttemptRepo.isLocked
  simp only [wp_bind, wp_selectAttempt, found, andThen_ok]
  generalize hr : db.rows .loginAttempts key = row? at inStep keeps few
  cases inStep with
  | none => exact few (by simp) rfl
  | @counting k firstFailed fewer =>
    by_cases small : k < 5
    · simp only [small, if_true, pure_eq, wp_ret, andThen_ok]
      exact few (by rintro row ⟨⟩; exact small) rfl
    · simp only [small, if_false]
      have certain : right = true := by
        unfold Keeps at keeps
        simpa [small] using keeps
      subst certain
      simp only [wp_bind, wp_stage, andThen_ok, pure_eq, wp_ret]
      exact verifies _ _ (.inr rfl) (recordSuccess_ends (.inr rfl) rfl)
  | @locked k since firstFailed lockoutUntil many until_ =>
    unfold Keeps at keeps
    by_cases small : k < 5
    · simp only [small, if_true, pure_eq, wp_ret, andThen_ok] at keeps ⊢
      have past := (keeps _ rfl).1
      refine few (by rintro row ⟨⟩; exact small) ?_
      rw [until_] at past
      simpa [Phase.refuses] using past
    · simp only [small, if_false] at keeps ⊢
      by_cases holds : times.checked < lockoutUntil.time
      · simp only [holds, if_true, pure_eq, wp_ret, andThen_ok]
        have refused : (Phase.locked since).refuses settings times.checked = true := by
          rw [until_] at holds
          simpa [Phase.refuses] using holds
        refine ⟨_, some _, rfl, by rw [db.set_same hr], ?_, by simp [refused]⟩
        have next : (Phase.locked since).next settings times right = .locked since := by simp [Phase.next, refused]
        rw [next]
        exact .locked many until_
      · have certain : right = true := by simpa [holds] using keeps
        subst certain
        have open_ : (Phase.locked since).refuses settings times.checked = false := by
          rw [until_] at holds
          simpa [Phase.refuses] using holds
        simp only [holds, if_false, wp_bind, wp_stage, andThen_ok, pure_eq, wp_ret]
        exact verifies _ _ (.inr rfl) (recordSuccess_ends (.inr rfl) open_)

/-- A pending deletion is not seen by a SELECT. -/
theorem find?_staged {t : Tab} {p : List Change}
    (staged : p = [] ∨ p = [.delete .loginAttempts key]) (name : String) :
    Session.find? ⟨p, false⟩ db t name = db.find? t name := by
  rcases staged with rfl | rfl
  · exact Session.find?_clean ..
  · unfold Session.find? Session.own
    simp [Session.changed]

theorem customer_verifies {accNo password hashed : String}
    (may : (Login.customer accNo password).hashed db = some hashed) :
    Verifies B settings times db accNo (B.verifyPassword password hashed) (do
      let some account ← accountRepo.get accNo | return .notFound
      if account.isFrozen then
        return .frozen
      if !account.isActive then
        return .closed
      if !(← verifyPassword password account.password) then
        recordWrong settings times accNo
      else
        recordSuccess accNo) := by
  intro p Q staged h
  obtain ⟨account, live, rfl⟩ := Option.map_eq_some_iff.mp may
  obtain ⟨there, free⟩ := Option.filter_eq_some_iff.mp live
  obtain ⟨thawed, active⟩ : account.isFrozen = false ∧ account.isActive = true := by simpa using free
  have found : Session.find? ⟨p, false⟩ db .accounts accNo = some account := by
    rw [find?_staged staged]
    exact there
  unfold accountRepo.get
  simp only [wp_bind, wp_selectAccount, found, andThen_ok, thawed, active,
    wp_verifyPassword, Bool.false_eq_true, if_false, Bool.not_true]
  cases hv : B.verifyPassword password account.password with
  | true => simpa [hv] using h
  | false => simpa [hv] using h

theorem admin_verifies {username password hashed : String}
    (may : (Login.admin username password).hashed db = some hashed) :
    Verifies B settings times db (lockKey username) (B.verifyPassword password hashed) (do
      match ← selectAdmin username with
      | some admin =>
        if ← verifyPassword password admin.password then
          recordSuccess (lockKey username)
        else
          recordWrong settings times (lockKey username)
      | none => recordWrong settings times (lockKey username)) := by
  intro p Q staged h
  obtain ⟨admin, there, rfl⟩ := Option.map_eq_some_iff.mp may
  have found : Session.find? ⟨p, false⟩ db .admins username = some admin := by
    rw [find?_staged staged]
    exact there
  simp only [wp_bind, wp_selectAdmin, found, andThen_ok, wp_verifyPassword]
  cases hv : B.verifyPassword password admin.password with
  | true => simpa [hv] using h
  | false => simpa [hv] using h

/-- **One call**, of an admin or of an account that may log in. -/
theorem login_step {login : Login} (positive : 1 ≤ settings.maxLoginAttempts) (ordered : times.checked ≤ times.recorded)
    (takes : B.database.takes 100 login.key = true) (may : login.hashed db ≠ none)
    (inStep : phase.Shows settings (db.rows .loginAttempts login.key))
    (keeps : Keeps settings times (login.right B db) (db.rows .loginAttempts login.key)) :
    wp (runs B) (login.prog settings times) (Ends settings times db login.key phase (login.right B db))
      (db, ⟨[], false⟩) := by
  cases login with
  | customer accNo password =>
    obtain ⟨hashed, may⟩ := Option.ne_none_iff_exists'.mp may
    have right : (Login.customer accNo password).right B db = B.verifyPassword password hashed := by
      simp [Login.right, may]
    rw [right] at keeps ⊢
    exact guarded_ends positive ordered takes inStep keeps (customer_verifies may)
  | admin username password =>
    obtain ⟨hashed, may⟩ := Option.ne_none_iff_exists'.mp may
    have right : (Login.admin username password).right B db = B.verifyPassword password hashed := by
      simp [Login.right, may]
    rw [right] at keeps ⊢
    exact guarded_ends positive ordered takes inStep keeps (admin_verifies may)

end Step

/-! ## Runs -/

/-- A login served by a thread. -/
structure LoginCall where
  thread : ℕ
  login : Login
  times : LoginTimes

section Runs

variable (B : Backend) (settings : LoginSettings)

namespace Bank

/-- The answer to a login, and the bank after it. -/
def login (bank : Bank) (c : LoginCall) : Except Exn LoginOutcome × Bank :=
  bank.serve B c.thread (c.login.prog settings c.times)

/-- Every call is answered, and it is refused as locked exactly when the automaton of its key says so. -/
def Lawful : Bank → (String → Phase) → List LoginCall → Prop
  | _, _, [] => True
  | bank, phases, c :: cs =>
    (∃ outcome, (bank.login B settings c).1 = .ok outcome ∧
      ((∃ minutes, outcome = .locked minutes) ↔ (phases c.login.key).refuses settings c.times.checked = true)) ∧
    Lawful (bank.login B settings c).2
      (Function.update phases c.login.key ((phases c.login.key).next settings c.times (c.login.right B bank.db))) cs

/-- Every call of the run keeps the automaton. -/
def Kept : Bank → List LoginCall → Prop
  | _, [] => True
  | bank, c :: cs =>
    Keeps settings c.times (c.login.right B bank.db) (bank.db.rows .loginAttempts c.login.key) ∧
      Kept (bank.login B settings c).2 cs

/-- The calls of a run are of admins and of accounts that may log in, and the clock does not go back in them. -/
structure Proper (bank : Bank) (cs : List LoginCall) : Prop where
  may : ∀ c ∈ cs, c.login.hashed bank.db ≠ none
  ordered : ∀ c ∈ cs, c.times.checked ≤ c.times.recorded

/-- Every row is one that its columns take. -/
def Held (bank : Bank) : Prop := ∀ t key row, bank.db.rows t key = some row → B.database.fits t key row = true

end Bank

variable {B settings} {bank : Bank}

/-- The key of an account or of an admin fits the column of keys. -/
theorem takes_key (held : bank.Held B) {login : Login} (may : login.hashed bank.db ≠ none) :
    B.database.takes 100 login.key = true := by
  cases login with
  | customer accNo password =>
    obtain ⟨_, h⟩ := Option.ne_none_iff_exists'.mp may
    obtain ⟨row, live, -⟩ := Option.map_eq_some_iff.mp h
    have stored := (Option.filter_eq_some_iff.mp (Option.filter_eq_some_iff.mp live).1).1
    have fits := held .accounts accNo row stored
    simp only [Database.fits, Bool.and_eq_true] at fits
    exact Database.takes_mono (by omega) fits.1
  | admin username password =>
    obtain ⟨_, h⟩ := Option.ne_none_iff_exists'.mp may
    obtain ⟨row, stored, -⟩ := Option.map_eq_some_iff.mp h
    have fits := held .admins username row stored
    simp only [Database.fits, Bool.and_eq_true] at fits
    have named : B.database.takes 6 "admin_" = true := by cases B.database <;> decide
    exact Database.takes_mono (by omega) (Database.takes_append named fits.1.1.1)

/-- A login changes the row of its key only. -/
theorem hashed_of_set (login : Login) (db : Db) (key : String) (row : Option LoginAttempt) :
    login.hashed (db.set .loginAttempts key row) = login.hashed db := by
  have accounts : (db.set .loginAttempts key row).rows .accounts = db.rows .accounts :=
    Db.set_of_tab_ne _ _ (by decide)
  have admins : (db.set .loginAttempts key row).rows .admins = db.rows .admins := Db.set_of_tab_ne _ _ (by decide)
  cases login <;> simp only [Login.hashed, Db.find?, accounts, admins]

/-- **The lockout automaton.** From a bank without recorded failures, every run of logins that keep the automaton is
answered as the automaton says, and no call raises. -/
theorem lockout_automaton {cs : List LoginCall} (positive : 1 ≤ settings.maxLoginAttempts) (clean : bank.Clean)
    (held : bank.Held B) (fresh : ∀ key, bank.db.rows .loginAttempts key = none) (proper : bank.Proper cs)
    (kept : bank.Kept B settings cs) : bank.Lawful B settings (fun _ => .counting 0) cs := by
  -- the rows of all keys are in step with their phases, and every call keeps that
  have main : ∀ (cs : List LoginCall) (bank : Bank) (phases : String → Phase), bank.Clean →
      (∀ c ∈ cs, B.database.takes 100 c.login.key = true) → bank.Proper cs →
      (∀ key, (phases key).Shows settings (bank.db.rows .loginAttempts key)) → bank.Kept B settings cs →
      bank.Lawful B settings phases cs := by
    intro cs
    induction cs with
    | nil => intros; trivial
    | cons c cs ih =>
      intro bank phases clean takes proper inStep kept
      obtain ⟨here, rest⟩ := kept
      have step := login_step positive (proper.ordered c List.mem_cons_self) (takes c List.mem_cons_self)
        (proper.may c List.mem_cons_self) (inStep c.login.key) here
      obtain ⟨db, s, ⟨outcome, row, answer, world, shows', refused⟩, bank'⟩ := Bank.serve_of_wp clean c.thread step
      obtain ⟨rfl, rfl⟩ : db = bank.db.set .loginAttempts c.login.key row ∧ s = {} := by simpa using world
      refine ⟨⟨outcome, answer, refused⟩, ?_⟩
      have after : (bank.login B settings c).2 =
          { db := bank.db.set .loginAttempts c.login.key row, sessions := Function.update bank.sessions c.thread {} } :=
        bank'
      rw [after] at rest ⊢
      refine ih _ _ (Bank.clean_update clean _ _) (fun d hd => takes d (List.mem_cons_of_mem _ hd)) ?_ ?_ rest
      · constructor
        · intro d hd
          show d.login.hashed (bank.db.set _ _ _) ≠ none
          rw [hashed_of_set]
          exact proper.may d (List.mem_cons_of_mem _ hd)
        · exact fun d hd => proper.ordered d (List.mem_cons_of_mem _ hd)
      · intro key
        by_cases same : key = c.login.key
        · subst same
          show Phase.Shows settings (Function.update phases _ _ _)
            ((bank.db.set .loginAttempts c.login.key row).rows .loginAttempts _)
          rw [Function.update_self, Db.set_self]
          exact shows'
        · show Phase.Shows settings (Function.update phases _ _ _)
            ((bank.db.set .loginAttempts c.login.key row).rows .loginAttempts _)
          rw [Function.update_of_ne same, Db.set_of_key_ne _ _ same]
          exact inStep key
  refine main cs bank _ clean (fun c hc => takes_key held (proper.may c hc)) proper (fun key => ?_) kept
  rw [fresh key]
  exact .none

end Runs

/-! ## Five wrong passwords, and a sixth after the lock -/

namespace Sample

/-- Passwords that are stored as they are. -/
def plain (database : Database) : Backend where
  database
  verifyPassword password hashed := password = hashed

/-- One account and one admin, on which nobody has logged in. -/
def doors : Bank where
  db := ⟨fun t key => match t with
    | .accounts => if key = "1001" then some ⟨"secret", true, false, none⟩ else none
    | .admins => if key = "root" then some ⟨"toor", "admin", none, false⟩ else none
    | .loginAttempts | .tokenVersions | .refreshTokens => none⟩
  sessions _ := {}

/-- A login of account 1001, some minutes after the first. -/
def try_ (minutes : ℕ) (password : String) : LoginCall :=
  ⟨0, .customer "1001" password, ⟨minutes * minute, minutes * minute⟩⟩

/-- `MAX_LOGIN_ATTEMPTS` and `LOGIN_LOCKOUT_MINUTES` as they are by default. -/
def defaults : LoginSettings := ⟨5, 15⟩

def guesses : List LoginCall := (List.range 5).map fun k => try_ k "guess"

theorem doors_held : doors.Held (plain .sqlite) := by
  intro t key row h
  cases t with
  | accounts | admins =>
    simp only [doors] at h
    split at h
    · cases h
      subst_vars
      decide
    · cases h
  | _ => cases h

/-- The account is locked, refuses the right password for a quarter of an hour, and takes it after that. -/
theorem lockout_automaton_guesses : doors.Lawful (plain .sqlite) defaults (fun _ => .counting 0)
    (guesses ++ [try_ 18 "secret", try_ 19 "secret", try_ 20 "guess"]) :=
  lockout_automaton (by decide) (fun _ => rfl) doors_held (fun _ => rfl)
    ⟨by decide, by decide⟩ ⟨by decide, by decide, by decide, by decide, by decide, by decide, by decide, by decide, trivial⟩

/-- On SQLite the first wrong password after the lock compares a naive with an aware instant, and raises. -/
theorem guess_after_lock_raises : doors.Proper (guesses ++ [try_ 19 "guess"]) ∧
    ¬doors.Lawful (plain .sqlite) defaults (fun _ => .counting 0) (guesses ++ [try_ 19 "guess"]) := by
  refine ⟨⟨by decide, by decide⟩, ?_⟩
  rintro ⟨-, -, -, -, -, ⟨outcome, answer, -⟩, -⟩
  have raises : (∃ outcome, (Except.error .typeError : Except Exn LoginOutcome) = .ok outcome) := ⟨outcome, answer⟩
  obtain ⟨_, h⟩ := raises
  cases h

end Sample

end UnionBank.Auth
