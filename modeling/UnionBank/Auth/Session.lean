import UnionBank.Auth.Store

/-!
# Sessions of the authentication tables

The services reach the tables through the session of their thread, which does not flush before its SELECTs: a row that
is to be deleted is still found, and found as the session has changed it.

- `Session.own`: the session's version of a row; `Op` and its handler `handle`;
- `accountRepo`, `adminRepo`, `loginAttemptRepo`, `tokenVersionRepo`, `refreshTokenRepo`: the repository methods.
-/

namespace UnionBank.Auth

open Programs Prog

/-- What a thread keeps between two operations. -/
structure Session where
  pending : List Change := []
  inactive : Bool := false

namespace Session

/-- The row after a change of the session, if the change is about it. -/
def changed (t : Tab) (key : String) (own : Row t) : Change → Row t
  | .update u key' _ current => if h : u = t then if key' = key then h ▸ current else own else own
  | _ => own

/-- The session's own version of a stored row. -/
def own (s : Session) (t : Tab) (key : String) (row : Row t) : Row t := s.pending.foldl (changed t key) row

/-- A SELECT: the row is found in the database and read through the identity map. -/
def find? (s : Session) (db : Db) (t : Tab) (key : String) : Option (Row t) := (db.find? t key).map (s.own t key)

end Session

/-- What a service asks of its session; hashing a password is slow, and other threads go on meanwhile. -/
inductive Op where
  | select (t : Tab) (key : String)
  | stage (c : Change)
  | verifyPassword (plain hashed : String)
  | commit
  | rollback

/-- The type of an operation's answer. -/
@[reducible] def Op.Res : Op → Type
  | .select t _ => Option (Row t)
  | .verifyPassword .. => Bool
  | _ => Unit

/-- A service call. -/
abbrev Svc (α : Type) := Prog Op.Res Exn α

/-- What a session runs on: the database, and `bcrypt.checkpw`. -/
structure Backend where
  database : Database
  verifyPassword : String → String → Bool

/-- The session's answer to an operation. Only a commit touches the store. -/
def handle (B : Backend) : Handler Op.Res Exn (Db × Session)
  | .select t key, (db, s) =>
    if s.inactive then (.error .pendingRollbackError, (db, s)) else (.ok (s.find? db t key), (db, s))
  | .stage c, (db, s) => (.ok (), (db, { s with pending := s.pending ++ [c] }))
  | .verifyPassword plain hashed, w => (.ok (B.verifyPassword plain hashed), w)
  | .commit, (db, s) =>
    if s.inactive then (.error .pendingRollbackError, (db, s))
    else match flush B.database s.pending db with
      | .ok db' => (.ok (), (db', {}))
      | .error e => (.error e, (db, { inactive := true }))
  | .rollback, (db, _) => (.ok (), (db, {}))

/-- The operations that talk to the database. -/
def Op.fallible : Op → Bool
  | .select .. | .commit => true
  | _ => false

/-- What a failing operation leaves: after a failed commit an inactive session without changes. -/
def failed : Op → Db × Session → Db × Session
  | .commit, (db, _) => (db, { inactive := true })
  | _, w => w

/-! ## Repositories -/

def select (t : Tab) (key : String) : Svc (Option (Row t)) := perform (Op.select t key)

/-- `session.query(…).filter_by(…).first()`, for every table. -/
def selectAccount (accNo : String) : Svc (Option AccountRow) := select .accounts accNo
def selectAdmin (username : String) : Svc (Option AdminRow) := select .admins username
def selectAttempt (key : String) : Svc (Option LoginAttempt) := select .loginAttempts key
def selectVersion (accNo : String) : Svc (Option ℕ) := select .tokenVersions accNo
def selectRefreshToken (tokenId : String) : Svc (Option RefreshToken) := select .refreshTokens tokenId

def stage (c : Change) : Svc Unit := perform (Op.stage c)
def verifyPassword (plain hashed : String) : Svc Bool := perform (Op.verifyPassword plain hashed)
def commit : Svc Unit := perform Op.commit

/-- A minute. -/
def minute : Time := 60 * 1000000

namespace accountRepo

def get (accNo : String) : Svc (Option AccountRow) := selectAccount accNo

/-- `update`, of an account whose password was changed. -/
def updatePassword (accNo password : String) : Svc Unit := do
  let some model ← selectAccount accNo | return ()
  stage (.update .accounts accNo model { model with password })

end accountRepo

namespace loginAttemptRepo

/-- `is_locked`, with its default of five attempts: whether the key is locked, and for how many minutes. -/
def isLocked (key : String) (now : Time) : Svc (Bool × ℕ) := do
  let some model ← selectAttempt key | return (false, 0)
  if model.count < 5 then
    return (false, 0)
  match model.lockoutUntil with
  | some lockoutUntil =>
    if now < lockoutUntil.time then
      return (true, max 1 ((lockoutUntil.time - now) / minute))
    stage (.delete .loginAttempts key)
    return (false, 0)
  | none =>
    stage (.delete .loginAttempts key)
    return (false, 0)

/-- `now >= model.lockout_until`, where there is one: a naive instant cannot be compared with an aware one. -/
def lockoutOver (model : LoginAttempt) (now : Time) : Except Exn Bool :=
  match model.lockoutUntil with
  | none => .ok false
  | some lockoutUntil => if lockoutUntil.aware then .ok (lockoutUntil.time ≤ now) else .error .typeError

/-- The row after one more failure. -/
def failedOnce (maxAttempts lockoutMinutes : ℕ) (now : Time) (model : LoginAttempt) (expired : Bool) : LoginAttempt :=
  let model := if expired then { count := 1, firstFailed := some ⟨now, true⟩, lockoutUntil := none }
    else { model with count := model.count + 1 }
  if maxAttempts ≤ model.count then { model with lockoutUntil := some ⟨now + lockoutMinutes * minute, true⟩ } else model

/-- `record_failure`: the attempts that remain. A row that is gone at the second look is an `AttributeError`. -/
def recordFailure (key : String) (maxAttempts lockoutMinutes : ℕ) (now : Time) : Svc ℕ := do
  match ← selectAttempt key with
  | none =>
    stage (.insert .loginAttempts key { count := 1, firstFailed := some ⟨now, true⟩, lockoutUntil := none : LoginAttempt })
    return maxAttempts - 1
  | some _ =>
    let some model ← selectAttempt key | throw .attributeError
    let expired ← Prog.ofExcept (lockoutOver model now)
    let model' := failedOnce maxAttempts lockoutMinutes now model expired
    stage (.update .loginAttempts key model model')
    return maxAttempts - model'.count

def reset (key : String) : Svc Unit := do
  match ← selectAttempt key with
  | some _ => stage (.delete .loginAttempts key)
  | none => return ()

end loginAttemptRepo

namespace tokenVersionRepo

def getVersion (accNo : String) : Svc ℕ := do
  return (← selectVersion accNo).getD 0

def increment (accNo : String) : Svc ℕ := do
  match ← selectVersion accNo with
  | none =>
    stage (.insert .tokenVersions accNo (1 : ℕ))
    return 1
  | some version =>
    stage (.update .tokenVersions accNo version (version + 1 : ℕ))
    return version + 1

end tokenVersionRepo

namespace refreshTokenRepo

def get (tokenId : String) : Svc (Option RefreshToken) := selectRefreshToken tokenId
def create (tokenId : String) (token : RefreshToken) : Svc Unit := stage (.insert .refreshTokens tokenId token)

def revoke (tokenId : String) (now : Time) : Svc Bool := do
  let some model ← selectRefreshToken tokenId | return false
  stage (.update .refreshTokens tokenId model { model with revokedAt := some now })
  return true

end refreshTokenRepo

/-! ## Rules for a live session -/

section Rules

variable (B : Backend) {α : Type} {db : Db} {p : List Change}

/-- The handler as a specification. -/
abbrev runs : Spec Op.Res Exn (Db × Session) := Handler.toSpec (handle B)

theorem wp_select (t : Tab) (key : String) (Q : Except Exn (Option (Row t)) → Db × Session → Prop) :
    wp (runs B) (select t key) Q (db, ⟨p, false⟩) = Q (.ok (Session.find? ⟨p, false⟩ db t key)) (db, ⟨p, false⟩) :=
  wp_perform ..

@[simp] theorem wp_selectAccount (accNo : String) (Q : Except Exn (Option AccountRow) → Db × Session → Prop) :
    wp (runs B) (selectAccount accNo) Q (db, ⟨p, false⟩) =
      Q (.ok (Session.find? ⟨p, false⟩ db .accounts accNo)) (db, ⟨p, false⟩) := wp_select ..

@[simp] theorem wp_selectAdmin (username : String) (Q : Except Exn (Option AdminRow) → Db × Session → Prop) :
    wp (runs B) (selectAdmin username) Q (db, ⟨p, false⟩) =
      Q (.ok (Session.find? ⟨p, false⟩ db .admins username)) (db, ⟨p, false⟩) := wp_select ..

@[simp] theorem wp_selectAttempt (key : String) (Q : Except Exn (Option LoginAttempt) → Db × Session → Prop) :
    wp (runs B) (selectAttempt key) Q (db, ⟨p, false⟩) =
      Q (.ok (Session.find? ⟨p, false⟩ db .loginAttempts key)) (db, ⟨p, false⟩) := wp_select ..

@[simp] theorem wp_selectVersion (accNo : String) (Q : Except Exn (Option ℕ) → Db × Session → Prop) :
    wp (runs B) (selectVersion accNo) Q (db, ⟨p, false⟩) =
      Q (.ok (Session.find? ⟨p, false⟩ db .tokenVersions accNo)) (db, ⟨p, false⟩) := wp_select ..

@[simp] theorem wp_selectRefreshToken (tokenId : String) (Q : Except Exn (Option RefreshToken) → Db × Session → Prop) :
    wp (runs B) (selectRefreshToken tokenId) Q (db, ⟨p, false⟩) =
      Q (.ok (Session.find? ⟨p, false⟩ db .refreshTokens tokenId)) (db, ⟨p, false⟩) := wp_select ..

@[simp] theorem wp_stage (c : Change) (Q : Except Exn Unit → Db × Session → Prop) :
    wp (runs B) (stage c) Q (db, ⟨p, false⟩) = Q (.ok ()) (db, ⟨p ++ [c], false⟩) := wp_perform ..

@[simp] theorem wp_verifyPassword (plain hashed : String) (Q : Except Exn Bool → Db × Session → Prop) :
    wp (runs B) (verifyPassword plain hashed) Q (db, ⟨p, false⟩) =
      Q (.ok (B.verifyPassword plain hashed)) (db, ⟨p, false⟩) := wp_perform ..

/-- A commit whose statements go through. -/
theorem wp_commit {db' : Db} (h : flush B.database p db = .ok db') (Q : Except Exn Unit → Db × Session → Prop) :
    wp (runs B) commit Q (db, ⟨p, false⟩) = Q (.ok ()) (db', {}) := by
  unfold commit
  rw [wp_perform]
  show Q _ _ = _
  simp only [handle, h]
  rfl

end Rules

@[simp] theorem Session.find?_clean (db : Db) (t : Tab) (key : String) :
    Session.find? ⟨[], false⟩ db t key = db.find? t key := by
  unfold Session.find? Session.own
  simp

/-! ## One call after another -/

/-- The store and the session of every thread. -/
structure Bank where
  db : Db
  sessions : ℕ → Session

/-- A program served by a thread: its answer, and the bank after it. -/
def Bank.serve {α : Type} (B : Backend) (bank : Bank) (thread : ℕ) (p : Svc α) : Except Exn α × Bank :=
  let (r, db, s) := exec (handle B) p (bank.db, bank.sessions thread)
  (r, { db, sessions := Function.update bank.sessions thread s })

/-- Nothing is pending. -/
def Bank.Clean (bank : Bank) : Prop := ∀ thread, bank.sessions thread = {}

/-- What the weakest precondition says of a program served by a clean thread. -/
theorem Bank.serve_of_wp {α : Type} {B : Backend} {bank : Bank} {p : Svc α} (clean : bank.Clean) (thread : ℕ)
    {Q : Except Exn α → Db × Session → Prop} (h : wp (runs B) p Q (bank.db, ⟨[], false⟩)) :
    ∃ db s, Q (bank.serve B thread p).1 (db, s) ∧
      (bank.serve B thread p).2 = { db, sessions := Function.update bank.sessions thread s } := by
  have ends := (wp_handler _ _ _ _).mp h
  unfold Bank.serve
  rw [clean thread]
  exact ⟨_, _, ends, rfl⟩

/-- A thread that ends clean leaves all threads clean. -/
theorem Bank.clean_update {bank : Bank} (clean : bank.Clean) (db : Db) (thread : ℕ) :
    Bank.Clean { db, sessions := Function.update bank.sessions thread {} } := by
  intro other
  show Function.update bank.sessions thread {} other = {}
  rw [Function.update_apply]
  split
  · rfl
  · exact clean other

end UnionBank.Auth
