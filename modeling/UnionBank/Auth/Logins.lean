import UnionBank.Auth.Session

/-!
# Logins

`AuthService` of `application/services.py`: the lock of the key is looked at, the password verified, and the failure
recorded or the record removed, with one commit at the end.

- `LoginSettings`, `LoginTimes`: the limits, and the two readings of the clock in a call;
- `LoginOutcome` and its message; `customerLogin`, `adminLogin`.
-/

namespace UnionBank.Auth

open Programs Prog

/-- `MAX_LOGIN_ATTEMPTS` and `LOGIN_LOCKOUT_MINUTES`. -/
structure LoginSettings where
  maxLoginAttempts : ℕ
  loginLockoutMinutes : ℕ

/-- When the lock of a key is looked at, and when a failure is recorded. -/
structure LoginTimes where
  checked : Time
  recorded : Time

/-- How a login ends. -/
inductive LoginOutcome where
  | locked (minutes : ℕ)
  | notFound
  | frozen
  | closed
  | wrong (remaining : ℕ)
  | success
deriving DecidableEq

namespace LoginOutcome

/-- The message of a customer login. -/
def customerMessage (settings : LoginSettings) : LoginOutcome → String
  | locked minutes => s!"Account locked. Try again in {minutes} minute(s)."
  | notFound => "Account not found."
  | frozen => "Account is frozen. Please contact the bank."
  | closed => "Account has been closed."
  | wrong 0 => s!"Incorrect password. Account locked for {settings.loginLockoutMinutes} minutes."
  | wrong remaining => s!"Incorrect password. {remaining} attempt(s) remaining."
  | success => ""

/-- The message of an admin login. -/
def adminMessage (settings : LoginSettings) : LoginOutcome → String
  | locked minutes => s!"Admin account locked. Try again in {minutes} minute(s)."
  | wrong 0 => s!"Admin account locked for {settings.loginLockoutMinutes} minutes."
  | wrong remaining => s!"Invalid credentials. {remaining} attempt(s) remaining."
  | _ => ""

end LoginOutcome

variable (settings : LoginSettings) (times : LoginTimes)

/-- A wrong password is recorded. -/
def recordWrong (key : String) : Svc LoginOutcome := do
  let remaining ← loginAttemptRepo.recordFailure key settings.maxLoginAttempts settings.loginLockoutMinutes times.recorded
  commit
  return .wrong remaining

/-- A right password removes the record. -/
def recordSuccess (key : String) : Svc LoginOutcome := do
  loginAttemptRepo.reset key
  commit
  return .success

def customerLogin (accNo password : String) : Svc LoginOutcome := do
  let (isLocked, remaining) ← loginAttemptRepo.isLocked accNo times.checked
  if isLocked then
    return .locked remaining
  let some account ← accountRepo.get accNo | return .notFound
  if account.isFrozen then
    return .frozen
  if !account.isActive then
    return .closed
  if !(← verifyPassword password account.password) then
    recordWrong settings times accNo
  else
    recordSuccess accNo

def lockKey (username : String) : String := s!"admin_{username}"

/-- A user name that is not there fails like a wrong password. -/
def adminLogin (username password : String) : Svc LoginOutcome := do
  let (isLocked, remaining) ← loginAttemptRepo.isLocked (lockKey username) times.checked
  if isLocked then
    return .locked remaining
  match ← selectAdmin username with
  | some admin =>
    if ← verifyPassword password admin.password then
      recordSuccess (lockKey username)
    else
      recordWrong settings times (lockKey username)
  | none => recordWrong settings times (lockKey username)

end UnionBank.Auth
