import UnionBank.Requests

/-!
# What the endpoints do themselves

Registration, and the three endpoints that write through the repositories instead of a service: the profile endpoint of
v1 and v2, and the goal and password endpoints of v1. Neither a refusal nor an `HTTPException` touches the session.

- `Checks`: the field validators, which are any functions here;
- `Visit`: a service call or one of the four, and `Bank.attend`: one visit on the session of one thread.
-/

namespace UnionBank

open Programs Prog

variable {D : Type}

/-- `validate_name`, `validate_phone`, `validate_email` and `validate_password`, which says what is missing. -/
structure Checks where
  validateName : String → Bool
  validatePhone : String → Bool
  validateEmail : String → Bool
  validatePassword : String → Bool × String

/-- What an endpoint answers. -/
inductive Answer (D : Type) where
  | reply (r : Reply D)
  | httpException (status : ℕ) (detail : String)
  | profile (account : Account D)
  | savingsGoal (goal : SavingsGoal D)
  | message (text : String)

namespace AuthService

/-- `customer_register`; `accNo` is the number that `generate_account_number` drew. -/
def customerRegister (env : Env D) (accNo name : String) (age : Int) (gender mobile email password : String) (now : Time) :
    Svc D (ServiceResult D) := do
  accountRepo.create
    { accountNumber := accNo, name, age, gender, mobile, email, password := env.hashPassword password,
      balance := env.ofCents 0, isActive := true, isFrozen := false, createdAt := now, deletedAt := none }
  accountRepo.commit
  return {
    success := true, message := s!"Account created successfully! Account number: {accNo}",
    data := some [("account_number", .text accNo)] }

end AuthService

namespace Api

/-- `UpdateProfileRequest`. -/
structure ProfileForm where
  name : Option String
  age : Option Int
  gender : Option String
  mobile : Option String
  email : Option String

/-- The fields that are given, as the endpoint assigns them. -/
def ProfileForm.fill (form : ProfileForm) (account : Account D) : Account D :=
  { account with
    name := form.name.getD account.name, age := form.age.getD account.age, gender := form.gender.getD account.gender,
    mobile := form.mobile.getD account.mobile, email := form.email.getD account.email }

/-- `update_profile` of v1 and v2. -/
def updateProfile (checks : Checks) (accNo : String) (form : ProfileForm) : Svc D (Answer D) := do
  let some account ← accountRepo.get accNo | return .httpException 404 "Account not found."
  if (form.name.map checks.validateName).getD true = false then
    return .httpException 400 "Invalid name. Must be 2-50 characters (letters and spaces only)."
  if (form.mobile.map checks.validatePhone).getD true = false then
    return .httpException 400 "Invalid mobile number. Must be 10 digits starting with 6-9."
  if (form.email.map checks.validateEmail).getD true = false then
    return .httpException 400 "Invalid email format."
  let account := form.fill account
  accountRepo.update account
  accountRepo.commit
  return .profile account

/-- `SavingsGoalUpdate`. -/
structure GoalForm (D : Type) where
  name : Option String
  targetAmount : Option D
  targetDate : Option String

/-- The fields that are given, and the flag as the endpoint sets it. -/
def GoalForm.fill [LE D] [DecidableLE D] (form : GoalForm D) (goal : SavingsGoal D) : SavingsGoal D :=
  let targetAmount := form.targetAmount.getD goal.targetAmount
  { goal with
    name := form.name.getD goal.name, targetAmount,
    targetDate := form.targetDate.or goal.targetDate,
    isCompleted := decide (targetAmount ≤ goal.currentAmount) }

/-- `update_savings_goal`: nobody asks whose goal it is. -/
def updateSavingsGoal [LE D] [DecidableLE D] (goalId : String) (form : GoalForm D) : Svc D (Answer D) := do
  let some goal ← goalRepo.get goalId | return .httpException 404 "Goal not found."
  let goal := form.fill goal
  goalRepo.update goal
  goalRepo.commit
  return .savingsGoal goal

/-- `change_password` of v1: the token version stays. -/
def changePassword (env : Env D) (checks : Checks) (accNo currentPassword newPassword confirmPassword : String) :
    Svc D (Answer D) := do
  let some account ← accountRepo.get accNo | return .httpException 404 "Account not found."
  if !env.verifyPassword currentPassword account.password then
    return .httpException 400 "Incorrect current password."
  if (checks.validatePassword newPassword).1 = false then
    return .httpException 400 (checks.validatePassword newPassword).2
  if newPassword ≠ confirmPassword then
    return .httpException 400 "Passwords do not match."
  accountRepo.update { account with password := env.hashPassword newPassword }
  accountRepo.commit
  return .message "Password changed successfully."

end Api

/-- What a customer or an admin can do at the endpoints. -/
inductive Visit (D : Type) where
  | call (c : Call D)
  | register (accNo name : String) (age : Int) (gender mobile email password : String) (now : Time)
  | updateProfile (accNo : String) (form : Api.ProfileForm)
  | updateSavingsGoal (goalId : String) (form : Api.GoalForm D)
  | changePassword (accNo currentPassword newPassword confirmPassword : String)

section Attend

variable [Zero D] [Add D] [Sub D] [LE D] [LT D] [DecidableEq D] [DecidableLE D] [DecidableLT D]
variable (env : Env D) (checks : Checks) (B : Backend D)

/-- The program of a visit. -/
def Visit.prog : Visit D → Svc D (Answer D)
  | call c => do return .reply (← c.prog env)
  | register accNo name age gender mobile email password now => do
    return .reply (.service (← AuthService.customerRegister env accNo name age gender mobile email password now))
  | updateProfile accNo form => Api.updateProfile checks accNo form
  | updateSavingsGoal goalId form => Api.updateSavingsGoal goalId form
  | changePassword accNo currentPassword newPassword confirmPassword =>
    Api.changePassword env checks accNo currentPassword newPassword confirmPassword

namespace Bank

/-- A visit on the session of a thread: its answer, and the bank after it. -/
def attend (bank : Bank D) (thread : ℕ) (v : Visit D) : Except Exn (Answer D) × Bank D :=
  let (r, db, s) := exec (handle B) (v.prog env checks) (bank.db, bank.sessions thread)
  (r, { db, sessions := Function.update bank.sessions thread s })

/-- Visits one after another, each on the session of the thread it comes with. -/
def day (bank : Bank D) : List (ℕ × Visit D) → Bank D
  | [] => bank
  | (thread, v) :: rest => (bank.attend env checks B thread v).2.day rest

end Bank

end Attend

end UnionBank
