import UnionBank.Session

/-!
# Account and admin services

`AccountService` and `AdminService` of `application/services.py`, and the two other writers of account rows: the v1
and v2 profile endpoints and `Account.save` of the command line. Profile, password and closure write the row they have
read back through `accountRepo.update`; freezing, unfreezing and deleting assign single columns.
-/

namespace UnionBank

open Programs Prog

variable {D : Type}

namespace AccountService

variable (env : Env D)

/-- The attributes `update_profile` can set by keyword. A read-only property raises, an unknown name is skipped. -/
inductive AccountField (D : Type) where
  | accountNumber (value : String)
  | name (value : String)
  | age (value : Int)
  | gender (value : String)
  | mobile (value : String)
  | email (value : String)
  | password (value : String)
  | balance (value : D)
  | isActive (value : Bool)
  | isFrozen (value : Bool)
  | createdAt (value : Time)
  | deletedAt (value : Time)
  | readOnly (key : String)
  | unknown (key : String)

/-- `setattr(account, key, value)`. -/
def AccountField.assign (account : Account D) : AccountField D → Except Exn (Account D)
  | accountNumber value => .ok { account with accountNumber := value }
  | name value => .ok { account with name := value }
  | age value => .ok { account with age := value }
  | gender value => .ok { account with gender := value }
  | mobile value => .ok { account with mobile := value }
  | email value => .ok { account with email := value }
  | password value => .ok { account with password := value }
  | balance value => .ok { account with balance := value }
  | isActive value => .ok { account with isActive := value }
  | isFrozen value => .ok { account with isFrozen := value }
  | createdAt value => .ok { account with createdAt := value }
  | deletedAt value => .ok { account with deletedAt := some value }
  | readOnly _ => .error .attributeError
  | unknown _ => .ok account

/-- The keyword arguments that are not `None`, in their order. -/
def updateProfile (accNo : String) (kwargs : List (AccountField D)) : Svc D (ServiceResult D) := do
  let some account ← accountRepo.get accNo | return refused "Account not found."
  let account ← Prog.ofExcept (kwargs.foldlM AccountField.assign account)
  accountRepo.update account
  accountRepo.commit
  return { success := true, message := "Profile updated successfully." }

def changePassword (accNo currentPwd newPwd : String) : Svc D (ServiceResult D) := do
  let some account ← accountRepo.get accNo | return refused "Account not found."
  if !env.verifyPassword currentPwd account.password then
    return refused "Incorrect current password."
  accountRepo.update { account with password := env.hashPassword newPwd }
  let _ ← tokenVersionRepo.increment accNo
  accountRepo.commit
  return { success := true, message := "Password changed successfully." }

def closeAccount (accNo password : String) : Svc D (ServiceResult D) := do
  let some account ← accountRepo.get accNo | return refused "Account not found."
  if !env.verifyPassword password account.password then
    return refused "Incorrect password."
  accountRepo.update { account with isActive := false }
  accountRepo.commit
  return { success := true, message := "Account closed successfully." }

end AccountService

namespace AdminService

/-- `_audit_log`. -/
def auditLog (actor action target details : String) (reason : Option String) (now : Time) : Svc D Unit := do
  auditLogRepo.log actor action (some target) (some details) reason now
  auditLogRepo.commit

/-- Freezing also deactivates. -/
def freezeAccount (draws : Draws) (accNo actor : String) (reason : Option String) : Svc D (ServiceResult D) := do
  let some account ← accountRepo.get accNo | return refused "Account not found."
  if !account.isActive && !account.isFrozen then
    return refused "Account is permanently closed."
  if account.isFrozen then
    return refused s!"Account {accNo} is already frozen."
  let _ ← accountRepo.setFrozen accNo true
  let _ ← accountRepo.setActive accNo false
  accountRepo.commit
  auditLog actor "freeze" accNo s!"Frozen account for {account.name}" reason draws.now
  return { success := true, message := s!"Account {accNo} ({account.name}) has been frozen." }

/-- Unfreezing does not reactivate. -/
def unfreezeAccount (draws : Draws) (accNo actor : String) (reason : Option String) : Svc D (ServiceResult D) := do
  let some account ← accountRepo.get accNo | return refused "Account not found."
  if !account.isFrozen then
    return refused s!"Account {accNo} is not frozen."
  let _ ← accountRepo.setFrozen accNo false
  accountRepo.commit
  auditLog actor "unfreeze" accNo s!"Unfrozen account for {account.name}" reason draws.now
  return { success := true, message := s!"Account {accNo} ({account.name}) has been unfrozen." }

/-- A soft delete. -/
def deleteAccount (draws : Draws) (accNo actor : String) (reason : Option String) : Svc D (ServiceResult D) := do
  let some account ← accountRepo.get accNo | return refused "Account not found."
  let _ ← accountRepo.delete accNo draws.now
  accountRepo.commit
  auditLog actor "delete" accNo s!"Deleted account for {account.name}" reason draws.now
  return { success := true, message := s!"Account {accNo} ({account.name}) has been deleted." }

end AdminService

end UnionBank
