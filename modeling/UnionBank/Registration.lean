import UnionBank.Dormancy

/-!
# Registration

`generate_account_number` draws numbers until `exists` does not find one, and `exists` does not find deleted accounts;
the key of the table does.

- `generateAccountNumber`, `AuthService.register`: the draws, and the service with its draws;
- `Enrolled`: a `RuntimeError` and the store as it was, or a row with a number that no row had;
- `enrolled_iff`: so it ends unless the first number without a live account is that of a deleted one.
-/

namespace UnionBank

open Keyed Programs Prog

set_option linter.unusedSectionVars false

variable {D : Type}

/-! ## The generator and the service -/

/-- `RuntimeError`, which is none of the exceptions of a session. -/
structure RuntimeError where
  message : String
deriving DecidableEq

/-- `str(random.randint(1000000000, 9999999999))`, the `i`-th time. -/
def drawn (randint : ℕ → ℕ) (i : ℕ) : String := toString (randint i)

/-- The draws from the `made`-th on; `exists` is the query of `get`. -/
def drawNumber (randint : ℕ → ℕ) (made : ℕ) : ℕ → Svc D (Option String)
  | 0 => return none
  | attempts + 1 => do
    match ← accountRepo.get (drawn randint made) with
    | none => return some (drawn randint made)
    | some _ => drawNumber randint (made + 1) attempts

def numbersExhausted (maxAttempts : ℕ) : RuntimeError where
  message := s!"Could not generate a unique account number after {maxAttempts} attempts. " ++
    "The account number space (9 billion possible numbers) may be exhausted."

def generateAccountNumber (randint : ℕ → ℕ) (maxAttempts : ℕ) : Svc D (Except RuntimeError String) := do
  match ← drawNumber randint 0 maxAttempts with
  | none => return .error (numbersExhausted maxAttempts)
  | some number => return .ok number

/-- The default of `max_attempts`. -/
def maxAttempts : ℕ := 1000

/-- The arguments of `customer_register`. -/
structure Applicant where
  name : String
  age : Int
  gender : String
  mobile : String
  email : String
  password : String

/-- The row of a new customer. -/
def Applicant.account (env : Env D) (applicant : Applicant) (now : Time) (accNo : String) : Account D where
  accountNumber := accNo
  name := applicant.name
  age := applicant.age
  gender := applicant.gender
  mobile := applicant.mobile
  email := applicant.email
  password := env.hashPassword applicant.password
  balance := env.ofCents 0
  isActive := true
  isFrozen := false
  createdAt := now
  deletedAt := none

/-- `customer_register` with its draws. -/
def AuthService.register (env : Env D) (randint : ℕ → ℕ) (applicant : Applicant) (now : Time) :
    Svc D (Except RuntimeError (ServiceResult D)) := do
  match ← generateAccountNumber randint maxAttempts with
  | .error e => return .error e
  | .ok accNo =>
    return .ok (← customerRegister env accNo applicant.name applicant.age applicant.gender applicant.mobile
      applicant.email applicant.password now)

section Enrol

variable [Zero D] [Add D] [Sub D] [LE D] [LT D] [DecidableEq D] [DecidableLE D] [DecidableLT D]
variable (env : Env D) (B : Backend D)

/-- A registration on the session of a thread. -/
def Bank.enrol (bank : Bank D) (thread : ℕ) (randint : ℕ → ℕ) (applicant : Applicant) (now : Time) :
    Except Exn (Except RuntimeError (ServiceResult D)) × Bank D :=
  let (r, db, s) := exec (handle B) (AuthService.register env randint applicant now) (bank.db, bank.sessions thread)
  (r, { db, sessions := Function.update bank.sessions thread s })

/-- How a registration may end: after `maxAttempts` draws of live accounts with a `RuntimeError` and the store as it was,
or with a new row under a drawn number that no row had, deleted or not. -/
inductive Enrolled (randint : ℕ → ℕ) (applicant : Applicant) (now : Time) (db : Db D) :
    Except Exn (Except RuntimeError (ServiceResult D)) → Db D → Prop
  | exhausted (taken : ∀ i < maxAttempts, db.liveAccount? (drawn randint i) ≠ none) :
      Enrolled randint applicant now db (.ok (.error (numbersExhausted maxAttempts))) db
  | created {result : ServiceResult D} {db' : Db D} {i : ℕ} {balance : D} (attempt : i < maxAttempts)
      (success : result.success = true) (unused : db.accounts.find? (drawn randint i) = none)
      (row : db'.accounts.find? (drawn randint i) =
        some { applicant.account env now (drawn randint i) with balance })
      (others : ∀ accNo, accNo ≠ drawn randint i → db'.accounts.find? accNo = db.accounts.find? accNo)
      (rest : ∃ accounts, db' = db.withAccounts accounts) :
      Enrolled randint applicant now db (.ok (.ok result)) db'

/-- The first number without a live account, if it is drawn. -/
structure FirstFree (db : Db D) (randint : ℕ → ℕ) (i : ℕ) : Prop where
  attempt : i < maxAttempts
  before : ∀ j < i, db.liveAccount? (drawn randint j) ≠ none
  free : db.liveAccount? (drawn randint i) = none

/-- The columns take the row: its texts are not too long and its balance is a number that they can hold. -/
def Backend.Takes (account : Account D) : Prop :=
  B.fits account.texts = true ∧ ∃ balance, B.money account.balance = .ok balance ∧ ¬balance < 0

end Enrol

/-! ## The draws -/

section Draws

variable [Zero D] [Add D] [Sub D] [LE D] [LT D] [DecidableEq D] [DecidableLE D] [DecidableLT D]
variable {env : Env D} (B : Backend D) (db : Db D) (randint : ℕ → ℕ)

/-- The draws end at the first number without a live account. -/
theorem exec_drawNumber (made attempts : ℕ) :
    (∃ i, made ≤ i ∧ i < made + attempts ∧ (∀ j, made ≤ j → j < i → db.liveAccount? (drawn randint j) ≠ none) ∧
        db.liveAccount? (drawn randint i) = none ∧
        exec (handle B) (drawNumber randint made attempts) (db, {}) = (.ok (some (drawn randint i)), (db, {}))) ∨
      (∀ j, made ≤ j → j < made + attempts → db.liveAccount? (drawn randint j) ≠ none) ∧
        exec (handle B) (drawNumber randint made attempts) (db, {}) = (.ok none, (db, {})) := by
  induction attempts generalizing made with
  | zero => exact .inr ⟨fun j low high => absurd high (by omega), rfl⟩
  | succ attempts ih =>
    have asked : exec (handle B) (accountRepo.get (drawn randint made)) (db, ({} : Session D)) =
        (.ok (db.liveAccount? (drawn randint made)), (db, {})) := by
      rw [accountRepo.get, ask, exec_perform]
      simp only [handle, Query.answer, Query.staged, Session.account?_nil]
      rfl
    rw [drawNumber, exec_bind, asked]
    cases live : db.liveAccount? (drawn randint made) with
    | none => exact .inl ⟨made, le_rfl, by omega, fun j low high => absurd high (by omega), live, rfl⟩
    | some account =>
      have taken : ∀ j, made ≤ j → ¬made + 1 ≤ j → db.liveAccount? (drawn randint j) ≠ none := by
        intro j low high
        obtain rfl : j = made := by omega
        simp [live]
      rcases ih (made + 1) with ⟨i, low, high, before, free, ends⟩ | ⟨all, ends⟩
      · refine .inl ⟨i, by omega, by omega, fun j h₁ h₂ => ?_, free, ends⟩
        by_cases later : made + 1 ≤ j
        · exact before j later h₂
        · exact taken j h₁ later
      · refine .inr ⟨fun j h₁ h₂ => ?_, ends⟩
        by_cases later : made + 1 ≤ j
        · exact all j later (by omega)
        · exact taken j h₁ later

/-- A registration on a fresh session draws the first free number and inserts its row, or draws in vain. -/
theorem exec_register (applicant : Applicant) (now : Time) :
    (∃ i, FirstFree db randint i ∧
        exec (handle B) (AuthService.register env randint applicant now) (db, {}) =
          exec (handle B) (do return .ok (← AuthService.customerRegister env (drawn randint i) applicant.name
            applicant.age applicant.gender applicant.mobile applicant.email applicant.password now)) (db, {})) ∨
      (∀ i < maxAttempts, db.liveAccount? (drawn randint i) ≠ none) ∧
        exec (handle B) (AuthService.register env randint applicant now) (db, {}) =
          (.ok (.error (numbersExhausted maxAttempts)), (db, {})) := by
  rcases exec_drawNumber B db randint 0 maxAttempts with ⟨i, -, high, before, free, ends⟩ | ⟨all, ends⟩
  · have number : exec (handle B) (generateAccountNumber randint maxAttempts) (db, {}) =
        (.ok (.ok (drawn randint i)), (db, {})) := by
      rw [generateAccountNumber, exec_bind, ends]
      rfl
    refine .inl ⟨i, ⟨by omega, fun j h => before j (Nat.zero_le j) h, free⟩, ?_⟩
    rw [AuthService.register, exec_bind, number]
  · have none : exec (handle B) (generateAccountNumber randint maxAttempts) (db, {}) =
        (.ok (.error (numbersExhausted maxAttempts)), (db, {})) := by
      rw [generateAccountNumber, exec_bind, ends]
      rfl
    refine .inr ⟨fun i h => all i (Nat.zero_le i) (by omega), ?_⟩
    rw [AuthService.register, exec_bind, none]
    rfl

end Draws

/-! ## The end of a registration -/

section Ends

variable [Zero D] [Add D] [Sub D] [LE D] [LT D] [DecidableEq D] [DecidableLE D] [DecidableLT D]
variable {env : Env D} {B : Backend D} {db db' : Db D} {randint : ℕ → ℕ}

theorem FirstFree.unique {i j : ℕ} (hi : FirstFree db randint i) (hj : FirstFree db randint j) : i = j := by
  rcases lt_trichotomy i j with before | rfl | after
  · exact absurd hi.free (hj.before i before)
  · rfl
  · exact absurd hj.free (hi.before j after)

/-- An account is inserted where its number is new and the columns take it. -/
theorem apply_insertAccount_ok {account : Account D} :
    (∃ db', (Change.insert (.account account)).apply B db = .ok db') ↔
      db.accounts.find? account.accountNumber = none ∧ B.Takes account := by
  simp only [Change.apply, NewRow.insert, bind_eq_ok, require_eq_ok, found_eq_ok, pure_eq_ok]
  constructor
  · rintro ⟨db', balance, money, -, fits, -, checked, accounts, inserted, -⟩
    obtain ⟨new, -⟩ := Table.insert?_eq_some.mp inserted
    exact ⟨new, fits, balance, money, checked⟩
  · rintro ⟨new, fits, balance, money, checked⟩
    exact ⟨_, balance, money, (), fits, (), checked, _, Table.insert?_eq_some.mpr ⟨new, rfl⟩, rfl⟩

/-- An account that was inserted. -/
theorem apply_insertAccount_row {account : Account D} (h : (Change.insert (.account account)).apply B db = .ok db') :
    db.accounts.find? account.accountNumber = none ∧
      (∃ balance, db'.accounts.find? account.accountNumber = some { account with balance }) ∧
      (∀ accNo, accNo ≠ account.accountNumber → db'.accounts.find? accNo = db.accounts.find? accNo) ∧
      ∃ accounts, db' = db.withAccounts accounts := by
  simp only [Change.apply, NewRow.insert, bind_eq_ok, require_eq_ok, found_eq_ok, pure_eq_ok] at h
  obtain ⟨balance, -, -, -, -, -, accounts, inserted, rfl⟩ := h
  obtain ⟨new, -⟩ := Table.insert?_eq_some.mp inserted
  refine ⟨new, ⟨balance, ?_⟩, fun accNo other => ?_, accounts, rfl⟩
  · show accounts.find? account.accountNumber = _
    rw [Table.find?_insert? inserted, if_pos rfl]
  · show accounts.find? accNo = _
    rw [Table.find?_insert? inserted, if_neg other]

/-- What is raised by a flush of one statement. -/
theorem apply_of_flush_error {c : Change D} {e : Exn} (h : flush B [c] db = .error e) : c.apply B db = .error e := by
  cases applied : c.apply B db with
  | ok db' =>
    rw [(flush_one B).mpr applied] at h
    cases h
  | error e' =>
    simp only [flush, applied] at h
    exact h

/-- `customer_register` with a number: one insert, which succeeds or is raised at the commit. -/
theorem register_inserts (env : Env D) (B : Backend D) (db : Db D) (applicant : Applicant) (now : Time) (accNo : String) :
    wp (runs B)
      (AuthService.customerRegister env accNo applicant.name applicant.age applicant.gender applicant.mobile
        applicant.email applicant.password now)
      (fun r w => (∃ result : ServiceResult D, r = .ok result ∧ result.success = true ∧
          (Change.insert (.account (applicant.account env now accNo))).apply B db = .ok w.1) ∨
        ∃ e, r = .error e ∧ w.1 = db ∧
          (Change.insert (.account (applicant.account env now accNo))).apply B db = .error e) (db, {}) := by
  have create : ∀ (account : Account D) (Q : Except Exn Unit → Db D × Session D → Prop),
      wp (runs B) (accountRepo.create account) Q (db, {}) =
        Q (.ok ()) (db, ⟨[.insert (.account account)], false, none, []⟩) := fun _ _ => wp_perform ..
  simp only [AuthService.customerRegister, wp_bind, create, andThen_ok]
  refine wp_commit B _ (fun db₁ flushed => ?_) fun e flushed => ?_
  · exact .inl ⟨_, rfl, rfl, (flush_one B).mp flushed⟩
  · exact .inr ⟨e, rfl, rfl, apply_of_flush_error flushed⟩

/-- **Registration.** It ends with a `RuntimeError` or a row with an unused number if and only if the session is usable
and the first number without a live account, if one is drawn, has no row at all and a row that the columns take. -/
theorem enrolled_iff (env : Env D) (B : Backend D) {bank : Bank D} (idle : bank.Idle) (thread : ℕ) (randint : ℕ → ℕ)
    (applicant : Applicant) (now : Time) :
    Enrolled env randint applicant now bank.db (bank.enrol env B thread randint applicant now).1
        (bank.enrol env B thread randint applicant now).2.db ↔
      (bank.sessions thread).inactive = false ∧ ∀ i, FirstFree bank.db randint i →
        bank.db.accounts.find? (drawn randint i) = none ∧ B.Takes (applicant.account env now (drawn randint i)) := by
  obtain ⟨db, sessions⟩ := bank
  have clean : (sessions thread).Idle := idle thread
  simp only [Bank.enrol]
  generalize sessions thread = s at clean
  obtain ⟨pending, inactive, savepoint, held⟩ := s
  obtain rfl : held = [] := clean.held
  cases inactive with
  | true =>
    refine iff_of_false (fun enrolled => ?_) (fun usable => Bool.noConfusion usable.1)
    have raised : (exec (handle B) (AuthService.register env randint applicant now)
        (db, ⟨pending, true, savepoint, []⟩)).1 = .error .pendingRollbackError := rfl
    rw [raised] at enrolled
    cases enrolled
  | false =>
    obtain ⟨rfl, rfl⟩ := clean.clean rfl
    rcases exec_register B db randint applicant now with ⟨i, first, ends⟩ | ⟨taken, ends⟩
    · rw [exec_bind] at ends
      have inserts := (wp_handler _ _ _ _).mp (register_inserts env B db applicant now (drawn randint i))
      rcases end_ : exec (handle B) (AuthService.customerRegister env (drawn randint i) applicant.name applicant.age
        applicant.gender applicant.mobile applicant.email applicant.password now) (db, ({} : Session D)) with ⟨r, db', s'⟩
      rw [end_] at ends inserts
      rcases inserts with ⟨result, rfl, success, applied⟩ | ⟨e, rfl, -, applied⟩
      · rw [ends]
        obtain ⟨unused, ⟨balance, row⟩, others, rest⟩ := apply_insertAccount_row applied
        refine iff_of_true (.created first.attempt success unused row others rest) ⟨rfl, fun j first' => ?_⟩
        obtain rfl := first.unique first'
        exact apply_insertAccount_ok.mp ⟨db', applied⟩
      · rw [ends]
        refine iff_of_false (fun enrolled => by cases enrolled) fun usable => ?_
        have takes : ∃ db', (Change.insert (.account (applicant.account env now (drawn randint i)))).apply B db = .ok db' :=
          apply_insertAccount_ok.mpr (usable.2 i first)
        obtain ⟨db', fine⟩ := takes
        rw [applied] at fine
        cases fine
    · rw [ends]
      exact iff_of_true (.exhausted taken) ⟨rfl, fun i first => absurd first.free (taken i first.attempt)⟩

end Ends

/-! ## Examples -/

namespace Sample

def newcomer : Applicant := ⟨"Meera", 41, "F", "9000000003", "meera@bank.example", "Secret123"⟩

/-- A bank with an account that is deleted, or not. -/
def registry (deleted : Bool) : Bank ℤ where
  db := { store 0 0 0 with
    accounts := ⟨[{ account "1000000007" 0 with deletedAt := if deleted then some 3 else none }], by simp⟩ }
  sessions _ := {}

theorem registry_idle (deleted : Bool) : (registry deleted).Idle := fun _ => ⟨rfl, fun _ => ⟨rfl, rfl⟩⟩

/-- The first draw is the number of the account. -/
def dice (i : ℕ) : ℕ := 1000000007 + i

theorem newcomer_enrolled :
    Enrolled paiseEnv dice newcomer 9 (registry false).db ((registry false).enrol paiseEnv paise 0 dice newcomer 9).1
      ((registry false).enrol paiseEnv paise 0 dice newcomer 9).2.db := by
  refine (enrolled_iff paiseEnv paise (registry_idle false) 0 dice newcomer 9).mpr ⟨rfl, fun i first => ?_⟩
  obtain rfl : i = 1 := by
    rcases i with _ | _ | i
    · exact absurd first.free (by decide)
    · rfl
    · exact absurd (by decide) (first.before 1 (by omega))
  exact ⟨by decide, by decide, _, rfl, by decide⟩

/-- The number of a deleted account is drawn, and the commit fails. -/
theorem newcomer_collides :
    ¬Enrolled paiseEnv dice newcomer 9 (registry true).db ((registry true).enrol paiseEnv paise 0 dice newcomer 9).1
      ((registry true).enrol paiseEnv paise 0 dice newcomer 9).2.db := by
  have raised : ((registry true).enrol paiseEnv paise 0 dice newcomer 9).1.toBool = false := by decide
  intro enrolled
  revert raised
  cases enrolled

end Sample

end UnionBank
