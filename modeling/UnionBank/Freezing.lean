import UnionBank.Decisions
import UnionBank.Dormancy

/-!
# A freeze and what can follow it

`freeze_account` clears `is_active` and sets `is_frozen`; `unfreeze_account` clears `is_frozen`, and no request sets
`is_active` of a row that is there.

- `Change.Activates`: the statements that would; `writes_activate_nothing`: no visit has one;
- `Bank.Later`: whatever can follow on a bank; `later_asleep`: an inactive account stays inactive;
- `freeze_irreversible`: a frozen account never transacts again, and unfreezing it leaves the row of a closed one.
-/

namespace UnionBank

open Keyed Programs Prog

set_option linter.unusedSectionVars false

variable {D : Type} [AddCommGroup D] [LinearOrder D]

/-! ## Inactive accounts -/

/-- The account is there, and it is not active. -/
def Ledger.Asleep (l : Ledger D) (accNo : String) : Prop := ∃ a, l.accounts.find? accNo = some a ∧ a.isActive = false

/-- A statement that sets `is_active` of a row in which it was read as unset. -/
def Change.Activates : Change D → Prop
  | .account loaded current => loaded.isActive = false ∧ current.isActive = true
  | _ => False

section Statements

variable {B : Backend D} {db db' : Db D} {accNo : String}

/-- **A statement that activates nothing** leaves an inactive account inactive. -/
theorem apply_asleep {c : Change D} (still : ¬c.Activates) (asleep : db.toLedger.Asleep accNo)
    (h : c.apply B db = .ok db') : db'.toLedger.Asleep accNo := by
  obtain ⟨a, there, inactive⟩ := asleep
  have same : db'.accounts = db.accounts → db'.toLedger.Asleep accNo := by
    intro accounts
    exact ⟨a, by rw [accounts]; exact there, inactive⟩
  have support : c.isSupport = true → db'.toLedger.Asleep accNo := by
    intro hs
    exact same (congrArg Ledger.accounts (apply_support hs h))
  cases c with
  | insert row =>
    cases row with
    | account account =>
      simp only [Change.apply, NewRow.insert, bind_eq_ok, require_eq_ok, found_eq_ok, pure_eq_ok] at h
      obtain ⟨balance, -, -, -, -, -, accounts, inserted, rfl⟩ := h
      obtain ⟨new, rfl⟩ := Table.insert?_eq_some.mp inserted
      have other : accNo ≠ account.accountNumber := by
        intro e
        have taken : db.accounts.find? account.accountNumber = some a := e ▸ there
        exact absurd (new.symm.trans taken) (by simp)
      have kept : (db.accounts.insert { account with balance } new).find? accNo = some a := by
        rw [Table.find?_insert, if_neg other, there]
      exact ⟨a, kept, inactive⟩
    | transaction t =>
      obtain ⟨amount, -, balance, -, -, -, -, rfl⟩ := apply_insertTransaction_ok.mp h
      exact same rfl
    | loan loan =>
      obtain ⟨loans, rfl⟩ := apply_insertLoan_loans h
      exact same rfl
    | goal goal =>
      obtain ⟨target, -, saved, -, -, -, goals, -, rfl⟩ := apply_insertGoal_ok.mp h
      exact same rfl
    | _ => exact support rfl
  | account loaded current =>
    obtain ⟨stored, found, balance, -, -, -, rfl⟩ := apply_account_ok.mp h
    have key : (loaded.merge current stored balance).accountNumber = stored.accountNumber := rfl
    have number : stored.accountNumber = loaded.accountNumber := Table.key_of_find? found
    by_cases e : accNo = stored.accountNumber
    · have kept : (db.accounts.set (loaded.merge current stored balance)).find? accNo =
          some (loaded.merge current stored balance) := by
        rw [Table.find?_set, key, if_pos e, there]
        rfl
      have own : stored = a := by
        rw [e, number, found] at there
        exact Option.some.inj there
      refine ⟨_, kept, ?_⟩
      -- the flag is the stored one, or the one the statement writes
      show column loaded.isActive current.isActive stored.isActive = false
      rw [own, inactive]
      unfold column
      split
      · rfl
      · rename_i changed
        by_contra active
        have active : current.isActive = true := by simpa using active
        have unset : loaded.isActive = false := by
          rw [active] at changed
          simpa using Ne.symm changed
        exact still ⟨unset, active⟩
    · have kept : (db.accounts.set (loaded.merge current stored balance)).find? accNo = some a := by
        rw [Table.find?_set, key, if_neg e, there]
      exact ⟨a, kept, inactive⟩
  | loan =>
    obtain ⟨loans, rfl⟩ := apply_loan_loans h
    exact same rfl
  | goal =>
    obtain ⟨goals, rfl⟩ := apply_goal_goals h
    exact same rfl
  | deleteGoal goalId =>
    obtain rfl := apply_deleteGoal_ok.mp h
    exact same rfl
  | tokenVersion => exact support rfl

theorem flush_asleep {cs : List (Change D)} (still : ∀ c ∈ cs, ¬c.Activates) (asleep : db.toLedger.Asleep accNo)
    (h : flush B cs db = .ok db') : db'.toLedger.Asleep accNo := by
  induction cs generalizing db with
  | nil =>
    cases h
    exact asleep
  | cons c cs ih =>
    obtain ⟨db₁, h₁, h₂⟩ := (flush_cons_ok B).mp h
    have next := apply_asleep (still c List.mem_cons_self) asleep h₁
    exact ih (fun c hc => still c (List.mem_cons_of_mem _ hc)) next h₂

/-- An UPDATE of a row as it is stored, with its balance. -/
theorem apply_account_stored {loaded current : Account D} (h : (Change.account loaded current).apply B db = .ok db')
    (found : db.accounts.find? loaded.accountNumber = some loaded)
    (number : current.accountNumber = loaded.accountNumber) (balance : current.balance = loaded.balance) :
    db' = db.withAccounts (db.accounts.set current) := by
  obtain ⟨stored, found', kept, written, -, -, rfl⟩ := apply_account_ok.mp h
  rw [found] at found'
  cases found'
  rw [Backend.moneyColumn, Backend.numberColumn, if_pos balance] at written
  cases written
  rw [← balance, Account.merge_self number]

end Statements

/-! ## Visits -/

section Visits

variable {env : Env D} {checks : Checks} {B : Backend D} {db : Db D} {accNo : String}

theorem posts_activate_nothing {draws : Draws} {request : Request D} {cs : List (Change D)}
    (posts : Posts env draws db request cs) (hp : request.isProfile = false) : ∀ c ∈ cs, ¬c.Activates := by
  cases posts with
  | updateProfile => cases hp
  | changePassword live verified support =>
    simp only [List.forall_mem_cons]
    refine ⟨by simp [Change.Activates], ?_, by simp⟩
    intro activates
    revert support
    unfold Change.Activates at activates
    split at activates
    · simp [Change.isSupport]
    · exact activates.elim
  | _ => simp [Change.Activates, Account.withBalance]

/-- **No visit activates an account.** -/
theorem writes_activate_nothing {v : Visit D} {cs : List (Change D)} (writes : v.Writes env db cs) (served : v.Served) :
    ∀ c ∈ cs, ¬c.Activates := by
  cases writes with
  | call posts => exact posts_activate_nothing posts served
  | register | updateProfile | updateSavingsGoal | changePassword => simp [Change.Activates, Api.ProfileForm.fill]

theorem attend_asleep {bank : Bank D} (idle : bank.Idle) (asleep : bank.db.Asleep accNo) (thread : ℕ) {v : Visit D}
    (served : v.Served) : (bank.attend env checks B thread v).2.db.Asleep accNo := by
  have attended := (attend_settles env checks B idle thread v).1
  generalize (bank.attend env checks B thread v).2.db = db' at attended
  cases attended with
  | unmoved ledger =>
    rw [ledger]
    exact asleep
  | moved writes flushed ledger =>
    rw [ledger]
    exact flush_asleep (writes_activate_nothing writes served) asleep flushed

end Visits

/-! ## Whatever can follow -/

section Later

variable (env : Env D) (checks : Checks) (B : Backend D)

/-- The banks that requests lead to, one after another: a visit, or a request that leaves the ledger alone (a login, a
token, a setting of the second factor, a query). -/
inductive Bank.Later (bank : Bank D) : Bank D → Prop
  | here : Later bank bank
  | visit {bank' : Bank D} (thread : ℕ) {v : Visit D} (served : v.Served) (later : Later bank bank') :
      Later bank (bank'.attend env checks B thread v).2
  | beside {bank' bank'' : Bank D} (ledger : bank''.db.toLedger = bank'.db.toLedger) (idle : bank''.Idle)
      (later : Later bank bank') : Later bank bank''

/-- Requests after which the account can transact, with a balance it had. -/
def Bank.Thaws (bank : Bank D) (accNo : String) (balance : D) : Prop :=
  ∃ bank' a, bank.Later env checks B bank' ∧ bank'.db.liveAccount? accNo = some a ∧ a.canTransact = true ∧
    a.balance = balance

variable {env checks B}

/-- An inactive account stays inactive. -/
theorem later_asleep {bank bank' : Bank D} {accNo : String} (later : bank.Later env checks B bank') (idle : bank.Idle)
    (asleep : bank.db.Asleep accNo) : bank'.Idle ∧ bank'.db.Asleep accNo := by
  induction later with
  | here => exact ⟨idle, asleep⟩
  | visit thread served later ih =>
    obtain ⟨idle', asleep'⟩ := ih
    exact ⟨(attend_settles env checks B idle' thread _).2, attend_asleep idle' asleep' thread served⟩
  | beside ledger idle'' later ih =>
    refine ⟨idle'', ?_⟩
    rw [ledger]
    exact ih.2

theorem Bank.not_thaws_of_asleep {bank : Bank D} {accNo : String} {balance : D} (idle : bank.Idle)
    (asleep : bank.db.Asleep accNo) : ¬bank.Thaws env checks B accNo balance := by
  rintro ⟨bank', a, later, live, can, -⟩
  obtain ⟨-, a', there, inactive⟩ := later_asleep later idle asleep
  have same : a' = a := by
    rw [(Ledger.liveAccount?_eq_some.mp live).1] at there
    exact (Option.some.inj there).symm
  rw [same] at inactive
  simp [Account.canTransact, inactive] at can

end Later

/-! ## Freezing, unfreezing and closing -/

section Freezing

variable {env : Env D} {B : Backend D} {db : Db D} {draws : Draws} {accNo : String}

variable (env B db draws) in
theorem freezeAccount_decided (actor : String) (reason : Option String) :
    wp (runs B) (Request.prog env draws (.freezeAccount accNo actor reason))
      (fun r w => Decided env B ⟨.freezeAccount accNo actor reason, draws⟩ db r w.1) (db, {}) := by
  simp only [Request.prog, AdminService.freezeAccount, wp_bind, wp_accountRepo_get, andThen_ok, Session.account?_nil]
  cases live : db.liveAccount? accNo with
  | none => exact .refused rfl
  | some account =>
    simp only
    split
    · exact .refused rfl
    rename_i closed
    split
    · exact .refused rfl
    rename_i thawed
    simp only [wp_bind, wp_accountRepo_setFrozen, wp_accountRepo_setActive, andThen_ok]
    refine wp_commit B _ (fun db₁ hf => ?_) fun e _ => .refused rfl
    have hn := Ledger.accountNumber_of_live live
    simp only [Query.staged, List.nil_append, Session.account?, Session.ownAccount, live, Option.map_some,
      List.foldl_cons, List.foldl_nil, if_true, List.singleton_append] at hf
    simp only [andThen_ok, wp_bind]
    exact wp_auditLog B fun db' hl => .made rfl (.freezeAccount live closed thawed) hf hl

variable (env B db draws) in
theorem unfreezeAccount_decided (actor : String) (reason : Option String) :
    wp (runs B) (Request.prog env draws (.unfreezeAccount accNo actor reason))
      (fun r w => Decided env B ⟨.unfreezeAccount accNo actor reason, draws⟩ db r w.1) (db, {}) := by
  simp only [Request.prog, AdminService.unfreezeAccount, wp_bind, wp_accountRepo_get, andThen_ok, Session.account?_nil]
  cases live : db.liveAccount? accNo with
  | none => exact .refused rfl
  | some account =>
    simp only
    split
    · exact .refused rfl
    rename_i frozen
    simp only [wp_bind, wp_accountRepo_setFrozen, andThen_ok]
    refine wp_commit B _ (fun db₁ hf => ?_) fun e _ => .refused rfl
    simp only [Query.staged, List.nil_append, Session.account?_nil, live] at hf
    simp only [andThen_ok, wp_bind]
    exact wp_auditLog B fun db' hl => .made rfl (.unfreezeAccount live (by simpa using frozen)) hf hl

variable (env B db draws) in
theorem closeAccount_decided (password : String) :
    wp (runs B) (Request.prog env draws (.closeAccount accNo password))
      (fun r w => Decided env B ⟨.closeAccount accNo password, draws⟩ db r w.1) (db, {}) := by
  simp only [Request.prog, AccountService.closeAccount, wp_bind, wp_accountRepo_get, andThen_ok, Session.account?_nil]
  cases live : db.liveAccount? accNo with
  | none => exact .refused rfl
  | some account =>
    simp only
    split
    · exact .refused rfl
    rename_i verified
    simp only [wp_bind, wp_accountRepo_update, andThen_ok]
    refine wp_commit B _ (fun db₁ hf => ?_) fun e _ => .refused rfl
    rw [List.nil_append, staged_updateAccount { account with isActive := false } live (by simp) rfl rfl] at hf
    exact .made rfl (.closeAccount live (by simpa using verified)) hf rfl

/-- A request that succeeds on the session of some thread, and the bank after it. -/
def Bank.Does (env : Env D) (B : Backend D) (bank : Bank D) (request : Request D) (bank' : Bank D) : Prop :=
  ∃ thread draws, succeeds (bank.serve env B thread ⟨request, draws⟩).1 = true ∧
    (bank.serve env B thread ⟨request, draws⟩).2 = bank'

/-- A success has committed its posting, when the call decides on a fresh session and an inactive one refuses it. -/
theorem Bank.Does.posted {bank bank' : Bank D} {request : Request D} (does : bank.Does env B request bank')
    (idle : bank.Idle)
    (fresh : ∀ draws, wp (runs B) (Request.prog env draws request)
      (fun r w => Decided env B ⟨request, draws⟩ bank.db r w.1) (bank.db, {}))
    (inactive : ∀ draws pending savepoint,
      succeeds (exec (handle B) (Request.prog env draws request) (bank.db, ⟨pending, true, savepoint, []⟩)).1 = false) :
    ∃ draws db₁ cs, Posts env draws bank.db request cs ∧ flush B cs bank.db = .ok db₁ ∧
      bank'.db.toLedger = db₁.toLedger := by
  obtain ⟨thread, draws, success, rfl⟩ := does
  have rest := idle thread
  unfold Bank.serve at success ⊢
  rcases hs : bank.sessions thread with ⟨pending, sleeping, savepoint, held⟩
  rw [hs] at rest success
  obtain rfl : held = [] := rest.held
  cases sleeping with
  | true =>
    have success : succeeds (exec (handle B) (Request.prog env draws request)
        (bank.db, ⟨pending, true, savepoint, []⟩)).1 = true := success
    rw [inactive draws pending savepoint] at success
    cases success
  | false =>
    obtain ⟨rfl, rfl⟩ := rest.clean rfl
    have decided := (wp_handler _ _ _ _).mp (fresh draws)
    have success : succeeds (exec (handle B) (Request.prog env draws request) (bank.db, {})).1 = true := success
    show ∃ draws' db₁ cs, _ ∧ _ ∧ (exec (handle B) (Request.prog env draws request) (bank.db, {})).2.1.toLedger = _
    generalize (exec (handle B) (Request.prog env draws request) (bank.db, {})).1 = r at decided success
    generalize (exec (handle B) (Request.prog env draws request) (bank.db, {})).2.1 = db' at decided
    cases decided with
    | made _ posts flushed ledger => exact ⟨draws, _, _, posts, flushed, ledger⟩
    | refused failure =>
      rw [failure] at success
      cases success

variable {bank bank' : Bank D} {account : Account D}

/-- The row after a freeze. -/
theorem frozen_row {actor : String} {reason : Option String}
    (does : bank.Does env B (.freezeAccount accNo actor reason) bank') (idle : bank.Idle)
    (live : bank.db.liveAccount? accNo = some account) : account.isFrozen = false ∧
      bank'.db.accounts.find? accNo = some { account with isFrozen := true, isActive := false } := by
  obtain ⟨draws, db₂, cs, posts, flushed, ledger⟩ := does.posted idle
    (fun draws => freezeAccount_decided env B bank.db draws actor reason) (fun _ _ _ => rfl)
  cases posts with
  | freezeAccount live' closed thawed =>
    rw [live] at live'
    cases live'
    have number := Ledger.accountNumber_of_live live
    have before := Ledger.find?_of_live live
    obtain ⟨db₁, h₁, h₂⟩ := (flush_two B).mp flushed
    have first := apply_account_stored h₁ before rfl rfl
    have there : db₁.accounts.find? account.accountNumber = some { account with isFrozen := true } := by
      rw [first]
      exact Table.find?_set_self before
    have second := apply_account_stored h₂ there rfl rfl
    refine ⟨by simpa using thawed, ?_⟩
    rw [ledger, second, ← number]
    exact Table.find?_set_self there

/-- The row after an unfreeze. -/
theorem unfrozen_row {actor : String} {reason : Option String}
    (does : bank.Does env B (.unfreezeAccount accNo actor reason) bank') (idle : bank.Idle)
    (found : bank.db.accounts.find? accNo = some account) :
    bank'.db.accounts.find? accNo = some { account with isFrozen := false } := by
  obtain ⟨draws, db₁, cs, posts, flushed, ledger⟩ := does.posted idle
    (fun draws => unfreezeAccount_decided env B bank.db draws actor reason) (fun _ _ _ => rfl)
  cases posts with
  | unfreezeAccount live frozen =>
    have number := Ledger.accountNumber_of_live live
    have there := Ledger.find?_of_live live
    rw [(Ledger.liveAccount?_eq_some.mp live).1] at found
    cases found
    have only := apply_account_stored ((flush_one B).mp flushed) there rfl rfl
    rw [ledger, only, ← number]
    exact Table.find?_set_self there

/-- The row after a closure. -/
theorem closed_row {password : String} (does : bank.Does env B (.closeAccount accNo password) bank') (idle : bank.Idle)
    (live : bank.db.liveAccount? accNo = some account) :
    bank'.db.accounts.find? accNo = some { account with isActive := false } := by
  obtain ⟨draws, db₁, cs, posts, flushed, ledger⟩ := does.posted idle
    (fun draws => closeAccount_decided env B bank.db draws password) (fun _ _ _ => rfl)
  cases posts with
  | closeAccount live' verified =>
    rw [live] at live'
    cases live'
    have there := Ledger.find?_of_live live
    have only := apply_account_stored ((flush_one B).mp flushed) there rfl rfl
    rw [ledger, only, ← Ledger.accountNumber_of_live live]
    exact Table.find?_set_self there

theorem does_idle {request : Request D} (does : bank.Does env B request bank') (idle : bank.Idle) : bank'.Idle := by
  obtain ⟨thread, draws, -, rfl⟩ := does
  exact (serve_settles env B idle thread _).2

variable {checks : Checks}

/-- **A freeze is never undone.** No requests that follow it make the account transact again; and once it is unfrozen,
its row is the one that closing the account, instead of freezing it, would have left. -/
theorem freeze_irreversible {frozen : Bank D} {actor : String} {reason : Option String} (idle : bank.Idle)
    (live : bank.db.liveAccount? accNo = some account)
    (freeze : bank.Does env B (.freezeAccount accNo actor reason) frozen) :
    ¬frozen.Thaws env checks B accNo account.balance ∧
      ∀ (unfrozen closed : Bank D) (actor' password : String) (reason' : Option String),
        frozen.Does env B (.unfreezeAccount accNo actor' reason') unfrozen →
        bank.Does env B (.closeAccount accNo password) closed →
        unfrozen.db.accounts.find? accNo = closed.db.accounts.find? accNo := by
  have idle' := does_idle freeze idle
  obtain ⟨thawed, row⟩ := frozen_row freeze idle live
  constructor
  · exact Bank.not_thaws_of_asleep idle' ⟨_, row, rfl⟩
  · intro unfrozen closed actor' password reason' unfreeze close
    rw [unfrozen_row unfreeze idle' row, closed_row close idle live]
    simp [thawed]

end Freezing

/-! ## An account that is frozen and unfrozen -/

namespace Sample

/-- Account 1001 after its freeze. -/
def frozen : Bank ℤ := ((bank 10000 5000 0).serve paiseEnv paise 0 ⟨.freezeAccount "1001" "admin" none, draws 0⟩).2

theorem frozen_does : (bank 10000 5000 0).Does paiseEnv paise (.freezeAccount "1001" "admin" none) frozen :=
  ⟨0, draws 0, by decide, rfl⟩

theorem freeze_irreversible_frozen : ¬frozen.Thaws paiseEnv lenient paise "1001" 10000 :=
  (freeze_irreversible (bank_idle 10000 5000 0)
    (show (bank 10000 5000 0).db.liveAccount? "1001" = some (account "1001" 10000) by decide) frozen_does).1

/-- An active account that is frozen does not transact again. -/
theorem never_thaws : (account "1001" 10000).isActive = true ∧
    (bank 10000 5000 0).db.liveAccount? "1001" = some (account "1001" 10000) ∧
    (bank 10000 5000 0).Does paiseEnv paise (.freezeAccount "1001" "admin" none) frozen ∧
    ¬frozen.Thaws paiseEnv lenient paise "1001" 10000 := by
  refine ⟨rfl, by decide, frozen_does, ?_⟩
  refine Bank.not_thaws_of_asleep (does_idle frozen_does (bank_idle _ _ _)) ?_
  exact ⟨{ account "1001" 10000 with isFrozen := true, isActive := false }, by decide, rfl⟩

end Sample

end UnionBank
