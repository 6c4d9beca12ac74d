import UnionBank.Statement
import UnionBank.Visits

/-!
# Accounts that cannot transact

While an account is frozen or closed its balance stays and no row is logged for it (`dormant_inert`): every movement of
money asks `canTransact` first, except `contribute` and the refund of `deleteGoal`, which the condition `Ledger.Stirs`
describes.
-/

namespace UnionBank

open Keyed

set_option linter.unusedSectionVars false

variable {D : Type} [AddCommGroup D] [LinearOrder D]

namespace Ledger

/-- The account is there, and it is frozen or closed. -/
def Dormant (l : Ledger D) (accNo : String) : Prop := ∃ a, l.accounts.find? accNo = some a ∧ a.canTransact = false

/-- The balance of an account, and the rows of the log about it. -/
def book (l : Ledger D) (accNo : String) : Option D × List (Transaction D) :=
  (l.balance? accNo, l.transactions.filter fun t => t.accountNumber = accNo)

/-- A contribution from an account that cannot transact, or a refund to one. -/
def Stirs (l : Ledger D) : Request D → Prop
  | .contribute accNo goalId amount => ∃ account, l.liveAccount? accNo = some account ∧ account.canTransact = false ∧
      0 < amount ∧ amount ≤ account.balance ∧ l.goals.find? goalId ≠ none
  | .deleteGoal accNo goalId => ∃ account goal, l.liveAccount? accNo = some account ∧ account.canTransact = false ∧
      l.goals.find? goalId = some goal ∧ 0 < goal.currentAmount
  | _ => False

end Ledger

/-! ## Statements that leave a book alone -/

/-- A statement that neither changes the balance of the account nor logs a row for it. -/
def Change.Spares (accNo : String) : Change D → Prop
  | .insert (.transaction t) => t.accountNumber ≠ accNo
  | .account loaded current => loaded.accountNumber = accNo → current.balance = loaded.balance
  | _ => True

section Spared

variable {B : Backend D} {db db' : Db D} {accNo : String} {a : Account D}

/-- The account is still there, with the book it had. -/
def Ledger.Kept (l l' : Ledger D) (accNo : String) : Prop :=
  (∃ a, l'.accounts.find? accNo = some a) ∧ l'.book accNo = l.book accNo

theorem Ledger.Kept.of_same {l l' : Ledger D} (there : l.accounts.find? accNo = some a) (accounts : l'.accounts = l.accounts)
    (log : l'.transactions = l.transactions) : l.Kept l' accNo := by
  refine ⟨⟨a, accounts ▸ there⟩, ?_⟩
  rw [Ledger.book, Ledger.balance?, accounts, log]
  rfl

/-- **A sparing statement** keeps the book of the account. -/
theorem apply_spares {c : Change D} (spares : c.Spares accNo) (there : db.accounts.find? accNo = some a)
    (h : c.apply B db = .ok db') : db.toLedger.Kept db'.toLedger accNo := by
  have support : c.isSupport = true → db.toLedger.Kept db'.toLedger accNo := fun hs => by
    rw [apply_support hs h]
    exact .of_same there rfl rfl
  cases c with
  | insert row =>
    cases row with
    | account account =>
      simp only [Change.apply, NewRow.insert, bind_eq_ok, require_eq_ok, found_eq_ok, pure_eq_ok] at h
      obtain ⟨balance, -, -, -, -, -, accounts, inserted, rfl⟩ := h
      obtain ⟨new, rfl⟩ := Table.insert?_eq_some.mp inserted
      have other : accNo ≠ account.accountNumber := by
        intro e
        have taken : db.accounts.find? account.accountNumber = some a := e ▸ there
        exact absurd (new.symm.trans taken) (by simp)
      have kept : (db.accounts.insert { account with balance } new).find? accNo = some a := by
        rw [Table.find?_insert, if_neg other, there]
      refine ⟨⟨a, kept⟩, Prod.ext ?_ rfl⟩
      show ((db.accounts.insert { account with balance } new).find? accNo).map Account.balance = _
      rw [kept, Ledger.book, Ledger.balance?, there]
    | transaction t =>
      obtain ⟨amount, -, balance, -, -, -, -, rfl⟩ := apply_insertTransaction_ok.mp h
      refine ⟨⟨a, there⟩, Prod.ext rfl ?_⟩
      have other : t.accountNumber ≠ accNo := spares
      show (db.transactions ++ [{ t with amount, balance }]).filter (fun t : Transaction D => t.accountNumber = accNo) = _
      rw [List.filter_append, Ledger.book]
      simp [other]
    | loan loan =>
      obtain ⟨loans, rfl⟩ := apply_insertLoan_loans h
      exact .of_same there rfl rfl
    | goal goal =>
      obtain ⟨target, -, saved, -, -, -, goals, -, rfl⟩ := apply_insertGoal_ok.mp h
      exact .of_same there rfl rfl
    | _ => exact support rfl
  | account loaded current =>
    obtain ⟨stored, found, balance, written, -, -, rfl⟩ := apply_account_ok.mp h
    have key : (loaded.merge current stored balance).accountNumber = loaded.accountNumber := by
      show stored.accountNumber = loaded.accountNumber
      exact Table.key_of_find? found
    by_cases e : accNo = loaded.accountNumber
    · subst e
      have same : balance = stored.balance := by
        rw [Backend.moneyColumn, Backend.numberColumn, if_pos (spares rfl)] at written
        cases written
        rfl
      have kept : (db.accounts.set (loaded.merge current stored balance)).find? loaded.accountNumber =
          some (loaded.merge current stored balance) := by
        rw [Table.find?_set, key, if_pos rfl, found]
        rfl
      refine ⟨⟨_, kept⟩, Prod.ext ?_ rfl⟩
      show ((db.accounts.set (loaded.merge current stored balance)).find? loaded.accountNumber).map Account.balance = _
      rw [kept, Ledger.book, Ledger.balance?, found]
      exact congrArg some same
    · have kept : (db.accounts.set (loaded.merge current stored balance)).find? accNo = some a := by
        rw [Table.find?_set, key, if_neg e, there]
      refine ⟨⟨a, kept⟩, Prod.ext ?_ rfl⟩
      show ((db.accounts.set (loaded.merge current stored balance)).find? accNo).map Account.balance = _
      rw [kept, Ledger.book, Ledger.balance?, there]
  | loan =>
    obtain ⟨loans, rfl⟩ := apply_loan_loans h
    exact .of_same there rfl rfl
  | goal =>
    obtain ⟨goals, rfl⟩ := apply_goal_goals h
    exact .of_same there rfl rfl
  | deleteGoal goalId =>
    obtain rfl := apply_deleteGoal_ok.mp h
    exact .of_same there rfl rfl
  | tokenVersion => exact support rfl

theorem flush_spares {cs : List (Change D)} (spares : ∀ c ∈ cs, c.Spares accNo) (there : db.accounts.find? accNo = some a)
    (h : flush B cs db = .ok db') : db.toLedger.Kept db'.toLedger accNo := by
  induction cs generalizing db a with
  | nil => cases h; exact .of_same there rfl rfl
  | cons c cs ih =>
    obtain ⟨db₁, h₁, h₂⟩ := (flush_cons_ok B).mp h
    obtain ⟨⟨a₁, there₁⟩, same₁⟩ := apply_spares (spares c List.mem_cons_self) there h₁
    obtain ⟨there₂, same₂⟩ := ih (fun c hc => spares c (List.mem_cons_of_mem _ hc)) there₁ h₂
    exact ⟨there₂, same₂.trans same₁⟩

end Spared

/-! ## What a visit writes -/

section Writes

variable {env : Env D} {db : Db D} {accNo : String}

/-- An account that can transact is not the dormant one. -/
theorem Ledger.Dormant.ne {l : Ledger D} {accNo accNo' : String} {account : Account D} (dormant : l.Dormant accNo)
    (live : l.liveAccount? accNo' = some account) (can : account.canTransact = true) : account.accountNumber ≠ accNo := by
  rintro rfl
  obtain ⟨a, found, cannot⟩ := dormant
  rw [Ledger.find?_of_live live] at found
  cases found
  rw [can] at cannot
  cases cannot

/-- A new balance for an account that can transact. -/
theorem Change.spares_of_awake {accNo' : String} {account : Account D} {balance : D} (dormant : db.toLedger.Dormant accNo)
    (live : db.liveAccount? accNo' = some account) (can : account.canTransact = true) :
    (Change.account account (account.withBalance balance)).Spares accNo :=
  fun e => absurd e (dormant.ne live can)

/-- A row for an account that can transact. -/
theorem Change.spares_of_row {accNo' : String} {account : Account D} {t : Transaction D}
    (dormant : db.toLedger.Dormant accNo) (live : db.liveAccount? accNo' = some account)
    (can : account.canTransact = true) (ht : t.accountNumber = accNo') : (Change.insert (.transaction t)).Spares accNo := by
  have := dormant.ne live can
  rw [Ledger.accountNumber_of_live live, ← ht] at this
  exact this

theorem Change.spares_of_support {c : Change D} (h : c.isSupport = true) : c.Spares accNo := by
  rcases c with (_ | _ | _ | _ | _ | _ | _) | _ | _ | _ | _ | _
  all_goals first
    | exact Bool.noConfusion h
    | trivial

/-- **A posting that stirs nothing** spares every account that cannot transact. -/
theorem posts_spare {draws : Draws} {request : Request D} {cs : List (Change D)} (posts : Posts env draws db request cs)
    (dormant : db.toLedger.Dormant accNo) (calm : ¬db.toLedger.Stirs request) (hp : request.isProfile = false) :
    ∀ c ∈ cs, c.Spares accNo := by
  cases posts with
  | deposit positive live can | applyInterest live can positive =>
    simp only [List.forall_mem_cons]
    exact ⟨Change.spares_of_awake dormant live can, Change.spares_of_row dormant live can rfl, by simp⟩
  | withdraw positive live can covered =>
    simp only [List.forall_mem_cons]
    exact ⟨Change.spares_of_awake dormant live can, Change.spares_of_row dormant live can rfl, by simp⟩
  | transfer positive distinct liveSender liveReceiver canSender canReceiver =>
    simp only [List.forall_mem_cons]
    exact ⟨Change.spares_of_awake dormant liveSender canSender, Change.spares_of_awake dormant liveReceiver canReceiver,
      Change.spares_of_row dormant liveSender canSender rfl, Change.spares_of_row dormant liveReceiver canReceiver rfl,
      by simp⟩
  | approveLoan found pending live can =>
    simp only [List.forall_mem_cons]
    exact ⟨trivial, Change.spares_of_awake dormant live can, Change.spares_of_row dormant live can rfl, by simp⟩
  | payEmi found running owner live can =>
    simp only [List.forall_mem_cons]
    exact ⟨Change.spares_of_awake dormant live can, trivial, Change.spares_of_row dormant live can rfl, by simp⟩
  | @contribute _ goalId amount account goal positive live covered found =>
    have can : account.canTransact = true := by
      by_contra cannot
      exact calm ⟨account, live, by simpa using cannot, not_le.mp positive, not_lt.mp covered, by simp [found]⟩
    simp only [List.forall_mem_cons]
    exact ⟨Change.spares_of_awake dormant live can, Change.spares_of_row dormant live can rfl, trivial, by simp⟩
  | @refundGoal _ goalId goal account found positive live =>
    have can : account.canTransact = true := by
      by_contra cannot
      exact calm ⟨account, goal, live, by simpa using cannot, found, positive⟩
    simp only [List.forall_mem_cons]
    exact ⟨trivial, Change.spares_of_awake dormant live can, by simp⟩
  | applyLoan | rejectLoan | createGoal | deleteGoal => simp [Change.Spares]
  | freezeAccount | unfreezeAccount | deleteAccount | closeAccount => simp [Change.Spares]
  | updateProfile => cases hp
  | changePassword live verified support =>
    simp only [List.forall_mem_cons]
    exact ⟨fun _ => rfl, Change.spares_of_support support, by simp⟩

/-- A visit whose service call is no profile update; the profile endpoints write themselves. -/
def Visit.Served : Visit D → Prop
  | .call c => c.request.isProfile = false
  | _ => True

/-- A visit that moves no money of an account that cannot transact. -/
def Ledger.Calm (l : Ledger D) : Visit D → Prop
  | .call c => ¬l.Stirs c.request
  | _ => True

theorem writes_spare {v : Visit D} {cs : List (Change D)} (writes : v.Writes env db cs) (served : v.Served)
    (dormant : db.toLedger.Dormant accNo) (calm : db.toLedger.Calm v) : ∀ c ∈ cs, c.Spares accNo := by
  cases writes with
  | call posts => exact posts_spare posts dormant calm served
  | register | updateProfile | updateSavingsGoal | changePassword => simp [Change.Spares, Api.ProfileForm.fill]

end Writes

/-! ## Runs -/

section Run

variable {env : Env D} {checks : Checks} {B : Backend D}

/-- From visit `i` to visit `j`, an account that could not transact all along has kept its book. -/
def Bank.Inert (env : Env D) (checks : Checks) (B : Backend D) (bank : Bank D) (visits : List (ℕ × Visit D)) : Prop :=
  ∀ accNo i j, i ≤ j →
    (∀ k, i ≤ k → k < j → (bank.day env checks B (visits.take k)).db.Dormant accNo) →
    (bank.day env checks B (visits.take j)).db.book accNo = (bank.day env checks B (visits.take i)).db.book accNo

/-- One visit. -/
theorem attend_dormant {bank : Bank D} (idle : bank.Idle) {accNo : String} (dormant : bank.db.Dormant accNo)
    {tv : ℕ × Visit D} (served : tv.2.Served) (calm : bank.db.Calm tv.2) :
    (bank.attend env checks B tv.1 tv.2).2.db.book accNo = bank.db.book accNo := by
  have attended := (attend_settles env checks B idle tv.1 tv.2).1
  generalize (bank.attend env checks B tv.1 tv.2).2.db = db' at attended
  cases attended with
  | unmoved ledger => rw [ledger]
  | moved writes flushed ledger =>
    obtain ⟨a, found, -⟩ := id dormant
    rw [ledger]
    exact (flush_spares (writes_spare writes served dormant calm) found flushed).2

/-- **A frozen or closed account is inert**, in every run in which no contribution is made from such an account and no
goal is refunded to one. -/
theorem dormant_inert {bank : Bank D} (idle : bank.Idle) {visits : List (ℕ × Visit D)}
    (served : ∀ tv ∈ visits, tv.2.Served)
    (calm : bank.Throughout env checks B (fun bank tv => bank.db.Calm tv.2) visits) :
    bank.Inert env checks B visits := by
  intro accNo i j hij dormant
  induction j, hij using Nat.le_induction with
  | base => rfl
  | succ j hij ih =>
    have before := ih fun k hik hkj => dormant k hik (by omega)
    cases h : visits[j]? with
    | none => rw [Bank.day_take_length (List.getElem?_eq_none_iff.mp h), before]
    | some tv =>
      have now := dormant j hij (by omega)
      have idle' := day_idle env checks B idle visits j
      have calm' := calm.get h
      rw [Bank.day_take_succ h, ← before]
      exact attend_dormant idle' now (served tv (List.mem_of_getElem? h)) calm'

end Run

/-! ## Examples -/

namespace Sample

/-- Every form is accepted. -/
def lenient : Checks := ⟨fun _ => true, fun _ => true, fun _ => true, fun _ => (true, "")⟩

/-- A frozen account is offered a deposit, and thawed. -/
def frost : List (ℕ × Visit ℤ) :=
  [(0, .call ⟨.freezeAccount "1001" "admin" none, draws 0⟩),
    (1, .call ⟨.deposit "1001" 500 "General" none, draws 1⟩),
    (1, .updateProfile "1001" ⟨some "Asha R", none, none, none, none⟩),
    (0, .call ⟨.unfreezeAccount "1001" "admin" none, draws 2⟩)]

theorem dormant_inert_frost : (bank 10000 5000 0).Inert paiseEnv lenient paise frost :=
  dormant_inert (bank_idle _ _ _) (by simp [frost, Visit.Served, Request.isProfile])
    ⟨id, id, trivial, id, trivial⟩

/-- A frozen account is emptied into a goal. -/
def thaw : List (ℕ × Visit ℤ) :=
  [(0, .call ⟨.freezeAccount "1001" "admin" none, draws 0⟩),
    (1, .call ⟨.contribute "1001" "G1" 4000, draws 1⟩)]

/-- The contribution leaves the frozen account with 6000 of its 10000. -/
theorem frozen_contributes :
    (∀ tv ∈ thaw, tv.2.Served) ∧ ¬(bank 10000 5000 0).Inert paiseEnv lenient paise thaw := by
  refine ⟨by simp [thaw, Visit.Served, Request.isProfile], fun inert => ?_⟩
  have frozen : ∀ k, 1 ≤ k → k < 2 → ((bank 10000 5000 0).day paiseEnv lenient paise (thaw.take k)).db.Dormant "1001" := by
    intro k h₁ h₂
    obtain rfl : k = 1 := by omega
    exact ⟨{ account "1001" 10000 with isFrozen := true, isActive := false }, by decide, rfl⟩
  have same := congrArg Prod.fst (inert "1001" 1 2 (by decide) frozen)
  revert same
  decide

end Sample

end UnionBank
