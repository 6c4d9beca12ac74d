import UnionBank.Atomicity
import UnionBank.Exactness

/-!
# Failures on a long-lived session

A thread serves all its calls on one session. A call that returns leaves the session clean (`returns_clean`), also
when an operation failed in it; a call that raises does so only when the failed operation found nothing staged and was
no flush (`failure_forgotten`).

- `cleans`: what is known of the session's pending changes, whatever it answers; `Returns` and `Commits`, the programs
  that leave a clean session when they return.
-/

namespace UnionBank

open Keyed Programs Prog

set_option linter.unusedSectionVars false

variable {D : Type} [Zero D] [Add D] [Sub D] [LE D] [LT D] [DecidableEq D] [DecidableLE D] [DecidableLT D]
variable (env : Env D) (B : Backend D)

/-! ## Clean sessions -/

/-- A query that leaves nothing pending. -/
def Query.isRead : Query D → Bool
  | .getAccount _ | .getLoan _ | .getGoal _ | .getIdempotencyKey _ | .getTokenVersion _ => true
  | _ => false

theorem Query.staged_of_isRead {q : Query D} (hq : q.isRead = true) (db : Db D) (s : Session D) : q.staged db s = [] := by
  cases q <;> first | rfl | cases hq

/-- Whether the session is clean, and whether an operation has failed. -/
structure Traces where
  clean : Bool
  failed : Bool

/-- What an operation leaves, whatever the session answers. -/
def cleans : Spec (Op.Res (D := D)) Exn Traces
  | .acquire _, s, Q => Q (.ok ()) s
  | .release _, s, Q => Q (.ok ()) s
  | .rollback, s, Q => Q (.ok ()) { s with clean := true }
  | .query q, s, Q => (∀ a, Q (.ok a) { s with clean := s.clean && q.isRead }) ∧ ∀ e, Q (.error e) { s with failed := true }
  | .create _, s, Q => Q (.ok ()) { s with clean := false } ∧ ∀ e, Q (.error e) { s with failed := true }
  | .commit, s, Q => Q (.ok ()) { s with clean := true } ∧ ∀ e, Q (.error e) ⟨false, true⟩
  | .beginNested, s, Q | .releaseNested, s, Q | .rollbackNested, s, Q =>
    Q (.ok ()) { s with clean := false } ∧ ∀ e, Q (.error e) ⟨false, true⟩

/-- A session that is clean when the specification says so. -/
def Cleanly (w : Db D × Session D) (s : Traces) : Prop :=
  s.clean = true → w.2.pending = [] ∧ w.2.inactive = false ∧ w.2.savepoint = none

section Spec

variable {B}

theorem cleans_mono : Spec.Mono (cleans (D := D)) := by
  intro o s Q Q' hQ h
  cases o <;> simp only [cleans] at h ⊢ <;> grind

theorem uncleanly {w : Db D × Session D} {b : Bool} : Cleanly w ⟨false, b⟩ := fun h => Bool.noConfusion h

/-- An operation that answers. -/
theorem step_cleanly {o : Op D} {w : Db D × Session D} {s : Traces} {Q : Except Exn o.Res → Traces → Prop} {a : o.Res}
    (ha : (handle B o w).1 = .ok a) (hR : Cleanly w s) (hQ : cleans o s Q) :
    ∃ s', (Cleanly (handle B o w).2 s' ∧ s'.failed = s.failed) ∧ Q (.ok a) s' := by
  obtain ⟨db, session⟩ := w
  cases o with
  | acquire accNo => exact ⟨s, ⟨hR, rfl⟩, hQ⟩
  | release accNo => exact ⟨s, ⟨hR, rfl⟩, hQ⟩
  | rollback => exact ⟨⟨true, s.failed⟩, ⟨fun _ => ⟨rfl, rfl, rfl⟩, rfl⟩, hQ⟩
  | query q =>
    simp only [handle] at ha ⊢
    split at ha
    · cases ha
    · rename_i hi
      rw [if_neg hi]
      refine ⟨⟨s.clean && q.isRead, s.failed⟩, ⟨fun h => ?_, rfl⟩, hQ.1 a⟩
      obtain ⟨hc, hq⟩ := Bool.and_eq_true_iff.mp h
      obtain ⟨hp, hi, hs⟩ := hR hc
      exact ⟨by rw [Session.stage, Query.staged_of_isRead hq, hp]; rfl, hi, hs⟩
  | create row => exact ⟨_, ⟨uncleanly, rfl⟩, hQ.1⟩
  | beginNested | releaseNested | rollbackNested => exact ⟨_, ⟨uncleanly, rfl⟩, hQ.1⟩
  | commit =>
    refine ⟨⟨true, s.failed⟩, ⟨fun _ => ?_, rfl⟩, hQ.1⟩
    simp only [handle] at ha ⊢
    split at ha
    · cases ha
    · rename_i hi
      rw [if_neg hi]
      cases hf : flush B session.pending db with
      | ok db' => exact ⟨rfl, rfl, rfl⟩
      | error e => rw [hf] at ha; cases ha

theorem keeps_cleanly : Handler.Keeps (handle B) cleans Cleanly := by
  rintro o ⟨db, s⟩ t Q hR hQ
  cases ha : (handle B o (db, s)).1 with
  | ok a =>
    obtain ⟨s', ⟨hR', -⟩, hQ'⟩ := step_cleanly ha hR hQ
    exact ⟨s', hR', hQ'⟩
  | error e =>
    cases o with
    | acquire | release | rollback | create | releaseNested | rollbackNested => cases ha
    | query q =>
      simp only [handle] at ha ⊢
      split at ha
      · rename_i hi
        rw [if_pos hi]
        exact ⟨⟨t.clean, true⟩, hR, hQ.2 e⟩
      · cases ha
    | beginNested | commit => exact ⟨_, uncleanly, hQ.2 e⟩

theorem strikes_cleanly : Strikes failed cleans (fun o => o.fallible = true) (Cleanly (D := D)) Cleanly := by
  rintro o ⟨db, s⟩ t Q e ho hR hQ
  cases o with
  | acquire | release | rollback => cases ho
  | query q => exact ⟨⟨t.clean, true⟩, hR, hQ.2 e⟩
  | create row => exact ⟨⟨t.clean, true⟩, hR, hQ.2 e⟩
  | commit | beginNested | releaseNested | rollbackNested => exact ⟨_, uncleanly, hQ.2 e⟩

end Spec

/-! ## Programs that return on a clean session -/

section Rules

variable {α β : Type} {strict : Bool}

/-- A clean session, or an exception; a strict end also asks that an operation has failed. -/
def CleanEnd (strict : Bool) (r : Except Exn α) (s : Traces) : Prop :=
  s.clean = true ∨ (∃ e, r = .error e) ∧ (strict = true → s.failed = true)

/-- From a clean session. -/
def Returns (strict : Bool) (p : Svc D α) : Prop := ∀ failed, wp cleans p (CleanEnd strict) ⟨true, failed⟩

/-- From any session. -/
def Commits (strict : Bool) (p : Svc D α) : Prop := ∀ s, wp cleans p (CleanEnd strict) s

/-- An exception is the failure of an operation. -/
def Loud (strict : Bool) (p : Svc D α) : Prop :=
  ∀ s, wp cleans p (fun r s' => (∃ e, r = .error e) → strict = true → s'.failed = true) s

theorem Loud.perform {o : Op D} (ho : o.fallible = true) : Loud strict (Prog.perform o : Svc D o.Res) := by
  intro s
  rw [wp_perform]
  cases o with
  | acquire | release | rollback => cases ho
  | query q => exact ⟨fun a => by rintro ⟨e, ⟨⟩⟩, fun e _ _ => rfl⟩
  | _ => exact ⟨by rintro ⟨e, ⟨⟩⟩, fun e _ _ => rfl⟩

/-- Where no failure is asked for. -/
theorem Loud.lax (p : Svc D α) : Loud false p := by
  intro s
  induction p generalizing s with
  | ret a => rintro - ⟨⟩
  | raise e => rintro - ⟨⟩
  | call o k ih =>
    cases o with
    | acquire | release | rollback => exact ih _ _
    | query q => exact ⟨fun a => ih _ _, fun e => ih _ _⟩
    | _ => exact ⟨ih _ _, fun e => ih _ _⟩

theorem Returns.ret (a : α) : Returns (D := D) strict (Prog.ret a) := fun _ => .inl rfl

theorem Returns.raise (e : Exn) : Returns (D := D) (α := α) strict (Prog.raise e) := fun _ => .inl rfl

theorem Commits.returns {p : Svc D α} (h : Commits strict p) : Returns strict p := fun _ => h _

theorem Returns.bind {p : Svc D α} {f : α → Svc D β} (hp : Returns strict p) (hf : ∀ a, Returns strict (f a)) :
    Returns strict (p >>= f) := by
  intro failed
  rw [wp_bind]
  refine wp_mono cleans_mono ?_ (hp failed)
  rintro (e | a) ⟨clean, failed'⟩ (rfl | ⟨⟨e', he⟩, h⟩)
  · exact .inl rfl
  · exact .inr ⟨⟨e, rfl⟩, h⟩
  · exact hf a failed'
  · cases he

/-- A commit at the end. -/
theorem Commits.last {p : Svc D α} {f : α → Svc D β} (hp : Loud strict p) (hf : ∀ a, Commits strict (f a)) :
    Commits strict (p >>= f) := by
  intro s
  rw [wp_bind]
  refine wp_mono cleans_mono ?_ (hp s)
  rintro (e | a) s' h
  · exact .inr ⟨⟨e, rfl⟩, h ⟨e, rfl⟩⟩
  · exact hf a s'

theorem Commits.op {o : Op D} {f : o.Res → Svc D β} (ho : o.fallible = true) (hf : ∀ a, Commits strict (f a)) :
    Commits strict (perform o >>= f) :=
  .last (.perform ho) hf

/-- A commit at the beginning. -/
theorem Commits.first {p : Svc D α} {f : α → Svc D β} (hp : Commits strict p) (hf : ∀ a, Returns strict (f a)) :
    Commits strict (p >>= f) := by
  intro s
  rw [wp_bind]
  refine wp_mono cleans_mono ?_ (hp s)
  rintro (e | a) ⟨clean, failed'⟩ (rfl | ⟨⟨e', he⟩, h⟩)
  · exact .inl rfl
  · exact .inr ⟨⟨e, rfl⟩, h⟩
  · exact hf a failed'
  · cases he

theorem Commits.commit : Commits strict (perform Op.commit : Svc D Unit) := by
  intro s
  rw [wp_perform]
  exact ⟨.inl rfl, fun e => .inr ⟨⟨e, rfl⟩, fun _ => rfl⟩⟩

theorem Commits.rollback : Commits strict (perform Op.rollback : Svc D Unit) := by
  intro s
  rw [wp_perform]
  exact .inl rfl

theorem Returns.read {q : Query D} (hq : q.isRead = true) : Returns strict (ask q) := by
  intro failed
  rw [ask, wp_perform]
  exact ⟨fun a => .inl (by rw [hq]; rfl), fun e => .inl rfl⟩

/-- An exception that is rolled back. -/
theorem Returns.tryCatch {p : Svc D α} {f : Exn → Svc D α} (hp : Returns false p) (hf : ∀ e, Commits strict (f e)) :
    Returns strict (MonadExcept.tryCatch p f) := by
  intro failed
  rw [wp_tryCatch]
  refine wp_mono cleans_mono ?_ (hp failed)
  rintro (e | a) s h
  · exact hf e s
  · rcases h with h | ⟨⟨e, he⟩, -⟩
    · exact .inl h
    · cases he

theorem wp_cleans_acquireAll (accNos : List String) (s : Traces) (Q : Except Exn Unit → Traces → Prop) :
    wp (cleans (D := D)) (acquireAll accNos) Q s = Q (.ok ()) s := by
  induction accNos with
  | nil => rfl
  | cons accNo accNos ih =>
    rw [acquireAll, wp_bind, wp_perform]
    exact ih

theorem wp_cleans_releaseAll (accNos : List String) (s : Traces) (Q : Except Exn Unit → Traces → Prop) :
    wp (cleans (D := D)) (releaseAll accNos) Q s = Q (.ok ()) s := by
  induction accNos with
  | nil => rfl
  | cons accNo accNos ih =>
    rw [releaseAll, wp_bind, wp_perform]
    exact ih

theorem Returns.accountLock {accNos : List String} {p : Svc D α} (hp : Returns strict p) :
    Returns strict (UnionBank.accountLock accNos p) := by
  intro failed
  rw [UnionBank.accountLock, wp_bind, wp_cleans_acquireAll, andThen_ok, wp_ensuring]
  refine wp_mono cleans_mono ?_ (hp failed)
  intro r s h
  rw [wp_cleans_releaseAll, andThen_ok, wp_ofExcept]
  exact h

end Rules

/-! ## Every call returns on a clean session -/

section Services

variable {strict : Bool} (draws : Draws)

open TransactionService

theorem checkIdempotency_returns (key : Option String) : Returns (D := D) strict (checkIdempotency key) := by
  unfold checkIdempotency
  cases givenKey key with
  | none => exact .ret _
  | some k =>
    refine .bind (.read rfl) fun existing => ?_
    cases existing with
    | none => exact .ret _
    | some existing =>
      simp only
      split
      · exact .ret _
      · exact .ret _

theorem cachedTransfer_returns (key : Option String) : Returns (D := D) strict (cachedTransfer key) := by
  unfold cachedTransfer
  cases givenKey key with
  | none => exact .ret _
  | some k =>
    refine .bind (.read rfl) fun existing => ?_
    cases existing with
    | none => exact .ret _
    | some existing =>
      simp only
      split
      · exact .ret _
      · exact .ret _

/-- Storing a key ends in a commit or a rollback. -/
theorem storeKey_returns (record : IdempotencyRecord D) :
    Returns strict (tryCatch (do idempotencyRepo.create record; idempotencyRepo.commit) fun _ => idempotencyRepo.rollback) :=
  .tryCatch (Commits.op rfl fun _ => .commit).returns fun _ => .rollback

theorem storeIdempotency_returns (key : Option String) (accNo operation : String) (amount : D)
    (result : ServiceResult D) (balance : D) : Returns strict (storeIdempotency key accNo operation amount result balance) := by
  unfold storeIdempotency
  cases givenKey key with
  | none => exact .ret _
  | some k => exact storeKey_returns _

theorem storeTransferIdempotency_returns (key : Option String) (accNo : String) (amount : D)
    (result : TransferResult D) : Returns strict (storeTransferIdempotency env key accNo amount result) := by
  unfold storeTransferIdempotency
  cases givenKey key with
  | none => exact .ret _
  | some k => exact storeKey_returns _

theorem deposit_returns (accNo : String) (amount : D) (category : String) (key : Option String) :
    Returns strict (deposit env draws accNo amount category key) := by
  unfold deposit
  split
  · exact .ret _
  refine .bind (checkIdempotency_returns key) fun cached => ?_
  cases cached with
  | some cached => exact .ret _
  | none =>
    refine .bind (.accountLock ?_) fun outcome => ?_
    · refine .bind (.read rfl) fun account => ?_
      cases account with
      | none => exact .ret _
      | some account =>
        simp only
        split
        · exact .ret _
        exact (Commits.op rfl fun _ => .op rfl fun _ => .first .commit fun _ => .ret _).returns
    · cases outcome with
      | error refusal => exact .ret _
      | ok account => exact .bind (storeIdempotency_returns _ _ _ _ _ _) fun _ => .ret _

theorem withdraw_returns (accNo : String) (amount : D) (category : String) (key : Option String) :
    Returns strict (withdraw env draws accNo amount category key) := by
  unfold withdraw
  split
  · exact .ret _
  refine .bind (checkIdempotency_returns key) fun cached => ?_
  cases cached with
  | some cached => exact .ret _
  | none =>
    refine .bind (.accountLock ?_) fun outcome => ?_
    · refine .bind (.read rfl) fun account => ?_
      cases account with
      | none => exact .ret _
      | some account =>
        simp only
        split
        · exact .ret _
        split
        · exact .ret _
        refine .bind ?_ fun _ => (Commits.op rfl fun _ => .op rfl fun _ =>
          .first .commit fun _ => .ret _).returns
        unfold ensureNonNegativeBalance
        split
        · exact .raise _
        · exact .ret _
    · cases outcome with
      | error refusal => exact .ret _
      | ok account => exact .bind (storeIdempotency_returns _ _ _ _ _ _) fun _ => .ret _

/-- The exceptions of the locked section are rolled back, whatever raised them. -/
theorem transferLocked_returns (senderAccNo receiverAccNo : String) (amount : D) (cat : String) :
    Returns false (transferLocked env draws senderAccNo receiverAccNo amount cat) := by
  unfold transferLocked
  refine .bind (.read rfl) fun sender => .bind (.read rfl) fun receiver => ?_
  cases sender with
  | none => exact .ret _
  | some sender =>
  cases receiver with
  | none => exact .ret _
  | some receiver =>
    simp only
    split
    · exact .ret _
    split
    · exact .ret _
    split
    · exact .ret _
    exact (Commits.last (.lax _) fun _ => .first .commit fun _ => .ret _).returns

theorem transfer_returns (senderAccNo receiverAccNo : String) (amount : D) (category : String) (key : Option String) :
    Returns strict (transfer env draws senderAccNo receiverAccNo amount category key) := by
  unfold transfer
  split
  · exact .ret _
  split
  · exact .ret _
  refine .bind (cachedTransfer_returns key) fun cached => ?_
  cases cached with
  | some cached => exact .ret _
  | none =>
    refine .bind (.tryCatch (.accountLock (transferLocked_returns env draws _ _ _ _)) fun _ => .first .rollback fun _ => .ret _)
      fun outcome => ?_
    cases outcome with
    | error refusal => exact .ret _
    | ok balances => exact .bind (storeTransferIdempotency_returns env _ _ _ _) fun _ => .ret _

theorem applyInterest_returns (accNo : String) : Returns strict (applyInterest env draws accNo) := by
  refine .bind (.read rfl) fun account => ?_
  cases account with
  | none => exact .ret _
  | some account =>
    simp only
    split
    · exact .ret _
    split
    · exact .ret _
    exact (Commits.op rfl fun _ => .op rfl fun _ => .first .commit fun _ => .ret _).returns

/-- An audit entry ends in its own commit. -/
theorem auditLog_commits {actor action : String} {target details reason : Option String} {now : Time} :
    Commits (D := D) strict (do auditLogRepo.log actor action target details reason now; auditLogRepo.commit) :=
  .op rfl fun _ => .commit

theorem applyLoan_returns (accNo loanType : String) (principal rate : D) (tenure : Int) (purpose : String) :
    Returns strict (LoanService.applyLoan env draws accNo loanType principal rate tenure purpose) := by
  refine .bind (.read rfl) fun account => ?_
  cases account with
  | none => exact .ret _
  | some account =>
    simp only
    repeat' split
    all_goals first
      | exact .ret _
      | exact (Commits.op rfl fun _ => .op rfl fun _ => .first auditLog_commits fun _ => .ret _).returns

theorem approveLoan_returns (loanId adminUser : String) :
    Returns strict (LoanService.approveLoan env draws loanId adminUser) := by
  refine .bind (.read rfl) fun loan => ?_
  cases loan with
  | none => exact .ret _
  | some loan =>
    simp only
    split
    · exact .ret _
    refine .bind (.read rfl) fun account => ?_
    cases account with
    | none => exact .ret _
    | some account =>
      simp only
      split
      · exact .ret _
      exact (Commits.op rfl fun _ => .op rfl fun _ => .op rfl fun _ => .op rfl fun _ =>
        .first auditLog_commits fun _ => .ret _).returns

theorem rejectLoan_returns (loanId reason adminUser : String) :
    Returns (D := D) strict (LoanService.rejectLoan draws loanId reason adminUser) := by
  refine .bind (.read rfl) fun loan => ?_
  cases loan with
  | none => exact .ret _
  | some loan =>
    simp only
    split
    · exact .ret _
    exact (Commits.op rfl fun _ => .op rfl fun _ => .first auditLog_commits fun _ => .ret _).returns

theorem payEmi_returns (accNo loanId : String) (amount : Option D) :
    Returns strict (LoanService.payEmi env draws accNo loanId amount) := by
  refine .bind (.read rfl) fun loan => ?_
  cases loan with
  | none => exact .ret _
  | some loan =>
    simp only
    split
    · exact .ret _
    split
    · exact .ret _
    refine .bind (.read rfl) fun account => ?_
    cases account with
    | none => exact .ret _
    | some account =>
      simp only
      split
      · exact .ret _
      split
      · exact .ret _
      split
      · exact .ret _
      exact (Commits.op rfl fun _ => .op rfl fun _ => .op rfl fun _ => .first .commit fun _ => .ret _).returns

theorem createGoal_returns (accNo name : String) (target : D) (targetDate : Option String) :
    Returns strict (SavingsGoalService.createGoal draws accNo name target targetDate) := by
  unfold SavingsGoalService.createGoal
  split
  · exact .ret _
  split
  · exact .ret _
  exact (Commits.op rfl fun _ => .first .commit fun _ => .ret _).returns

theorem contribute_returns (accNo goalId : String) (amount : D) :
    Returns strict (SavingsGoalService.contribute env draws accNo goalId amount) := by
  unfold SavingsGoalService.contribute
  split
  · exact .ret _
  refine .bind (.read rfl) fun account => ?_
  cases account with
  | none => exact .ret _
  | some account =>
    simp only
    split
    · exact .ret _
    refine .bind (.read rfl) fun goal => ?_
    cases goal with
    | none => exact .ret _
    | some goal =>
      exact (Commits.op rfl fun _ => .op rfl fun _ => .op rfl fun _ => .first .commit fun _ => .ret _).returns

theorem deleteGoal_returns (accNo goalId : String) : Returns strict (SavingsGoalService.deleteGoal (D := D) accNo goalId) := by
  refine .bind (.read rfl) fun goal => ?_
  cases goal with
  | none => exact .ret _
  | some goal =>
    refine (Commits.op rfl fun _ => ?_).returns
    have ending : ∀ message : String, Commits (D := D) strict (do
        goalRepo.commit
        return ({ success := true, message } : ServiceResult D)) := fun _ => .first .commit fun _ => .ret _
    split
    · refine .op rfl fun account => ?_
      cases account with
      | none => exact ending _
      | some account => exact .op rfl fun _ => ending _
    · exact ending _

theorem freezeAccount_returns (accNo actor : String) (reason : Option String) :
    Returns (D := D) strict (AdminService.freezeAccount draws accNo actor reason) := by
  refine .bind (.read rfl) fun account => ?_
  cases account with
  | none => exact .ret _
  | some account =>
    simp only
    split
    · exact .ret _
    split
    · exact .ret _
    exact (Commits.op rfl fun _ => .op rfl fun _ => .op rfl fun _ =>
      .first auditLog_commits fun _ => .ret _).returns

theorem unfreezeAccount_returns (accNo actor : String) (reason : Option String) :
    Returns (D := D) strict (AdminService.unfreezeAccount draws accNo actor reason) := by
  refine .bind (.read rfl) fun account => ?_
  cases account with
  | none => exact .ret _
  | some account =>
    simp only
    split
    · exact .ret _
    exact (Commits.op rfl fun _ => .op rfl fun _ => .first auditLog_commits fun _ => .ret _).returns

theorem deleteAccount_returns (accNo actor : String) (reason : Option String) :
    Returns (D := D) strict (AdminService.deleteAccount draws accNo actor reason) := by
  refine .bind (.read rfl) fun account => ?_
  cases account with
  | none => exact .ret _
  | some account =>
    exact (Commits.op rfl fun _ => .op rfl fun _ => .first auditLog_commits fun _ => .ret _).returns

theorem updateProfile_returns (accNo : String) (kwargs : List (AccountService.AccountField D)) :
    Returns strict (AccountService.updateProfile accNo kwargs) := by
  refine .bind (.read rfl) fun account => ?_
  cases account with
  | none => exact .ret _
  | some account =>
    refine .bind ?_ fun account' => (Commits.op rfl fun _ => .first .commit fun _ => .ret _).returns
    cases kwargs.foldlM AccountService.AccountField.assign account with
    | ok account' => exact .ret _
    | error e => exact .raise e

theorem changePassword_returns (accNo currentPwd newPwd : String) :
    Returns strict (AccountService.changePassword env accNo currentPwd newPwd) := by
  refine .bind (.read rfl) fun account => ?_
  cases account with
  | none => exact .ret _
  | some account =>
    simp only
    split
    · exact .ret _
    exact (Commits.op rfl fun _ => .op rfl fun _ => .first .commit fun _ => .ret _).returns

theorem closeAccount_returns (accNo password : String) :
    Returns strict (AccountService.closeAccount env accNo password) := by
  refine .bind (.read rfl) fun account => ?_
  cases account with
  | none => exact .ret _
  | some account =>
    simp only
    split
    · exact .ret _
    exact (Commits.op rfl fun _ => .first .commit fun _ => .ret _).returns

/-- **A call that returns leaves a clean session.** -/
theorem returns_clean (c : Call D) : Returns true (c.prog env) := by
  obtain ⟨request, draws⟩ := c
  have answered : ∀ {α : Type} {p : Svc D α} (f : α → Reply D), Returns true p →
      Returns true (do return f (← p)) :=
    fun f h => h.bind fun _ => .ret _
  cases request with
  | deposit => exact answered _ (deposit_returns env draws _ _ _ _)
  | withdraw => exact answered _ (withdraw_returns env draws _ _ _ _)
  | transfer => exact answered _ (transfer_returns env draws _ _ _ _ _)
  | applyInterest => exact answered _ (applyInterest_returns env draws _)
  | applyLoan => exact answered _ (applyLoan_returns env draws _ _ _ _ _ _)
  | approveLoan => exact answered _ (approveLoan_returns env draws _ _)
  | rejectLoan => exact answered _ (rejectLoan_returns draws _ _ _)
  | payEmi => exact answered _ (payEmi_returns env draws _ _ _)
  | createGoal => exact answered _ (createGoal_returns draws _ _ _ _)
  | contribute => exact answered _ (contribute_returns env draws _ _ _)
  | deleteGoal => exact answered _ (deleteGoal_returns _ _)
  | freezeAccount => exact answered _ (freezeAccount_returns draws _ _ _)
  | unfreezeAccount => exact answered _ (unfreezeAccount_returns draws _ _ _)
  | deleteAccount => exact answered _ (deleteAccount_returns draws _ _ _)
  | updateProfile => exact answered _ (updateProfile_returns _ _)
  | changePassword => exact answered _ (changePassword_returns env _ _ _)
  | closeAccount => exact answered _ (closeAccount_returns env _ _)

end Services

/-! ## One thread -/

/-- A call and the operation that fails in it, if one does: its number, and the exception. -/
structure Attempt (D : Type) where
  call : Call D
  fault : Option (ℕ × Exn) := none

namespace Attempt

variable (a : Attempt D) (w : Db D × Session D)

/-- What a call answers, and the store and the session after it. -/
def run : Outcome Exn (Reply D) × (Db D × Session D) :=
  match a.fault with
  | none => (.done (exec (handle B) (a.call.prog env) w).1, (exec (handle B) (a.call.prog env) w).2)
  | some (n, e) => execFault (handle B) failed (.raise e) n (a.call.prog env) w

/-- Operation number `n` is `o`, finds `w₁` and raises: by the fault, or by itself and not after it. -/
def FailsAt (n : ℕ) (o : Op D) (w₁ : Db D × Session D) : Prop :=
  struck (handle B) n (a.call.prog env) w = some (o, w₁) ∧
    ((∃ e, a.fault = some (n, e)) ∨ (∃ e, (handle B o w₁).1 = .error e) ∧ ∀ m e, a.fault = some (m, e) → n ≤ m)

/-- Locks and `rollback` do not fail. -/
def Possible : Prop :=
  ∀ n e o w₁, a.fault = some (n, e) → struck (handle B) n (a.call.prog env) w = some (o, w₁) → o.fallible = true

/-- The call raises because an operation failed. -/
def Failed : Prop := (∃ e, (a.run env B w).1 = .done (.error e)) ∧ ∃ n o w₁, a.FailsAt env B w n o w₁

/-- Where the call raises, the failed operation sent nothing to the database, and it came before any commit and found
nothing staged. -/
def Harmless : Prop :=
  (∃ e, (a.run env B w).1 = .done (.error e)) → ∀ n o w₁, a.FailsAt env B w n o w₁ →
    o.flushes = false ∧ (∀ m w', m < n → struck (handle B) m (a.call.prog env) w ≠ some (.commit, w')) ∧
      w₁.2 = { w.2 with held := w₁.2.held }

end Attempt

/-- A clean session without locks. -/
abbrev Fresh (w : Db D × Session D) : Prop := w.2 = {}

section Step

variable {env B} {a : Attempt D} {w : Db D × Session D}

/-- A session that nothing was staged in since the call began, before and after the failure. -/
def Unstaged (db : Db D) (w : Db D × Session D) (s : Stage × List String) : Prop :=
  w.1 = db ∧ w.2 = { held := s.2 } ∧ s.1 = .quit

theorem keeps_unstaged {db : Db D} {key : Option String} :
    Handler.Keeps (handle B) (stages true key) (Unstaged db) := by
  rintro o ⟨db', s⟩ ⟨g, held⟩ Q ⟨rfl, rfl, rfl⟩ hQ
  cases o with
  | acquire accNo => exact ⟨_, ⟨rfl, rfl, rfl⟩, hQ⟩
  | release accNo => exact ⟨_, ⟨rfl, rfl, rfl⟩, hQ⟩
  | query q => cases hQ.1
  | beginNested => cases hQ.1
  | releaseNested => cases hQ.1
  | create row => rcases hQ with ⟨h, -⟩ | ⟨h, -⟩ | ⟨h, -⟩ <;> cases h
  | commit => rcases hQ with ⟨h, -⟩ | ⟨h, -⟩ | ⟨h, -⟩ <;> cases h
  | rollbackNested => exact ⟨_, ⟨rfl, rfl, rfl⟩, hQ.2.1⟩
  | rollback => exact ⟨_, ⟨rfl, rfl, rfl⟩, hQ.2⟩

/-- Before any commit the store is as it was found. -/
def Uncommitted (db : Db D) (w : Db D × Session D) (s : Stage × List String) : Prop :=
  w.1 = db ∧ w.2.held = s.2 ∧ (s.1 = .before ∨ s.1 = .quit)

theorem step_uncommitted {db : Db D} {key : Option String} {o : Op D} {w : Db D × Session D} {s : Stage × List String}
    {Q : Except Exn o.Res → Stage × List String → Prop} (ho : o ≠ .commit) (hR : Uncommitted db w s)
    (hQ : stages true key o s Q) : ∃ s', Uncommitted db (handle B o w).2 s' ∧ Q (handle B o w).1 s' := by
  obtain ⟨db', s'⟩ := w
  obtain ⟨g, held⟩ := s
  obtain ⟨rfl, rfl, hg⟩ := hR
  cases o with
  | acquire accNo => exact ⟨(g, s'.held ++ [accNo]), ⟨rfl, rfl, hg⟩, hQ⟩
  | release accNo => exact ⟨(g, s'.held.erase accNo), ⟨rfl, rfl, hg⟩, hQ⟩
  | query q =>
    obtain ⟨-, -, hok, herr⟩ := hQ
    simp only [handle]
    split
    · exact ⟨_, ⟨rfl, rfl, .inr rfl⟩, herr rfl _⟩
    · exact ⟨_, ⟨rfl, rfl, .inl rfl⟩, hok _⟩
  | create row =>
    rcases hQ with ⟨rfl, hok, -⟩ | ⟨rfl, -⟩ | ⟨rfl, -⟩
    · exact ⟨_, ⟨rfl, rfl, .inl rfl⟩, hok⟩
    · simp at hg
    · simp at hg
  | beginNested =>
    obtain ⟨-, hok, herr⟩ := hQ
    simp only [handle]
    split
    · exact ⟨_, ⟨rfl, rfl, .inr rfl⟩, herr rfl _⟩
    · exact ⟨_, ⟨rfl, rfl, .inl rfl⟩, hok⟩
  | releaseNested => exact ⟨_, ⟨rfl, rfl, .inl rfl⟩, hQ.2.1⟩
  | rollbackNested => exact ⟨_, ⟨rfl, rfl, .inr rfl⟩, hQ.2.1⟩
  | commit => exact absurd rfl ho
  | rollback =>
    have hd : g ≠ .done := by rcases hg with rfl | rfl <;> simp
    obtain ⟨-, hok⟩ := hQ
    rw [if_neg hd] at hok
    exact ⟨_, ⟨rfl, rfl, .inr rfl⟩, hok⟩

/-- **A harmless failure leaves the store and the session as the call found them.** -/
theorem Attempt.Failed.forgotten (hf : a.Failed env B w) (fresh : Fresh w) (possible : a.Possible env B w)
    (harmless : a.Harmless env B w) : (a.run env B w).2 = w := by
  obtain ⟨db, s⟩ := w
  obtain rfl : s = {} := fresh
  obtain ⟨hraise, n, o, w₁, hfails⟩ := hf
  obtain ⟨hflush, huncommitted, hw₁⟩ := harmless hraise n o w₁ hfails
  obtain ⟨hs, ⟨e, hfault⟩ | ⟨⟨e, he⟩, -⟩⟩ := hfails
  · have ho := possible n e o w₁ hfault hs
    obtain ⟨k, ⟨g, held⟩, ⟨hdb, hheld, hg⟩, hspec, hrun⟩ :=
      wp_struck failed (R := Uncommitted db) (w := (db, {})) ⟨rfl, rfl, .inl rfl⟩
        (disciplined env true a.call) hs fun m o' w' hm hs' s Q => step_uncommitted fun e => huncommitted m w' hm (e ▸ hs')
    have hw : failed o w₁ = (db, { held }) := by
      obtain ⟨db₁, s₁⟩ := w₁
      simp only [failed, hflush, Bool.false_eq_true, if_false]
      obtain rfl : db₁ = db := hdb
      obtain rfl : s₁.held = held := hheld
      rw [show s₁ = { held := s₁.held } from hw₁]
    have herr : wp (stages true a.call.request.key) (k (.error e)) (Ends true a.call.request) (.quit, held) := by
      cases o with
      | acquire | release | rollback => cases ho
      | beginNested | releaseNested | commit => cases hflush
      | query q => exact hspec.2.2.2 rfl e
      | create row =>
        rcases hspec with ⟨-, -, herr⟩ | ⟨rfl, -⟩ | ⟨rfl, -⟩
        · exact herr rfl e
        · simp at hg
        · simp at hg
      | rollbackNested => exact hspec.2.2 rfl e
    obtain ⟨s', ⟨hdb', hs', -⟩, hend⟩ := exec_of_wp keeps_unstaged (w := (db, { held })) ⟨rfl, rfl, rfl⟩ herr
    rw [Attempt.run, hfault]
    simp only
    rw [hrun e, hw]
    exact Prod.ext hdb' (by rw [hs', hend.1])
  · -- a session in which nothing failed before refuses only a flush
    exfalso
    obtain ⟨db₁, s₁⟩ := w₁
    have hi : s₁.inactive = false := by rw [show s₁ = { held := s₁.held } from hw₁]
    cases o with
    | acquire | release | rollback | create | rollbackNested => cases he
    | beginNested | releaseNested | commit => cases hflush
    | query q => simp [handle, hi] at he

/-- What the session keeps, struck or not, holds after the call. -/
theorem Attempt.run_keeps {σ : Type} {spec : Spec (Op.Res (D := D)) Exn σ} {R : Db D × Session D → σ → Prop}
    (hk : Handler.Keeps (handle B) spec R) (strike : Strikes failed spec (fun o => o.fallible = true) R R)
    (possible : a.Possible env B w) {Q : Except Exn (Reply D) → σ → Prop} {s : σ} (hR : R w s)
    (hp : wp spec (a.call.prog env) Q s) :
    ∃ s', R (a.run env B w).2 s' ∧ ∀ r, (a.run env B w).1 = .done r → Q r s' := by
  unfold Attempt.run
  split
  · obtain ⟨s', hR', hQ⟩ := exec_of_wp hk hR hp
    exact ⟨s', hR', by rintro r ⟨⟩; exact hQ⟩
  · rename_i n e hfault
    exact execFault_keeps hk strike (fun o w' e' hs _ => possible n e o w' hfault hs) hR hp

/-- The locks of the session are those of its stage. -/
theorem keeps_held {key : Option String} :
    Handler.Keeps (handle B) (stages true key) fun w s => w.2.held = s.2 := by
  rintro o ⟨db, s⟩ ⟨g, held⟩ Q rfl hQ
  cases o with
  | acquire accNo => exact ⟨(g, s.held ++ [accNo]), rfl, hQ⟩
  | release accNo => exact ⟨(g, s.held.erase accNo), rfl, hQ⟩
  | query q =>
    simp only [handle]
    split
    · exact ⟨(.quit, s.held), rfl, hQ.2.2.2 rfl _⟩
    · exact ⟨(.before, s.held), rfl, hQ.2.2.1 _⟩
  | create row =>
    rcases hQ with ⟨-, hok, -⟩ | ⟨-, -, hok, -⟩ | ⟨-, -, hok, -⟩
    · exact ⟨(.before, s.held), rfl, hok⟩
    · exact ⟨(.done, s.held), rfl, hok⟩
    · exact ⟨(.audited, s.held), rfl, hok⟩
  | beginNested =>
    simp only [handle]
    split
    · exact ⟨(.quit, s.held), rfl, hQ.2.2 rfl _⟩
    · exact ⟨(.before, s.held), rfl, hQ.2.1⟩
  | releaseNested => exact ⟨(.before, s.held), rfl, hQ.2.1⟩
  | rollbackNested => exact ⟨(.quit, s.held), rfl, hQ.2.1⟩
  | commit =>
    have hok : ∃ g', Q (.ok ()) (g', s.held) := by
      rcases hQ with ⟨-, hok, -⟩ | ⟨-, hok, -⟩ | ⟨-, hok, -⟩ <;> exact ⟨_, hok⟩
    have herr : ∀ e, ∃ g', Q (.error e) (g', s.held) := fun e => by
      rcases hQ with ⟨-, -, herr⟩ | ⟨-, -, herr⟩ | ⟨-, -, herr⟩
      · exact ⟨_, herr e⟩
      · exact ⟨_, herr e⟩
      · exact ⟨_, herr rfl e⟩
    simp only [handle]
    split
    · obtain ⟨g', h⟩ := herr .pendingRollbackError
      exact ⟨(g', s.held), rfl, h⟩
    cases hf : flush B s.pending db with
    | ok db' =>
      obtain ⟨g', h⟩ := hok
      exact ⟨(g', s.held), rfl, h⟩
    | error e =>
      obtain ⟨g', h⟩ := herr e
      exact ⟨(g', s.held), rfl, h⟩
  | rollback => exact ⟨(_, s.held), rfl, hQ.2⟩

theorem strikes_held {key : Option String} :
    Strikes failed (stages (D := D) true key) (fun o => o.fallible = true) (fun w s => w.2.held = s.2)
      fun w s => w.2.held = s.2 := by
  rintro o ⟨db, s⟩ ⟨g, held⟩ Q e ho rfl hQ
  have hheld : (failed o (db, s)).2.held = s.held := by
    simp only [failed]
    split <;> rfl
  have herr : ∃ g', Q (.error e) (g', s.held) := by
    cases o with
    | acquire | release | rollback => cases ho
    | query q => exact ⟨_, hQ.2.2.2 rfl e⟩
    | create row => rcases hQ with ⟨-, -, herr⟩ | ⟨-, -, -, herr⟩ | ⟨-, -, -, herr⟩ <;> exact ⟨_, herr rfl e⟩
    | beginNested | releaseNested | rollbackNested => exact ⟨_, hQ.2.2 rfl e⟩
    | commit =>
      rcases hQ with ⟨-, -, herr⟩ | ⟨-, -, herr⟩ | ⟨-, -, herr⟩
      · exact ⟨_, herr e⟩
      · exact ⟨_, herr e⟩
      · exact ⟨_, herr rfl e⟩
  obtain ⟨g', h⟩ := herr
  exact ⟨(g', s.held), hheld, h⟩

/-- A call that does not raise, or raises without a failed operation, leaves a fresh session. -/
theorem Attempt.fresh_of_not_failed (hf : ¬a.Failed env B w) (fresh : Fresh w) (possible : a.Possible env B w) :
    Fresh (a.run env B w).2 := by
  obtain ⟨db, s⟩ := w
  obtain rfl : s = {} := fresh
  obtain ⟨r, hr⟩ : ∃ r, (a.run env B (db, {})).1 = .done r := by
    unfold Attempt.run
    split
    · exact ⟨_, rfl⟩
    · exact execFault_raise_done ..
  obtain ⟨s', hheld, hend⟩ := Attempt.run_keeps (w := (db, {})) keeps_held strikes_held possible (s := (.before, []))
    rfl (disciplined env true a.call)
  have clean : Cleanly (a.run env B (db, {})).2 ⟨true, false⟩ := by
    cases r with
    | ok reply =>
      obtain ⟨t, hclean, hend⟩ := Attempt.run_keeps (w := (db, {})) keeps_cleanly strikes_cleanly possible
        (s := ⟨true, false⟩) (fun _ => ⟨rfl, rfl, rfl⟩) (returns_clean env a.call false)
      rcases hend _ hr with ht | ⟨⟨e, he⟩, -⟩
      · exact fun _ => hclean ht
      · cases he
    | error e =>
      -- no operation failed: the exception is the call's own
      have none : ∀ n o w₁, ¬a.FailsAt env B (db, {}) n o w₁ := fun n o w₁ h => hf ⟨⟨e, hr⟩, n, o, w₁, h⟩
      have unstruck : ∀ m e, a.fault = some (m, e) → struck (handle B) m (a.call.prog env) (db, {}) = .none := by
        intro m e hfault
        cases hs : struck (handle B) m (a.call.prog env) (db, {}) with
        | none => rfl
        | some x => exact absurd ⟨hs, .inl ⟨e, hfault⟩⟩ (none m x.1 x.2)
      have smooth : ∀ n o w₁, struck (handle B) n (a.call.prog env) (db, {}) = some (o, w₁) →
          ∀ e, (handle B o w₁).1 ≠ .error e := fun n o w₁ hs e he =>
        none n o w₁ ⟨hs, .inr ⟨⟨e, he⟩, fun m e' hfault => (struck_lt _ hs (unstruck m e' hfault)).le⟩⟩
      have hrun : a.run env B (db, {}) = (.done (exec (handle B) (a.call.prog env) (db, {})).1,
          (exec (handle B) (a.call.prog env) (db, {})).2) := by
        unfold Attempt.run
        split
        · rfl
        · rename_i m e' hfault
          exact execFault_of_struck_none _ _ (unstruck m e' hfault)
      obtain ⟨t, ⟨hclean, hfailed⟩, hend⟩ := exec_of_wp_smooth (R := fun w t => Cleanly w t ∧ t.failed = false)
        (h := handle B) (w := (db, {}))
        (fun o w s Q a ha hR hQ => by
          obtain ⟨s', ⟨hc, hs'⟩, hq⟩ := step_cleanly ha hR.1 hQ
          exact ⟨s', ⟨hc, hs'.trans hR.2⟩, hq⟩)
        ⟨fun _ => ⟨rfl, rfl, rfl⟩, rfl⟩ (returns_clean env a.call false) smooth
      rw [hrun]
      rcases hend with ht | ⟨-, h⟩
      · exact fun _ => hclean ht
      · rw [hfailed] at h
        exact absurd (h rfl) Bool.noConfusion
  obtain ⟨hp, hi, hs⟩ := clean rfl
  have hh : (a.run env B (db, {})).2.2.held = [] := hheld.trans (hend r hr).1
  show (a.run env B (db, {})).2.2 = {}
  generalize (a.run env B (db, {})).2.2 = session at hp hi hs hh
  obtain ⟨p, i, sp, held⟩ := session
  simp_all

end Step

/-! ## Runs of one thread -/

/-- Calls one after another on one session: their answers, and the store and the session after them. -/
def thread (w : Db D × Session D) : List (Attempt D) → List (Outcome Exn (Reply D)) × (Db D × Session D)
  | [] => ([], w)
  | a :: rest =>
    let (r, w') := a.run env B w
    let (rs, w'') := thread w' rest
    (r :: rs, w'')

/-- Every call of a run is made where `P` holds. -/
def ThreadAlong (P : Attempt D → Db D × Session D → Prop) : Db D × Session D → List (Attempt D) → Prop
  | _, [] => True
  | w, a :: rest => P a w ∧ ThreadAlong P (a.run env B w).2 rest

/-- No failed call leaks: the calls after it answer, and leave the store, as if it had not been made. -/
def LeaksNothing (w : Db D × Session D) (attempts : List (Attempt D)) : Prop :=
  ∀ before a after, attempts = before ++ a :: after → a.Failed env B (thread env B w before).2 →
    thread env B (a.run env B (thread env B w before).2).2 after = thread env B (thread env B w before).2 after

/-- **Harmless failures are forgotten**: a run of one thread whose failures are harmless leaks nothing. -/
theorem harmless_failures_forgotten {w : Db D × Session D} (fresh : Fresh w) {attempts : List (Attempt D)}
    (possible : ThreadAlong env B (Attempt.Possible env B) w attempts)
    (harmless : ThreadAlong env B (Attempt.Harmless env B) w attempts) : LeaksNothing env B w attempts := by
  intro before a after hsplit hfailed
  subst hsplit
  induction before generalizing w with
  | nil => exact congrArg (thread env B · after) (hfailed.forgotten fresh possible.1 harmless.1)
  | cons b before ih =>
    have fresh' : Fresh (b.run env B w).2 := by
      by_cases hb : b.Failed env B w
      · exact (congrArg (fun w => w.2) (hb.forgotten fresh possible.1 harmless.1)).trans fresh
      · exact Attempt.fresh_of_not_failed hb fresh possible.1
    exact ih fresh' hfailed possible.2 harmless.2

/-! ## Examples -/

namespace Sample

/-- A deposit whose lookup of the account fails. -/
def failedRead : Attempt ℤ := ⟨⟨.deposit "1001" 2500 "Salary" none, draws 0⟩, some (1, .operationalError)⟩

/-- A deposit whose row cannot be created, after its new balance was staged. -/
def failedWrite : Attempt ℤ := ⟨⟨.deposit "1001" 2500 "Salary" none, draws 0⟩, some (3, .operationalError)⟩

/-- A deposit to another account. -/
def nextDeposit : Attempt ℤ := ⟨⟨.deposit "1002" 100 "Salary" none, draws 1⟩, none⟩

theorem failedRead_struck : struck (handle paise) 1 (failedRead.call.prog paiseEnv) (store 10000 5000 0, {}) =
    some (.query (.getAccount "1001"), (store 10000 5000 0, { held := ["1001"] })) := rfl

theorem failedRead_harmless : failedRead.Harmless paiseEnv paise (store 10000 5000 0, {}) := by
  rintro - n o w₁ ⟨hs, ⟨e, hfault⟩ | ⟨⟨e, he⟩, hfirst⟩⟩
  · obtain ⟨rfl, -⟩ : 1 = n ∧ Exn.operationalError = e := by simpa [failedRead] using hfault
    rw [failedRead_struck] at hs
    cases hs
    refine ⟨rfl, ?_, rfl⟩
    rintro m w' hm hs
    obtain rfl : m = 0 := by omega
    cases hs
  · have hn : n ≤ 1 := hfirst 1 _ rfl
    interval_cases n
    · cases hs
      cases he
    · rw [failedRead_struck] at hs
      cases hs
      cases he

theorem harmless_failures_forgotten_read :
    LeaksNothing paiseEnv paise (store 10000 5000 0, {}) [failedRead, nextDeposit] := by
  refine harmless_failures_forgotten paiseEnv paise rfl ⟨?_, ?_, trivial⟩ ⟨failedRead_harmless, ?_, trivial⟩
  · rintro n e o w₁ hfault hs
    obtain ⟨rfl, -⟩ : 1 = n ∧ Exn.operationalError = e := by simpa [failedRead] using hfault
    rw [failedRead_struck] at hs
    cases hs
    rfl
  · rintro n e o w₁ ⟨⟩
  · rintro ⟨e, ⟨⟩⟩

/-- The next deposit commits what the failed one had staged. -/
theorem failed_deposit_leaks :
    failedWrite.Possible paiseEnv paise (store 10000 5000 0, {}) ∧
      ¬LeaksNothing paiseEnv paise (store 10000 5000 0, {}) [failedWrite, nextDeposit] := by
  have hs : struck (handle paise) 3 (failedWrite.call.prog paiseEnv) (store 10000 5000 0, {}) = some
      (.create (.transaction ⟨"T0", "1001", .deposit, 2500, 12500, "Deposit", "Salary", none, 0⟩), (store 10000 5000 0,
        { pending := [.account (account "1001" 10000) (account "1001" 12500)], held := ["1001"] })) := rfl
  refine ⟨?_, fun h => ?_⟩
  · rintro n e o w₁ hfault hs'
    obtain ⟨rfl, -⟩ : 3 = n ∧ Exn.operationalError = e := by simpa [failedWrite] using hfault
    rw [hs] at hs'
    cases hs'
    rfl
  · have same := h [] failedWrite [nextDeposit] rfl ⟨⟨.operationalError, rfl⟩, 3, _, _, hs, .inl ⟨_, rfl⟩⟩
    have balance := congrArg (fun x => (x.2.1.accounts.find? "1001").map Account.balance) same
    revert balance
    decide

end Sample

end UnionBank
