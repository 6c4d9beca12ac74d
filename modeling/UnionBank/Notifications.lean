import UnionBank.Replay
import UnionBank.Visits
import UnionBank.Freezing
import UnionBank.Amortisation

/-!
# Notifications

After its commit a service runs `NOTIFICATION_BREAKER.call(self.notif_service.notify_x)(…)`: the breaker calls the method
with no argument, and what it returns would be called with the arguments. Every method has a parameter without a
default, so that the breaker counts a failure each time, no method is invoked, and the exception is swallowed.

- `NotifyMethod`, `Notice`: the methods of `NotificationService` and the calls that the services write;
- `CircuitBreaker`: the breaker, and `CircuitBreaker.Documented`: what it promises;
- `Outbox`: the breaker and the invocations so far; `NotifyingBank`: a bank with one, `Notifies`: what a run of visits
  should tell;
- `Bank.Lands`: a visit that passes every check on the store it finds, and whose changes the tables take;
- `notifies_iff`: what should be told is told in the runs with nothing to tell.
-/

namespace UnionBank

open Keyed Programs Prog TransactionService

set_option linter.unusedSectionVars false

variable {D : Type}

/-! ## The methods and the breaker -/

/-- The methods of `NotificationService` that the services call. -/
inductive NotifyMethod where
  | welcome
  | deposit
  | withdraw
  | transferSent
  | transferReceived
  | interest
  | accountFrozen
  | accountUnfrozen
  | loanApproved
  | loanRejected
  | emiPaid
  | loanClosed
deriving DecidableEq

namespace NotifyMethod

/-- The number of parameters besides `self`. -/
def parameters : NotifyMethod → ℕ
  | welcome => 1
  | deposit => 4
  | withdraw => 4
  | transferSent => 5
  | transferReceived => 5
  | interest => 4
  | accountFrozen => 2
  | accountUnfrozen => 1
  | loanApproved => 4
  | loanRejected => 4
  | emiPaid => 5
  | loanClosed => 3

/-- The number of parameters with a default: the `reason`, where there is one. -/
def defaults : NotifyMethod → ℕ
  | accountFrozen => 1
  | loanRejected => 1
  | _ => 0

/-- A method runs on so many arguments; on another number Python raises a `TypeError`. -/
def takes (m : NotifyMethod) (count : ℕ) : Bool := m.parameters - m.defaults ≤ count && count ≤ m.parameters

end NotifyMethod

/-- An argument of a method. -/
inductive NoticeArg (D : Type) where
  | text (value : String)
  | amount (value : D)
deriving DecidableEq

/-- A method and its arguments, in the order of its parameters. -/
structure Notice (D : Type) where
  method : NotifyMethod
  args : List (NoticeArg D)
deriving DecidableEq

/-- `pybreaker.CircuitBreaker`: whether it lets a call through, and its state after a failure and after a success. -/
structure CircuitBreaker (S : Type) where
  fresh : S
  isOpen : S → Bool
  admits : S → Time → Bool
  failed : S → Time → S
  succeeded : S → Time → S

/-- It admits calls as long as it is not open, counts their failures, and opens at `failMax` of them. -/
structure CircuitBreaker.Documented {S : Type} (b : CircuitBreaker S) (failMax : ℕ) (failures : S → ℕ) : Prop where
  fresh_closed : b.isOpen b.fresh = false
  fresh_failures : failures b.fresh = 0
  admits_closed : ∀ s now, b.isOpen s = false → b.admits s now = true
  counts : ∀ s now, b.isOpen s = false → failures (b.failed s now) = failures s + 1
  opens : ∀ s now, b.isOpen s = false → b.isOpen (b.failed s now) = decide (failMax ≤ failures s + 1)

/-- `fail_max` of `NOTIFICATION_BREAKER`. -/
def failMax : ℕ := 5

/-- The state of `NOTIFICATION_BREAKER`, and the invocations of the methods so far. -/
structure Outbox (S D : Type) where
  breaker : S
  sent : List (Notice D)

namespace Outbox

variable {S : Type} (b : CircuitBreaker S) (now : Time)

/-- `CircuitBreaker.call(f, *args)`: whether it returns, and the outbox after it. -/
def call (method : NotifyMethod) (args : List (NoticeArg D)) (o : Outbox S D) : Bool × Outbox S D :=
  if b.admits o.breaker now then
    if method.takes args.length then (true, ⟨b.succeeded o.breaker now, o.sent ++ [⟨method, args⟩]⟩)
    else (false, { o with breaker := b.failed o.breaker now })
  else (false, o)

/-- `NOTIFICATION_BREAKER.call(f)(*args)`. It raises in any case: what the breaker raises, or the `TypeError` of calling
the `Notification` that it returns. -/
def attempt (notice : Notice D) (o : Outbox S D) : Bool × Outbox S D := (false, (o.call b now notice.method []).2)

/-- A `try` block of notices: it stops at the first exception, which is logged. -/
def tryAll : List (Notice D) → Outbox S D → Outbox S D
  | [], o => o
  | notice :: rest, o => match o.attempt b now notice with
    | (true, o) => tryAll rest o
    | (false, o) => o

end Outbox

/-! ## What the services tell -/

/-- The answer is that of the record of the key. -/
def Request.cached (db : Db D) : Request D → Bool
  | .deposit _ _ _ key | .withdraw _ _ _ key => (db.kept key).isSome
  | .transfer _ _ _ _ key => ((db.kept key).bind IdempotencyRecord.resultJson).isSome
  | _ => false

/-- Deposits, withdrawals, transfers, interest, loan decisions, repayments, freezing and unfreezing. -/
def Request.told : Request D → Bool
  | .deposit .. | .withdraw .. | .transfer .. | .applyInterest .. | .approveLoan .. | .rejectLoan .. | .payEmi ..
  | .freezeAccount .. | .unfreezeAccount .. => true
  | _ => false

section Notices

variable [Zero D] [Add D] [Sub D] [LE D] [LT D] [DecidableLE D] [DecidableLT D] (env : Env D)

/-- The notices of the `try` block that follows the last commit of a request, on the store that it has found. -/
def Request.notices (draws : Draws) (db : Db D) : Request D → List (Notice D)
  | .deposit accNo amount _ _ => match db.liveAccount? accNo with
    | some account =>
      [⟨.deposit, [.text accNo, .amount amount, .amount (account.balance + amount), .text draws.txnId]⟩]
    | none => []
  | .withdraw accNo amount _ _ => match db.liveAccount? accNo with
    | some account =>
      [⟨.withdraw, [.text accNo, .amount amount, .amount (account.balance - amount), .text draws.txnId]⟩]
    | none => []
  | .transfer senderAccNo receiverAccNo amount _ _ =>
    match db.liveAccount? senderAccNo, db.liveAccount? receiverAccNo with
    | some sender, some receiver =>
      [⟨.transferSent, [.text senderAccNo, .amount amount, .text receiverAccNo, .amount (sender.balance - amount),
          .text draws.txnId]⟩,
        ⟨.transferReceived, [.text receiverAccNo, .amount amount, .text senderAccNo,
          .amount (receiver.balance + amount), .text draws.txnId']⟩]
    | _, _ => []
  | .applyInterest accNo => match db.liveAccount? accNo with
    | some account =>
      let interest := env.calculateMonthlyInterest account.balance
      [⟨.interest, [.text accNo, .amount interest, .amount (account.balance + interest), .text draws.txnId]⟩]
    | none => []
  | .approveLoan loanId _ => match db.loans.find? loanId with
    | some loan =>
      [⟨.loanApproved, [.text loan.accountNumber, .amount loan.principalAmount, .text loan.loanType,
        .text loan.loanId]⟩]
    | none => []
  | .rejectLoan loanId reason _ => match db.loans.find? loanId with
    | some loan =>
      [⟨.loanRejected, [.text loan.accountNumber, .text loan.loanType, .text loan.loanId, .text reason]⟩]
    | none => []
  | .payEmi accNo loanId amount => match db.loans.find? loanId with
    | some loan =>
      let payment := amount.getD loan.emiAmount
      let actualPayment := if loan.remainingAmount < payment then loan.remainingAmount else payment
      let after := LoanService.paid loan actualPayment draws.now
      ⟨.emiPaid, [.text accNo, .amount actualPayment, .text loan.loanType, .text loan.loanId,
          .amount after.remainingAmount]⟩ ::
        if after.status = .closed then [⟨.loanClosed, [.text accNo, .text loan.loanType, .text loan.loanId]⟩] else []
    | none => []
  | .freezeAccount accNo _ reason => [⟨.accountFrozen, [.text accNo, .text (reason.getD "")]⟩]
  | .unfreezeAccount accNo _ _ => [⟨.accountUnfrozen, [.text accNo]⟩]
  | _ => []

/-- The notices of a visit: of a service call, and the welcome of a registration. -/
def Visit.notices (db : Db D) : Visit D → List (Notice D)
  | call c => c.request.notices env c.draws db
  | register accNo .. => [⟨.welcome, [.text accNo]⟩]
  | _ => []

end Notices

namespace Visit

/-- The clock of a visit that notifies. -/
def now : Visit D → Time
  | call c => c.draws.now
  | register _ _ _ _ _ _ _ now => now
  | _ => 0

/-- Visits that the bank owes a notice for. -/
def told : Visit D → Bool
  | call c => c.request.told
  | _ => false

/-- The answer is that of a record. -/
def cached (db : Db D) : Visit D → Bool
  | call c => c.request.cached db
  | _ => false

end Visit

/-- The visit was answered with a success. -/
def succeeded : Except Exn (Answer D) → Bool
  | .ok (.reply reply) => reply.success
  | _ => false

section Runs

variable {S : Type} [Zero D] [Add D] [Sub D] [LE D] [LT D] [DecidableEq D] [DecidableLE D] [DecidableLT D]
variable (env : Env D) (checks : Checks) (B : Backend D) (b : CircuitBreaker S)

/-- The visit is carried out: it succeeds, and not from a record. -/
def Bank.carriesOut (bank : Bank D) (tv : ℕ × Visit D) : Bool :=
  succeeded (bank.attend env checks B tv.1 tv.2).1 && !tv.2.cached bank.db

/-- A bank whose services share a breaker. -/
structure NotifyingBank (S D : Type) where
  bank : Bank D
  outbox : Outbox S D

/-- A bank with a fresh breaker. -/
def NotifyingBank.opened (bank : Bank D) : NotifyingBank S D := ⟨bank, b.fresh, []⟩

/-- A visit, and the notices of one that is carried out. -/
def NotifyingBank.attend (nb : NotifyingBank S D) (tv : ℕ × Visit D) : NotifyingBank S D where
  bank := (nb.bank.attend env checks B tv.1 tv.2).2
  outbox := if nb.bank.carriesOut env checks B tv
    then nb.outbox.tryAll b tv.2.now (tv.2.notices env nb.bank.db)
    else nb.outbox

/-- Every visit that is carried out has its own notices sent, each once, and the breaker is never open. -/
def NotifyingBank.Notifies (nb : NotifyingBank S D) : List (ℕ × Visit D) → Prop
  | [] => True
  | tv :: visits =>
    let nb' := nb.attend env checks B b tv
    (tv.2.told = true → nb.bank.carriesOut env checks B tv = true →
      nb'.outbox.sent = nb.outbox.sent ++ tv.2.notices env nb.bank.db) ∧
    b.isOpen nb'.outbox.breaker = false ∧ nb'.Notifies visits

/-! ## The visits that have something to tell -/

/-- The visit passes its checks on an active session and not from a record, and the tables take what it writes. -/
def Bank.Lands (bank : Bank D) (tv : ℕ × Visit D) : Prop :=
  (bank.sessions tv.1).inactive = false ∧ tv.2.cached bank.db = false ∧
    ∃ cs db', tv.2.Writes env bank.db cs ∧ flush B cs bank.db = .ok db'

/-- The visit is a registration, of an account that the tables take. -/
def Bank.registers (bank : Bank D) (tv : ℕ × Visit D) : Bool :=
  match tv.2 with
  | .register accNo name age gender mobile email password now =>
    !(bank.sessions tv.1).inactive && (flush B [.insert (.account ⟨accNo, name, age, gender, mobile, email,
      env.hashPassword password, env.ofCents 0, true, false, now, none⟩)] bank.db).isOk
  | _ => false

/-- The registrations of a run. -/
def Bank.registrations (bank : Bank D) : List (ℕ × Visit D) → ℕ
  | [] => 0
  | tv :: visits => (if bank.registers env B tv then 1 else 0) +
      (bank.attend env checks B tv.1 tv.2).2.registrations visits

end Runs

/-! ## What is carried out -/

section Carried

variable [AddCommGroup D] [LinearOrder D] [IsOrderedAddMonoid D] {env : Env D} {B : Backend D} {draws : Draws} {db : Db D}

/-- A request that passes its checks has something to tell. -/
theorem notices_ne_nil {request : Request D} {cs : List (Change D)} (posts : Posts env draws db request cs)
    (told : request.told = true) : request.notices env draws db ≠ [] := by
  cases posts with
  | deposit positive live can => simp [Request.notices, live]
  | withdraw positive live can covered => simp [Request.notices, live]
  | transfer positive distinct liveSender liveReceiver => simp [Request.notices, liveSender, liveReceiver]
  | applyInterest live => simp [Request.notices, live]
  | approveLoan found => simp [Request.notices, found]
  | rejectLoan found => simp [Request.notices, found]
  | payEmi found => simp [Request.notices, found]
  | freezeAccount => simp [Request.notices]
  | unfreezeAccount => simp [Request.notices]
  | _ => cases told

/-- What a movement posts has passed its checks, and the other way round. -/
theorem posts_order {o : Order D} {key : Option String} {cs : List (Change D)} :
    Posts env draws db (o.request key) cs ↔
      o.refusal = none ∧ ∃ posting, o.post env draws db = .ok posting ∧ posting.changes = cs := by
  constructor
  · intro posts
    cases o with
    | deposit accNo amount category =>
      cases posts with
      | @deposit _ _ _ _ account positive live can =>
        refine ⟨if_neg positive, depositPosting env draws account accNo amount category, ?_, rfl⟩
        simp only [Order.post, live, can]
        rfl
    | withdraw accNo amount category =>
      cases posts with
      | @withdraw _ _ _ _ account positive live can covered =>
        have above : ¬account.balance - amount < 0 := by simpa using covered
        refine ⟨if_neg positive, withdrawPosting env draws account accNo amount category, ?_, rfl⟩
        simp only [Order.post, live, can, covered, above]
        rfl
    | transfer senderAccNo receiverAccNo amount category =>
      cases posts with
      | @transfer _ _ _ _ _ sender receiver positive distinct liveSender liveReceiver canSender canReceiver covered =>
        have above : ¬sender.balance - amount < 0 := by simpa using covered
        refine ⟨(if_neg positive).trans (if_neg distinct),
          transferPosting env draws sender receiver senderAccNo receiverAccNo amount category, ?_, rfl⟩
        simp only [Order.post, liveSender, liveReceiver, canSender, canReceiver, covered, above]
        rfl
  · rintro ⟨asked, posting, post, rfl⟩
    cases o with
    | deposit accNo amount category =>
      have positive : ¬amount ≤ 0 := fun negative => by simp [Order.refusal, negative] at asked
      simp only [Order.post] at post
      split at post
      · cases post
      rename_i live
      split at post
      · cases post
      rename_i can
      cases post
      exact .deposit positive live (by simpa using can)
    | withdraw accNo amount category =>
      have positive : ¬amount ≤ 0 := fun negative => by simp [Order.refusal, negative] at asked
      simp only [Order.post] at post
      split at post
      · cases post
      rename_i live
      split at post
      · cases post
      rename_i can
      split at post
      · cases post
      rename_i covered
      split at post
      · cases post
      cases post
      exact .withdraw positive live (by simpa using can) covered
    | transfer senderAccNo receiverAccNo amount category =>
      have positive : ¬amount ≤ 0 := fun negative => by simp [Order.refusal, negative] at asked
      have distinct : senderAccNo ≠ receiverAccNo := fun own => by simp [Order.refusal, positive, own] at asked
      simp only [Order.post] at post
      split at post
      · cases post
      · cases post
      rename_i liveSender liveReceiver
      split at post
      · cases post
      rename_i canSender
      split at post
      · cases post
      rename_i canReceiver
      split at post
      · cases post
      rename_i covered
      split at post
      · cases post
      cases post
      exact .transfer positive distinct liveSender liveReceiver (by simpa using canSender) (by simpa using canReceiver)
        covered

/-- A movement that no record answers succeeds exactly when it passes its checks and the tables take its changes. -/
theorem tell_success {o : Order D} {key : Option String} (new : (o.request key).cached db = false) :
    succeeds (tell env B draws db false key o).reply = true ↔
      ∃ cs db', Posts env draws db (o.request key) cs ∧ flush B cs db = .ok db' := by
  have nothing : ((db.kept key).bind fun record => o.replay record) = none := by
    cases o with
    | deposit =>
      have none_ : db.kept key = none := by simpa [Order.request, Request.cached] using new
      rw [none_]
      rfl
    | withdraw =>
      have none_ : db.kept key = none := by simpa [Order.request, Request.cached] using new
      rw [none_]
      rfl
    | transfer =>
      have none_ : (db.kept key).bind IdempotencyRecord.resultJson = none := by
        simpa [Order.request, Request.cached] using new
      cases kept : db.kept key with
      | none => rfl
      | some record =>
        rw [kept, Option.bind_some] at none_
        simp [Order.replay, none_]
  cases refusal : o.refusal with
  | some reply =>
    rw [tell_refused refusal]
    have refused : reply.success = false := refusal_fails refusal
    constructor
    · intro success
      have success : reply.success = true := success
      rw [refused] at success
      cases success
    · rintro ⟨cs, db', posts, -⟩
      rw [(posts_order.mp posts).1] at refusal
      cases refusal
  | none =>
    rw [tell_executed refusal nothing]
    cases post : o.post env draws db with
    | error r =>
      rw [execute_stopped post]
      constructor
      · intro success
        rw [post_stopped post] at success
        cases success
      · rintro ⟨cs, db', posts, -⟩
        obtain ⟨posting, posted, -⟩ := (posts_order.mp posts).2
        rw [posted] at post
        cases post
    | ok posting =>
      cases flushed : flush B posting.changes db with
      | error e =>
        rw [execute_failed post flushed]
        constructor
        · intro success
          cases o <;> cases success
        · rintro ⟨cs, db', posts, flushed'⟩
          obtain ⟨posting', posted, rfl⟩ := (posts_order.mp posts).2
          rw [post] at posted
          cases posted
          rw [flushed] at flushed'
          cases flushed'
      | ok db' =>
        rw [execute_posted post flushed]
        have success : posting.reply.success = true := (books_of_post post).success
        constructor
        · intro _
          exact ⟨posting.changes, db', posts_order.mpr ⟨refusal, posting, post, rfl⟩, flushed⟩
        · intro _
          exact success

/-- A success is a posting that the tables take. -/
def Taken (env : Env D) (B : Backend D) (draws : Draws) (db : Db D) (request : Request D) (r : Except Exn (Reply D)) : Prop :=
  succeeds r = true ↔ ∃ cs db', Posts env draws db request cs ∧ flush B cs db = .ok db'

section Taken

variable {request : Request D} {r : Except Exn (Reply D)}

/-- A refusal, of what does not pass the checks or what the tables do not take. -/
theorem Taken.refused (failure : succeeds r = false)
    (nothing : ∀ {cs db'}, Posts env draws db request cs → flush B cs db = .ok db' → False) :
    Taken env B draws db request r := by
  constructor
  · intro success
    rw [failure] at success
    cases success
  · rintro ⟨cs, db', posts, flushed⟩
    exact (nothing posts flushed).elim

theorem Taken.done {cs : List (Change D)} {db' : Db D} (success : succeeds r = true)
    (posts : Posts env draws db request cs) (flushed : flush B cs db = .ok db') : Taken env B draws db request r :=
  ⟨fun _ => ⟨cs, db', posts, flushed⟩, fun _ => success⟩

end Taken

variable (env B draws db)

theorem applyInterest_taken (accNo : String) :
    wp (runs B) (Request.prog env draws (.applyInterest accNo))
      (fun r _ => Taken env B draws db (.applyInterest accNo) r) (db, {}) := by
  simp only [Request.prog, TransactionService.applyInterest, wp_bind, wp_accountRepo_get, andThen_ok,
    Session.account?_nil]
  cases live : db.liveAccount? accNo with
  | none =>
    refine .refused rfl fun posts _ => ?_
    cases posts with
    | applyInterest live' => rw [live] at live'; cases live'
  | some account =>
    simp only
    split
    · rename_i cannot
      refine .refused rfl fun posts _ => ?_
      cases posts with
      | applyInterest live' can => rw [live] at live'; cases live'; simp [can] at cannot
    rename_i can
    split
    · rename_i negative
      refine .refused rfl fun posts _ => ?_
      cases posts with
      | applyInterest live' _ positive => rw [live] at live'; cases live'; exact positive negative
    rename_i positive
    simp only [wp_bind, wp_accountRepo_update, wp_txnRepo_create, andThen_ok]
    rw [List.nil_append, staged_withBalance live (by simp)]
    have posts : Posts env draws db (.applyInterest accNo) _ := .applyInterest live (by simpa using can) positive
    refine wp_commit B _ (fun db₁ flushed => .done rfl posts flushed) fun e failed => ?_
    refine .refused rfl fun posts flushed => ?_
    cases posts with
    | applyInterest live' =>
      rw [live] at live'; cases live'
      have flushed' := flushed.symm.trans failed
      cases flushed'

theorem approveLoan_taken (loanId adminUser : String) :
    wp (runs B) (Request.prog env draws (.approveLoan loanId adminUser))
      (fun r _ => Taken env B draws db (.approveLoan loanId adminUser) r) (db, {}) := by
  simp only [Request.prog, LoanService.approveLoan, wp_bind, wp_loanRepo_get, andThen_ok, Session.loan?_nil]
  cases found : db.loans.find? loanId with
  | none =>
    refine .refused rfl fun posts _ => ?_
    cases posts with
    | approveLoan found' => rw [found] at found'; cases found'
  | some loan =>
    simp only
    split
    · rename_i decided
      refine .refused rfl fun posts _ => ?_
      cases posts with
      | approveLoan found' pending => rw [found] at found'; cases found'; exact decided pending
    rename_i pending
    simp only [wp_bind, wp_accountRepo_get, andThen_ok, Session.account?_nil]
    cases live : db.liveAccount? loan.accountNumber with
    | none =>
      refine .refused rfl fun posts _ => ?_
      cases posts with
      | approveLoan found' _ live' => rw [found] at found'; cases found'; rw [live] at live'; cases live'
    | some account =>
      simp only
      split
      · rename_i cannot
        refine .refused rfl fun posts _ => ?_
        cases posts with
        | approveLoan found' _ live' can =>
          rw [found] at found'; cases found'; rw [live] at live'; cases live'; simp [can] at cannot
      rename_i can
      simp only [wp_bind, wp_loanRepo_update, wp_accountRepo_update, wp_txnRepo_create, andThen_ok]
      have hid : loan.loanId = loanId := Table.key_of_find? found
      rw [List.nil_append, staged_updateLoan loan (LoanService.approved loan draws.now)
        (by simpa [LoanService.approved, hid] using found) rfl rfl, staged_withBalance live (by simp [Change.onAccount])]
      have posts : Posts env draws db (.approveLoan loanId adminUser) _ :=
        .approveLoan found (by simpa using pending) live (by simpa using can)
      refine wp_commit B _ (fun db₁ flushed => ?_) fun e failed => ?_
      · simp only [andThen_ok, wp_bind]
        exact wp_auditLog B fun db' hl => .done rfl posts flushed
      · refine .refused rfl fun posts flushed => ?_
        cases posts with
        | approveLoan found' _ live' =>
          rw [found] at found'; cases found'; rw [live] at live'; cases live'
          have flushed' := flushed.symm.trans failed
          cases flushed'

theorem rejectLoan_taken (loanId reason adminUser : String) :
    wp (runs B) (Request.prog env draws (.rejectLoan loanId reason adminUser))
      (fun r _ => Taken env B draws db (.rejectLoan loanId reason adminUser) r) (db, {}) := by
  simp only [Request.prog, LoanService.rejectLoan, wp_bind, wp_loanRepo_get, andThen_ok, Session.loan?_nil]
  cases found : db.loans.find? loanId with
  | none =>
    refine .refused rfl fun posts _ => ?_
    cases posts with
    | rejectLoan found' => rw [found] at found'; cases found'
  | some loan =>
    simp only
    split
    · rename_i decided
      refine .refused rfl fun posts _ => ?_
      cases posts with
      | rejectLoan found' pending => rw [found] at found'; cases found'; exact decided pending
    rename_i pending
    simp only [wp_bind, wp_loanRepo_update, andThen_ok]
    have hid : loan.loanId = loanId := Table.key_of_find? found
    rw [List.nil_append, staged_updateLoan loan (LoanService.rejected loan reason)
      (by simpa [LoanService.rejected, hid] using found) rfl rfl]
    have posts : Posts env draws db (.rejectLoan loanId reason adminUser) _ :=
      .rejectLoan found (by simpa using pending)
    refine wp_commit B _ (fun db₁ flushed => ?_) fun e failed => ?_
    · simp only [andThen_ok, wp_bind]
      exact wp_auditLog B fun db' hl => .done rfl posts flushed
    · refine .refused rfl fun posts flushed => ?_
      cases posts with
      | rejectLoan found' =>
        rw [found] at found'; cases found'
        have flushed' := flushed.symm.trans failed
        cases flushed'

theorem payEmi_taken (accNo loanId : String) (amount : Option D) :
    wp (runs B) (Request.prog env draws (.payEmi accNo loanId amount))
      (fun r _ => Taken env B draws db (.payEmi accNo loanId amount) r) (db, {}) := by
  simp only [Request.prog, LoanService.payEmi, wp_bind, wp_loanRepo_get, andThen_ok, Session.loan?_nil]
  cases found : db.loans.find? loanId with
  | none =>
    refine .refused rfl fun posts _ => ?_
    cases posts with
    | payEmi found' => rw [found] at found'; cases found'
  | some loan =>
    simp only
    split
    · rename_i idle
      refine .refused rfl fun posts _ => ?_
      cases posts with
      | payEmi found' running => rw [found] at found'; cases found'; exact running idle
    rename_i running
    split
    · rename_i foreign
      refine .refused rfl fun posts _ => ?_
      cases posts with
      | payEmi found' _ owner => rw [found] at found'; cases found'; exact foreign owner
    rename_i owner
    simp only [wp_bind, wp_accountRepo_get, andThen_ok, Session.account?_nil]
    cases live : db.liveAccount? accNo with
    | none =>
      refine .refused rfl fun posts _ => ?_
      cases posts with
      | payEmi _ _ _ live' => rw [live] at live'; cases live'
    | some account =>
      simp only
      split
      · rename_i cannot
        refine .refused rfl fun posts _ => ?_
        cases posts with
        | payEmi _ _ _ live' can => rw [live] at live'; cases live'; simp [can] at cannot
      rename_i can
      split
      · rename_i negative
        refine .refused rfl fun posts _ => ?_
        cases posts with
        | payEmi found' _ _ _ _ asked positive =>
          rw [found] at found'; cases found'; subst asked; exact positive negative
      rename_i positive
      split
      · rename_i short
        refine .refused rfl fun posts _ => ?_
        cases posts with
        | payEmi found' _ _ live' _ asked _ covered =>
          rw [found] at found'; cases found'; rw [live] at live'; cases live'; subst asked; exact covered short
      rename_i covered
      simp only [wp_bind, wp_loanRepo_update, wp_accountRepo_update, wp_txnRepo_create, andThen_ok]
      rw [List.nil_append, staged_withBalance live (by simp), staged_updateLoan loan _
        (by simpa [Session.loan?, Session.ownLoan, Table.key_of_find? found] using found) (by simp) (by simp)]
      simp only [LoanService.paid_loanId, LoanService.paid_loanType]
      have posts : Posts env draws db (.payEmi accNo loanId amount) _ :=
        .payEmi found running (by simpa using owner) live (by simpa using can) rfl positive covered rfl
      refine wp_commit B _ (fun db₁ flushed => .done rfl posts flushed) fun e failed => ?_
      refine .refused rfl fun posts flushed => ?_
      cases posts with
      | payEmi found' _ _ live' _ asked _ _ least =>
        rw [found] at found'; cases found'; rw [live] at live'; cases live'; subst asked; subst least
        have flushed' := flushed.symm.trans failed
        cases flushed'

theorem freezeAccount_taken (accNo actor : String) (reason : Option String) :
    wp (runs B) (Request.prog env draws (.freezeAccount accNo actor reason))
      (fun r _ => Taken env B draws db (.freezeAccount accNo actor reason) r) (db, {}) := by
  simp only [Request.prog, AdminService.freezeAccount, wp_bind, wp_accountRepo_get, andThen_ok, Session.account?_nil]
  cases live : db.liveAccount? accNo with
  | none =>
    refine .refused rfl fun posts _ => ?_
    cases posts with
    | freezeAccount live' => rw [live] at live'; cases live'
  | some account =>
    simp only
    split
    · rename_i closed
      refine .refused rfl fun posts _ => ?_
      cases posts with
      | freezeAccount live' open_ => rw [live] at live'; cases live'; exact open_ closed
    rename_i open_
    split
    · rename_i frozen
      refine .refused rfl fun posts _ => ?_
      cases posts with
      | freezeAccount live' _ thawed => rw [live] at live'; cases live'; exact thawed frozen
    rename_i thawed
    simp only [wp_bind, wp_accountRepo_setFrozen, wp_accountRepo_setActive, andThen_ok]
    have hn := Ledger.accountNumber_of_live live
    simp only [Query.staged, List.nil_append, Session.account?, Session.ownAccount, live, Option.map_some,
      List.foldl_cons, List.foldl_nil, if_true, List.singleton_append]
    have posts : Posts env draws db (.freezeAccount accNo actor reason) _ := .freezeAccount live open_ thawed
    refine wp_commit B _ (fun db₁ flushed => ?_) fun e failed => ?_
    · simp only [andThen_ok, wp_bind]
      exact wp_auditLog B fun db' hl => .done rfl posts flushed
    · refine .refused rfl fun posts flushed => ?_
      cases posts with
      | freezeAccount live' =>
        rw [live] at live'; cases live'
        have flushed' := flushed.symm.trans failed
        cases flushed'

theorem unfreezeAccount_taken (accNo actor : String) (reason : Option String) :
    wp (runs B) (Request.prog env draws (.unfreezeAccount accNo actor reason))
      (fun r _ => Taken env B draws db (.unfreezeAccount accNo actor reason) r) (db, {}) := by
  simp only [Request.prog, AdminService.unfreezeAccount, wp_bind, wp_accountRepo_get, andThen_ok, Session.account?_nil]
  cases live : db.liveAccount? accNo with
  | none =>
    refine .refused rfl fun posts _ => ?_
    cases posts with
    | unfreezeAccount live' => rw [live] at live'; cases live'
  | some account =>
    simp only
    split
    · rename_i thawed
      refine .refused rfl fun posts _ => ?_
      cases posts with
      | unfreezeAccount live' frozen => rw [live] at live'; cases live'; simp [frozen] at thawed
    rename_i frozen
    simp only [wp_bind, wp_accountRepo_setFrozen, andThen_ok, Query.staged, List.nil_append, Session.account?_nil, live]
    have posts : Posts env draws db (.unfreezeAccount accNo actor reason) _ := .unfreezeAccount live (by simpa using frozen)
    refine wp_commit B _ (fun db₁ flushed => ?_) fun e failed => ?_
    · simp only [andThen_ok, wp_bind]
      exact wp_auditLog B fun db' hl => .done rfl posts flushed
    · refine .refused rfl fun posts flushed => ?_
      cases posts with
      | unfreezeAccount live' =>
        rw [live] at live'; cases live'
        have flushed' := flushed.symm.trans failed
        cases flushed'

/-- A request that is owed a notice, from a clean session and without a record. -/
theorem told_taken {request : Request D} (told : request.told = true) (new : request.cached db = false) :
    Taken env B draws db request (exec (handle B) (Request.prog env draws request) (db, {})).1 := by
  have order : ∀ (o : Order D) (key : Option String), (o.request key).cached db = false →
      Taken env B draws db (o.request key) (exec (handle B) (Request.prog env draws (o.request key)) (db, {})).1 := by
    intro o key new
    have computed := exec_order env B draws db false key o
    rw [computed]
    exact tell_success new
  cases request with
  | deposit accNo amount category key => exact order (.deposit accNo amount category) key new
  | withdraw accNo amount category key => exact order (.withdraw accNo amount category) key new
  | transfer sender receiver amount category key => exact order (.transfer sender receiver amount category) key new
  | applyInterest accNo => exact (wp_handler _ _ _ _).mp (applyInterest_taken env B draws db accNo)
  | approveLoan loanId adminUser => exact (wp_handler _ _ _ _).mp (approveLoan_taken env B draws db loanId adminUser)
  | rejectLoan loanId reason adminUser =>
    exact (wp_handler _ _ _ _).mp (rejectLoan_taken env B draws db loanId reason adminUser)
  | payEmi accNo loanId amount => exact (wp_handler _ _ _ _).mp (payEmi_taken env B draws db accNo loanId amount)
  | freezeAccount accNo actor reason =>
    exact (wp_handler _ _ _ _).mp (freezeAccount_taken env B draws db accNo actor reason)
  | unfreezeAccount accNo actor reason =>
    exact (wp_handler _ _ _ _).mp (unfreezeAccount_taken env B draws db accNo actor reason)
  | _ => cases told

/-- An inactive session lets nothing through. -/
theorem told_inactive {request : Request D} (told : request.told = true) (pending : List (Change D)) (savepoint : Option ℕ) :
    succeeds (exec (handle B) (Request.prog env draws request) (db, ⟨pending, true, savepoint, []⟩)).1 = false := by
  cases request with
  | applyInterest => rfl
  | approveLoan => rfl
  | rejectLoan => rfl
  | payEmi => rfl
  | freezeAccount => rfl
  | unfreezeAccount => rfl
  | deposit accNo amount category key =>
    refine (wp_handler (handle B) _ (fun r _ => succeeds r = false) _).mp ?_
    unfold Request.prog deposit
    rw [wp_bind]
    split
    · rfl
    rw [wp_bind, wp_checkIdempotency_inactive]
    split
    · rfl
    rw [andThen_ok, wp_bind]
    refine wp_accountLock B ?_
    simp only [depositLocked, wp_bind, accountRepo.get]
    rw [wp_ask_inactive]
    exact ⟨rfl, rfl⟩
  | withdraw accNo amount category key =>
    refine (wp_handler (handle B) _ (fun r _ => succeeds r = false) _).mp ?_
    unfold Request.prog withdraw
    rw [wp_bind]
    split
    · rfl
    rw [wp_bind, wp_checkIdempotency_inactive]
    split
    · rfl
    rw [andThen_ok, wp_bind]
    refine wp_accountLock B ?_
    simp only [withdrawLocked, wp_bind, accountRepo.get]
    rw [wp_ask_inactive]
    exact ⟨rfl, rfl⟩
  | transfer sender receiver amount category key =>
    refine (wp_handler (handle B) _ (fun r _ => succeeds r = false) _).mp ?_
    unfold Request.prog transfer
    rw [wp_bind]
    split
    · rfl
    split
    · rfl
    rw [wp_bind, wp_cachedTransfer_inactive]
    split
    · rfl
    rw [andThen_ok, wp_bind, wp_tryCatch]
    refine wp_accountLock B ?_
    simp only [transferLocked, wp_bind, accountRepo.get]
    rw [wp_ask_inactive]
    exact ⟨rfl, rfl⟩
  | _ => cases told

end Carried

/-! ## Runs -/

section Telling

variable {S : Type} [AddCommGroup D] [LinearOrder D] [IsOrderedAddMonoid D]
variable {env : Env D} {checks : Checks} {B : Backend D} {b : CircuitBreaker S} {bank : Bank D}

theorem succeeded_call (thread : ℕ) (c : Call D) :
    succeeded (bank.attend env checks B thread (.call c)).1 = succeeds (bank.serve env B thread c).1 := by
  simp only [Bank.attend, Bank.serve, Visit.prog, exec_bind]
  rcases exec (handle B) (c.prog env) (bank.db, bank.sessions thread) with ⟨_ | _, _, _⟩ <;> rfl

variable (checks) in
/-- A visit that is owed a notice is carried out exactly when it lands. -/
theorem carriesOut_iff (idle : bank.Idle) {tv : ℕ × Visit D} (told : tv.2.told = true) :
    bank.carriesOut env checks B tv = true ↔ bank.Lands env B tv := by
  obtain ⟨thread, v⟩ := tv
  cases v with
  | call c =>
    have told : c.request.told = true := told
    have rest := idle thread
    have writes : ∀ cs, (Visit.call c).Writes env bank.db cs ↔ Posts env c.draws bank.db c.request cs := by
      intro cs
      constructor
      · rintro ⟨posts⟩
        exact posts
      · exact .call
    simp only [Bank.carriesOut, Bank.Lands, succeeded_call, Bank.serve, Bool.and_eq_true, Bool.not_eq_true', writes]
    rcases hs : bank.sessions thread with ⟨pending, inactive, savepoint, held⟩
    rw [hs] at rest
    obtain rfl : held = [] := rest.held
    cases inactive with
    | true =>
      have fails : succeeds (exec (handle B) (c.prog env) (bank.db, ⟨pending, true, savepoint, []⟩)).1 = false :=
        told_inactive env B c.draws bank.db told pending savepoint
      simp [fails]
    | false =>
      obtain ⟨rfl, rfl⟩ := rest.clean rfl
      cases cached : (Visit.call c).cached bank.db with
      | true => simp
      | false =>
        have taken := told_taken env B c.draws bank.db told cached
        constructor
        · rintro ⟨success, -⟩
          exact ⟨rfl, rfl, taken.mp success⟩
        · rintro ⟨-, -, lands⟩
          exact ⟨taken.mpr lands, rfl⟩
  | _ => cases told

variable (checks) in
/-- A registration is carried out exactly when the tables take the account. -/
theorem carriesOut_register (idle : bank.Idle) (thread : ℕ) (accNo name : String) (age : Int)
    (gender mobile email password : String) (now : Time) :
    bank.carriesOut env checks B (thread, .register accNo name age gender mobile email password now) =
      bank.registers env B (thread, .register accNo name age gender mobile email password now) := by
  have rest := idle thread
  simp only [Bank.carriesOut, Bank.registers, Visit.cached, Bool.not_false, Bool.and_true, Bank.attend]
  rcases hs : bank.sessions thread with ⟨pending, inactive, savepoint, held⟩
  rw [hs] at rest
  obtain rfl : held = [] := rest.held
  cases inactive with
  | true => rfl
  | false =>
    obtain ⟨rfl, rfl⟩ := rest.clean rfl
    refine (wp_handler (handle B) _ (fun r _ => succeeded r = _) _).mp ?_
    have create : ∀ (account : Account D) (Q : Except Exn Unit → Db D × Session D → Prop),
        wp (runs B) (accountRepo.create account) Q (bank.db, {}) =
          Q (.ok ()) (bank.db, ⟨[.insert (.account account)], false, none, []⟩) := fun _ _ => wp_perform ..
    simp only [Visit.prog, AuthService.customerRegister, wp_bind]
    rw [create, andThen_ok, wp_bind]
    refine wp_commit B _ (fun db₁ flushed => ?_) fun e flushed => ?_
    · rw [flushed]
      rfl
    · rw [flushed]
      rfl

/-- Every method has a parameter without a default. -/
theorem takes_nothing (m : NotifyMethod) : m.takes 0 = false := by cases m <;> rfl

/-- A `try` block of notices counts one failure and invokes nothing. -/
theorem tryAll_fails {failures : S → ℕ} (documented : b.Documented failMax failures) {now : Time} {o : Outbox S D}
    (closed : b.isOpen o.breaker = false) {notices : List (Notice D)} (some_ : notices ≠ []) :
    o.tryAll b now notices = { o with breaker := b.failed o.breaker now } := by
  cases notices with
  | nil => exact absurd rfl some_
  | cons notice rest =>
    simp only [Outbox.tryAll, Outbox.attempt, Outbox.call, documented.admits_closed _ now closed, if_true,
      List.length_nil, takes_nothing, Bool.false_eq_true, if_false]

/-- A visit that lands has something to tell. -/
theorem tells_of_lands {tv : ℕ × Visit D} (told : tv.2.told = true) (lands : bank.Lands env B tv) :
    tv.2.notices env bank.db ≠ [] := by
  obtain ⟨thread, v⟩ := tv
  obtain ⟨-, -, cs, db', writes, -⟩ := lands
  cases writes with
  | call posts => exact notices_ne_nil posts told
  | _ => cases told

variable (checks) in
/-- A visit with nothing to tell leaves the outbox. -/
theorem attend_quiet (idle : bank.Idle) {tv : ℕ × Visit D} (silent : tv.2.told = true → ¬bank.Lands env B tv)
    (stranger : bank.registers env B tv = false) (o : Outbox S D) :
    (NotifyingBank.attend env checks B b ⟨bank, o⟩ tv).outbox = o := by
  have nothing : tv.2.notices env bank.db = [] → (NotifyingBank.attend env checks B b ⟨bank, o⟩ tv).outbox = o := by
    intro h
    simp only [NotifyingBank.attend, h, Outbox.tryAll, ite_self]
  obtain ⟨thread, v⟩ := tv
  cases v with
  | call c =>
    by_cases told : c.request.told = true
    · have idles : bank.carriesOut env checks B (thread, .call c) = false := by
        rw [← Bool.not_eq_true, carriesOut_iff checks idle (show (Visit.call c : Visit D).told = true from told)]
        exact silent told
      simp only [NotifyingBank.attend, idles, Bool.false_eq_true, if_false]
    · refine nothing ?_
      show c.request.notices env c.draws bank.db = []
      cases request : c.request <;> rw [request] at told <;> first | rfl | exact absurd rfl told
  | register accNo name age gender mobile email password now =>
    rw [← carriesOut_register checks idle] at stranger
    simp only [NotifyingBank.attend, stranger, Bool.false_eq_true, if_false]
  | updateProfile => exact nothing rfl
  | updateSavingsGoal => exact nothing rfl
  | changePassword => exact nothing rfl

variable (checks) in
/-- A registration that is carried out is a failure of the breaker. -/
theorem attend_register {failures : S → ℕ} (documented : b.Documented failMax failures) (idle : bank.Idle)
    {tv : ℕ × Visit D} (registers : bank.registers env B tv = true) {o : Outbox S D} (closed : b.isOpen o.breaker = false) :
    tv.2.told = false ∧ (NotifyingBank.attend env checks B b ⟨bank, o⟩ tv).outbox =
      { o with breaker := b.failed o.breaker tv.2.now } := by
  obtain ⟨thread, v⟩ := tv
  cases v with
  | register accNo name age gender mobile email password now =>
    refine ⟨rfl, ?_⟩
    rw [← carriesOut_register checks idle] at registers
    simp only [NotifyingBank.attend, registers, if_true]
    exact tryAll_fails documented closed (List.cons_ne_nil _ _)
  | _ => cases registers

variable (env checks B) in
/-- A run from a breaker that is not open. -/
theorem notifies_from {failures : S → ℕ} (documented : b.Documented failMax failures) (visits : List (ℕ × Visit D))
    (idle : bank.Idle) {o : Outbox S D} (closed : b.isOpen o.breaker = false) (few : failures o.breaker < failMax) :
    NotifyingBank.Notifies env checks B b ⟨bank, o⟩ visits ↔
      bank.Throughout env checks B (fun bank tv => tv.2.told = true → ¬bank.Lands env B tv) visits ∧
        failures o.breaker + bank.registrations env checks B visits < failMax := by
  induction visits generalizing bank o with
  | nil => simp only [NotifyingBank.Notifies, Bank.Throughout, Bank.registrations, true_and, add_zero, few]
  | cons tv visits ih =>
    have idle' := (attend_settles env checks B idle tv.1 tv.2).2
    have bank' : ∀ o : Outbox S D, (NotifyingBank.attend env checks B b ⟨bank, o⟩ tv).bank =
        (bank.attend env checks B tv.1 tv.2).2 := fun _ => rfl
    simp only [NotifyingBank.Notifies, Bank.Throughout, Bank.registrations]
    by_cases registers : bank.registers env B tv = true
    · -- a failure more, and the breaker is open if it is the last one
      obtain ⟨told, outbox⟩ := attend_register checks documented idle registers closed
      have opens := documented.opens o.breaker tv.2.now closed
      have counts := documented.counts o.breaker tv.2.now closed
      rw [outbox, if_pos registers]
      simp only [told, Bool.false_eq_true, false_implies, true_and]
      by_cases last : failMax ≤ failures o.breaker + 1
      · rw [opens, decide_eq_true last]
        constructor
        · rintro ⟨open_, -⟩
          cases open_
        · rintro ⟨-, few'⟩
          omega
      · have closed' : b.isOpen (b.failed o.breaker tv.2.now) = false := by rw [opens, decide_eq_false last]
        have rest := ih idle' (o := { o with breaker := b.failed o.breaker tv.2.now }) closed' (by
          show failures (b.failed o.breaker tv.2.now) < failMax
          omega)
        rw [← outbox, ← bank' o] at rest
        rw [show failures (NotifyingBank.attend env checks B b ⟨bank, o⟩ tv).outbox.breaker = failures o.breaker + 1 by
          rw [outbox]; exact counts] at rest
        rw [closed', ← bank' o, ← add_assoc]
        simp only [true_and]
        exact rest
    · rw [if_neg registers, zero_add]
      by_cases silent : tv.2.told = true → ¬bank.Lands env B tv
      · have outbox := attend_quiet checks (b := b) idle silent (by simpa using registers) o
        have rest := ih idle' (o := o) closed few
        constructor
        · rintro ⟨-, -, tells⟩
          rw [show NotifyingBank.attend env checks B b ⟨bank, o⟩ tv = ⟨(bank.attend env checks B tv.1 tv.2).2, o⟩ from
            congrArg _ outbox] at tells
          obtain ⟨all, few'⟩ := rest.mp tells
          exact ⟨⟨silent, all⟩, few'⟩
        · rintro ⟨⟨-, all⟩, few'⟩
          refine ⟨fun told carried => ?_, by rw [outbox]; exact closed, ?_⟩
          · exact absurd ((carriesOut_iff checks idle told).mp carried) (silent told)
          · rw [show NotifyingBank.attend env checks B b ⟨bank, o⟩ tv = ⟨(bank.attend env checks B tv.1 tv.2).2, o⟩ from
              congrArg _ outbox]
            exact rest.mpr ⟨all, few'⟩
      · -- something is carried out, and nothing is sent
        constructor
        · rintro ⟨tells, -⟩
          obtain ⟨told, lands⟩ := Classical.not_imp.mp silent
          have lands : bank.Lands env B tv := not_not.mp lands
          have carried := (carriesOut_iff checks idle told).mpr lands
          have some_ := tells_of_lands told lands
          have sent := tells told carried
          rw [show (NotifyingBank.attend env checks B b ⟨bank, o⟩ tv).outbox =
            { o with breaker := b.failed o.breaker tv.2.now } by
              simp only [NotifyingBank.attend, carried, if_true]
              exact tryAll_fails documented closed some_] at sent
          exact absurd (List.self_eq_append_right.mp sent) some_
        · rintro ⟨⟨silent', -⟩, -⟩
          exact absurd silent' silent

/-- **Notifications**: what should be told is told, with a breaker that never opens, exactly in the runs in which no
operation that should be told lands, and fewer than five registrations are carried out. -/
theorem notifies_iff (env : Env D) (checks : Checks) (B : Backend D) {failures : S → ℕ}
    (documented : b.Documented failMax failures) (idle : bank.Idle) (visits : List (ℕ × Visit D)) :
    NotifyingBank.Notifies env checks B b (.opened b bank) visits ↔
      bank.Throughout env checks B (fun bank tv => tv.2.told = true → ¬bank.Lands env B tv) visits ∧
        bank.registrations env checks B visits < failMax := by
  have few : failures (Outbox.mk (D := D) b.fresh []).breaker < failMax := by
    show failures b.fresh < failMax
    rw [documented.fresh_failures]
    decide
  have main := notifies_from env checks B documented visits idle
    (o := ⟨b.fresh, []⟩) documented.fresh_closed few
  rwa [show failures (Outbox.mk (D := D) b.fresh []).breaker = 0 from documented.fresh_failures, zero_add] at main

end Telling

/-! ## A deposit -/

namespace Sample

/-- A breaker that counts failures up to `failMax`, and tries again after 30 units of the clock. -/
def breaker : CircuitBreaker (ℕ × Option Time) where
  fresh := (0, none)
  isOpen s := s.2.isSome
  admits s now := s.2.all fun since => since + 30 ≤ now
  failed s now := (s.1 + 1, if failMax ≤ s.1 + 1 then some now else none)
  succeeded _ _ := (0, none)

theorem breaker_documented : breaker.Documented failMax Prod.fst where
  fresh_closed := rfl
  fresh_failures := rfl
  admits_closed := by
    rintro ⟨n, since⟩ now closed
    cases since with
    | none => rfl
    | some since => cases closed
  counts _ _ _ := rfl
  opens := by
    rintro ⟨n, since⟩ now -
    show (if failMax ≤ n + 1 then some now else none).isSome = _
    split <;> simp_all

/-- A deposit that is refused. -/
def idleDay : List (ℕ × Visit ℤ) := [(0, .call ⟨.deposit "1001" 0 "General" none, draws 0⟩)]

theorem notifies_idleDay : NotifyingBank.Notifies paiseEnv lenient paise breaker (.opened breaker (bank 10000 5000 0)) idleDay := by
  refine (notifies_iff paiseEnv lenient paise breaker_documented (bank_idle _ _ _) idleDay).mpr ⟨⟨fun _ => ?_, trivial⟩, ?_⟩
  · rintro ⟨-, -, cs, db', writes, -⟩
    cases writes with
    | call posts =>
      cases posts with
      | deposit positive => exact positive (le_refl 0)
  · decide +kernel

/-- A deposit of 25.00. -/
def busyDay : List (ℕ × Visit ℤ) := [(0, .call ⟨.deposit "1001" 2500 "General" none, draws 0⟩)]

theorem deposit_untold :
    ¬NotifyingBank.Notifies paiseEnv lenient paise breaker (.opened breaker (bank 10000 5000 0)) busyDay := by
  rintro ⟨tells, -⟩
  have sent := tells rfl (by decide +kernel)
  revert sent
  decide +kernel

end Sample

end UnionBank
