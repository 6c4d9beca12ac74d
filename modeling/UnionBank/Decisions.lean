import UnionBank.Interleavings
import UnionBank.LoanLedger

/-!
# Decisions on one loan

`approve_loan` and `reject_loan` read the status of the loan and write it with no lock and no condition in between.
One of them at a time decides the loan once (`one_decision`); two of them that have both read a pending loan both
decide it.

- `Decision`: the calls; `Decided`: how one of them ends on its own; `OneDecision`: what there should be in the end.
-/

namespace UnionBank

open Keyed Programs Prog

set_option linter.unusedSectionVars false

/-- A decision on a loan. -/
inductive Decision where
  | approve (adminUser : String) (draws : Draws)
  | reject (reason adminUser : String) (draws : Draws)

namespace Decision

variable {D : Type}

/-- The call. -/
def call (loanId : String) : Decision → Call D
  | approve adminUser draws => ⟨.approveLoan loanId adminUser, draws⟩
  | reject reason adminUser draws => ⟨.rejectLoan loanId reason adminUser, draws⟩

/-- The status it chooses. -/
def status : Decision → LoanStatus
  | approve .. => .active
  | reject .. => .rejected

end Decision

variable {D : Type} [Zero D] [Add D] [Sub D] [LE D] [LT D] [DecidableEq D] [DecidableLE D] [DecidableLT D]

/-! ## A decision on its own -/

section Alone

variable {env : Env D} {B : Backend D} {db db' : Db D} {loanId : String}

/-- The end of a decision: a success with its posting committed, or no success and nothing committed. -/
inductive Decided (env : Env D) (B : Backend D) (c : Call D) (db : Db D) : Except Exn (Reply D) → Db D → Prop
  | made {r : Except Exn (Reply D)} {db₁ db' : Db D} {cs : List (Change D)} (success : succeeds r = true)
      (posts : Posts env c.draws db c.request cs) (flushed : flush B cs db = .ok db₁)
      (ledger : db'.toLedger = db₁.toLedger) : Decided env B c db r db'
  | refused {r : Except Exn (Reply D)} (failure : succeeds r = false) : Decided env B c db r db

variable (env B loanId) in
theorem exec_decision (d : Decision) (db : Db D) : Decided env B (d.call loanId) db
    (exec (handle B) ((d.call loanId).prog env) (db, {})).1 (exec (handle B) ((d.call loanId).prog env) (db, {})).2.1 := by
  refine (wp_handler (handle B) _ (fun r w => Decided env B (d.call loanId) db r w.1) _).mp ?_
  cases d with
  | approve adminUser draws =>
    simp only [Decision.call, Call.prog, Request.prog, LoanService.approveLoan, wp_bind, wp_loanRepo_get, andThen_ok,
      Session.loan?_nil]
    cases found : db.loans.find? loanId with
    | none => exact .refused rfl
    | some loan =>
      simp only
      split
      · exact .refused rfl
      rename_i pending
      simp only [wp_bind, wp_accountRepo_get, andThen_ok, Session.account?_nil]
      cases live : db.liveAccount? loan.accountNumber with
      | none => exact .refused rfl
      | some account =>
        simp only
        split
        · exact .refused rfl
        rename_i can
        simp only [wp_bind, wp_loanRepo_update, wp_accountRepo_update, wp_txnRepo_create, andThen_ok]
        refine wp_commit B _ (fun db₁ hf => ?_) fun e _ => .refused rfl
        have hid : loan.loanId = loanId := Table.key_of_find? found
        rw [List.nil_append, staged_updateLoan loan (LoanService.approved loan draws.now)
          (by simpa [LoanService.approved, hid] using found) rfl rfl,
          staged_withBalance live (by simp [Change.onAccount])] at hf
        simp only [andThen_ok, wp_bind]
        exact wp_auditLog B fun db' hl =>
          .made rfl (.approveLoan found (by simpa using pending) live (by simpa using can)) hf hl
  | reject reason adminUser draws =>
    simp only [Decision.call, Call.prog, Request.prog, LoanService.rejectLoan, wp_bind, wp_loanRepo_get, andThen_ok,
      Session.loan?_nil]
    cases found : db.loans.find? loanId with
    | none => exact .refused rfl
    | some loan =>
      simp only
      split
      · exact .refused rfl
      rename_i pending
      simp only [wp_bind, wp_loanRepo_update, andThen_ok]
      refine wp_commit B _ (fun db₁ hf => ?_) fun e _ => .refused rfl
      have hid : loan.loanId = loanId := Table.key_of_find? found
      rw [List.nil_append, staged_updateLoan loan (LoanService.rejected loan reason)
        (by simpa [LoanService.rejected, hid] using found) rfl rfl] at hf
      simp only [andThen_ok, wp_bind]
      exact wp_auditLog B fun db' hl => .made rfl (.rejectLoan found (by simpa using pending)) hf hl

/-- The loan has been decided. -/
def Db.decided (db : Db D) (loanId : String) : Prop :=
  ∃ loan, db.loans.find? loanId = some loan ∧ loan.status ≠ .pending

/-- A decided loan is not decided again. -/
theorem exec_after (decided : db.decided loanId) (d : Decision) :
    succeeds (exec (handle B) ((d.call loanId).prog env) (db, {})).1 = false ∧
      (exec (handle B) ((d.call loanId).prog env) (db, {})).2.1 = db := by
  obtain ⟨loan, found, status⟩ := decided
  have ends := exec_decision env B loanId d db
  generalize (exec (handle B) ((d.call loanId).prog env) (db, {})).1 = r at ends
  generalize (exec (handle B) ((d.call loanId).prog env) (db, {})).2.1 = db' at ends
  cases ends with
  | made success posts flushed ledger =>
    cases d with
    | approve adminUser draws =>
      cases posts with
      | approveLoan found' pending =>
        rw [found] at found'
        cases found'
        exact absurd pending status
    | reject reason adminUser draws =>
      cases posts with
      | rejectLoan found' pending =>
        rw [found] at found'
        cases found'
        exact absurd pending status
  | refused failure => exact ⟨failure, rfl⟩

/-- What one decision leaves of the loan, of the money and of the log: an approval credits the principal once, with one
row, and a rejection credits nothing. -/
structure Decision.Leaves (B : Backend D) (loanId : String) (db db' : Ledger D) (d : Decision) : Prop where
  status : (db'.loans.find? loanId).map Loan.status = some d.status
  money : match d with
    | .approve .. => ∃ loan account row balance, db.loans.find? loanId = some loan ∧
        db.liveAccount? loan.accountNumber = some account ∧
        B.moneyColumn account.balance (account.balance + loan.principalAmount) account.balance = .ok balance ∧
        row.type = .loanDisbursement ∧ db'.accounts = db.accounts.set { account with balance } ∧
        db'.transactions = db.transactions ++ [row]
    | .reject .. => db'.accounts = db.accounts ∧ db'.transactions = db.transactions

/-- The row of the loan after an UPDATE. -/
theorem apply_loan_status {loan loan' : Loan D} (found : db.loans.find? loanId = some loan)
    (h : (Change.loan loan loan').apply B db = .ok db') :
    (db'.loans.find? loanId).map Loan.status = some loan'.status ∧ db'.accounts = db.accounts ∧
      db'.transactions = db.transactions := by
  have key : loan.loanId = loanId := Table.key_of_find? found
  obtain ⟨stored, found', principal, -, rate, -, emi, -, paid, -, remaining, -, -, rfl⟩ := apply_loan_ok.mp h
  rw [key, found] at found'
  obtain rfl := Option.some.inj found'
  have row : (db.loans.set (loan.merge loan' loan principal rate emi paid remaining)).find? loanId =
      some (loan.merge loan' loan principal rate emi paid remaining) := by
    have here : db.loans.find? (loan.merge loan' loan principal rate emi paid remaining).loanId = some loan := by
      rw [show (loan.merge loan' loan principal rate emi paid remaining).loanId = loanId from key]
      exact found
    have set := Table.find?_set_self here
    rwa [show (loan.merge loan' loan principal rate emi paid remaining).loanId = loanId from key] at set
  refine ⟨?_, rfl, rfl⟩
  show ((db.loans.set _).find? loanId).map Loan.status = _
  rw [row]
  simp [Loan.merge]

/-- A row of the log. -/
theorem apply_row {t : Transaction D} (h : (Change.insert (.transaction t)).apply B db = .ok db') :
    ∃ row : Transaction D, row.type = t.type ∧ db' = db.log row := by
  obtain ⟨amount, -, balance, -, -, -, -, rfl⟩ := apply_insertTransaction_ok.mp h
  exact ⟨{ t with amount, balance }, rfl, rfl⟩

theorem made_leaves (d : Decision) {cs : List (Change D)}
    (posts : Posts env (d.call loanId : Call D).draws db (d.call loanId).request cs) (flushed : flush B cs db = .ok db') :
    d.Leaves B loanId db.toLedger db'.toLedger := by
  cases d with
  | approve adminUser draws =>
    cases posts with
    | @approveLoan _ _ loan account found pending live can =>
      obtain ⟨db₁, h₁, db₂, h₂, h₃⟩ := (flush_three B).mp flushed
      obtain ⟨status, accounts, transactions⟩ := apply_loan_status found h₁
      obtain ⟨stored, found', balance, column, -, -, rfl⟩ := apply_account_ok.mp h₂
      obtain ⟨row, type, rfl⟩ := apply_row h₃
      rw [accounts, Ledger.find?_of_live live] at found'
      obtain rfl := Option.some.inj found'
      refine ⟨status, loan, account, row, balance, found, live, column, type, ?_, congrArg (· ++ [row]) transactions⟩
      show db₁.accounts.set _ = _
      rw [accounts]
      congr 1
      simp [Account.merge, Account.withBalance]
  | reject reason adminUser draws =>
    cases posts with
    | rejectLoan found pending =>
      obtain ⟨status, accounts, transactions⟩ := apply_loan_status found ((flush_one B).mp flushed)
      exact ⟨status, accounts, transactions⟩

end Alone

/-! ## Decisions one after another -/

section Serial

variable {ι : Type} {env : Env D} {B : Backend D} {db : Db D} {loanId : String} {decisions : ι → Decision}

/-- The store after decisions one after another. -/
abbrev decideAll (env : Env D) (B : Backend D) (loanId : String) (decisions : ι → Decision) (db : Db D)
    (order : List ι) : Db D :=
  serial (handle B) (fun i => ((decisions i).call loanId).prog env) (fun _ => {}) db order

/-- Whether a decision succeeds when it is made on its own. -/
def succeedsAlone (env : Env D) (B : Backend D) (loanId : String) (db : Db D) (d : Decision) : Bool :=
  succeeds (exec (handle B) ((d.call loanId).prog env) (db, {})).1

/-- Decisions on a decided loan. -/
theorem decideAll_after (decided : db.decided loanId) (order : List ι) :
    decideAll env B loanId decisions db order = db := by
  induction order with
  | nil => rfl
  | cons i order ih =>
    show decideAll env B loanId decisions (exec (handle B) (((decisions i).call loanId).prog env) (db, {})).2.1 order = db
    rw [(exec_after decided (decisions i)).2]
    exact ih

variable (env B loanId) in
/-- The first decision that succeeds is the only one. -/
theorem decideAll_once {order : List ι} (nodup : order.Nodup)
    (some_ : ∃ i ∈ order, succeedsAlone env B loanId db (decisions i) = true) :
    ∃ i ∈ order, (decisions i).Leaves B loanId db.toLedger (decideAll env B loanId decisions db order).toLedger ∧
      ∀ before j after, order = before ++ j :: after →
        (succeedsAlone env B loanId (decideAll env B loanId decisions db before) (decisions j) = true ↔ j = i) := by
  induction order with
  | nil =>
    obtain ⟨i, hi, -⟩ := some_
    cases hi
  | cons j order ih =>
    have ends := exec_decision env B loanId (decisions j) db
    have new : j ∉ order := (List.nodup_cons.mp nodup).1
    have store : decideAll env B loanId decisions db (j :: order) = decideAll env B loanId decisions
        (exec (handle B) (((decisions j).call loanId).prog env) (db, {})).2.1 order := rfl
    by_cases success : succeedsAlone env B loanId db (decisions j) = true
    · -- it is decided from here on
      refine ⟨j, List.mem_cons_self, ?_⟩
      rw [store]
      have before_ : ∀ before, decideAll env B loanId decisions db (j :: before) = decideAll env B loanId decisions
          (exec (handle B) (((decisions j).call loanId).prog env) (db, {})).2.1 before := fun _ => rfl
      have success' : succeeds (exec (handle B) (((decisions j).call loanId).prog env) (db, {})).1 = true := success
      generalize (exec (handle B) (((decisions j).call loanId).prog env) (db, {})).2.1 = db₁ at ends before_ ⊢
      generalize (exec (handle B) (((decisions j).call loanId).prog env) (db, {})).1 = r at ends success'
      cases ends with
      | refused failure =>
        rw [failure] at success'
        cases success'
      | made _ posts flushed ledger =>
        have leaves := made_leaves (decisions j) posts flushed
        rw [← ledger] at leaves
        have decided : db₁.decided loanId := by
          obtain ⟨loan, found, status⟩ := Option.map_eq_some_iff.mp leaves.status
          refine ⟨loan, found, ?_⟩
          rw [status]
          cases decisions j <;> simp [Decision.status]
        rw [decideAll_after decided]
        refine ⟨leaves, ?_⟩
        intro before k after split
        cases before with
        | nil =>
          obtain ⟨rfl, -⟩ := List.cons.inj split
          simp only [iff_true]
          exact success
        | cons x before =>
          obtain ⟨rfl, rest⟩ := List.cons.inj split
          rw [before_, decideAll_after decided]
          have fails : succeedsAlone env B loanId db₁ (decisions k) = false := (exec_after decided (decisions k)).1
          rw [fails]
          constructor
          · intro h
            cases h
          · rintro rfl
            exact absurd (by simp [rest]) new
    · -- nothing has been committed
      have failed : (exec (handle B) (((decisions j).call loanId).prog env) (db, {})).2.1 = db := by
        have failure : succeeds (exec (handle B) (((decisions j).call loanId).prog env) (db, {})).1 = false := by
          simpa [succeedsAlone] using success
        generalize (exec (handle B) (((decisions j).call loanId).prog env) (db, {})).2.1 = db₁ at ends ⊢
        generalize (exec (handle B) (((decisions j).call loanId).prog env) (db, {})).1 = r at ends failure
        cases ends with
        | refused => rfl
        | made success' =>
          rw [failure] at success'
          cases success'
      have rest : ∃ i ∈ order, succeedsAlone env B loanId db (decisions i) = true := by
        obtain ⟨i, hi, ok⟩ := some_
        rcases List.mem_cons.mp hi with rfl | hi
        · exact absurd ok success
        · exact ⟨i, hi, ok⟩
      obtain ⟨i, mem, leaves, once⟩ := ih (List.nodup_cons.mp nodup).2 rest
      refine ⟨i, List.mem_cons_of_mem _ mem, ?_, ?_⟩
      · rw [store, failed]
        exact leaves
      · intro before k after split
        cases before with
        | nil =>
          obtain ⟨rfl, -⟩ := List.cons.inj split
          have other : j ≠ i := by
            rintro rfl
            exact new mem
          simp only [other, iff_false]
          exact success
        | cons x before =>
          obtain ⟨rfl, tail⟩ := List.cons.inj split
          have same : decideAll env B loanId decisions db (j :: before) = decideAll env B loanId decisions db before := by
            show decideAll env B loanId decisions
              (exec (handle B) (((decisions j).call loanId).prog env) (db, {})).2.1 before = _
            rw [failed]
          rw [same]
          exact once before k after tail

end Serial

/-! ## Decisions of many threads -/

section Threads

variable {ι : Type} [Fintype ι] [DecidableEq ι]

/-- Whether a thread has reported a success. -/
def reported (t : Thread (Op.Res (D := D)) Exn (Reply D) (Session D)) : Bool := (t.result.map succeeds).getD false

/-- **One decision**: exactly one call reports success, and the loan, the money and the log are as that one leaves
them. -/
def OneDecision (B : Backend D) (loanId : String) (db : Db D) (decisions : ι → Decision)
    (c : Config ι (Op.Res (D := D)) Exn (Reply D) (Db D) (Session D)) : Prop :=
  ∃ i, reported (c.threads i) = true ∧ (∀ j, reported (c.threads j) = true → j = i) ∧
    (decisions i).Leaves B loanId db.toLedger c.store.toLedger

end Threads

/-! ## Two approvals -/

namespace Sample

/-- A pending loan of the first account. -/
def lent : Db ℤ :=
  { store 10000 5000 0 with
    loans := ⟨[⟨"L0", "1001", "Personal", 500000, 1200, 12, 44424, 0, 500000, .pending, 0, none, none, "car", ""⟩],
      by simp⟩ }

local instance twoAdmins : NeZero 2 := ⟨by decide⟩

/-- Two admins approve it. -/
def approvals (i : Fin 2) : Decision := .approve "admin" (draws i)

/-- The threads before their first step. -/
def admins : Config (Fin 2) (Op.Res (D := ℤ)) Exn (Reply ℤ) (Db ℤ) (Session ℤ) :=
  desk paiseEnv lent fun i => (approvals i).call "L0"

/-- The first approval, and then the second. -/
def inTurn : List (Fin 2) := List.replicate 8 0 ++ [1]

/-- Both read the loan first. -/
def crossed : List (Fin 2) := [0, 1] ++ List.replicate 7 0 ++ List.replicate 7 1

end Sample

end UnionBank
