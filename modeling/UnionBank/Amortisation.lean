import UnionBank.LoanLedger
import UnionBank.Rupees

/-!
# The instalments of a loan

`apply_loan` takes the principal as the debt, so the instalments repay the principal alone: a loan that is paid by
`pay_emi` without an amount is closed by the instalment that reaches the principal, whatever `calculate_emi_preview`
has announced, and by the EMI formula that is always more (`interest_never_collected`).

- `Loan.Schedule`: the loan after a number of instalments; `schedule_of_posts`: what one call makes of it;
- `Bank.payments`: the instalments of a run; `emiFormula`: the formula, and how much interest it charges.
-/

namespace UnionBank

open Keyed Programs Prog

set_option linter.unusedSectionVars false

variable {D : Type} [AddCommGroup D] [LinearOrder D]

/-! ## The preview -/

/-- What `calculate_emi_preview` returns. -/
structure EmiPreview (D : Type) where
  principal : D
  annualRate : D
  tenureMonths : Int
  emi : D
  totalPayable : D
  totalInterest : D

/-- `calculate_emi_preview`; `round2` is `round(x, 2)`. -/
def LoanService.calculateEmiPreview (env : Env D) (round2 : D → D) (principal annualRate : D) (tenureMonths : Int) :
    EmiPreview D :=
  let emi := env.calculateEmi principal annualRate tenureMonths
  let totalPayable := round2 (tenureMonths • emi)
  { principal, annualRate, tenureMonths, emi, totalPayable, totalInterest := round2 (totalPayable - principal) }

/-! ## Statements about other loans -/

/-- Whether a statement is about a loan. -/
def Change.onLoan (loanId : String) : Change D → Bool
  | .loan loaded _ => loaded.loanId = loanId
  | .insert (.loan l) => l.loanId = loanId
  | _ => false

section OtherLoans

variable {B : Backend D} {db db' : Db D} {loanId : String}

theorem apply_otherLoan {c : Change D} (hc : c.onLoan loanId = false) (h : c.apply B db = .ok db') :
    db'.loans.find? loanId = db.loans.find? loanId := by
  have support : c.isSupport = true → db'.loans.find? loanId = db.loans.find? loanId := by
    intro hs
    have same : db'.loans = db.loans := congrArg Ledger.loans (apply_support hs h)
    rw [same]
  cases c with
  | insert row =>
    cases row with
    | account =>
      obtain ⟨accounts, rfl⟩ := apply_insertAccount_accounts h
      rfl
    | transaction =>
      obtain ⟨amount, -, balance, -, -, -, -, rfl⟩ := apply_insertTransaction_ok.mp h
      rfl
    | loan l =>
      obtain ⟨principal, -, rate, -, emi, -, paid, -, remaining, -, -, -, loans, inserted, rfl⟩ :=
        apply_insertLoan_ok.mp h
      obtain ⟨new, rfl⟩ := Table.insert?_eq_some.mp inserted
      have other : loanId ≠ l.loanId := fun e => by simp [Change.onLoan, e] at hc
      exact (Table.find?_insert _ _ new _).trans (if_neg other)
    | goal =>
      obtain ⟨goals, rfl⟩ := apply_insertGoal_goals h
      rfl
    | _ => exact support rfl
  | account =>
    obtain ⟨accounts, rfl⟩ := apply_account_accounts h
    rfl
  | loan loaded current =>
    obtain ⟨stored, found, principal, -, rate, -, emi, -, paid, -, remaining, -, -, rfl⟩ := apply_loan_ok.mp h
    have key : stored.loanId = loaded.loanId := Table.key_of_find? found
    have other : loanId ≠ (loaded.merge current stored principal rate emi paid remaining).loanId := by
      intro e
      have e' : loanId = loaded.loanId := e.trans key
      simp [Change.onLoan, e'] at hc
    exact Table.find?_set_of_ne _ other
  | goal =>
    obtain ⟨goals, rfl⟩ := apply_goal_goals h
    rfl
  | deleteGoal =>
    obtain rfl := apply_deleteGoal_ok.mp h
    rfl
  | tokenVersion => exact support rfl

theorem flush_otherLoan {cs : List (Change D)} (hc : ∀ c ∈ cs, c.onLoan loanId = false) (h : flush B cs db = .ok db') :
    db'.loans.find? loanId = db.loans.find? loanId := by
  induction cs generalizing db with
  | nil => cases h; rfl
  | cons c cs ih =>
    obtain ⟨db₁, h₁, h₂⟩ := (flush_cons_ok B).mp h
    rw [ih (fun c hm => hc c (List.mem_cons_of_mem _ hm)) h₂, apply_otherLoan (hc c List.mem_cons_self) h₁]

end OtherLoans

/-! ## The schedule -/

/-- A loan of principal `P` with the instalment `E`, after `k` instalments. -/
structure Loan.Schedule (cents : AddSubgroup D) (P E : D) (k : ℕ) (loan : Loan D) : Prop where
  principal : loan.principalAmount = P
  emi : loan.emiAmount = E
  exact : P ∈ cents ∧ E ∈ cents ∧ loan.amountPaid ∈ cents
  sum : loan.amountPaid + loan.remainingAmount = P
  running : loan.status ≠ .closed → loan.amountPaid = (k : ℤ) • E ∧ loan.amountPaid < P
  closed : loan.status = .closed → loan.amountPaid = P ∧ 0 < E ∧ ((k : ℤ) - 1) • E < P ∧ P ≤ (k : ℤ) • E

section Schedule

variable {cents : AddSubgroup D} {P E : D} {k : ℕ} {loan : Loan D}

theorem Loan.Schedule.remaining [IsOrderedAddMonoid D] (s : loan.Schedule cents P E k) (running : loan.status ≠ .closed) :
    0 < loan.remainingAmount := by
  have below := (s.running running).2
  rw [← s.sum] at below
  exact pos_of_lt_add_right below

theorem Loan.Schedule.stored (s : loan.Schedule cents P E k) : loan.principalAmount ∈ cents ∧ loan.emiAmount ∈ cents ∧
    loan.amountPaid ∈ cents ∧ loan.remainingAmount ∈ cents := by
  have remaining : loan.remainingAmount = P - loan.amountPaid := eq_sub_of_add_eq' s.sum
  rw [s.principal, s.emi, remaining]
  exact ⟨s.exact.1, s.exact.2.1, s.exact.2.2, cents.sub_mem s.exact.1 s.exact.2.2⟩

/-- A decision on a pending loan leaves its schedule. -/
theorem Loan.Schedule.approved (s : loan.Schedule cents P E k) (pending : loan.status = .pending) (now : Time) :
    (LoanService.approved loan now).Schedule cents P E k :=
  ⟨s.principal, s.emi, s.exact, s.sum, fun _ => s.running (by simp [pending]), fun h => LoanStatus.noConfusion h⟩

theorem Loan.Schedule.rejected (s : loan.Schedule cents P E k) (pending : loan.status = .pending) (reason : String) :
    (LoanService.rejected loan reason).Schedule cents P E k :=
  ⟨s.principal, s.emi, s.exact, s.sum, fun _ => s.running (by simp [pending]), fun h => LoanStatus.noConfusion h⟩

/-- The amount of an instalment: the EMI, or what is left if that is less. -/
def Loan.instalment (loan : Loan D) : D := if loan.remainingAmount < loan.emiAmount then loan.remainingAmount else loan.emiAmount

/-- **An instalment**: the next one of the schedule, or the one that closes the loan. -/
theorem Loan.Schedule.paid [IsOrderedAddMonoid D] (s : loan.Schedule cents P E k) (running : loan.status ≠ .closed)
    (positive : 0 < E) (now : Time) : (LoanService.paid loan loan.instalment now).Schedule cents P E (k + 1) := by
  obtain rfl : loan.emiAmount = E := s.emi
  have remaining := s.remaining running
  obtain ⟨so, below⟩ := s.running running
  have succ : ((k + 1 : ℕ) : ℤ) • loan.emiAmount = (k : ℤ) • loan.emiAmount + loan.emiAmount := by
    rw [Nat.cast_succ, add_zsmul, one_zsmul]
  have stored := s.stored
  unfold LoanService.paid Loan.instalment
  by_cases last : loan.remainingAmount ≤ loan.emiAmount
  · -- the debt is at most one instalment: all of it is paid
    have all : (if loan.remainingAmount < loan.emiAmount then loan.remainingAmount else loan.emiAmount) = loan.remainingAmount := by
      split
      · rfl
      · exact le_antisymm (not_lt.mp ‹_›) last
    rw [all]
    simp only [sub_self, le_refl, if_true]
    refine ⟨s.principal, rfl, ⟨s.exact.1, s.exact.2.1, ?_⟩, ?_, fun h => absurd rfl h, fun _ => ⟨s.sum, positive, ?_, ?_⟩⟩
    · exact cents.add_mem s.exact.2.2 stored.2.2.2
    · rw [add_zero]
      exact s.sum
    · rw [Nat.cast_succ, add_sub_cancel_right, ← so]
      exact below
    · rw [succ, ← so, ← s.sum]
      exact add_le_add_right last _
  · have more : loan.emiAmount < loan.remainingAmount := not_le.mp last
    have one : (if loan.remainingAmount < loan.emiAmount then loan.remainingAmount else loan.emiAmount) = loan.emiAmount :=
      if_neg more.asymm
    rw [one]
    simp only [sub_nonpos, last, if_false]
    refine ⟨s.principal, rfl, ⟨s.exact.1, s.exact.2.1, cents.add_mem s.exact.2.2 s.exact.2.1⟩, ?_, fun _ => ⟨?_, ?_⟩,
      fun h => absurd h running⟩
    · show loan.amountPaid + loan.emiAmount + (loan.remainingAmount - loan.emiAmount) = P
      rw [← s.sum]
      abel
    · show loan.amountPaid + loan.emiAmount = _
      rw [succ, so]
    · show loan.amountPaid + loan.emiAmount < P
      rw [← s.sum]
      exact add_lt_add_right more _

end Schedule

/-! ## One call -/

/-- Whether a request pays an instalment of the loan. -/
def Request.pays (loanId : String) : Request D → Bool
  | .payEmi _ id _ => id = loanId
  | _ => false

/-- An instalment is paid without an amount. -/
def Request.Scheduled (loanId : String) : Request D → Prop
  | .payEmi _ id amount => id = loanId → amount = none
  | _ => True

section Step

variable [IsOrderedAddMonoid D]
variable {env : Env D} {B : Backend D} {cents : AddSubgroup D} {draws : Draws} {db db' : Db D} {request : Request D}
  {cs : List (Change D)} {loanId : String} {loan : Loan D} {P E : D} {k : ℕ}

/-- The loan of a schedule, updated in its row. -/
theorem apply_scheduled (hB : B.Exact cents) {loan' : Loan D} {k' : ℕ} (s' : loan'.Schedule cents P E k') (found : db.loans.find? loanId = some loan) (id : loan'.loanId = loan.loanId)
    (rate : loan'.interestRate = loan.interestRate) (h : (Change.loan loan loan').apply B db = .ok db') :
    db'.loans.find? loanId = some loan' := by
  have key : loan.loanId = loanId := Table.key_of_find? found
  have found' : db.loans.find? loan.loanId = some loan := by rw [key]; exact found
  obtain rfl := apply_loan_exact hB h s'.stored found' id rate
  have stored : db.loans.find? loan'.loanId = some loan := by rw [id]; exact found'
  have kept := Table.find?_set_self stored
  rw [id, key] at kept
  exact kept

/-- **What a posting makes of a schedule**: an instalment where it pays the loan, and nothing elsewhere. -/
theorem schedule_of_posts (hB : B.Exact cents) (posts : Posts env draws db request cs) (flushed : flush B cs db = .ok db')
    (scheduled : request.Scheduled loanId) (found : db.loans.find? loanId = some loan)
    (s : loan.Schedule cents P E k) :
    ∃ loan', db'.loans.find? loanId = some loan' ∧
      loan'.Schedule cents P E (k + if request.pays loanId then 1 else 0) := by
  have key : loan.loanId = loanId := Table.key_of_find? found
  have other : (∀ c ∈ cs, c.onLoan loanId = false) → request.pays loanId = false →
      ∃ loan', db'.loans.find? loanId = some loan' ∧
        loan'.Schedule cents P E (k + if request.pays loanId then 1 else 0) := by
    intro hc hp
    refine ⟨loan, by rw [flush_otherLoan hc flushed]; exact found, ?_⟩
    rw [hp]
    exact s
  cases posts with
  | deposit | withdraw | transfer | applyInterest | createGoal | contribute | refundGoal | deleteGoal | freezeAccount
    | unfreezeAccount | deleteAccount | closeAccount => exact other (by simp [Change.onLoan]) rfl
  | updateProfile =>
    refine other ?_ rfl
    simp only [Query.staged]
    split <;> simp [Change.onLoan]
  | @changePassword _ _ _ account versions live verified support =>
    refine other ?_ rfl
    intro c hc
    rcases List.mem_pair.mp hc with rfl | rfl
    · rfl
    · rcases c with (_ | _ | _ | _ | _ | _ | _) | _ | _ | _ | _ | _ <;> first
        | exact Bool.noConfusion support
        | rfl
  | @applyLoan accNo loanType purpose principal rate tenure account =>
    by_cases same : draws.loanId = loanId
    · -- the id is taken: the application is not written
      obtain ⟨_, -, _, -, _, -, _, -, _, -, -, -, loans, inserted, -⟩ := apply_insertLoan_ok.mp ((flush_one _).mp flushed)
      obtain ⟨new, -⟩ := Table.insert?_eq_some.mp inserted
      have taken : db.loans.find? draws.loanId = some loan := same ▸ found
      exact absurd (new.symm.trans taken) (by simp)
    · exact other (by simp [Change.onLoan, same]) rfl
  | @approveLoan id adminUser loan₁ account found₁ pending live can =>
    by_cases same : id = loanId
    · subst same
      obtain rfl : loan = loan₁ := Option.some.inj (found.symm.trans found₁)
      obtain ⟨db₁, h₁, db₂, h₂, h₃⟩ := (flush_three _).mp flushed
      have s' := s.approved pending draws.now
      have found' := apply_scheduled hB s' found rfl rfl h₁
      refine ⟨_, ?_, s'⟩
      rw [apply_otherLoan rfl h₃, apply_otherLoan rfl h₂]
      exact found'
    · have apart : loan₁.loanId ≠ loanId := by rw [Table.key_of_find? found₁]; exact same
      exact other (by simp [Change.onLoan, apart]) rfl
  | @rejectLoan id reason adminUser loan₁ found₁ pending =>
    by_cases same : id = loanId
    · subst same
      obtain rfl : loan = loan₁ := Option.some.inj (found.symm.trans found₁)
      have s' := s.rejected pending reason
      exact ⟨_, apply_scheduled hB s' found rfl rfl ((flush_one _).mp flushed), s'⟩
    · have apart : loan₁.loanId ≠ loanId := by rw [Table.key_of_find? found₁]; exact same
      exact other (by simp [Change.onLoan, apart]) rfl
  | @payEmi accNo id amount loan₁ account payment actual found₁ running owner live can asked positive covered least =>
    by_cases same : id = loanId
    · subst same
      obtain rfl : loan = loan₁ := Option.some.inj (found.symm.trans found₁)
      obtain rfl : amount = none := scheduled rfl
      obtain rfl : payment = loan.emiAmount := asked
      obtain rfl : actual = loan.instalment := least
      obtain ⟨db₁, h₁, db₂, h₂, h₃⟩ := (flush_three _).mp flushed
      have open_ : loan.status ≠ .closed := by
        intro closed
        exact running (by simp [closed])
      have s' := s.paid open_ (s.emi ▸ not_le.mp positive) draws.now
      have found' : db₁.loans.find? id = some loan := by
        rw [apply_otherLoan rfl h₁]
        exact found
      have rate : (LoanService.paid loan loan.instalment draws.now).interestRate = loan.interestRate := by
        unfold LoanService.paid
        simp only
        split <;> rfl
      have found'' := apply_scheduled hB s' found' (LoanService.paid_loanId ..) rate h₂
      refine ⟨LoanService.paid loan loan.instalment draws.now, ?_, ?_⟩
      · rw [apply_otherLoan rfl h₃]
        exact found''
      · rw [Request.pays, decide_eq_true rfl]
        exact s'
    · have apart : loan₁.loanId ≠ loanId := by rw [Table.key_of_find? found₁]; exact same
      exact other (by simp [Change.onLoan, apart]) (by simp [Request.pays, same])

end Step

/-! ## Successful instalments -/

section Outcome

variable {env : Env D} {B : Backend D} {draws : Draws} {db : Db D}

/-- The end of an instalment: a success that is committed, or no success and nothing committed. -/
inductive EmiOutcome (env : Env D) (B : Backend D) (c : Call D) (db : Db D) : Except Exn (Reply D) → Db D → Prop
  | paid {r : Except Exn (Reply D)} {db' : Db D} {cs : List (Change D)} (success : succeeds r = true)
      (posts : Posts env c.draws db c.request cs) (flushed : flush B cs db = .ok db') : EmiOutcome env B c db r db'
  | refused {r : Except Exn (Reply D)} (failure : succeeds r = false) : EmiOutcome env B c db r db

variable (db) in
theorem payEmi_outcome (accNo loanId : String) (amount : Option D) :
    wp (runs B) (Request.prog env draws (.payEmi accNo loanId amount))
      (fun r w => EmiOutcome env B ⟨.payEmi accNo loanId amount, draws⟩ db r w.1) (db, {}) := by
  simp only [Request.prog, LoanService.payEmi, wp_bind, wp_loanRepo_get, andThen_ok, Session.loan?_nil]
  cases found : db.loans.find? loanId with
  | none => exact .refused rfl
  | some loan =>
    simp only
    split
    · exact .refused rfl
    rename_i running
    split
    · exact .refused rfl
    rename_i owner
    simp only [wp_bind, wp_accountRepo_get, andThen_ok, Session.account?_nil]
    cases live : db.liveAccount? accNo with
    | none => exact .refused rfl
    | some account =>
      simp only
      split
      · exact .refused rfl
      rename_i can
      split
      · exact .refused rfl
      rename_i positive
      split
      · exact .refused rfl
      rename_i covered
      simp only [wp_bind, wp_loanRepo_update, wp_accountRepo_update, wp_txnRepo_create, andThen_ok]
      refine wp_commit B _ (fun db₁ hf => ?_) fun e _ => .refused rfl
      rw [List.nil_append, staged_withBalance live (by simp), staged_updateLoan loan _
        (by simpa [Session.loan?, Session.ownLoan, Table.key_of_find? found] using found) (by simp) (by simp)] at hf
      simp only [LoanService.paid_loanId, LoanService.paid_loanType] at hf
      exact .paid rfl (.payEmi found running (by simpa using owner) live (by simpa using can) rfl positive covered rfl) hf

variable (env B draws) in
/-- An instalment on a session between two calls. -/
theorem serve_payEmi {bank : Bank D} (idle : bank.Idle) (thread : ℕ) (accNo loanId : String) (amount : Option D) :
    EmiOutcome env B ⟨.payEmi accNo loanId amount, draws⟩ bank.db
      (bank.serve env B thread ⟨.payEmi accNo loanId amount, draws⟩).1
      (bank.serve env B thread ⟨.payEmi accNo loanId amount, draws⟩).2.db := by
  have rest := idle thread
  unfold Bank.serve
  rcases hs : bank.sessions thread with ⟨pending, inactive, savepoint, held⟩
  rw [hs] at rest
  obtain rfl : held = [] := rest.held
  cases inactive with
  | true => exact .refused rfl
  | false =>
    obtain ⟨rfl, rfl⟩ := rest.clean rfl
    exact (wp_handler _ _ _ _).mp (payEmi_outcome bank.db accNo loanId amount)

end Outcome

/-! ## Runs -/

section Run

variable [IsOrderedAddMonoid D] {env : Env D} {B : Backend D} {cents : AddSubgroup D} {loanId : String} {P E : D}

/-- The number of successful instalments of a run. -/
def Bank.payments (env : Env D) (B : Backend D) (loanId : String) : Bank D → List (ℕ × Call D) → ℕ
  | _, [] => 0
  | bank, tc :: calls =>
    (if tc.2.request.pays loanId && succeeds (bank.serve env B tc.1 tc.2).1 then 1 else 0) +
      (bank.serve env B tc.1 tc.2).2.payments env B loanId calls

/-- The bank has the loan, after `k` instalments. -/
def Bank.Scheduled (cents : AddSubgroup D) (loanId : String) (P E : D) (k : ℕ) (bank : Bank D) : Prop :=
  ∃ loan, bank.db.loans.find? loanId = some loan ∧ loan.Schedule cents P E k

variable (env) in
/-- One call. -/
theorem serve_scheduled (hB : B.Exact cents) {bank : Bank D} (idle : bank.Idle) {tc : ℕ × Call D}
    (scheduled : tc.2.request.Scheduled loanId) {k : ℕ} (h : bank.Scheduled cents loanId P E k) :
    (bank.serve env B tc.1 tc.2).2.Scheduled cents loanId P E
      (k + if tc.2.request.pays loanId && succeeds (bank.serve env B tc.1 tc.2).1 then 1 else 0) := by
  obtain ⟨loan, found, s⟩ := h
  obtain ⟨thread, request, draws⟩ := tc
  by_cases pays : request.pays loanId = true
  · rw [pays, Bool.true_and]
    cases request with
    | payEmi accNo id amount =>
      obtain rfl : id = loanId := by simpa [Request.pays] using pays
      have outcome := serve_payEmi env B draws idle thread accNo id amount
      unfold Bank.Scheduled
      generalize (bank.serve env B thread ⟨.payEmi accNo id amount, draws⟩).1 = r at outcome
      generalize (bank.serve env B thread ⟨.payEmi accNo id amount, draws⟩).2.db = db' at outcome
      cases outcome with
      | paid success posts flushed =>
        rw [success]
        have step := schedule_of_posts hB posts flushed scheduled found s
        rw [pays] at step
        exact step
      | refused failure =>
        rw [failure]
        exact ⟨loan, found, s⟩
    | _ => cases pays
  · have none : request.pays loanId = false := by simpa using pays
    rw [none, Bool.false_and]
    have posted := (serve_settles env B idle thread ⟨request, draws⟩).1
    cases posted with
    | unmoved ledger =>
      refine ⟨loan, ?_, s⟩
      rw [ledger]
      exact found
    | moved posts flushed ledger =>
      obtain ⟨loan', found', s'⟩ := schedule_of_posts hB posts flushed scheduled found s
      refine ⟨loan', ?_, by simpa [none] using s'⟩
      rw [ledger]
      exact found'

variable (env) in
theorem run_scheduled (hB : B.Exact cents) {bank : Bank D} (idle : bank.Idle) {calls : List (ℕ × Call D)}
    (scheduled : ∀ tc ∈ calls, tc.2.request.Scheduled loanId) {k : ℕ} (h : bank.Scheduled cents loanId P E k) :
    (bank.run env B calls).Scheduled cents loanId P E (k + bank.payments env B loanId calls) := by
  induction calls generalizing bank k with
  | nil => exact h
  | cons tc calls ih =>
    have next := serve_scheduled env hB idle (scheduled tc List.mem_cons_self) h
    have idle' := (serve_settles env B idle tc.1 tc.2).2
    have rest := ih idle' (fun tc hm => scheduled tc (List.mem_cons_of_mem _ hm)) next
    rw [Bank.payments, ← Nat.add_assoc]
    exact rest

end Run

/-! ## Interest -/

/-- The terms that `apply_loan` accepts. -/
structure LoanService.Accepts (env : Env D) (loanType : String) (principal rate : D) (tenure : Int) : Prop where
  known : loanType ∈ loanTypes
  least : ¬principal < env.ofCents 100000
  most : ¬env.ofCents 1000000000 < principal
  tenure : ¬(tenure < 1 ∨ (loanProduct loanType).maxTenure < tenure)
  rate : ¬(rate < env.ofCents (loanProduct loanType).minRate ∨ env.ofCents (loanProduct loanType).maxRate < rate)

/-- What a closed loan should have brought in, up to `ε`: what the preview announced, in as many payments. -/
structure InterestCollected (preview : EmiPreview D) (ε : D) (loan : Loan D) (payments : ℕ) : Prop where
  total : |loan.amountPaid - preview.totalPayable| ≤ ε
  onTime : (payments : ℤ) = preview.tenureMonths

/-! ## The EMI formula -/

theorem loanProduct_minRate (loanType : String) : 500 ≤ (loanProduct loanType).minRate := by
  have all : ∀ product ∈ loanProducts.map Prod.snd, 500 ≤ product.minRate := by decide
  unfold loanProduct
  cases listed : loanProducts.lookup loanType with
  | none => decide
  | some product =>
    obtain ⟨before, after, split, -⟩ := List.lookup_eq_some_iff.mp listed
    exact all product (by simp [split])

section Formula

variable {F : Type} [Field F] [LinearOrder F] [IsStrictOrderedRing F]

/-- The instalment by the formula of `calculate_emi`, before it is rounded. -/
def emiFormula (principal annualRate : F) (tenureMonths : ℕ) : F :=
  let monthlyRate := annualRate / 12 / 100
  principal * monthlyRate * (1 + monthlyRate) ^ tenureMonths / ((1 + monthlyRate) ^ tenureMonths - 1)

/-- What the code takes from outside, over amounts in rupees: `calculate_emi` is its formula up to the rounding. -/
structure Env.Documented (env : Env F) : Prop where
  ofCents : ∀ c, env.ofCents c = c / 100
  calculateEmi : ∀ {principal annualRate : F} {tenureMonths : Int}, 0 < principal → 0 < annualRate → 0 < tenureMonths →
    |env.calculateEmi principal annualRate tenureMonths - emiFormula principal annualRate tenureMonths.toNat| ≤ 1 / 100

/-- Discounting `n` times leaves at most what `n` times the rate says. -/
theorem growth_le {r : F} (hr : 0 < r) (n : ℕ) : (1 + r) ^ n ≤ 1 + n * r * (1 + r) ^ n := by
  induction n with
  | zero => simp
  | succ n ih =>
    have grown : (1 + r) ^ n ≤ (1 + r) ^ (n + 1) := pow_le_pow_right₀ (by linarith) n.le_succ
    have rest : 0 ≤ (n : F) + 1 := by positivity
    have more := mul_le_mul_of_nonneg_left grown (mul_nonneg rest hr.le)
    calc (1 + r) ^ (n + 1) = (1 + r) ^ n + r * (1 + r) ^ n := by ring
      _ ≤ 1 + n * r * (1 + r) ^ n + r * (1 + r) ^ n := by linarith
      _ = 1 + ((n + 1) * r) * (1 + r) ^ n := by ring
      _ ≤ 1 + ((n + 1) * r) * (1 + r) ^ (n + 1) := by linarith
      _ = 1 + ((n + 1 : ℕ) : F) * r * (1 + r) ^ (n + 1) := by push_cast; ring

/-- The instalments of a debt of one, multiplied out. -/
theorem annuity_le {r : F} (hr : 0 < r) (n : ℕ) :
    2 * ((1 + r) ^ n - 1) ≤ r * ((n - 1) * (1 + r) ^ n + (n + 1)) := by
  induction n with
  | zero => simp
  | succ n ih =>
    have growth := mul_le_mul_of_nonneg_left (growth_le hr n) hr.le
    have step : 2 * ((1 + r) ^ (n + 1) - 1) = 2 * ((1 + r) ^ n - 1) + 2 * (r * (1 + r) ^ n) := by ring
    rw [step]
    push_cast
    have target : r * ((n + 1 - 1) * (1 + r) ^ (n + 1) + (n + 1 + 1)) =
        r * ((n - 1) * (1 + r) ^ n + (n + 1)) + r * (1 + r) ^ n + r * (1 + n * r * (1 + r) ^ n) := by ring
    rw [target]
    linarith

/-- **The formula charges interest**: half the rate on the principal, and once more for every instalment. -/
theorem emiFormula_charges {principal annualRate : F} {n : ℕ} (hp : 0 < principal) (hr : 0 < annualRate) (hn : 0 < n) :
    principal + principal * (annualRate / 12 / 100) * (n + 1) / 2 ≤ n * emiFormula principal annualRate n := by
  unfold emiFormula
  simp only
  set r := annualRate / 12 / 100 with hr'
  have positive : 0 < r := by positivity
  have grown : 1 < (1 + r) ^ n := one_lt_pow₀ (by linarith) hn.ne'
  have denominator : 0 < (1 + r) ^ n - 1 := by linarith
  have bound := mul_le_mul_of_nonneg_left (annuity_le positive n) hp.le
  have quotient : (n : F) * (principal * r * (1 + r) ^ n / ((1 + r) ^ n - 1)) =
      n * (principal * r * (1 + r) ^ n) / ((1 + r) ^ n - 1) := (mul_div_assoc _ _ _).symm
  rw [quotient, le_div_iff₀ denominator]
  have spread : (principal + principal * r * (n + 1) / 2) * ((1 + r) ^ n - 1) =
      principal * ((1 + r) ^ n - 1) + principal * (r * ((n + 1) * (1 + r) ^ n - (n + 1))) / 2 := by ring
  rw [spread]
  have target : (n : F) * (principal * r * (1 + r) ^ n) =
      principal * (r * ((n - 1) * (1 + r) ^ n + (n + 1))) / 2 +
        principal * (r * ((n + 1) * (1 + r) ^ n - (n + 1))) / 2 := by ring
  rw [target]
  linarith

end Formula

/-! ## Interest is not collected -/

section Never

variable {F : Type} [Field F] [LinearOrder F] [IsStrictOrderedRing F]
variable {env : Env F} {B : Backend F} {cents : AddSubgroup F}

/-- The columns keep two decimals of what they are given. -/
structure Backend.Rounds (B : Backend F) (cents : AddSubgroup F) : Prop where
  exact : B.Exact cents
  mem : ∀ {p : ℕ} {x y : F}, B.numeric p x = some y → y ∈ cents
  near : ∀ {p : ℕ} {x y : F}, B.numeric p x = some y → |y - x| ≤ 1 / 200

theorem Backend.Rounds.money (hB : B.Rounds cents) {x y : F} (h : B.money x = .ok y) : y ∈ cents ∧ |y - x| ≤ 1 / 200 := by
  unfold Backend.money Backend.number at h
  split at h
  · obtain rfl := Except.ok.inj h
    exact ⟨hB.mem ‹_›, hB.near ‹_›⟩
  · cases h

/-- The instalments of accepted terms bring in more than the principal, by over a rupee each. -/
theorem LoanService.Accepts.charges (henv : env.Documented) {loanType : String} {principal rate : F} {tenure : Int}
    (accepts : LoanService.Accepts env loanType principal rate tenure) :
    principal + tenure + 1 < tenure • env.calculateEmi principal rate tenure := by
  have least : (1000 : F) ≤ principal := by
    have := not_lt.mp accepts.least
    rw [henv.ofCents] at this
    norm_num at this
    exact this
  have highRate : (5 : F) ≤ rate := by
    have bound := not_lt.mp (not_or.mp accepts.rate).1
    have product : (500 : F) ≤ (loanProduct loanType).minRate := by exact_mod_cast loanProduct_minRate loanType
    rw [henv.ofCents] at bound
    linarith
  have positive : 0 < tenure := by
    have := (not_or.mp accepts.tenure).1
    omega
  obtain ⟨n, rfl⟩ := Int.eq_ofNat_of_zero_le positive.le
  have hn : 0 < n := by omega
  have one : (1 : F) ≤ n := by exact_mod_cast hn
  have charged := emiFormula_charges (by linarith : 0 < principal) (by linarith : 0 < rate) hn
  have near := (abs_le.mp (henv.calculateEmi (by linarith : 0 < principal) (by linarith : 0 < rate) positive)).1
  have rounded := mul_le_mul_of_nonneg_left near (by linarith : (0 : F) ≤ n)
  -- at least 1000 at 5 percent a year
  have interest : 1000 * (5 / 12 / 100) * ((n : F) + 1) / 2 ≤ principal * (rate / 12 / 100) * (n + 1) / 2 := by
    have product : 1000 * (5 / 12 / 100) ≤ principal * (rate / 12 / 100) :=
      mul_le_mul least (by linarith) (by norm_num) (by linarith)
    have := mul_le_mul_of_nonneg_right product (by linarith : (0 : F) ≤ n + 1)
    linarith
  rw [zsmul_eq_mul]
  simp only [Int.cast_natCast, Int.toNat_natCast] at rounded charged ⊢
  rw [mul_sub] at rounded
  linarith

/-- An application that makes a loan starts its schedule, with the amounts that the columns keep. -/
theorem serve_applied (hB : B.Rounds cents) (henv : env.Documented) {bank : Bank F} (idle : bank.Idle)
    (thread : ℕ) {accNo loanType purpose : String} {principal rate : F} {tenure : Int} {draws : Draws}
    (fresh : bank.db.loans.find? draws.loanId = none)
    (made : (bank.serve env B thread ⟨.applyLoan accNo loanType principal rate tenure purpose, draws⟩).2.db.loans.find?
      draws.loanId ≠ none) :
    LoanService.Accepts env loanType principal rate tenure ∧ ∃ P E, |P - principal| ≤ 1 / 200 ∧
      (bank.serve env B thread ⟨.applyLoan accNo loanType principal rate tenure purpose, draws⟩).2.Scheduled cents
        draws.loanId P E 0 := by
  have posted := (serve_settles env B idle thread ⟨.applyLoan accNo loanType principal rate tenure purpose, draws⟩).1
  unfold Bank.Scheduled
  generalize (bank.serve env B thread ⟨.applyLoan accNo loanType principal rate tenure purpose, draws⟩).2.db = db' at posted made ⊢
  cases posted with
  | unmoved ledger =>
    rw [ledger] at made
    exact absurd fresh made
  | moved posts flushed ledger =>
    rw [ledger]
    cases posts with
    | applyLoan live can known least most tenureOk rateOk =>
      refine ⟨⟨known, least, most, tenureOk, rateOk⟩, ?_⟩
      obtain ⟨P, hp, rate', -, E, he, paid, hpaid, remaining, hrem, -, -, loans, inserted, rfl⟩ :=
        apply_insertLoan_ok.mp ((flush_one _).mp flushed)
      obtain ⟨inCents, near⟩ := hB.money hp
      obtain rfl : paid = 0 := hB.exact.money_eq cents.zero_mem hpaid
      obtain rfl : P = remaining := Except.ok.inj (hp.symm.trans hrem)
      obtain ⟨new, rfl⟩ := Table.insert?_eq_some.mp inserted
      have positive : 0 < P := by
        have low := not_lt.mp least
        rw [henv.ofCents] at low
        norm_num at low
        have := (abs_le.mp near).1
        linarith
      refine ⟨P, E, near, _, (Table.find?_insert _ _ new _).trans (if_pos rfl), rfl, rfl,
        ⟨inCents, (hB.money he).1, cents.zero_mem⟩, zero_add _, ?_, ?_⟩
      · intro _
        refine ⟨?_, positive⟩
        rw [Nat.cast_zero, zero_zsmul]
      · intro closed
        cases closed

/-- **No closed loan has brought in its interest**: one that `apply_loan` made and that was then paid by `pay_emi`
without an amount has brought in less than the preview announced, by more than a rupee an instalment. -/
theorem interest_never_collected (hB : B.Rounds cents) (henv : env.Documented) {round2 : F → F}
    (hround : ∀ x, |round2 x - x| ≤ 1 / 100) {bank : Bank F} (idle : bank.Idle) (thread : ℕ)
    {accNo loanType purpose : String} {principal rate : F} {tenure : Int} {draws : Draws}
    (fresh : bank.db.loans.find? draws.loanId = none)
    (made : (bank.serve env B thread ⟨.applyLoan accNo loanType principal rate tenure purpose, draws⟩).2.db.loans.find?
      draws.loanId ≠ none)
    {calls : List (ℕ × Call F)} (scheduled : ∀ tc ∈ calls, tc.2.request.Scheduled draws.loanId) {loan : Loan F}
    (found : ((bank.serve env B thread ⟨.applyLoan accNo loanType principal rate tenure purpose, draws⟩).2.run env B
      calls).db.loans.find? draws.loanId = some loan)
    (closed : loan.status = .closed) {ε : F} (tolerance : ε ≤ tenure) :
    ¬InterestCollected (LoanService.calculateEmiPreview env round2 principal rate tenure) ε loan
      ((bank.serve env B thread ⟨.applyLoan accNo loanType principal rate tenure purpose, draws⟩).2.payments env B
        draws.loanId calls) := by
  obtain ⟨accepts, P, E, near, start⟩ := serve_applied hB henv idle thread fresh made
  have idle' := (serve_settles env B idle thread ⟨.applyLoan accNo loanType principal rate tenure purpose, draws⟩).2
  obtain ⟨loan', found', schedule⟩ := run_scheduled env hB.exact idle' scheduled start
  obtain rfl : loan' = loan := Option.some.inj (found'.symm.trans found)
  have paid : loan'.amountPaid = P := (schedule.closed closed).1
  have charges := accepts.charges henv
  have announced := (abs_le.mp (hround (tenure • env.calculateEmi principal rate tenure))).1
  rintro ⟨total, -⟩
  have less := (abs_le.mp total).1
  have rounded := (abs_le.mp near).2
  simp only [LoanService.calculateEmiPreview, paid] at less
  linarith

end Never

/-! ## A loan of a thousand rupees -/

/-- The code's formulas in rupees, rounded to two decimals. -/
def rupeeEnv : Env ℚ where
  ofCents c := c / 100
  float := id
  fmtCurrency x := toString x
  calculateMonthlyInterest balance := round2 (balance / 1200)
  calculateEmi principal annualRate tenureMonths :=
    if principal ≤ 0 ∨ annualRate ≤ 0 ∨ tenureMonths ≤ 0 then 0
    else round2 (emiFormula principal annualRate tenureMonths.toNat)
  verifyPassword plain hashed := plain = hashed
  hashPassword := id

theorem rupeeEnv_documented : rupeeEnv.Documented where
  ofCents _ := rfl
  calculateEmi {principal annualRate tenureMonths} hp hr hn := by
    have open_ : ¬(principal ≤ 0 ∨ annualRate ≤ 0 ∨ tenureMonths ≤ 0) := by
      rw [not_or, not_or, not_le, not_le, not_le]
      exact ⟨hp, hr, hn⟩
    have near := round2_error (emiFormula principal annualRate tenureMonths.toNat)
    simp only [rupeeEnv, if_neg open_]
    linarith

theorem rupees_rounds : rupees.Rounds wholePaise where
  exact := rupees_exact
  mem {p x y} h := by
    simp only [rupees] at h
    split at h
    · exact Option.some.inj h ▸ round2_mem x
    · cases h
  near {p x y} h := by
    simp only [rupees] at h
    split at h
    · exact Option.some.inj h ▸ round2_error x
    · cases h

namespace Sample

/-- A bank in rupees with one account. -/
def branch : Bank ℚ where
  db :=
    { accounts := ⟨[⟨"1001", "Asha", 30, "F", "9000000000", "asha@bank.example", "secret", 500, true, false, 0, none⟩],
        by simp⟩,
      transactions := [], loans := default, goals := default, idempotencyKeys := default,
      tokenVersions := default, auditLog := [] }
  sessions _ := {}

theorem branch_idle : branch.Idle := fun _ => ⟨rfl, fun _ => ⟨rfl, rfl⟩⟩

/-- A thousand rupees for two months at 12 percent. -/
def application : Call ℚ := ⟨.applyLoan "1001" "Personal" 1000 12 2 "phone", draws 0⟩

/-- The loan is granted and paid off. -/
def repayment : List (ℕ × Call ℚ) :=
  [(1, ⟨.approveLoan "L0" "admin", draws 1⟩), (0, ⟨.payEmi "1001" "L0" none, draws 2⟩),
    (0, ⟨.payEmi "1001" "L0" none, draws 3⟩)]

example : rupeeEnv.calculateEmi 1000 12 2 = 507.51 := by decide +kernel

/-- The bank with the application, and at the end. -/
def applied : Bank ℚ := (branch.serve rupeeEnv rupees 0 application).2

def repaid : Bank ℚ := applied.run rupeeEnv rupees repayment

theorem repayment_scheduled : ∀ tc ∈ repayment, tc.2.request.Scheduled "L0" := by
  simp [repayment, Request.Scheduled]

theorem applied_made : applied.db.loans.find? "L0" ≠ none := by decide +kernel

theorem repaid_closed {loan : Loan ℚ} (found : repaid.db.loans.find? "L0" = some loan) : loan.status = .closed := by
  have closed : (repaid.db.loans.find? "L0").map Loan.status = some .closed := by decide +kernel
  rw [found] at closed
  exact Option.some.inj closed

theorem interest_never_collected_phone : ∃ loan, repaid.db.loans.find? "L0" = some loan ∧
    ¬InterestCollected (LoanService.calculateEmiPreview rupeeEnv round2 1000 12 2) 2 loan
      (applied.payments rupeeEnv rupees "L0" repayment) := by
  have kept : (repaid.db.loans.find? "L0").isSome = true := by decide +kernel
  obtain ⟨loan, found⟩ := Option.isSome_iff_exists.mp kept
  refine ⟨loan, found, ?_⟩
  exact interest_never_collected rupees_rounds rupeeEnv_documented (fun x => (round2_error x).trans (by norm_num))
    branch_idle 0 (by decide) applied_made repayment_scheduled found (repaid_closed found) (by norm_num)

/-- Both instalments are paid, the loan is closed, and the 15.02 of interest that the preview announced are not paid. -/
theorem interest_uncollected : applied.payments rupeeEnv rupees "L0" repayment = 2 ∧
    ∃ loan, repaid.db.loans.find? "L0" = some loan ∧ loan.status = .closed ∧
      ¬InterestCollected (LoanService.calculateEmiPreview rupeeEnv round2 1000 12 2) (2 / 100) loan 2 := by
  refine ⟨by decide +kernel, ?_⟩
  have paid : (repaid.db.loans.find? "L0").map Loan.amountPaid = some 1000 := by decide +kernel
  have announced : (LoanService.calculateEmiPreview rupeeEnv round2 1000 12 2).totalPayable = 1015.02 := by
    decide +kernel
  obtain ⟨loan, found, paid'⟩ := Option.map_eq_some_iff.mp paid
  refine ⟨loan, found, repaid_closed found, ?_⟩
  rintro ⟨total, -⟩
  rw [paid', announced] at total
  norm_num [abs_le] at total

end Sample

end UnionBank
