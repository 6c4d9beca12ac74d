import UnionBank.AdminLists

/-!
# One customer's requests and another one's money

The requests of the customers of v1 and v2, one after another. Every request says whose it is, and the services and the
endpoints take the caller's own account; the goal that a request names they take as it is, whoever it belongs to. A
request that reaches no goal of another customer leaves the loans, the goals and the balance of every other customer as
they are, but for the amount of a transfer to him (`customers_isolated`).

- `Visit.From`: the requests of a customer; `Visit.Careful`: the condition on a request;
- `Isolated`: what one request leaves another customer; `Bank.Isolates`: what a run does.
-/

namespace UnionBank

open Keyed Programs Prog

set_option linter.unusedSectionVars false

variable {D : Type}

/-! ## Requests of customers -/

/-- The customer whose call it is; the others are the admin's or no endpoint's. -/
def Request.caller : Request D → Option String
  | .deposit accNo .. | .withdraw accNo .. | .transfer accNo .. | .applyInterest accNo | .applyLoan accNo ..
  | .payEmi accNo .. | .createGoal accNo .. | .contribute accNo .. | .deleteGoal accNo .. | .changePassword accNo ..
  | .closeAccount accNo .. => some accNo
  | _ => none

/-- A request that the endpoints make for a customer. `update_savings_goal` does not ask for the caller. -/
def Visit.From (caller : String) : Visit D → Prop
  | .call c => c.request.caller = some caller
  | .updateProfile accNo _ | .changePassword accNo .. => accNo = caller
  | .updateSavingsGoal .. => True
  | .register .. => False

variable [Zero D] [Add D] [Sub D] [LE D] [LT D] [DecidableEq D] [DecidableLE D] [DecidableLT D]

/-- What `contribute` checks before it touches the goal; the other requests touch it unchecked. -/
def Visit.Passes (l : Ledger D) : Visit D → Prop
  | .call ⟨.contribute accNo _ amount, _⟩ =>
    ¬amount ≤ 0 ∧ ∃ account, l.liveAccount? accNo = some account ∧ ¬account.balance < amount
  | _ => True

/-- A request that reaches no goal of another customer; a transfer whose sum the balance column keeps as it is. -/
structure Visit.Careful (B : Backend D) (l : Ledger D) (caller : String) (v : Visit D) : Prop where
  own : v.Passes l → ∀ goalId ∈ v.goals, ∀ goal, l.goals.find? goalId = some goal → goal.accountNumber = caller
  kept : ∀ receiver amount category key draws, v = .call ⟨.transfer caller receiver amount category key, draws⟩ →
    ∀ account, l.liveAccount? receiver = some account →
      ∀ sum, B.money (account.balance + amount) = .ok sum → sum = account.balance + amount

/-- What a request of `caller` leaves another customer: his loans, his goals, and his balance, unless it is raised by
the amount of a successful transfer to him; and a refund does not come from a goal of his. -/
structure Isolated (caller other : String) (v : Visit D) (r : Except Exn (Answer D)) (l l' : Ledger D) : Prop where
  loans : (l'.belongings other).2.1 = (l.belongings other).2.1
  goals : (l'.belongings other).2.2 = (l.belongings other).2.2
  balance : (l'.accounts.find? other).map Account.balance = (l.accounts.find? other).map Account.balance ∨
    ∃ amount category key draws, v = .call ⟨.transfer caller other amount category key, draws⟩ ∧
      Answer.succeeds r = true ∧
      (l'.accounts.find? other).map Account.balance = (l.accounts.find? other).map fun a => a.balance + amount
  refund : ∀ goalId draws, v = .call ⟨.deleteGoal caller goalId, draws⟩ → (l.belongings other).2.2 goalId = none

section Steps

variable {env : Env D} {checks : Checks} {B : Backend D} {db : Db D} {caller other : String} {v : Visit D}

/-- What belongs to one customer does not belong to another. -/
theorem loan_elsewhere {l : Ledger D} {loanId : String} {loan : Loan D} (found : l.loans.find? loanId = some loan)
    (ne : loan.accountNumber ≠ other) : (l.belongings other).2.1 loanId = none := by
  simp [Ledger.belongings, found, Option.filter, ne]

theorem goal_elsewhere {l : Ledger D} {goalId : String}
    (own : ∀ goal, l.goals.find? goalId = some goal → goal.accountNumber ≠ other) :
    (l.belongings other).2.2 goalId = none := by
  cases found : l.goals.find? goalId with
  | none => simp [Ledger.belongings, found]
  | some goal => simp [Ledger.belongings, found, Option.filter, own goal found]

/-- **What a careful request writes is elsewhere**, unless it is a transfer to the other customer. -/
theorem elsewhere_of_writes {cs : List (Change D)} (writes : v.Writes env db cs) (from_ : v.From caller)
    (careful : v.Careful B db.toLedger caller) (ne : other ≠ caller)
    (noTransfer : ∀ amount category key draws, v ≠ .call ⟨.transfer caller other amount category key, draws⟩) :
    v.Elsewhere db.toLedger other := by
  have mine : v.Passes db.toLedger → ∀ goalId ∈ v.goals, (db.toLedger.belongings other).2.2 goalId = none := by
    intro passes goalId named
    refine goal_elsewhere fun goal found => ?_
    rw [careful.own passes goalId named goal found]
    exact ne.symm
  cases writes with
  | @call c cs posts =>
    obtain ⟨request, draws⟩ := c
    have caller' : request.caller = some caller := from_
    cases posts with
    | transfer =>
      cases caller'
      refine ⟨?_, by simp [Visit.loans, Request.loans], by simp [Visit.goals, Request.goals]⟩
      simp only [Visit.accounts, Request.accounts, List.mem_cons, List.not_mem_nil, or_false, not_or]
      refine ⟨ne, ?_⟩
      rintro rfl
      exact noTransfer _ _ _ _ rfl
    | payEmi found running owner =>
      cases caller'
      refine ⟨by simp [Visit.accounts, Request.accounts, ne], ?_, by simp [Visit.goals, Request.goals]⟩
      intro loanId named
      obtain rfl := List.mem_singleton.mp named
      refine loan_elsewhere found ?_
      rw [owner]
      exact ne.symm
    | contribute positive live covered =>
      cases caller'
      exact ⟨by simp [Visit.accounts, Request.accounts, ne], by simp [Visit.loans, Request.loans],
        mine ⟨positive, _, live, covered⟩⟩
    | refundGoal | deleteGoal =>
      cases caller'
      exact ⟨by simp [Visit.accounts, Request.accounts, ne], by simp [Visit.loans, Request.loans], mine trivial⟩
    | deposit | withdraw | applyInterest | applyLoan | createGoal | changePassword | closeAccount =>
      cases caller'
      exact ⟨by simp [Visit.accounts, Request.accounts, ne], by simp [Visit.loans, Request.loans],
        by simp [Visit.goals, Request.goals]⟩
    | _ => cases caller'
  | register => exact from_.elim
  | updateSavingsGoal => exact ⟨by simp [Visit.accounts], by simp [Visit.loans], mine trivial⟩
  | updateProfile | changePassword =>
    obtain rfl := from_
    exact ⟨by simp [Visit.accounts, ne], by simp [Visit.loans], by simp [Visit.goals]⟩

/-- A transfer that is committed: the receiver has the amount more. -/
theorem transfer_posted {db' : Db D} {draws : Draws} {amount : D} {category : String} {key : Option String}
    {cs : List (Change D)} (posts : Posts env draws db (.transfer caller other amount category key) cs)
    (flushed : flush B cs db = .ok db')
    (kept : ∀ account, db.liveAccount? other = some account → ∀ sum, B.money (account.balance + amount) = .ok sum →
      sum = account.balance + amount) :
    db'.loans = db.loans ∧ db'.goals = db.goals ∧
      (db'.accounts.find? other).map Account.balance = (db.accounts.find? other).map fun a => a.balance + amount := by
  cases posts with
  | @transfer _ _ _ _ _ sender receiver _ distinct liveSender liveReceiver =>
    obtain ⟨db₁, h₁, db₂, h₂, db₃, h₃, h₄⟩ := (flush_four B).mp flushed
    obtain ⟨stored, found, balance, -, -, -, rfl⟩ := apply_account_ok.mp h₁
    obtain ⟨stored', found', balance', column, -, -, rfl⟩ := apply_account_ok.mp h₂
    obtain ⟨_, -, _, -, -, -, -, rfl⟩ := apply_insertTransaction_ok.mp h₃
    obtain ⟨_, -, _, -, -, -, -, rfl⟩ := apply_insertTransaction_ok.mp h₄
    refine ⟨rfl, rfl, ?_⟩
    have numbered := Ledger.accountNumber_of_live liveReceiver
    have there := Ledger.find?_of_live liveReceiver
    have apart : receiver.accountNumber ≠ stored.accountNumber := by
      rw [Table.key_of_find? found, Ledger.accountNumber_of_live liveSender, numbered]
      exact distinct.symm
    have row : stored' = receiver := by
      have same : (db.accounts.set (sender.merge (sender.withBalance (sender.balance - amount)) stored balance)).find?
          receiver.accountNumber = db.accounts.find? receiver.accountNumber := Table.find?_set_of_ne _ apart
      have found'' : (db.accounts.set (sender.merge (sender.withBalance (sender.balance - amount)) stored balance)).find?
          receiver.accountNumber = some stored' := found'
      rw [same, there] at found''
      exact (Option.some.inj found'').symm
    subst row
    have exact_ : balance' = stored'.balance + amount := by
      have column' : B.moneyColumn stored'.balance (stored'.balance + amount) stored'.balance = .ok balance' := column
      unfold Backend.moneyColumn Backend.numberColumn at column'
      split at column'
      next same => rw [← Except.ok.inj column', same]
      next => exact kept stored' liveReceiver balance' column'
    have set := Table.find?_set_self (r := stored'.merge (stored'.withBalance (stored'.balance + amount)) stored' balance')
      (show _ = some stored' from found')
    rw [numbered] at there
    rw [there]
    have key' : (stored'.merge (stored'.withBalance (stored'.balance + amount)) stored' balance').accountNumber = other :=
      numbered
    rw [key'] at set
    exact (congrArg (Option.map Account.balance) set).trans (congrArg some exact_)

/-- One request. -/
theorem attend_isolated {bank : Bank D} (idle : bank.Idle) (thread : ℕ) (from_ : v.From caller)
    (careful : v.Careful B bank.db.toLedger caller) (ne : other ≠ caller) :
    Isolated caller other v (bank.attend env checks B thread v).1 bank.db.toLedger
      (bank.attend env checks B thread v).2.db.toLedger := by
  have refund : ∀ goalId draws, v = .call ⟨.deleteGoal caller goalId, draws⟩ →
      (bank.db.toLedger.belongings other).2.2 goalId = none := by
    rintro goalId draws rfl
    refine goal_elsewhere fun goal found => ?_
    rw [careful.own trivial goalId (List.mem_singleton_self _) goal found]
    exact ne.symm
  have unmoved : (bank.attend env checks B thread v).2.db.toLedger = bank.db.toLedger →
      Isolated caller other v (bank.attend env checks B thread v).1 bank.db.toLedger
        (bank.attend env checks B thread v).2.db.toLedger := by
    intro same
    rw [same]
    exact ⟨rfl, rfl, .inl rfl, refund⟩
  have attended := (attend_settles env checks B idle thread v).1
  cases attended with
  | unmoved ledger => exact unmoved ledger
  | @moved db₁ cs writes flushed ledger =>
    by_cases transfers : ∃ amount category key draws, v = .call ⟨.transfer caller other amount category key, draws⟩
    · obtain ⟨amount, category, key, draws, rfl⟩ := transfers
      have answered : (bank.attend env checks B thread
            (.call ⟨.transfer caller other amount category key, draws⟩)).2.db.toLedger = bank.db.toLedger ∨
          Answer.succeeds (bank.attend env checks B thread
            (.call ⟨.transfer caller other amount category key, draws⟩)).1 = true := by
        rw [attend_call, attend_call_succeeds]
        exact serve_success idle thread _
      rcases answered with same | success
      · exact unmoved same
      · cases writes with
        | call posts =>
          obtain ⟨loans, goals, balance⟩ := transfer_posted posts flushed (careful.kept other amount category key draws rfl)
          rw [ledger]
          refine ⟨?_, ?_, .inr ⟨amount, category, key, draws, rfl, success, balance⟩, refund⟩
          · simp only [Ledger.belongings, loans]
          · simp only [Ledger.belongings, goals]
    · have elsewhere := elsewhere_of_writes writes from_ careful ne
        fun amount category key draws eq => transfers ⟨amount, category, key, draws, eq⟩
      obtain ⟨row, belongings⟩ := attend_elsewhere env checks B idle thread elsewhere
      exact ⟨by rw [belongings], by rw [belongings], .inl (congrArg _ row), refund⟩

end Steps

/-! ## Runs -/

section Runs

variable (env : Env D) (checks : Checks) (B : Backend D)

namespace Bank

/-- Requests one after another, each with its thread and its customer: all are careful when they are made. -/
def Careful (bank : Bank D) : List (ℕ × String × Visit D) → Prop
  | [] => True
  | (thread, caller, v) :: requests =>
    (v.From caller ∧ v.Careful B bank.db.toLedger caller) ∧ (bank.attend env checks B thread v).2.Careful requests

/-- No request touches what is another customer's. -/
def Isolates (bank : Bank D) : List (ℕ × String × Visit D) → Prop
  | [] => True
  | (thread, caller, v) :: requests =>
    (∀ other, other ≠ caller → Isolated caller other v (bank.attend env checks B thread v).1 bank.db.toLedger
      (bank.attend env checks B thread v).2.db.toLedger) ∧ (bank.attend env checks B thread v).2.Isolates requests

end Bank

variable {env checks B}

/-- **Customers are isolated**: in every run in which no request reaches a goal of another customer, no request changes
what is another customer's, but for the amounts of the transfers to him. -/
theorem customers_isolated {bank : Bank D} (idle : bank.Idle) {requests : List (ℕ × String × Visit D)}
    (careful : bank.Careful env checks B requests) : bank.Isolates env checks B requests := by
  induction requests generalizing bank with
  | nil => trivial
  | cons request requests ih =>
    obtain ⟨thread, caller, v⟩ := request
    obtain ⟨⟨from_, here⟩, rest⟩ := careful
    exact ⟨fun other ne => attend_isolated idle thread from_ here ne,
      ih (attend_settles env checks B idle thread v).2 rest⟩

end Runs

/-! ## A goal of another customer -/

namespace Sample

/-- No validator is asked. -/
def noChecks : Checks := ⟨fun _ => true, fun _ => true, fun _ => true, fun _ => (true, "")⟩

/-- A transfer to the second account, whose customer saves it and takes it back. -/
def savings : List (ℕ × String × Visit ℤ) :=
  [(0, "1001", .call ⟨.transfer "1001" "1002" 3000 "Rent" none, draws 0⟩),
    (1, "1002", .call ⟨.contribute "1002" "G1" 2000, draws 1⟩),
    (1, "1002", .call ⟨.deleteGoal "1002" "G1", draws 2⟩)]

theorem savings_careful : (bank 10000 5000 700).Careful paiseEnv noChecks paise savings := by
  have own : ∀ {l : Ledger ℤ} {caller : String} {v : Visit ℤ},
      (∀ goalId ∈ v.goals, ((l.goals.find? goalId).map SavingsGoal.accountNumber).getD caller = caller) →
        (∀ receiver amount category key draws, v = .call ⟨.transfer caller receiver amount category key, draws⟩ →
          ∀ account, l.liveAccount? receiver = some account →
            ∀ sum, paise.money (account.balance + amount) = .ok sum → sum = account.balance + amount) →
          v.Careful paise l caller := by
    intro l caller v goals kept
    refine ⟨fun _ goalId named goal found => ?_, kept⟩
    have here := goals goalId named
    rwa [found] at here
  have whole : ∀ x sum : ℤ, paise.money x = .ok sum → sum = x := by
    intro x sum kept
    simp only [Backend.money, Backend.number, paise] at kept
    split at kept <;> simp_all
  refine ⟨⟨rfl, own (by decide) fun _ _ _ _ _ _ _ _ sum => whole _ sum⟩, ⟨rfl, own (by decide) ?_⟩, ⟨rfl, own (by decide) ?_⟩,
    trivial⟩
  · intro _ _ _ _ _ transfer
    cases transfer
  · intro _ _ _ _ _ transfer
    cases transfer

theorem savings_isolated : (bank 10000 5000 700).Isolates paiseEnv noChecks paise savings :=
  customers_isolated (bank_idle _ _ _) savings_careful

/-- The first customer deletes the goal of the second one, and has what was in it. -/
theorem goal_taken : ¬(bank 10000 5000 700).Isolates paiseEnv noChecks paise
    [(0, "1001", .call ⟨.deleteGoal "1001" "G1", draws 0⟩)] := by
  rintro ⟨isolated, -⟩
  have kept := congrFun (isolated "1002" (by decide)).goals "G1"
  revert kept
  decide

/-- His balance afterwards. -/
example : (((bank 10000 5000 700).attend paiseEnv noChecks paise 0
    (.call ⟨.deleteGoal "1001" "G1", draws 0⟩)).2.db.accounts.find? "1001").map Account.balance = some 10700 := by
  decide

end Sample

end UnionBank
