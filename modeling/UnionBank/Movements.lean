import UnionBank.Exactness

/-!
# Movements of money

With exact amounts, a posting is one of eight movements of the ledger (`Movement`): which
balances and goals it changes, by how much, and which rows it logs. What the services preserve is proved from these
cases.
-/

namespace UnionBank

open Keyed

variable {D : Type}

/-! ## Signed amounts -/

section Signed

variable [Zero D] [Neg D]

/-- The amount of a row as the statement of its account signs it. -/
def Transaction.signed (t : Transaction D) : D :=
  match t.type with
  | .deposit | .transferIn | .interest | .loanDisbursement => t.amount
  | .withdraw | .transferOut | .loanRepayment => -t.amount

/-- The amount by which a row changes the money in the bank: transfers only move it. -/
def Transaction.external (t : Transaction D) : D :=
  match t.type with
  | .transferOut | .transferIn => 0
  | _ => t.signed

end Signed

/-! ## The cases -/

section Cases

variable [AddCommGroup D] [LinearOrder D]

/-- What one call does to the ledger. -/
inductive Movement (request : Request D) (l l' : Ledger D) : Prop
  /-- Nothing. -/
  | still (same : l' = l)
  /-- One balance and its row: a deposit, a withdrawal, interest, a disbursement or a repayment. -/
  | entry {account : Account D} {balance : D} {t : Transaction D} (live : l.liveAccount? t.accountNumber = some account)
      (after : t.balance = balance) (size : balance - account.balance = t.signed)
      (outside : t.external = t.signed) (nonneg : 0 ≤ balance)
      (accounts : l'.accounts = l.accounts.set (account.withBalance balance))
      (log : l'.transactions = l.transactions ++ [t]) (goals : l'.goals = l.goals)
  /-- Two balances and their rows. -/
  | transfer {sender receiver : Account D} {out in_ : Transaction D} {amount : D} (positive : 0 < amount)
      (liveSender : l.liveAccount? out.accountNumber = some sender)
      (liveReceiver : l.liveAccount? in_.accountNumber = some receiver)
      (distinct : out.accountNumber ≠ in_.accountNumber) (typeOut : out.type = .transferOut)
      (typeIn : in_.type = .transferIn) (amountOut : out.amount = amount) (amountIn : in_.amount = amount)
      (afterOut : out.balance = sender.balance - amount) (afterIn : in_.balance = receiver.balance + amount)
      (nonneg : 0 ≤ sender.balance - amount)
      (accounts : l'.accounts = (l.accounts.set (sender.withBalance (sender.balance - amount))).set
        (receiver.withBalance (receiver.balance + amount)))
      (log : l'.transactions = l.transactions ++ [out, in_]) (goals : l'.goals = l.goals)
      (loans : l'.loans = l.loans)
  /-- From a balance, with its row, to a goal. -/
  | contribution {account : Account D} {goal goal' : SavingsGoal D} {t : Transaction D} {amount : D}
      (positive : 0 < amount) (live : l.liveAccount? t.accountNumber = some account)
      (found : l.goals.find? goal.goalId = some goal) (goals : l'.goals = l.goals.set goal')
      (id : goal'.goalId = goal.goalId) (saved : goal'.currentAmount = goal.currentAmount + amount) (type : t.type = .transferOut)
      (amountOut : t.amount = amount) (after : t.balance = account.balance - amount)
      (nonneg : 0 ≤ account.balance - amount)
      (accounts : l'.accounts = l.accounts.set (account.withBalance (account.balance - amount)))
      (log : l'.transactions = l.transactions ++ [t]) (loans : l'.loans = l.loans)
  /-- A goal ends and its amount goes to a balance, without a row. -/
  | refund {accNo goalId : String} {account : Account D} {goal : SavingsGoal D}
      (asked : request = .deleteGoal accNo goalId) (found : l.goals.find? goalId = some goal)
      (positive : 0 < goal.currentAmount) (live : l.liveAccount? accNo = some account)
      (accounts : l'.accounts = l.accounts.set (account.withBalance (account.balance + goal.currentAmount)))
      (log : l'.transactions = l.transactions) (goals : l'.goals = l.goals.erase goalId) (loans : l'.loans = l.loans)
  /-- A goal ends and nothing is refunded: it was empty, or there is no such account. -/
  | drop {accNo goalId : String} {goal : SavingsGoal D} (asked : request = .deleteGoal accNo goalId)
      (found : l.goals.find? goalId = some goal) (nothing : ¬0 < goal.currentAmount ∨ l.liveAccount? accNo = none)
      (accounts : l'.accounts = l.accounts) (log : l'.transactions = l.transactions)
      (goals : l'.goals = l.goals.erase goalId) (loans : l'.loans = l.loans)
  /-- A new goal with nothing in it. -/
  | opened {goal : SavingsGoal D} (empty : goal.currentAmount = 0) (accounts : l'.accounts = l.accounts)
      (log : l'.transactions = l.transactions) (goals : l.goals.insert? goal = some l'.goals)
      (loans : l'.loans = l.loans)
  /-- A loan and no money. -/
  | paper (accounts : l'.accounts = l.accounts) (log : l'.transactions = l.transactions) (goals : l'.goals = l.goals)
  /-- The status or the password of an account. -/
  | status {account account' : Account D} (live : l.liveAccount? account.accountNumber = some account)
      (accounts : l'.accounts = l.accounts.set account') (number : account'.accountNumber = account.accountNumber)
      (balance : account'.balance = account.balance) (log : l'.transactions = l.transactions)
      (goals : l'.goals = l.goals) (loans : l'.loans = l.loans)

/-- **A posting is a movement.** -/
theorem movement_of_posts {env : Env D} {B : Backend D} {cents : AddSubgroup D} (hB : B.Exact cents) {draws : Draws}
    {db db' : Db D} {request : Request D} {cs : List (Change D)} (posts : Posts env draws db request cs)
    (flushed : flush B cs db = .ok db') (exact : ∀ c ∈ cs, c.Exact cents) (hp : request.isProfile = false) :
    Movement request db.toLedger db'.toLedger := by
  cases posts with
  | deposit positive live can =>
    obtain ⟨db₁, h₁, h₂⟩ := (flush_two _).mp flushed
    simp only [List.forall_mem_cons] at exact
    obtain ⟨c₁, c₂, -⟩ := exact
    obtain ⟨rfl, nonneg⟩ := apply_account_exact hB h₁ c₁ (Ledger.find?_of_live live) rfl
    obtain rfl := apply_transaction_exact hB h₂ c₂
    exact .entry live rfl (add_sub_cancel_left _ _) rfl nonneg rfl rfl rfl
  | withdraw positive live can covered =>
    obtain ⟨db₁, h₁, h₂⟩ := (flush_two _).mp flushed
    simp only [List.forall_mem_cons] at exact
    obtain ⟨c₁, c₂, -⟩ := exact
    obtain ⟨rfl, nonneg⟩ := apply_account_exact hB h₁ c₁ (Ledger.find?_of_live live) rfl
    obtain rfl := apply_transaction_exact hB h₂ c₂
    exact .entry live rfl (sub_sub_cancel_left _ _) rfl nonneg rfl rfl rfl
  | @transfer senderAccNo receiverAccNo _ amount _ sender receiver positive distinct liveSender liveReceiver =>
    obtain ⟨db₁, h₁, db₂, h₂, db₃, h₃, h₄⟩ := (flush_four _).mp flushed
    simp only [List.forall_mem_cons] at exact
    obtain ⟨c₁, c₂, c₃, c₄, -⟩ := exact
    obtain ⟨rfl, nonneg⟩ := apply_account_exact hB h₁ c₁ (Ledger.find?_of_live liveSender) rfl
    have hs : sender.accountNumber = senderAccNo := Ledger.accountNumber_of_live liveSender
    have hr : receiver.accountNumber = receiverAccNo := Ledger.accountNumber_of_live liveReceiver
    have hne : receiver.accountNumber ≠ (sender.withBalance (sender.balance - amount)).accountNumber :=
      fun e => distinct (hs.symm.trans (e.symm.trans hr))
    obtain ⟨rfl, -⟩ := apply_account_exact hB h₂ c₂
      ((Table.find?_set_of_ne _ hne).trans (Ledger.find?_of_live liveReceiver)) rfl
    obtain rfl := apply_transaction_exact hB h₃ c₃
    obtain rfl := apply_transaction_exact hB h₄ c₄
    exact .transfer (not_le.mp positive) liveSender liveReceiver distinct rfl rfl rfl rfl rfl rfl nonneg rfl
      (List.append_assoc ..) rfl rfl
  | applyInterest live can positive =>
    obtain ⟨db₁, h₁, h₂⟩ := (flush_two _).mp flushed
    simp only [List.forall_mem_cons] at exact
    obtain ⟨c₁, c₂, -⟩ := exact
    obtain ⟨rfl, nonneg⟩ := apply_account_exact hB h₁ c₁ (Ledger.find?_of_live live) rfl
    obtain rfl := apply_transaction_exact hB h₂ c₂
    exact .entry live rfl (add_sub_cancel_left _ _) rfl nonneg rfl rfl rfl
  | applyLoan =>
    obtain ⟨loans, rfl⟩ := apply_insertLoan_loans ((flush_one _).mp flushed)
    exact .paper rfl rfl rfl
  | approveLoan found pending live can =>
    obtain ⟨db₁, h₁, db₂, h₂, h₃⟩ := (flush_three _).mp flushed
    simp only [List.forall_mem_cons] at exact
    obtain ⟨-, c₂, c₃, -⟩ := exact
    obtain ⟨loans, rfl⟩ := apply_loan_loans h₁
    obtain ⟨rfl, nonneg⟩ := apply_account_exact hB h₂ c₂ (Ledger.find?_of_live live) rfl
    obtain rfl := apply_transaction_exact hB h₃ c₃
    exact .entry live rfl (add_sub_cancel_left _ _) rfl nonneg rfl rfl rfl
  | rejectLoan found pending =>
    obtain ⟨loans, rfl⟩ := apply_loan_loans ((flush_one _).mp flushed)
    exact .paper rfl rfl rfl
  | payEmi found running owner live can asked positive covered least =>
    obtain ⟨db₁, h₁, db₂, h₂, h₃⟩ := (flush_three _).mp flushed
    simp only [List.forall_mem_cons] at exact
    obtain ⟨c₁, -, c₃, -⟩ := exact
    obtain ⟨rfl, nonneg⟩ := apply_account_exact hB h₁ c₁ (Ledger.find?_of_live live) rfl
    obtain ⟨loans, rfl⟩ := apply_loan_loans h₂
    obtain rfl := apply_transaction_exact hB h₃ c₃
    exact .entry live rfl (sub_sub_cancel_left _ _) rfl nonneg rfl rfl rfl
  | createGoal =>
    obtain ⟨goal, goals, empty, hg, rfl⟩ :=
      apply_insertGoal_exact hB ((flush_one _).mp flushed) (exact _ List.mem_cons_self)
    exact .opened empty rfl rfl hg rfl
  | contribute positive live covered found =>
    obtain ⟨db₁, h₁, db₂, h₂, h₃⟩ := (flush_three _).mp flushed
    simp only [List.forall_mem_cons] at exact
    obtain ⟨c₁, c₂, c₃, -⟩ := exact
    obtain ⟨rfl, nonneg⟩ := apply_account_exact hB h₁ c₁ (Ledger.find?_of_live live) rfl
    obtain rfl := apply_transaction_exact hB h₂ c₂
    have found' := found
    rw [← Table.key_of_find? found] at found'
    obtain rfl := apply_goal_exact hB h₃ c₃ found' rfl rfl
    exact .contribution (not_le.mp positive) live found' rfl rfl rfl rfl rfl rfl nonneg rfl rfl rfl
  | refundGoal found positive live =>
    obtain ⟨db₁, h₁, h₂⟩ := (flush_two _).mp flushed
    simp only [List.forall_mem_cons] at exact
    obtain ⟨-, c₂, -⟩ := exact
    obtain rfl := apply_deleteGoal_ok.mp h₁
    obtain ⟨rfl, -⟩ := apply_account_exact hB h₂ c₂ (Ledger.find?_of_live live) rfl
    rw [Table.key_of_find? found]
    exact .refund rfl found positive live rfl rfl rfl rfl
  | deleteGoal found nothing =>
    obtain rfl := apply_deleteGoal_ok.mp ((flush_one _).mp flushed)
    rw [Table.key_of_find? found]
    exact .drop rfl found nothing rfl rfl rfl rfl
  | @freezeAccount _ _ _ account live =>
    obtain ⟨db₁, h₁, h₂⟩ := (flush_two _).mp flushed
    simp only [List.forall_mem_cons] at exact
    obtain ⟨c₁, c₂, -⟩ := exact
    have stored := Ledger.find?_of_live live
    obtain ⟨rfl, -⟩ := apply_account_exact hB h₁ c₁ stored rfl
    have again := Table.find?_set_self (show db.accounts.find?
      (Account.accountNumber { account with isFrozen := true }) = some account from stored)
    obtain ⟨rfl, -⟩ := apply_account_exact hB h₂ c₂ again rfl
    exact .status (Ledger.live_self live) (Table.set_set rfl) rfl rfl rfl rfl rfl
  | unfreezeAccount live | deleteAccount live | closeAccount live =>
    obtain ⟨rfl, -⟩ := apply_account_exact hB ((flush_one _).mp flushed) (exact _ List.mem_cons_self)
      (Ledger.find?_of_live live) rfl
    exact .status (Ledger.live_self live) rfl rfl rfl rfl rfl rfl
  | updateProfile => cases hp
  | changePassword live verified support =>
    obtain ⟨db₁, h₁, h₂⟩ := (flush_two _).mp flushed
    obtain ⟨rfl, -⟩ := apply_account_exact hB h₁ (exact _ List.mem_cons_self) (Ledger.find?_of_live live) rfl
    rw [apply_support support h₂]
    exact .status (Ledger.live_self live) rfl rfl rfl rfl rfl rfl

/-- A call with exact amounts moves an exact ledger and keeps it exact. -/
theorem Posted.movement {env : Env D} {B : Backend D} {cents : AddSubgroup D} (hB : B.Exact cents)
    (henv : env.Exact cents) {c : Call D} {db db' : Db D} (posted : Posted env B c db db')
    (hl : db.toLedger.Exact cents) (hr : c.request.Exact cents) (hp : c.request.isProfile = false) :
    Movement c.request db.toLedger db'.toLedger ∧ db'.toLedger.Exact cents := by
  cases posted with
  | unmoved ledger => exact ⟨.still ledger, ledger ▸ hl⟩
  | moved posts flushed ledger =>
    have exact := posts_exact henv posts hr hl hp
    rw [ledger]
    exact ⟨movement_of_posts hB posts flushed exact hp, flush_exact hB exact hl flushed⟩

end Cases

end UnionBank
