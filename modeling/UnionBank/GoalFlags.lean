import UnionBank.Conservation
import UnionBank.Dormancy
import UnionBank.Amortisation

/-!
# Goals and their flags

Four writers keep `is_completed`: `create` leaves it to the column, `contribute` sets it, the goal endpoint of v1
computes it, and `save_goals` writes the goals that `load_goals` has read back over themselves.

- `loadGoals`, `saveGoals`: the helpers of `utils/savings.py`, with the statements of their flush;
- `GoalStep`, `Bank.goalRun`: visits and round trips in any order;
- `SavingsGoal.Flagged`: the flag says whether the target is reached; `goals_flagged`: along a run, and what a round
  trip leaves as it was.
-/

namespace UnionBank

open Keyed

set_option linter.unusedSectionVars false

variable {D : Type}

/-! ## `utils/savings.py` -/

/-- The entries of `load_goals` that `save_goals` reads. -/
structure GoalDict (D : Type) where
  goalId : String
  name : String
  targetAmount : D
  currentAmount : D
  targetDate : String
  isCompleted : Bool

/-- `get_by_account`. -/
def goalRepo.getByAccount (db : Ledger D) (accNo : String) : List (SavingsGoal D) :=
  db.goals.rows.filter fun g => g.accountNumber = accNo

def loadGoal (env : Env D) (g : SavingsGoal D) : GoalDict D where
  goalId := g.goalId
  name := g.name
  targetAmount := env.float g.targetAmount
  currentAmount := env.float g.currentAmount
  targetDate := g.targetDate.getD ""
  isCompleted := g.isCompleted

def loadGoals (env : Env D) (db : Ledger D) (accNo : String) : List (GoalDict D) :=
  (goalRepo.getByAccount db accNo).map (loadGoal env)

/-- `g.get("target_date") or None`. -/
def givenDate (date : String) : Option String := if date = "" then none else some date

/-- The row that takes the place of a deleted one with its key: the new object's columns are written over it, and
`created_at` and `is_completed`, which `create` does not set, stay. -/
def GoalDict.rewrite (accNo : String) (d : GoalDict D) (row : SavingsGoal D) : SavingsGoal D :=
  { row with
    accountNumber := accNo, name := d.name, targetAmount := d.targetAmount, currentAmount := d.currentAmount,
    targetDate := givenDate d.targetDate }

/-- A row of a new key, with the defaults of the columns. -/
def GoalDict.fresh [Zero D] (accNo : String) (now : Time) (d : GoalDict D) : SavingsGoal D where
  goalId := d.goalId
  accountNumber := accNo
  name := d.name
  targetAmount := d.targetAmount
  currentAmount := d.currentAmount
  targetDate := givenDate d.targetDate
  createdAt := now
  isCompleted := false

/-- `save_goals`, as its one flush writes it: all goals of the account are deleted and the given ones created, and the
unit of work turns the deletion and the creation of one primary key into an UPDATE. -/
def saveGoals [Zero D] (accNo : String) (now : Time) (deleted : List (SavingsGoal D)) :
    List (GoalDict D) → List (Change D)
  | [] => deleted.map fun row => .deleteGoal row.goalId
  | d :: goals =>
    match deleted.find? fun row => row.goalId = d.goalId with
    | some row =>
      .goal row (d.rewrite accNo row) :: saveGoals accNo now (deleted.filter fun row => row.goalId ≠ d.goalId) goals
    | none => .insert (.goal (d.fresh accNo now)) :: saveGoals accNo now deleted goals

/-! ## Round trips -/

section RoundTrip

variable [AddCommGroup D] [LinearOrder D] (env : Env D) (B : Backend D)

/-- The statements of `save_goals(acc_no, load_goals(acc_no))`. -/
def roundTrip (db : Ledger D) (accNo : String) (now : Time) : List (Change D) :=
  saveGoals accNo now (goalRepo.getByAccount db accNo) (loadGoals env db accNo)

/-- The round trip on the session of a thread. -/
def Bank.saveLoaded (bank : Bank D) (thread : ℕ) (accNo : String) (now : Time) : Bank D :=
  let s := bank.sessions thread
  if s.inactive then bank
  else
    match flush B (s.pending ++ roundTrip env bank.db.toLedger accNo now) bank.db with
    | .ok db => { db, sessions := Function.update bank.sessions thread s.clear }
    | .error _ => { bank with sessions := Function.update bank.sessions thread { s.clear with inactive := true } }

/-- A visit or a round trip. -/
inductive GoalStep (D : Type) where
  | visit (v : Visit D)
  | roundTrip (accNo : String) (now : Time)

variable (checks : Checks)

def Bank.goalStep (bank : Bank D) (thread : ℕ) : GoalStep D → Bank D
  | .visit v => (bank.attend env checks B thread v).2
  | .roundTrip accNo now => bank.saveLoaded env B thread accNo now

/-- Steps one after another, each on the session of the thread it comes with. -/
def Bank.goalRun (bank : Bank D) : List (ℕ × GoalStep D) → Bank D
  | [] => bank
  | (thread, step) :: steps => (bank.goalStep env B checks thread step).goalRun steps

end RoundTrip

/-! ## What a round trip writes -/

section Rewrites

variable [AddCommGroup D] [LinearOrder D] {env : Env D} {B : Backend D} {db db' : Db D} {accNo : String} {now : Time}

/-- A row as the round trip leaves it. -/
def SavingsGoal.reread (g : SavingsGoal D) (target saved : D) : SavingsGoal D :=
  { g with targetAmount := target, currentAmount := saved, targetDate := givenDate (g.targetDate.getD "") }

theorem saveGoals_self {rows : List (SavingsGoal D)} (nodup : (rows.map SavingsGoal.goalId).Nodup) :
    saveGoals accNo now rows (rows.map (loadGoal env)) =
      rows.map fun g => .goal g ((loadGoal env g).rewrite accNo g) := by
  induction rows with
  | nil => rfl
  | cons g rows ih =>
    obtain ⟨new, nodup⟩ := List.nodup_cons.mp nodup
    have first : (g :: rows).find? (fun row => row.goalId = (loadGoal env g).goalId) = some g :=
      List.find?_cons_of_pos (decide_eq_true rfl)
    have others : ((g :: rows).filter fun row => row.goalId ≠ (loadGoal env g).goalId) = rows := by
      rw [List.filter_cons_of_neg (by simp [loadGoal]), List.filter_eq_self]
      intro row mem
      exact decide_eq_true fun eq => new (List.mem_map.mpr ⟨row, mem, eq⟩)
    rw [List.map_cons, List.map_cons, saveGoals, first]
    dsimp only
    rw [others, ih nodup]

theorem getByAccount_nodup (l : Ledger D) (accNo : String) :
    ((goalRepo.getByAccount l accNo).map SavingsGoal.goalId).Nodup :=
  (List.filter_sublist.map SavingsGoal.goalId).nodup l.goals.nodup

theorem givenDate_getD (date : Option String) : (givenDate (date.getD "")).getD "" = date.getD "" := by
  unfold givenDate
  split
  · next eq => exact eq.symm
  · rfl

/-- One row is written over. -/
theorem apply_rewrite {g : SavingsGoal D} (found : db.goals.find? g.goalId = some g) (own : g.accountNumber = accNo) :
    (Change.goal g ((loadGoal env g).rewrite accNo g)).apply B db = .ok db' ↔
      ∃ target, B.moneyColumn g.targetAmount (env.float g.targetAmount) g.targetAmount = .ok target ∧
        ∃ saved, B.moneyColumn g.currentAmount (env.float g.currentAmount) g.currentAmount = .ok saved ∧
          db' = db.withGoals (db.goals.set (g.reread target saved)) := by
  have texts : changedTexts g.texts ((loadGoal env g).rewrite accNo g).texts = [] := by
    have same : ((loadGoal env g).rewrite accNo g).texts = g.texts := by
      simp only [SavingsGoal.texts, GoalDict.rewrite, loadGoal, own, givenDate_getD]
    rw [same, changedTexts_self]
  have merged (target saved : D) :
      g.merge ((loadGoal env g).rewrite accNo g) g target saved = g.reread target saved := by
    simp only [SavingsGoal.merge, column_stored, GoalDict.rewrite, loadGoal, SavingsGoal.reread, own]
  rw [apply_goal_ok, texts]
  constructor
  · rintro ⟨stored, h, target, ht, saved, hs, -, rfl⟩
    cases found.symm.trans h
    exact ⟨target, ht, saved, hs, by rw [merged]⟩
  · rintro ⟨target, ht, saved, hs, rfl⟩
    exact ⟨g, found, target, ht, saved, hs, rfl, by rw [merged]⟩

variable (env accNo) in
/-- The statements of a round trip over rows of the account. -/
def rewrites (rows : List (SavingsGoal D)) : List (Change D) :=
  rows.map fun g => .goal g ((loadGoal env g).rewrite accNo g)

theorem roundTrip_eq (l : Ledger D) : roundTrip env l accNo now = rewrites env accNo (goalRepo.getByAccount l accNo) :=
  saveGoals_self (getByAccount_nodup l accNo)

/-- The round trip leaves the row as it is. -/
structure SavingsGoal.Kept (env : Env D) (B : Backend D) (g : SavingsGoal D) : Prop where
  target : B.moneyColumn g.targetAmount (env.float g.targetAmount) g.targetAmount = .ok g.targetAmount
  saved : B.moneyColumn g.currentAmount (env.float g.currentAmount) g.currentAmount = .ok g.currentAmount
  date : g.targetDate ≠ some ""

theorem givenDate_eq {date : Option String} : givenDate (date.getD "") = date ↔ date ≠ some "" := by
  cases date with
  | none => simp [givenDate]
  | some s => by_cases h : s = "" <;> simp [givenDate, h]

/-- What the rows become, and that nothing else does. -/
theorem flush_rewrites {rows : List (SavingsGoal D)} (nodup : (rows.map SavingsGoal.goalId).Nodup)
    (stored : ∀ g ∈ rows, db.goals.find? g.goalId = some g) (own : ∀ g ∈ rows, g.accountNumber = accNo)
    (flushed : flush B (rewrites env accNo rows) db = .ok db') :
    (∀ k, k ∉ rows.map SavingsGoal.goalId → db'.goals.find? k = db.goals.find? k) ∧
      ∀ g ∈ rows, ∃ target, B.moneyColumn g.targetAmount (env.float g.targetAmount) g.targetAmount = .ok target ∧
        ∃ saved, B.moneyColumn g.currentAmount (env.float g.currentAmount) g.currentAmount = .ok saved ∧
          db'.goals.find? g.goalId = some (g.reread target saved) := by
  induction rows generalizing db with
  | nil =>
    cases flushed
    exact ⟨fun _ _ => rfl, nofun⟩
  | cons g rows ih =>
    obtain ⟨new, nodup⟩ := List.nodup_cons.mp nodup
    obtain ⟨storedFirst, stored⟩ := List.forall_mem_cons.mp stored
    obtain ⟨ownFirst, own⟩ := List.forall_mem_cons.mp own
    obtain ⟨db₁, first, rest⟩ := (flush_cons_ok B).mp flushed
    obtain ⟨target, ht, saved, hs, rfl⟩ := (apply_rewrite storedFirst ownFirst).mp first
    have elsewhere (k : String) (other : k ≠ g.goalId) :
        (db.withGoals (db.goals.set (g.reread target saved))).goals.find? k = db.goals.find? k :=
      Table.find?_set_of_ne _ other
    have still : ∀ g' ∈ rows,
        (db.withGoals (db.goals.set (g.reread target saved))).goals.find? g'.goalId = some g' := by
      intro g' mem
      have other : g'.goalId ≠ g.goalId := fun eq => new (eq ▸ List.mem_map_of_mem mem)
      rw [elsewhere _ other, stored g' mem]
    obtain ⟨outside, inside⟩ := ih nodup still own rest
    refine ⟨fun k absent => ?_, List.forall_mem_cons.mpr ⟨?_, inside⟩⟩
    · rw [List.map_cons, List.mem_cons, not_or] at absent
      rw [outside k absent.2, elsewhere k absent.1]
    · refine ⟨target, ht, saved, hs, ?_⟩
      rw [outside _ new]
      exact Table.find?_set_self storedFirst

/-- Exactly the rows that are kept stay as they are. -/
theorem flush_rewrites_self {rows : List (SavingsGoal D)} (nodup : (rows.map SavingsGoal.goalId).Nodup)
    (stored : ∀ g ∈ rows, db.goals.find? g.goalId = some g) (own : ∀ g ∈ rows, g.accountNumber = accNo) :
    flush B (rewrites env accNo rows) db = .ok db ↔ ∀ g ∈ rows, g.Kept env B := by
  constructor
  · intro flushed g mem
    obtain ⟨target, ht, saved, hs, after⟩ := (flush_rewrites nodup stored own flushed).2 g mem
    have same : g = g.reread target saved := Option.some.inj ((stored g mem).symm.trans after)
    have sameTarget : g.targetAmount = target := congrArg SavingsGoal.targetAmount same
    have sameSaved : g.currentAmount = saved := congrArg SavingsGoal.currentAmount same
    have sameDate : g.targetDate = givenDate (g.targetDate.getD "") := congrArg SavingsGoal.targetDate same
    exact ⟨by rw [ht, sameTarget], by rw [hs, sameSaved], givenDate_eq.mp sameDate.symm⟩
  · intro kept
    induction rows with
    | nil => rfl
    | cons g rows ih =>
      obtain ⟨-, nodup⟩ := List.nodup_cons.mp nodup
      obtain ⟨storedFirst, stored⟩ := List.forall_mem_cons.mp stored
      obtain ⟨ownFirst, own⟩ := List.forall_mem_cons.mp own
      obtain ⟨first, kept⟩ := List.forall_mem_cons.mp kept
      have same : g.reread g.targetAmount g.currentAmount = g := by
        rw [SavingsGoal.reread, givenDate_eq.mpr first.date]
      have unchanged : db.withGoals (db.goals.set (g.reread g.targetAmount g.currentAmount)) = db := by
        rw [same, Table.set_found storedFirst]
        rfl
      refine (flush_cons_ok B).mpr ⟨db, ?_, ih nodup stored own kept⟩
      exact (apply_rewrite storedFirst ownFirst).mpr ⟨_, first.target, _, first.saved, unchanged.symm⟩

end Rewrites

/-! ## Flags -/

section Flags

variable [AddCommGroup D] [LinearOrder D] {cents : AddSubgroup D} {env : Env D} {checks : Checks} {B : Backend D}
  {db db' : Db D}

/-- The flag says whether the target is reached, and the amounts are exact. -/
structure SavingsGoal.Flagged (cents : AddSubgroup D) (g : SavingsGoal D) : Prop where
  target : g.targetAmount ∈ cents
  saved : g.currentAmount ∈ cents
  flag : g.isCompleted = true ↔ g.targetAmount ≤ g.currentAmount

def Ledger.GoalsFlagged (cents : AddSubgroup D) (l : Ledger D) : Prop := ∀ g ∈ l.goals.rows, g.Flagged cents

/-- Whether a change is about a goal. -/
def Change.onGoals : Change D → Bool
  | .insert (.goal _) | .goal .. | .deleteGoal _ => true
  | _ => false

theorem offGoals_of_support {c : Change D} (support : c.isSupport = true) : c.onGoals = false := by
  rcases c with (_ | _ | _ | _ | _ | _ | _) | _ | _ | _ | _ | _ <;> first | rfl | exact Bool.noConfusion support

theorem apply_offGoals {c : Change D} (off : c.onGoals = false) (h : c.apply B db = .ok db') : db'.goals = db.goals := by
  by_cases support : c.isSupport = true
  · exact congrArg Ledger.goals (apply_support support h)
  cases c with
  | insert row =>
    cases row with
    | account =>
      obtain ⟨accounts, rfl⟩ := apply_insertAccount_accounts h
      rfl
    | transaction =>
      obtain ⟨amount, -, balance, -, -, -, -, rfl⟩ := apply_insertTransaction_ok.mp h
      rfl
    | loan =>
      obtain ⟨loans, rfl⟩ := apply_insertLoan_loans h
      rfl
    | goal => exact Bool.noConfusion off
    | _ => exact absurd rfl support
  | account =>
    obtain ⟨stored, -, balance, -, -, -, rfl⟩ := apply_account_ok.mp h
    rfl
  | loan =>
    obtain ⟨loans, rfl⟩ := apply_loan_loans h
    rfl
  | goal => exact Bool.noConfusion off
  | deleteGoal => exact Bool.noConfusion off
  | tokenVersion => exact absurd rfl support

theorem flush_offGoals {cs : List (Change D)} (off : ∀ c ∈ cs, c.onGoals = false) (h : flush B cs db = .ok db') :
    db'.goals = db.goals := by
  induction cs generalizing db with
  | nil => cases h; rfl
  | cons c cs ih =>
    obtain ⟨db₁, h₁, h₂⟩ := (flush_cons_ok B).mp h
    rw [ih (fun c mem => off c (List.mem_cons_of_mem _ mem)) h₂, apply_offGoals (off c List.mem_cons_self) h₁]

/-- The goal amounts of a visit are exact. -/
def Visit.GoalExact (cents : AddSubgroup D) : Visit D → Prop
  | .call c =>
    match c.request with
    | .createGoal _ _ target _ => target ∈ cents
    | .contribute _ _ amount => amount ∈ cents
    | _ => True
  | .updateSavingsGoal _ form => ∀ target ∈ form.targetAmount, target ∈ cents
  | _ => True

theorem Ledger.GoalsFlagged.set {l : Ledger D} {goals : Table (SavingsGoal.goalId (D := D))} {g : SavingsGoal D}
    (law : l.GoalsFlagged cents) (flagged : g.Flagged cents) (eq : goals = l.goals.set g) :
    ∀ x ∈ goals.rows, x.Flagged cents := by
  intro x mem
  rw [eq] at mem
  rcases Table.mem_set mem with rfl | ⟨mem, -⟩
  · exact flagged
  · exact law x mem

/-- An UPDATE of a stored goal with exact amounts. -/
theorem apply_goal_stored (hB : B.Exact cents) {goal goal' : SavingsGoal D}
    (h : (Change.goal goal goal').apply B db = .ok db') (target : goal'.targetAmount ∈ cents)
    (saved : goal'.currentAmount ∈ cents) (stored : db.goals.find? goal.goalId = some goal)
    (id : goal'.goalId = goal.goalId) : db'.goals = db.goals.set goal' := by
  obtain ⟨row, found, target', ht, saved', hs, -, rfl⟩ := apply_goal_ok.mp h
  cases stored.symm.trans found
  rw [hB.moneyColumn_eq target ht, hB.moneyColumn_eq saved hs, column_stored, column_stored, SavingsGoal.merge_self id]
  rfl

theorem Flagged.contributed {goal : SavingsGoal D} {amount : D} [IsOrderedAddMonoid D] (flagged : goal.Flagged cents)
    (exact : amount ∈ cents) (positive : 0 < amount) : (Query.contributed goal amount).Flagged cents := by
  refine ⟨flagged.target, cents.add_mem flagged.saved exact, ?_⟩
  simp only [Query.contributed]
  split
  · next reached => simp [reached]
  · next short =>
    rw [flagged.flag]
    constructor
    · intro before
      exact absurd (before.trans (le_add_of_nonneg_right positive.le)) short
    · intro after
      exact absurd after short

/-- What a posting does to the flags. -/
theorem posts_flagged [IsOrderedAddMonoid D] (hB : B.Exact cents) {c : Call D} {cs : List (Change D)}
    (posts : Posts env c.draws db c.request cs) (flushed : flush B cs db = .ok db')
    (exact : (Visit.call c).GoalExact cents) (law : db.toLedger.GoalsFlagged cents) :
    db'.toLedger.GoalsFlagged cents := by
  have same (goals : db'.goals = db.goals) : db'.toLedger.GoalsFlagged cents := by
    intro g mem
    rw [goals] at mem
    exact law g mem
  simp only [Visit.GoalExact] at exact
  generalize c.request = request at posts exact
  cases posts with
  | createGoal named positive =>
    obtain ⟨target, ht, saved, hs, -, -, goals, inserted, rfl⟩ := apply_insertGoal_ok.mp ((flush_one _).mp flushed)
    obtain rfl := hB.money_eq exact ht
    obtain rfl := hB.money_eq cents.zero_mem hs
    obtain ⟨new, rfl⟩ := Table.insert?_eq_some.mp inserted
    intro g mem
    rcases List.mem_append.mp mem with mem | mem
    · exact law g mem
    · cases List.mem_singleton.mp mem
      exact ⟨exact, cents.zero_mem, by simpa using positive⟩
  | @contribute accNo goalId amount account goal positive live covered found =>
    obtain ⟨db₁, h₁, db₂, h₂, h₃⟩ := (flush_three _).mp flushed
    have goals₁ : db₁.goals = db.goals := apply_offGoals rfl h₁
    have goals₂ : db₂.goals = db.goals := (apply_offGoals rfl h₂).trans goals₁
    have stored : db.goals.find? goal.goalId = some goal := by rw [Table.key_of_find? found, found]
    have flagged := Flagged.contributed (law goal (Table.mem_of_find? found)) exact (not_le.mp positive)
    have set := apply_goal_stored hB h₃ flagged.target flagged.saved (by rw [goals₂]; exact stored) rfl
    exact law.set flagged (by rw [set, goals₂])
  | refundGoal =>
    obtain ⟨db₁, h₁, h₂⟩ := (flush_two _).mp flushed
    obtain rfl := apply_deleteGoal_ok.mp h₁
    intro g mem
    rw [apply_offGoals rfl h₂] at mem
    exact law g (List.mem_of_mem_filter mem)
  | deleteGoal =>
    obtain rfl := apply_deleteGoal_ok.mp ((flush_one _).mp flushed)
    intro g mem
    exact law g (List.mem_of_mem_filter mem)
  | updateProfile =>
    refine same (flush_offGoals (fun c mem => ?_) flushed)
    simp only [Query.staged] at mem
    split at mem
    · cases List.mem_singleton.mp mem
      rfl
    · cases List.mem_singleton.mp mem
      rfl
  | @changePassword _ _ _ _ versions live verified support =>
    refine same (flush_offGoals (fun c mem => ?_) flushed)
    rcases List.mem_pair.mp mem with rfl | rfl
    · rfl
    · exact offGoals_of_support support
  | _ => exact same (flush_offGoals (by simp [Change.onGoals]) flushed)

/-- What a visit does to the flags. -/
theorem visit_flagged [IsOrderedAddMonoid D] (hB : B.Exact cents) {v : Visit D} (attended : Attended env B v db db')
    (exact : v.GoalExact cents) (law : db.toLedger.GoalsFlagged cents) : db'.toLedger.GoalsFlagged cents := by
  cases attended with
  | unmoved ledger =>
    rw [ledger]
    exact law
  | moved writes flushed ledger =>
    rw [ledger]
    cases writes with
    | call posts => exact posts_flagged hB posts flushed exact law
    | @updateSavingsGoal goalId form goal found =>
      have flagged := law goal (Table.mem_of_find? found)
      have stored : db.goals.find? goal.goalId = some goal := by rw [Table.key_of_find? found, found]
      have target : (form.fill goal).targetAmount ∈ cents := by
        show form.targetAmount.getD goal.targetAmount ∈ cents
        cases given : form.targetAmount with
        | none => exact flagged.target
        | some target => exact exact target given
      have set := apply_goal_stored hB ((flush_one _).mp flushed) target flagged.saved stored rfl
      exact law.set ⟨target, flagged.saved, decide_eq_true_iff⟩ set
    | _ =>
      intro g mem
      rw [flush_offGoals (by simp [Change.onGoals]) flushed] at mem
      exact law g mem

theorem mem_getByAccount {l : Ledger D} {accNo : String} {g : SavingsGoal D} :
    g ∈ goalRepo.getByAccount l accNo ↔ g ∈ l.goals.rows ∧ g.accountNumber = accNo := by
  simp [goalRepo.getByAccount]

/-- A round trip that is committed writes over the goals of the account and touches no other goal. -/
theorem roundTrip_flush {accNo : String} {now : Time}
    (flushed : flush B (roundTrip env db.toLedger accNo now) db = .ok db') :
    (∀ k, (∀ g ∈ goalRepo.getByAccount db.toLedger accNo, g.goalId ≠ k) → db'.goals.find? k = db.goals.find? k) ∧
      ∀ g ∈ goalRepo.getByAccount db.toLedger accNo,
        ∃ target, B.moneyColumn g.targetAmount (env.float g.targetAmount) g.targetAmount = .ok target ∧
          ∃ saved, B.moneyColumn g.currentAmount (env.float g.currentAmount) g.currentAmount = .ok saved ∧
            db'.goals.find? g.goalId = some (g.reread target saved) := by
  rw [roundTrip_eq] at flushed
  obtain ⟨outside, inside⟩ := flush_rewrites (getByAccount_nodup _ _)
    (fun g mem => Table.find?_of_mem (mem_getByAccount.mp mem).1) (fun g mem => (mem_getByAccount.mp mem).2) flushed
  refine ⟨fun k absent => outside k fun mem => ?_, inside⟩
  obtain ⟨g, own, id⟩ := List.mem_map.mp mem
  exact absent g own id

/-- The amounts of the account's goals survive a float. -/
def FloatsKeep (env : Env D) (l : Ledger D) (accNo : String) : Prop :=
  ∀ g ∈ goalRepo.getByAccount l accNo,
    env.float g.targetAmount = g.targetAmount ∧ env.float g.currentAmount = g.currentAmount

theorem roundTrip_flagged {accNo : String} {now : Time} (floats : FloatsKeep env db.toLedger accNo)
    (flushed : flush B (roundTrip env db.toLedger accNo now) db = .ok db') (law : db.toLedger.GoalsFlagged cents) :
    db'.toLedger.GoalsFlagged cents := by
  obtain ⟨outside, inside⟩ := roundTrip_flush flushed
  intro x mem
  have found := Table.find?_of_mem mem
  by_cases own : ∃ g ∈ goalRepo.getByAccount db.toLedger accNo, g.goalId = x.goalId
  · obtain ⟨g, mem', id⟩ := own
    obtain ⟨target, ht, saved, hs, after⟩ := inside g mem'
    obtain ⟨keepTarget, keepSaved⟩ := floats g mem'
    rw [Backend.moneyColumn, Backend.numberColumn, if_pos keepTarget] at ht
    rw [Backend.moneyColumn, Backend.numberColumn, if_pos keepSaved] at hs
    cases ht
    cases hs
    rw [id, found] at after
    rw [Option.some.inj after]
    have flagged := law g (mem_getByAccount.mp mem').1
    exact ⟨flagged.target, flagged.saved, flagged.flag⟩
  · rw [outside x.goalId fun g mem' id => own ⟨g, mem', id⟩] at found
    exact law x (Table.mem_of_find? found)

/-! ## Runs -/

/-- The goal amounts of a visit are exact, or those of a round trip survive a float. -/
def GoalStep.Exact (env : Env D) (cents : AddSubgroup D) (l : Ledger D) : GoalStep D → Prop
  | visit v => v.GoalExact cents
  | roundTrip accNo _ => FloatsKeep env l accNo

variable (env checks B) in
/-- Every step of a run is exact where it is made. -/
def Bank.GoalExact (cents : AddSubgroup D) : Bank D → List (ℕ × GoalStep D) → Prop
  | _, [] => True
  | bank, (thread, step) :: steps =>
    step.Exact env cents bank.db.toLedger ∧ (bank.goalStep env B checks thread step).GoalExact cents steps

/-- Idle sessions and right flags. -/
def Bank.WellFlagged (cents : AddSubgroup D) (bank : Bank D) : Prop :=
  bank.Idle ∧ bank.db.toLedger.GoalsFlagged cents

theorem saveLoaded_flagged {bank : Bank D} (good : bank.WellFlagged cents) (thread : ℕ) {accNo : String} {now : Time}
    (floats : FloatsKeep env bank.db.toLedger accNo) : (bank.saveLoaded env B thread accNo now).WellFlagged cents := by
  obtain ⟨idle, law⟩ := good
  have update (s : Session D) (h : s.Idle) : ∀ t, (Function.update bank.sessions thread s t).Idle := by
    intro t
    rw [Function.update_apply]
    split
    · exact h
    · exact idle t
  unfold Bank.saveLoaded
  dsimp only
  cases active : (bank.sessions thread).inactive with
  | true => exact ⟨idle, law⟩
  | false =>
    obtain ⟨pending, -⟩ := (idle thread).clean active
    rw [pending, List.nil_append]
    split
    · next impossible => exact Bool.noConfusion impossible
    split
    · next db' flushed =>
      exact ⟨update _ ⟨(idle thread).held, fun _ => ⟨rfl, rfl⟩⟩, roundTrip_flagged floats flushed law⟩
    · exact ⟨update _ ⟨(idle thread).held, fun h => Bool.noConfusion h⟩, law⟩

theorem goalStep_flagged [IsOrderedAddMonoid D] (hB : B.Exact cents) {bank : Bank D} (good : bank.WellFlagged cents)
    (thread : ℕ) {step : GoalStep D} (exact : step.Exact env cents bank.db.toLedger) :
    (bank.goalStep env B checks thread step).WellFlagged cents := by
  cases step with
  | visit v =>
    obtain ⟨attended, idle⟩ := attend_settles env checks B good.1 thread v
    exact ⟨idle, visit_flagged hB attended exact good.2⟩
  | roundTrip accNo now => exact saveLoaded_flagged good thread exact

theorem goalRun_flagged [IsOrderedAddMonoid D] (hB : B.Exact cents) {bank : Bank D} {steps : List (ℕ × GoalStep D)}
    (good : bank.WellFlagged cents) (exact : bank.GoalExact env checks B cents steps) (k : ℕ) :
    (bank.goalRun env B checks (steps.take k)).WellFlagged cents := by
  induction steps generalizing bank k with
  | nil =>
    rw [List.take_nil]
    exact good
  | cons step steps ih =>
    cases k with
    | zero => exact good
    | succ k => exact ih (goalStep_flagged hB good step.1 exact.1) exact.2 k

/-- **When the flags are right.** In every run whose goal amounts are exact, every state has a flag on exactly the goals
that reach their target. In every state, a round trip leaves the store as it is if and only if it keeps each goal of the
account, and it never touches another goal. -/
theorem goals_flagged [IsOrderedAddMonoid D] (hB : B.Exact cents) {bank : Bank D} {steps : List (ℕ × GoalStep D)}
    (good : bank.WellFlagged cents) (exact : bank.GoalExact env checks B cents steps) (k : ℕ) :
    (∀ g ∈ (bank.goalRun env B checks (steps.take k)).db.goals.rows,
      (g.isCompleted = true ↔ g.targetAmount ≤ g.currentAmount)) ∧
    ∀ (db : Db D) (accNo : String) (now : Time),
      (flush B (roundTrip env db.toLedger accNo now) db = .ok db ↔
        ∀ g ∈ goalRepo.getByAccount db.toLedger accNo, g.Kept env B) ∧
      ∀ db', flush B (roundTrip env db.toLedger accNo now) db = .ok db' →
        ∀ k, (∀ g ∈ goalRepo.getByAccount db.toLedger accNo, g.goalId ≠ k) → db'.goals.find? k = db.goals.find? k := by
  refine ⟨fun g mem => ((goalRun_flagged hB good exact k).2 g mem).flag, fun db accNo now => ⟨?_, ?_⟩⟩
  · rw [roundTrip_eq]
    exact flush_rewrites_self (getByAccount_nodup _ _) (fun g mem => Table.find?_of_mem (mem_getByAccount.mp mem).1)
      fun g mem => (mem_getByAccount.mp mem).2
  · intro db' flushed
    exact (roundTrip_flush flushed).1

end Flags

namespace Sample

theorem saver_alone : (([⟨"1001", "Asha", 30, "F", "9000000000", "asha@bank.example", "secret", 500, true, false, 0,
    none⟩] : List (Account ℚ)).map Account.accountNumber).Nodup := by
  simp

/-- A customer with a goal of 100 rupees. -/
def saver : Bank ℚ where
  db := {
    accounts := ⟨[⟨"1001", "Asha", 30, "F", "9000000000", "asha@bank.example", "secret", 500, true, false, 0, none⟩],
      saver_alone⟩
    transactions := []
    loans := default
    goals := ⟨[⟨"G1", "1001", "Phone", 100, 0, some "", 0, false⟩], by simp⟩
    idempotencyKeys := default
    tokenVersions := default
    auditLog := [] }
  sessions _ := {}

def contribution (amount : ℚ) : ℕ × GoalStep ℚ := (0, .visit (.call ⟨.contribute "1001" "G1" amount, draws 1⟩))

/-- The column rounds up what the comparison did not. -/
theorem saver_unflagged :
    ¬∀ g ∈ (saver.goalRun rupeeEnv rupees lenient [contribution (99996 / 1000)]).db.goals.rows,
      (g.isCompleted = true ↔ g.targetAmount ≤ g.currentAmount) := by
  decide +kernel

/-- A whole contribution, and a round trip after it. -/
def steps : List (ℕ × GoalStep ℚ) := [contribution 100, (0, .roundTrip "1001" 5)]

theorem saver_flagged :
    (∀ g ∈ (saver.goalRun rupeeEnv rupees lenient (steps.take 2)).db.goals.rows,
      (g.isCompleted = true ↔ g.targetAmount ≤ g.currentAmount)) ∧
    (flush rupees (roundTrip rupeeEnv saver.db.toLedger "1001" 5) saver.db = .ok saver.db ↔
      ∀ g ∈ goalRepo.getByAccount saver.db.toLedger "1001", g.Kept rupeeEnv rupees) := by
  have whole : (100 : ℚ) ∈ wholePaise := mem_wholePaise.mpr ⟨10000, by norm_num⟩
  have good : saver.WellFlagged wholePaise := by
    refine ⟨fun _ => ⟨rfl, fun _ => ⟨rfl, rfl⟩⟩, fun g mem => ?_⟩
    cases List.mem_singleton.mp mem
    exact ⟨whole, wholePaise.zero_mem, by decide⟩
  have exact : saver.GoalExact rupeeEnv lenient rupees wholePaise steps := ⟨whole, fun _ _ => ⟨rfl, rfl⟩, trivial⟩
  obtain ⟨flags, kept⟩ := goals_flagged rupees_exact good exact 2
  exact ⟨flags, (kept saver.db "1001" 5).1⟩

end Sample

end UnionBank
