import UnionBank.Lib.Resumption
import UnionBank.Migration

/-!
# The migration, killed and restarted

Each of the five functions of the migration commits once, at its end. Whatever the files and the database, the script
does after runs that were killed what it would have done without them.

- `steps`: the functions as steps, with what each of them is for; `main_eq_run`: the script runs them;
- `lasting_steps`: later functions leave done what earlier ones have done;
- `restarted_migration`: the script from where runs were killed;
- `interrupted_migration`: runs that are killed, each at its own time, neither spoil nor repair a migration.
-/

namespace UnionBank

namespace Migration

open Keyed Resumption

variable {D : Type}

/-! ## The functions as steps -/

section Steps

variable {db db' : MigrationDb D} {n : ℕ}

/-- What a function leaves, without its count. -/
def committed (r : Except MigrationError (ℕ × MigrationDb D)) : Except MigrationError (MigrationDb D) :=
  r.map Prod.snd

theorem committed_eq_ok {r : Except MigrationError (ℕ × MigrationDb D)} :
    committed r = .ok db' ↔ ∃ n, r = .ok (n, db') := by
  cases r with
  | error e => simp [committed, Except.map]
  | ok r =>
    obtain ⟨n, db₁⟩ := r
    simp [committed, Except.map]

/-- A step out of a function, with what it is for. -/
def step (act : MigrationDb D → Except MigrationError (ℕ × MigrationDb D)) (Done : MigrationDb D → Prop)
    (settles : ∀ db n db', act db = .ok (n, db') → Done db') (rests : ∀ db, Done db → ∃ n, act db = .ok (n, db)) :
    Step (MigrationDb D) MigrationError where
  act db := committed (act db)
  Done := Done
  settles db db' ok := by
    obtain ⟨n, ok⟩ := committed_eq_ok.mp ok
    exact settles db n db' ok
  rests db done := committed_eq_ok.mpr (rests db done)

variable [Zero D] (s : Surroundings D)

theorem accounts_ok {raw : List (String × JsonAccount D)} (ok : migrateAccounts raw db = .ok (n, db')) :
    (∀ e ∈ raw, (getAccount db e.1).isSome) ∧ db' = db := by
  by_cases known : ∀ e ∈ raw, (getAccount db e.1).isSome
  · rw [migrateAccounts_known known] at ok
    cases ok
    exact ⟨known, rfl⟩
  · rw [migrateAccounts_missing known] at ok
    cases ok

theorem transactions_ok {raw : List (String × List (JsonTransaction D))}
    (ok : migrateTransactions s raw db = .ok (n, db')) : Unrepeated db (pairs raw) ∧ Loads db (pairs raw) db' := by
  have tidy : Unrepeated db (pairs raw) := by
    by_contra repeated
    obtain ⟨e, raises⟩ := migrateTransactions_repeated s repeated
    rw [raises] at ok
    cases ok
  obtain ⟨_, _, loads, loaded⟩ := migrateTransactions_ok s tidy
  rw [loads] at ok
  cases ok
  exact ⟨tidy, loaded⟩

theorem admin_ok {raw : Option JsonAdmin} (ok : migrateAdmin s raw db = .ok (n, db')) :
    ∃ admins, db' = { db with admins } ∧ ∀ s' : Surroundings D, ∀ other : MigrationDb D, other.admins = admins →
      migrateAdmin s' raw other = .ok (0, other) := by
  obtain ⟨_, admins, administers, again⟩ := migrateAdmin_ok s raw db
  rw [administers] at ok
  cases ok
  exact ⟨admins, rfl, again⟩

theorem loginAttempts_ok {raw : List (String × JsonLoginAttempt)} (keys : (raw.map Prod.fst).Nodup)
    (ok : migrateLoginAttempts s raw db = .ok (n, db')) :
    ∃ loginAttempts, db' = { db with loginAttempts } ∧ ∀ e ∈ raw, (loginAttempts.find? e.1).isSome := by
  obtain ⟨_, loginAttempts, records, recorded⟩ := migrateLoginAttempts_ok s keys db
  rw [records] at ok
  cases ok
  exact ⟨loginAttempts, rfl, recorded⟩

theorem savingsGoals_ok {raw : List (String × List (JsonSavingsGoal D))}
    (ok : migrateSavingsGoals s raw db = .ok (n, db')) :
    ∃ savingsGoals, db' = { db with savingsGoals } ∧
      ∀ e ∈ pairs raw, e.2.goalId.getD "" ≠ "" → (savingsGoals.find? (e.2.goalId.getD "")).isSome := by
  obtain ⟨ids, owners⟩ := migrateSavingsGoals_iff s ok
  obtain ⟨_, savingsGoals, saves, saved⟩ := migrateSavingsGoals_ok s raw db ids owners
  rw [saves] at ok
  cases ok
  exact ⟨savingsGoals, rfl, saved⟩

end Steps

variable [Zero D] (s : Surroundings D) (files : JsonFiles D)

/-- The accounts of the file are there. -/
def accountsStep : Step (MigrationDb D) MigrationError :=
  step (migrateAccounts files.accounts) (fun db => ∀ e ∈ files.accounts, (getAccount db e.1).isSome)
    (fun db n db' ok => by
      obtain ⟨known, rfl⟩ := accounts_ok ok
      exact known)
    fun _ known => ⟨_, migrateAccounts_known known⟩

/-- The transactions of the file are there. -/
def transactionsStep : Step (MigrationDb D) MigrationError :=
  step (migrateTransactions s files.transactions)
    (fun db => ∀ e ∈ pairs files.transactions, idOf e ≠ "" → (db.transactions.find? (idOf e)).isSome)
    (fun _ _ _ ok _ mem given =>
      ((transactions_ok s ok).2.stored _ given).mpr (.inr (List.mem_map_of_mem mem)))
    fun _ there => ⟨_, migrateTransactions_again s there⟩

/-- The admin of the file needs nothing, whenever the admins are these. -/
def adminStep : Step (MigrationDb D) MigrationError :=
  step (migrateAdmin s files.admin)
    (fun db => ∀ other : MigrationDb D, other.admins = db.admins → migrateAdmin s files.admin other = .ok (0, other))
    (fun db n db' ok => by
      obtain ⟨admins, rfl, again⟩ := admin_ok s ok
      exact again s)
    fun db again => ⟨_, again db rfl⟩

/-- The login attempts of the file are there. -/
def loginAttemptsStep : Step (MigrationDb D) MigrationError :=
  step (migrateLoginAttempts s files.loginAttempts)
    (fun db => ∀ e ∈ files.loginAttempts, (db.loginAttempts.find? e.1).isSome)
    (fun db n db' ok => by
      obtain ⟨loginAttempts, rfl, there⟩ := loginAttempts_ok s files.keys ok
      exact there)
    fun _ there => ⟨_, migrateLoginAttempts_again s there⟩

/-- The goals of the file are there. -/
def savingsGoalsStep : Step (MigrationDb D) MigrationError :=
  step (migrateSavingsGoals s files.savingsGoals)
    (fun db => ∀ e ∈ pairs files.savingsGoals, e.2.goalId.getD "" ≠ "" →
      (db.savingsGoals.find? (e.2.goalId.getD "")).isSome)
    (fun db n db' ok => by
      obtain ⟨savingsGoals, rfl, there⟩ := savingsGoals_ok s ok
      exact there)
    fun _ there => ⟨_, migrateSavingsGoals_again s there⟩

/-- The functions of `main`, in their order. -/
def steps : List (Step (MigrationDb D) MigrationError) :=
  [accountsStep files, transactionsStep s files, adminStep s files, loginAttemptsStep s files,
    savingsGoalsStep s files]

/-- The script runs the steps. -/
theorem main_eq_run (db : MigrationDb D) :
    ((main s files db).1.map fun _ => (), (main s files db).2) = run (steps s files) db := by
  simp only [main, steps, run, accountsStep, transactionsStep, adminStep, loginAttemptsStep, savingsGoalsStep, step,
    committed]
  cases migrateAccounts files.accounts db with
  | error e => rfl
  | ok r =>
    obtain ⟨accounts, db₁⟩ := r
    dsimp only [Except.map]
    cases migrateTransactions s files.transactions db₁ with
    | error e => rfl
    | ok r =>
      obtain ⟨transactions, db₂⟩ := r
      dsimp only [Except.map]
      cases migrateAdmin s files.admin db₂ with
      | error e => rfl
      | ok r =>
        obtain ⟨admin, db₃⟩ := r
        dsimp only [Except.map]
        cases migrateLoginAttempts s files.loginAttempts db₃ with
        | error e => rfl
        | ok r =>
          obtain ⟨loginAttempts, db₄⟩ := r
          dsimp only [Except.map]
          cases migrateSavingsGoals s files.savingsGoals db₄ with
          | error e => rfl
          | ok r => rfl

/-! ## Restarts -/

section Tables

variable {s files} {db db' : MigrationDb D}

theorem adminStep_ok (ok : (adminStep s files).act db = .ok db') : ∃ admins, db' = { db with admins } := by
  obtain ⟨n, ok⟩ := committed_eq_ok.mp ok
  obtain ⟨admins, same, -⟩ := admin_ok s ok
  exact ⟨admins, same⟩

theorem loginAttemptsStep_ok (ok : (loginAttemptsStep s files).act db = .ok db') :
    ∃ loginAttempts, db' = { db with loginAttempts } := by
  obtain ⟨n, ok⟩ := committed_eq_ok.mp ok
  obtain ⟨loginAttempts, same, -⟩ := loginAttempts_ok s files.keys ok
  exact ⟨loginAttempts, same⟩

theorem savingsGoalsStep_ok (ok : (savingsGoalsStep s files).act db = .ok db') :
    ∃ savingsGoals, db' = { db with savingsGoals } := by
  obtain ⟨n, ok⟩ := committed_eq_ok.mp ok
  obtain ⟨savingsGoals, same, -⟩ := savingsGoals_ok s ok
  exact ⟨savingsGoals, same⟩

end Tables

/-- Later functions leave done what earlier ones have done. -/
theorem lasting_steps : Lasting (steps s files) := by
  refine .cons ?_ (.cons ?_ (.cons ?_ (.cons ?_ (.cons ?_ .nil))))
  · -- the accounts: the transactions only add some
    intro later mem db db' done ok
    simp only [List.mem_cons, List.not_mem_nil, or_false] at mem
    rcases mem with rfl | rfl | rfl | rfl
    · obtain ⟨n, ok⟩ := committed_eq_ok.mp ok
      intro e mem
      obtain ⟨a, found⟩ := Option.isSome_iff_exists.mp (done e mem)
      exact Option.isSome_of_eq_some
        (getAccount_congr found ((transactions_ok s ok).2.kept e.1 a (getAccount_some found)))
    · obtain ⟨_, rfl⟩ := adminStep_ok ok
      exact done
    · obtain ⟨_, rfl⟩ := loginAttemptsStep_ok ok
      exact done
    · obtain ⟨_, rfl⟩ := savingsGoalsStep_ok ok
      exact done
  · intro later mem db db' done ok
    simp only [List.mem_cons, List.not_mem_nil, or_false] at mem
    rcases mem with rfl | rfl | rfl
    · obtain ⟨_, rfl⟩ := adminStep_ok ok
      exact done
    · obtain ⟨_, rfl⟩ := loginAttemptsStep_ok ok
      exact done
    · obtain ⟨_, rfl⟩ := savingsGoalsStep_ok ok
      exact done
  · intro later mem db db' done ok
    simp only [List.mem_cons, List.not_mem_nil, or_false] at mem
    rcases mem with rfl | rfl
    · obtain ⟨_, rfl⟩ := loginAttemptsStep_ok ok
      exact done
    · obtain ⟨_, rfl⟩ := savingsGoalsStep_ok ok
      exact done
  · intro later mem db db' done ok
    obtain rfl := List.mem_singleton.mp mem
    obtain ⟨_, rfl⟩ := savingsGoalsStep_ok ok
    exact done
  · intro later mem
    cases mem

section Neutral

variable {s files} {db db' : MigrationDb D} {n : ℕ} {before entries : List (String × JsonTransaction D)}
  {e : String × JsonTransaction D}

omit [Zero D] in
/-- Entries are fresh where the transactions are the same. -/
theorem fresh_congr (transactions : db'.transactions = db.transactions) : Fresh db' before e ↔ Fresh db before e := by
  constructor
  · intro fresh
    exact ⟨fresh.given, transactions ▸ fresh.absent, fresh.first⟩
  · intro fresh
    exact ⟨fresh.given, transactions ▸ fresh.absent, fresh.first⟩

omit [Zero D] in
theorem opened_congr (transactions : db'.transactions = db.transactions) (accNo : String) :
    Opened db' entries accNo ↔ Opened db entries accNo := by
  simp only [Opened, fresh_congr transactions]

omit [Zero D] in
theorem opens_congr (accounts : db'.accounts = db.accounts) (transactions : db'.transactions = db.transactions) :
    Opens db' before e ↔ Opens db before e := by
  constructor
  · intro opens
    refine ⟨(fresh_congr transactions).mp opens.fresh, accounts ▸ opens.unknown, fun opened => opens.first ?_⟩
    exact (opened_congr transactions e.1).mpr opened
  · intro opens
    refine ⟨(fresh_congr transactions).mpr opens.fresh, accounts ▸ opens.unknown, fun opened => opens.first ?_⟩
    exact (opened_congr transactions e.1).mp opened

omit [Zero D] in
theorem unrepeated_congr (accounts : db'.accounts = db.accounts) (transactions : db'.transactions = db.transactions) :
    Unrepeated db' entries ↔ Unrepeated db entries := by
  simp only [Unrepeated, Waiting, fresh_congr transactions, opens_congr accounts transactions]

omit [Zero D] in
/-- What a migration needs, where only other tables differ. -/
theorem migratable_congr (accounts : db'.accounts = db.accounts) (transactions : db'.transactions = db.transactions)
    (savingsGoals : db'.savingsGoals = db.savingsGoals) : Migratable db' files ↔ Migratable db files := by
  have missing : missingGoals files.savingsGoals db' = missingGoals files.savingsGoals db := by
    unfold missingGoals
    rw [savingsGoals]
  constructor
  · intro fit
    refine ⟨?_, (unrepeated_congr accounts transactions).mp fit.transactions, missing ▸ fit.goals, fun e mem => ?_⟩
    · intro e mem
      obtain ⟨a, found, carries⟩ := fit.accounts e mem
      unfold getAccount at found
      rw [accounts] at found
      exact ⟨a, found, carries⟩
    · rw [← missing] at mem
      rw [← accounts, ← opened_congr transactions]
      exact fit.owners e mem
  · intro fit
    refine ⟨?_, (unrepeated_congr accounts transactions).mpr fit.transactions, missing.symm ▸ fit.goals,
      fun e mem => ?_⟩
    · intro e mem
      obtain ⟨a, found, carries⟩ := fit.accounts e mem
      refine ⟨a, ?_, carries⟩
      unfold getAccount
      rw [accounts]
      exact found
    · rw [missing] at mem
      rw [accounts, opened_congr transactions]
      exact fit.owners e mem

omit [Zero D] in
/-- After the transactions none of the file is fresh. -/
theorem Loads.not_fresh (loaded : Loads db entries db') (mem : e ∈ entries) : ¬ Fresh db' before e := by
  intro fresh
  have there := (loaded.stored (idOf e) fresh.given).mpr (.inr (List.mem_map_of_mem mem))
  rw [fresh.absent] at there
  cases there

omit [Zero D] in
theorem Loads.unrepeated (loaded : Loads db entries db') : Unrepeated db' entries := by
  rintro _ x after split ⟨b, e, a, rfl, fresh, -⟩
  refine loaded.not_fresh ?_ fresh
  rw [split]
  simp

omit [Zero D] in
theorem Loads.not_opened (loaded : Loads db entries db') (accNo : String) : ¬ Opened db' entries accNo := by
  rintro ⟨b, e, a, rfl, fresh, -⟩
  exact loaded.not_fresh (by simp) fresh

/-- The transactions neither spoil nor repair a migration. -/
theorem transactions_neutral (known : (accountsStep files).Done db)
    (ok : migrateTransactions s files.transactions db = .ok (n, db')) :
    Migratable db' files ↔ Migratable db files := by
  obtain ⟨tidy, loaded⟩ := transactions_ok s ok
  have missing : missingGoals files.savingsGoals db' = missingGoals files.savingsGoals db := by
    unfold missingGoals
    rw [loaded.savingsGoals]
  constructor
  · intro fit
    refine ⟨fun e mem => ?_, tidy, missing ▸ fit.goals, fun e mem => ?_⟩
    · obtain ⟨a, found⟩ := Option.isSome_iff_exists.mp (known e mem)
      obtain ⟨a', found', carries⟩ := fit.accounts e mem
      have kept := getAccount_congr found (loaded.kept e.1 a (getAccount_some found))
      obtain rfl := Option.some.inj (kept.symm.trans found')
      exact ⟨a, found, carries⟩
    · rw [← missing] at mem
      exact (loaded.known e.1).mp ((fit.owners e mem).resolve_right (loaded.not_opened e.1))
  · intro fit
    refine ⟨fun e mem => ?_, loaded.unrepeated, missing.symm ▸ fit.goals, fun e mem => ?_⟩
    · obtain ⟨a, found, carries⟩ := fit.accounts e mem
      exact ⟨a, getAccount_congr found (loaded.kept e.1 a (getAccount_some found)), carries⟩
    · rw [missing] at mem
      exact .inl ((loaded.known e.1).mpr (fit.owners e mem))

theorem savingsGoals_neutral (ok : migrateSavingsGoals s files.savingsGoals db = .ok (n, db')) :
    Migratable db' files ↔ Migratable db files := by
  obtain ⟨ids, owners⟩ := migrateSavingsGoals_iff s ok
  obtain ⟨savingsGoals, rfl, there⟩ := savingsGoals_ok s ok
  have same : Unrepeated { db with savingsGoals } (pairs files.transactions) ↔
      Unrepeated db (pairs files.transactions) := unrepeated_congr rfl rfl
  constructor
  · intro fit
    exact ⟨fit.accounts, same.mp fit.transactions, ids, fun e mem => .inl (owners e mem)⟩
  · intro fit
    have none_ : missingGoals files.savingsGoals { db with savingsGoals } = [] := by
      refine List.filter_eq_nil_iff.mpr fun e mem missing => ?_
      obtain ⟨given, absent⟩ := of_decide_eq_true missing
      have found := there e mem given
      rw [Option.isNone_iff_eq_none.mp absent] at found
      cases found
    refine ⟨fit.accounts, same.mpr fit.transactions, ?_, ?_⟩
    · rw [none_]
      exact List.nodup_nil
    · intro e mem
      rw [none_] at mem
      cases mem

/-- A run that is killed neither spoils nor repairs a migration. -/
theorem killed_once_neutral (s : Surroundings D) (k : ℕ) (db : MigrationDb D) :
    Migratable (run ((steps s files).take k) db).2 files ↔ Migratable db files := by
  obtain ⟨lasts, -⟩ := List.pairwise_cons.mp (lasting_steps s files)
  cases k with
  | zero => exact Iff.rfl
  | succ k =>
    rw [steps, List.take_succ_cons, run]
    cases acts : (accountsStep files).act db with
    | error e => exact Iff.rfl
    | ok db₁ =>
      have done := (accountsStep files).settles db db₁ acts
      obtain ⟨n, acts⟩ := committed_eq_ok.mp acts
      obtain ⟨-, rfl⟩ := accounts_ok acts
      refine (run_induction (P := fun db => (accountsStep files).Done db ∧
        (Migratable db files ↔ Migratable db₁ files)) ?_ ⟨done, Iff.rfl⟩).2
      rintro step mem db db' ⟨known, same⟩ ok
      replace mem := List.mem_of_mem_take mem
      refine ⟨lasts step mem db db' known ok, Iff.trans ?_ same⟩
      simp only [List.mem_cons, List.not_mem_nil, or_false] at mem
      rcases mem with rfl | rfl | rfl | rfl
      · obtain ⟨n, ok⟩ := committed_eq_ok.mp ok
        exact transactions_neutral known ok
      · obtain ⟨admins, rfl⟩ := adminStep_ok ok
        exact migratable_congr rfl rfl rfl
      · obtain ⟨loginAttempts, rfl⟩ := loginAttemptsStep_ok ok
        exact migratable_congr rfl rfl rfl
      · obtain ⟨n, ok⟩ := committed_eq_ok.mp ok
        exact savingsGoals_neutral ok

/-- A script that completes finds what it needs. -/
theorem migratable_of_faithful {s s' : Surroundings D} (faithful : Faithful s s' files db) : Migratable db files := by
  obtain ⟨counts, db', completes, migrated, -⟩ := faithful
  obtain ⟨db₁, db₂, db₃, db₄, accounts, loads, administers, records, saves⟩ := main_eq_ok.mp completes
  obtain ⟨known, rfl⟩ := accounts_ok accounts
  obtain ⟨-, loaded⟩ := transactions_ok s loads
  obtain ⟨admins, rfl, -⟩ := admin_ok s administers
  obtain ⟨loginAttempts, rfl, -⟩ := loginAttempts_ok s files.keys records
  obtain ⟨ids, owners⟩ := migrateSavingsGoals_iff s saves
  obtain ⟨savingsGoals, rfl, -⟩ := savingsGoals_ok s saves
  refine (transactions_neutral known loads).mp
    ⟨fun e mem => ?_, loaded.unrepeated, ids, fun e mem => .inl (owners e mem)⟩
  obtain ⟨a, found⟩ := Option.isSome_iff_exists.mp (known e mem)
  obtain ⟨a', found', carries⟩ := migrated.accounts e mem
  have kept := loaded.kept e.1 a (getAccount_some found)
  obtain rfl := Option.some.inj (kept.symm.trans found')
  exact ⟨a, getAccount_congr found kept, carries⟩

/-- What runs leave that were killed, each with its own surroundings and after so many functions. -/
def interrupted (files : JsonFiles D) (attempts : List (Surroundings D × ℕ)) (db : MigrationDb D) : MigrationDb D :=
  attempts.foldl (fun db attempt => (run ((steps attempt.1 files).take attempt.2) db).2) db

theorem interrupted_neutral (attempts : List (Surroundings D × ℕ)) (db : MigrationDb D) :
    Migratable (interrupted files attempts db) files ↔ Migratable db files := by
  induction attempts generalizing db with
  | nil => exact Iff.rfl
  | cons attempt attempts ih => exact (ih _).trans (killed_once_neutral attempt.1 attempt.2 db)

end Neutral

end Migration

namespace Sample

open Migration

/-- A transaction of an unknown account, and a goal of it. -/
def stubbed : JsonFiles ℚ where
  accounts := []
  transactions := [("1001", [{ txnId := some "T1", amount := some 50 }])]
  admin := some {}
  loginAttempts := []
  savingsGoals := [("1001", [{ goalId := some "G1" }])]
  keys := List.nodup_nil

example : (main sqlite stubbed emptyDb).1 = .ok ⟨0, 1, 1, 0, 1⟩ ∧
    (main sqlite stubbed (interrupted stubbed [(sqlite, 2)] emptyDb)).1 = .ok ⟨0, 0, 1, 0, 1⟩ := ⟨rfl, rfl⟩

end Sample

end UnionBank
