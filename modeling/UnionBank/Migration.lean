import UnionBank.Entities
import UnionBank.Lib.Table
import UnionBank.Lib.Serial

/-!
# Migration of the JSON files

`scripts/migrate_json_to_sqlite.py`: five loops read the JSON files, look for each entry in the database and add what is
missing. The sessions do not flush before a query, so a loop does not see what it has added itself, except where a stub
for an unknown account flushes it. Existing accounts are read as entities, and what is assigned to an entity reaches no
row; a missing account is given to the repository as a dictionary, which has no attributes.

- `JsonFiles`, `MigrationDb`: the files and the tables;
- `migrateAccounts`, …, `main`: the script;
- `Faithful`: the script completes, every entry is there afterwards, and a second run changes nothing;
- `Migratable`, `migration_faithful_iff`: the files and databases for which it is.
-/

namespace UnionBank

namespace Migration

open Keyed (Table)

set_option linter.unusedSectionVars false

variable {D : Type}

/-! ## The files -/

structure JsonAccount (D : Type) where
  name : Option String := none
  age : Option Int := none
  gender : Option String := none
  mobile : Option String := none
  email : Option String := none
  password : Option String := none
  balance : Option D := none
  isActive : Option Bool := none
  isFrozen : Option Bool := none

structure JsonTransaction (D : Type) where
  txnId : Option String := none
  type : Option String := none
  amount : Option D := none
  balance : Option D := none
  description : Option String := none
  category : Option String := none
  targetAccount : Option String := none
  timestamp : Option String := none

structure JsonAdmin where
  username : Option String := none
  password : Option String := none

structure JsonLoginAttempt where
  count : Option Int := none
  firstFailed : Option String := none
  lockoutUntil : Option String := none

structure JsonSavingsGoal (D : Type) where
  goalId : Option String := none
  name : Option String := none
  targetAmount : Option D := none
  currentAmount : Option D := none
  targetDate : Option String := none
  isCompleted : Option Bool := none

/-- The items of the files, in their order. An object has no key twice. -/
structure JsonFiles (D : Type) where
  accounts : List (String × JsonAccount D)
  transactions : List (String × List (JsonTransaction D))
  admin : Option JsonAdmin
  loginAttempts : List (String × JsonLoginAttempt)
  savingsGoals : List (String × List (JsonSavingsGoal D))
  keys : (loginAttempts.map Prod.fst).Nodup

/-- The pairs that a loop over the values inside a loop over the items goes through. -/
def pairs {α : Type} (raw : List (String × List α)) : List (String × α) :=
  raw.flatMap fun (accNo, records) => records.map fun t => (accNo, t)

/-! ## The tables -/

structure TransactionRow (D : Type) where
  txnId : String
  accountNumber : String
  type : String
  amount : D
  balance : D
  description : String
  category : String
  targetAccount : Option String
  timestamp : Time

structure AdminRow where
  username : String
  password : String
  role : String
  createdAt : Time

structure LoginAttemptRow where
  key : String
  count : Int
  firstFailed : Option Time
  lockoutUntil : Option Time
  updatedAt : Time

structure MigrationDb (D : Type) where
  accounts : Table (Account.accountNumber (D := D))
  transactions : Table (TransactionRow.txnId (D := D))
  admins : Table AdminRow.username
  loginAttempts : Table LoginAttemptRow.key
  savingsGoals : Table (SavingsGoal.goalId (D := D))

/-- What the script takes from outside: how a timestamp is read, the clock when the row with an id is made, and what a
`Numeric(14, 2)` column of SQLite keeps of a number. -/
structure Surroundings (D : Type) where
  strptime : String → Option Time
  now : String → Time
  numeric : D → D

/-- `_parse_ts`, for the row with the given id. -/
def Surroundings.parseTs (s : Surroundings D) (id : String) (text : String) : Time :=
  (s.strptime text).getD (s.now id)

inductive MigrationError where
  | attributeError
  | integrityError
deriving DecidableEq

/-! ## The script -/

section Script

variable [Zero D] (s : Surroundings D)

/-- `SqlAlchemyAccountRepository.get`. -/
def getAccount (db : MigrationDb D) (accNo : String) : Option (Account D) :=
  (db.accounts.find? accNo).filter fun a => a.deletedAt.isNone

/-- What the script gives to `SqlAlchemyAccountRepository.create`. -/
inductive AccountArgument (D : Type) where
  | entity (account : Account D)
  | dict (data : JsonAccount D)

/-- `map_account_to_model`: it reads the attributes of its argument. -/
def mapAccountToModel : AccountArgument D → Except MigrationError (Account D)
  | .entity account => .ok account
  | .dict _ => .error .attributeError

/-- What the script assigns to the entity of an existing account. -/
def assign (existing : Account D) (data : JsonAccount D) : Account D :=
  { existing with
    name := data.name.getD existing.name
    age := data.age.getD existing.age
    gender := data.gender.getD existing.gender
    mobile := data.mobile.getD existing.mobile
    email := data.email.getD existing.email
    password := data.password.getD existing.password
    balance := data.balance.getD existing.balance
    isActive := data.isActive.getD existing.isActive
    isFrozen := data.isFrozen.getD existing.isFrozen }

/-- The loop over the accounts: the entities it has assigned to, and the rows it has added. -/
def accountsLoop (db : MigrationDb D) :
    List (String × JsonAccount D) → Except MigrationError (List (Account D) × List (Account D))
  | [] => .ok ([], [])
  | (accNo, data) :: raw => do
    match getAccount db accNo with
    | some existing =>
      let (entities, models) ← accountsLoop db raw
      return (assign existing data :: entities, models)
    | none =>
      let model ← mapAccountToModel (.dict data)
      let (entities, models) ← accountsLoop db raw
      return (entities, model :: models)

/-- Rows that do not go in are an `IntegrityError`. -/
def inserted {κ ρ : Type} [DecidableEq κ] {key : ρ → κ} (t : Table key) (rows : List ρ) :
    Except MigrationError (Table key) :=
  match t.insertAll? rows with
  | some t => .ok t
  | none => .error .integrityError

def migrateAccounts (raw : List (String × JsonAccount D)) (db : MigrationDb D) :
    Except MigrationError (ℕ × MigrationDb D) := do
  let (_, models) ← accountsLoop db raw
  let accounts ← inserted db.accounts models
  return (raw.length, { db with accounts })

/-- The rows of accounts that the database does not know are refused. -/
def checkAccounts (db : MigrationDb D) (accNos : List String) : Except MigrationError Unit :=
  if accNos.all fun accNo => (db.accounts.find? accNo).isSome then .ok () else .error .integrityError

/-- The loop over the transactions: what has been flushed, what is pending, and how many rows were added. -/
structure Loading (D : Type) where
  db : MigrationDb D
  pending : List (TransactionRow D) := []
  total : ℕ := 0

/-- The pending transactions are inserted. -/
def Loading.flush (l : Loading D) : Except MigrationError (Loading D) := do
  checkAccounts l.db (l.pending.map TransactionRow.accountNumber)
  let transactions ← inserted l.db.transactions l.pending
  return { l with db := { l.db with transactions }, pending := [] }

/-- The stub for an unknown account. -/
def stub (accNo : String) (createdAt : Time) : Account D where
  accountNumber := accNo
  name := accNo
  age := 18
  gender := ""
  mobile := ""
  email := ""
  password := ""
  balance := 0
  isActive := false
  isFrozen := false
  createdAt := createdAt
  deletedAt := none

def transactionRow (accNo : String) (t : JsonTransaction D) : TransactionRow D where
  txnId := t.txnId.getD ""
  accountNumber := accNo
  type := t.type.getD ""
  amount := s.numeric (t.amount.getD 0)
  balance := s.numeric (t.balance.getD 0)
  description := t.description.getD ""
  category := t.category.getD "General"
  targetAccount := t.targetAccount
  timestamp := s.parseTs (t.txnId.getD "") (t.timestamp.getD "")

/-- One transaction of the file. -/
def loadTransaction (l : Loading D) : String × JsonTransaction D → Except MigrationError (Loading D)
  | (accNo, t) => do
    let txnId := t.txnId.getD ""
    if txnId = "" then return l
    if (l.db.transactions.find? txnId).isSome then return l
    let l ← match l.db.accounts.find? accNo with
      | some _ => pure l
      | none => do
        let accounts ← inserted l.db.accounts [stub accNo (s.now accNo)]
        Loading.flush { l with db := { l.db with accounts } }
    return { l with pending := l.pending ++ [transactionRow s accNo t], total := l.total + 1 }

def migrateTransactions (raw : List (String × List (JsonTransaction D))) (db : MigrationDb D) :
    Except MigrationError (ℕ × MigrationDb D) := do
  let l ← (pairs raw).foldlM (loadTransaction s) { db }
  let l ← l.flush
  return (l.total, l.db)

def migrateAdmin (raw : Option JsonAdmin) (db : MigrationDb D) : Except MigrationError (ℕ × MigrationDb D) :=
  match raw with
  | none => .ok (0, db)
  | some raw => do
    let username := raw.username.getD "simon"
    if (db.admins.find? username).isSome then return (0, db)
    let admins ← inserted db.admins [⟨username, raw.password.getD "", "admin", s.now username⟩]
    return (1, { db with admins })

def loginAttemptRow (key : String) (record : JsonLoginAttempt) : LoginAttemptRow where
  key := key
  count := record.count.getD 0
  firstFailed := (record.firstFailed.filter fun text => text ≠ "").map (s.parseTs key)
  lockoutUntil := (record.lockoutUntil.filter fun text => text ≠ "").map (s.parseTs key)
  updatedAt := s.now key

/-- The login attempts of the file that the database does not have. -/
def missingAttempts (raw : List (String × JsonLoginAttempt)) (db : MigrationDb D) : List (String × JsonLoginAttempt) :=
  raw.filter fun e => (db.loginAttempts.find? e.1).isNone

def migrateLoginAttempts (raw : List (String × JsonLoginAttempt)) (db : MigrationDb D) :
    Except MigrationError (ℕ × MigrationDb D) := do
  let missing := missingAttempts raw db
  let loginAttempts ← inserted db.loginAttempts (missing.map fun e => loginAttemptRow s e.1 e.2)
  return (missing.length, { db with loginAttempts })

def savingsGoalRow (accNo : String) (g : JsonSavingsGoal D) : SavingsGoal D where
  goalId := g.goalId.getD ""
  accountNumber := accNo
  name := g.name.getD ""
  targetAmount := s.numeric (g.targetAmount.getD 0)
  currentAmount := s.numeric (g.currentAmount.getD 0)
  targetDate := g.targetDate
  createdAt := s.now (g.goalId.getD "")
  isCompleted := g.isCompleted.getD false

/-- The goals of the file that the database does not have. -/
def missingGoals (raw : List (String × List (JsonSavingsGoal D))) (db : MigrationDb D) :
    List (String × JsonSavingsGoal D) :=
  (pairs raw).filter fun e => e.2.goalId.getD "" ≠ "" ∧ (db.savingsGoals.find? (e.2.goalId.getD "")).isNone

def migrateSavingsGoals (raw : List (String × List (JsonSavingsGoal D))) (db : MigrationDb D) :
    Except MigrationError (ℕ × MigrationDb D) := do
  let missing := missingGoals raw db
  checkAccounts db (missing.map Prod.fst)
  let savingsGoals ← inserted db.savingsGoals (missing.map fun e => savingsGoalRow s e.1 e.2)
  return (missing.length, { db with savingsGoals })

/-- The numbers that the script prints. -/
structure Counts where
  accounts : ℕ
  transactions : ℕ
  admin : ℕ
  loginAttempts : ℕ
  savingsGoals : ℕ
deriving DecidableEq

/-- The script, and the database it leaves: every function commits for itself. -/
def main (files : JsonFiles D) (db : MigrationDb D) : Except MigrationError Counts × MigrationDb D :=
  match migrateAccounts files.accounts db with
  | .error e => (.error e, db)
  | .ok (accounts, db) => match migrateTransactions s files.transactions db with
    | .error e => (.error e, db)
    | .ok (transactions, db) => match migrateAdmin s files.admin db with
      | .error e => (.error e, db)
      | .ok (admin, db) => match migrateLoginAttempts s files.loginAttempts db with
        | .error e => (.error e, db)
        | .ok (loginAttempts, db) => match migrateSavingsGoals s files.savingsGoals db with
          | .error e => (.error e, db)
          | .ok (savingsGoals, db) => (.ok ⟨accounts, transactions, admin, loginAttempts, savingsGoals⟩, db)

end Script

/-! ## What the script is for -/

/-- Every entry of the files is in the database, the accounts with the values of the file: to assign them changes
nothing. -/
structure Migrated (files : JsonFiles D) (db : MigrationDb D) : Prop where
  accounts : ∀ e ∈ files.accounts, ∃ a, db.accounts.find? e.1 = some a ∧ assign a e.2 = a
  transactions : ∀ e ∈ pairs files.transactions, e.2.txnId.getD "" ≠ "" →
    (db.transactions.find? (e.2.txnId.getD "")).isSome
  loginAttempts : ∀ e ∈ files.loginAttempts, (db.loginAttempts.find? e.1).isSome
  savingsGoals : ∀ e ∈ pairs files.savingsGoals, e.2.goalId.getD "" ≠ "" →
    (db.savingsGoals.find? (e.2.goalId.getD "")).isSome

/-- The script completes, every entry is in the database afterwards, and to run it again changes nothing. -/
def Faithful [Zero D] (s s' : Surroundings D) (files : JsonFiles D) (db : MigrationDb D) : Prop :=
  ∃ counts db', main s files db = (.ok counts, db') ∧ Migrated files db' ∧
    ∃ counts', main s' files db' = (.ok counts', db')

/-! ## Transactions that wait for a flush -/

/-- The id of a transaction of the file. -/
def idOf (e : String × JsonTransaction D) : String := e.2.txnId.getD ""

variable (db : MigrationDb D)

/-- The id is given, not in the database and not among the entries before. -/
structure Fresh (before : List (String × JsonTransaction D)) (e : String × JsonTransaction D) : Prop where
  given : idOf e ≠ ""
  absent : db.transactions.find? (idOf e) = none
  first : ∀ e' ∈ before, idOf e' ≠ idOf e

/-- A fresh transaction of the account is among the entries. -/
def Opened (entries : List (String × JsonTransaction D)) (accNo : String) : Prop :=
  ∃ before e after, entries = before ++ e :: after ∧ Fresh db before e ∧ e.1 = accNo

/-- The first fresh transaction of an unknown account: its stub flushes what is pending. -/
structure Opens (before : List (String × JsonTransaction D)) (e : String × JsonTransaction D) : Prop where
  fresh : Fresh db before e
  unknown : db.accounts.find? e.1 = none
  first : ¬ Opened db before e.1

/-- A fresh transaction with the id is among the entries, and none behind it opens an account. -/
def Waiting (entries : List (String × JsonTransaction D)) (id : String) : Prop :=
  ∃ before e after, entries = before ++ e :: after ∧ Fresh db before e ∧ idOf e = id ∧
    ∀ middle o rest, after = middle ++ o :: rest → ¬ Opens db (before ++ e :: middle) o

/-- No entry has the id of one that still waits. -/
def Unrepeated (entries : List (String × JsonTransaction D)) : Prop :=
  ∀ before e after, entries = before ++ e :: after → ¬ Waiting db before (idOf e)

/-- The files and databases that the script can cope with: the accounts are there, not deleted, and have the values of
the file already; no transaction has the id of one that still waits for a flush; the new goals have different ids and
belong to known accounts. -/
structure Migratable (files : JsonFiles D) : Prop where
  accounts : ∀ e ∈ files.accounts, ∃ a, getAccount db e.1 = some a ∧ assign a e.2 = a
  transactions : Unrepeated db (pairs files.transactions)
  goals : ((missingGoals files.savingsGoals db).map fun e => e.2.goalId.getD "").Nodup
  owners : ∀ e ∈ missingGoals files.savingsGoals db,
    (db.accounts.find? e.1).isSome ∨ Opened db (pairs files.transactions) e.1

variable {db} {before : List (String × JsonTransaction D)} {x : String × JsonTransaction D}

/-- The entries of a list with one more at its end. -/
theorem split_snoc_iff {α : Type} {l before after : List α} {x y : α} :
    l ++ [x] = before ++ y :: after ↔
      (before = l ∧ y = x ∧ after = []) ∨ ∃ after', after = after' ++ [x] ∧ l = before ++ y :: after' := by
  constructor
  · intro same
    rcases List.eq_nil_or_concat after with rfl | ⟨after', z, rfl⟩
    · obtain ⟨rfl, last⟩ := List.append_inj' same rfl
      exact .inl ⟨rfl, (List.cons.inj last).1.symm, rfl⟩
    · have ends : l ++ [x] = (before ++ y :: after') ++ [z] := by simpa using same
      obtain ⟨rfl, last⟩ := List.append_inj' ends rfl
      exact .inr ⟨after', by rw [(List.cons.inj last).1, List.concat_eq_append], rfl⟩
  · rintro (⟨rfl, rfl, rfl⟩ | ⟨after', rfl, rfl⟩)
    · rfl
    · simp

theorem opened_snoc {accNo : String} :
    Opened db (before ++ [x]) accNo ↔ Opened db before accNo ∨ (Fresh db before x ∧ x.1 = accNo) := by
  constructor
  · rintro ⟨b, e, after, split, fresh, owner⟩
    rcases split_snoc_iff.mp split with ⟨rfl, rfl, rfl⟩ | ⟨after', rfl, rfl⟩
    · exact .inr ⟨fresh, owner⟩
    · exact .inl ⟨b, e, after', rfl, fresh, owner⟩
  · rintro (⟨b, e, after, rfl, fresh, owner⟩ | ⟨fresh, owner⟩)
    · exact ⟨b, e, after ++ [x], by simp, fresh, owner⟩
    · exact ⟨before, x, [], rfl, fresh, owner⟩

theorem waiting_snoc {id : String} :
    Waiting db (before ++ [x]) id ↔ (Waiting db before id ∧ ¬ Opens db before x) ∨ (Fresh db before x ∧ idOf x = id) := by
  constructor
  · rintro ⟨b, e, after, split, fresh, same, closed⟩
    rcases split_snoc_iff.mp split with ⟨rfl, rfl, rfl⟩ | ⟨after', rfl, rfl⟩
    · exact .inr ⟨fresh, same⟩
    · refine .inl ⟨⟨b, e, after', rfl, fresh, same, ?_⟩, closed after' x [] rfl⟩
      rintro middle o rest rfl
      exact closed middle o (rest ++ [x]) (by simp)
  · rintro (⟨⟨b, e, after, rfl, fresh, same, closed⟩, shut⟩ | ⟨fresh, same⟩)
    · refine ⟨b, e, after ++ [x], by simp, fresh, same, ?_⟩
      intro middle o rest split
      rcases split_snoc_iff.mp split with ⟨rfl, rfl, rfl⟩ | ⟨rest', rfl, rfl⟩
      · exact shut
      · exact closed middle o rest' rfl
    · exact ⟨before, x, [], rfl, fresh, same, by simp⟩

/-- What waits is fresh. -/
theorem Waiting.absent {id : String} (waits : Waiting db before id) :
    id ≠ "" ∧ db.transactions.find? id = none ∧ id ∈ before.map idOf := by
  obtain ⟨b, e, after, rfl, fresh, rfl, _⟩ := waits
  exact ⟨fresh.given, fresh.absent, List.mem_map_of_mem (by simp)⟩

/-! ## The loop over the transactions -/

section Loop

/-- After the entries so far, those that wait are pending and the others in the database. -/
structure Queued (db : MigrationDb D) (before : List (String × JsonTransaction D)) (l : Loading D) : Prop where
  pending : ∀ id, id ∈ l.pending.map TransactionRow.txnId ↔ Waiting db before id
  distinct : (l.pending.map TransactionRow.txnId).Nodup
  owners : ∀ row ∈ l.pending, (l.db.accounts.find? row.accountNumber).isSome
  flushed : ∀ id, id ≠ "" → ((l.db.transactions.find? id).isSome ↔
    (db.transactions.find? id).isSome ∨ (id ∈ before.map idOf ∧ ¬ Waiting db before id))

/-- Where the loop is after the entries so far. -/
structure Loaded (db : MigrationDb D) (before : List (String × JsonTransaction D)) (l : Loading D) : Prop
    extends Queued db before l where
  known : ∀ accNo, (l.db.accounts.find? accNo).isSome ↔ (db.accounts.find? accNo).isSome ∨ Opened db before accNo
  kept : ∀ accNo a, db.accounts.find? accNo = some a → l.db.accounts.find? accNo = some a
  admins : l.db.admins = db.admins
  loginAttempts : l.db.loginAttempts = db.loginAttempts
  savingsGoals : l.db.savingsGoals = db.savingsGoals

/-- Pending rows that do not go into the database. -/
def Doomed (l : Loading D) : Prop := l.db.transactions.insertAll? l.pending = none

theorem loaded_nil : Loaded db [] { db } := by
  have never : ∀ id, ¬ Waiting db [] id := fun id waits => by simpa using waits.absent.2.2
  have closed : ∀ accNo, ¬ Opened db [] accNo := by
    rintro accNo ⟨b, e, after, split, _⟩
    simp at split
  refine ⟨⟨?_, List.nodup_nil, by simp, ?_⟩, ?_, fun _ _ h => h, rfl, rfl, rfl⟩
  · intro id
    simp [never id]
  · intro id _
    simp
  · intro accNo
    simp [closed accNo]

/-- What is pending goes in. -/
theorem Queued.flush {l : Loading D} (loaded : Queued db before l) : ∃ transactions,
    l.flush = .ok { l with db := { l.db with transactions }, pending := [] } ∧
      ∀ id, id ≠ "" → ((transactions.find? id).isSome ↔
        (db.transactions.find? id).isSome ∨ id ∈ before.map idOf) := by
  have fresh : ∀ row ∈ l.pending, l.db.transactions.find? row.txnId = none := by
    intro row mem
    have waits := (loaded.pending row.txnId).mp (List.mem_map_of_mem mem)
    have absent := waits.absent
    have missing := loaded.flushed row.txnId absent.1
    simpa [absent.2.1, waits] using missing
  obtain ⟨transactions, goes⟩ := Option.isSome_iff_exists.mp (Table.insertAll?_isSome.mpr ⟨loaded.distinct, fresh⟩)
  have owned : (l.pending.map TransactionRow.accountNumber).all (fun accNo => (l.db.accounts.find? accNo).isSome) = true := by
    simpa [List.all_eq_true] using loaded.owners
  refine ⟨transactions, ?_, ?_⟩
  · unfold Loading.flush checkAccounts inserted
    rw [if_pos owned, goes]
    rfl
  · intro id given
    rw [Table.find?_insertAll? goes, loaded.pending, loaded.flushed id given]
    constructor
    · rintro ((stored | ⟨seen, _⟩) | waits)
      · exact .inl stored
      · exact .inr seen
      · exact .inr waits.absent.2.2
    · rintro (stored | seen)
      · exact .inl (.inl stored)
      · by_cases waits : Waiting db before id
        · exact .inr waits
        · exact .inl (.inr ⟨seen, waits⟩)

theorem Doomed.flush {l : Loading D} (doomed : Doomed l) : l.flush = .error .integrityError := by
  unfold Loading.flush checkAccounts inserted
  rw [doomed]
  split_ifs
  · rfl
  · rfl

/-- An entry that is left out. -/
theorem Loaded.skip {l : Loading D} (loaded : Loaded db before l)
    (seen : idOf x ≠ "" → (l.db.transactions.find? (idOf x)).isSome) : Loaded db (before ++ [x]) l := by
  have stale : ¬ Fresh db before x := by
    intro fresh
    rcases (loaded.flushed (idOf x) fresh.given).mp (seen fresh.given) with stored | ⟨mem, _⟩
    · rw [fresh.absent] at stored
      cases stored
    · obtain ⟨e', mem', same⟩ := List.mem_map.mp mem
      exact fresh.first e' mem' same
  have shut : ¬ Opens db before x := fun opens => stale opens.fresh
  have waiting : ∀ id, Waiting db (before ++ [x]) id ↔ Waiting db before id := by
    intro id
    rw [waiting_snoc]
    simp [stale, shut]
  refine ⟨⟨?_, loaded.distinct, loaded.owners, ?_⟩, ?_, loaded.kept, loaded.admins, loaded.loginAttempts,
    loaded.savingsGoals⟩
  · intro id
    rw [loaded.pending, waiting]
  · intro id given
    rw [loaded.flushed id given, waiting, List.map_append, List.mem_append]
    constructor
    · rintro (stored | ⟨mem, flushed⟩)
      · exact .inl stored
      · exact .inr ⟨.inl mem, flushed⟩
    · rintro (stored | ⟨mem | last, flushed⟩)
      · exact .inl stored
      · exact .inr ⟨mem, flushed⟩
      · have same : id = idOf x := by simpa using last
        subst same
        exact (loaded.flushed _ given).mp (seen given)
  · intro accNo
    rw [loaded.known, opened_snoc]
    simp [stale]

/-- An entry that is neither skipped nor waits already is fresh. -/
theorem Loaded.fresh {l : Loading D} (loaded : Loaded db before l) (given : idOf x ≠ "")
    (missing : l.db.transactions.find? (idOf x) = none) (new : ¬ Waiting db before (idOf x)) : Fresh db before x := by
  have stored := loaded.flushed (idOf x) given
  simp only [missing, Option.isSome_none, Bool.false_eq_true, false_iff, not_or, not_and, not_not] at stored
  refine ⟨given, by simpa using stored.1, ?_⟩
  intro e' mem same
  exact new (stored.2 (same ▸ List.mem_map_of_mem mem))

/-- A fresh entry of a known account is pending. -/
theorem Loaded.load {l : Loading D} (loaded : Loaded db before l) (fresh : Fresh db before x)
    (known : (l.db.accounts.find? x.1).isSome) {row : TransactionRow D} (id : row.txnId = idOf x)
    (owner : row.accountNumber = x.1) :
    Loaded db (before ++ [x]) { l with pending := l.pending ++ [row], total := l.total + 1 } := by
  have shut : ¬ Opens db before x := by
    intro opens
    rcases (loaded.known x.1).mp known with stored | opened
    · rw [opens.unknown] at stored
      cases stored
    · exact opens.first opened
  have waiting : ∀ i, Waiting db (before ++ [x]) i ↔ Waiting db before i ∨ idOf x = i := by
    intro i
    rw [waiting_snoc]
    simp [fresh, shut]
  have new : ¬ Waiting db before (idOf x) := by
    intro waits
    obtain ⟨e', mem, same⟩ := List.mem_map.mp waits.absent.2.2
    exact fresh.first e' mem same
  refine ⟨⟨?_, ?_, ?_, ?_⟩, ?_, loaded.kept, loaded.admins, loaded.loginAttempts, loaded.savingsGoals⟩
  · intro i
    rw [List.map_append, List.mem_append, loaded.pending, waiting]
    simp [id, eq_comm]
  · rw [List.map_append, List.nodup_append]
    refine ⟨loaded.distinct, List.nodup_singleton _, ?_⟩
    intro i mem j last same
    have ends : j = idOf x := by simpa [id] using last
    rw [same, ends] at mem
    exact new ((loaded.pending _).mp mem)
  · intro r mem
    rcases List.mem_append.mp mem with mem | last
    · exact loaded.owners r mem
    · rw [List.mem_singleton.mp last, owner]
      exact known
  · intro i given
    rw [loaded.flushed i given, waiting, List.map_append, List.mem_append]
    constructor
    · rintro (stored | ⟨mem, flushed⟩)
      · exact .inl stored
      · refine .inr ⟨.inl mem, ?_⟩
        rintro (waits | rfl)
        · exact flushed waits
        · obtain ⟨e', mem', same⟩ := List.mem_map.mp mem
          exact fresh.first e' mem' same
    · rintro (stored | ⟨mem | last, flushed⟩)
      · exact .inl stored
      · exact .inr ⟨mem, fun waits => flushed (.inl waits)⟩
      · have same : i = idOf x := by simpa using last
        exact absurd (.inr same.symm) flushed
  · intro accNo
    rw [loaded.known, opened_snoc]
    constructor
    · rintro (stored | opened)
      · exact .inl stored
      · exact .inr (.inl opened)
    · rintro (stored | opened | ⟨_, rfl⟩)
      · exact .inl stored
      · exact .inr opened
      · exact (loaded.known _).mp known

/-- A fresh entry of an unknown account: all that was pending is flushed behind the stub, and the entry is pending. -/
theorem Loaded.opens {l : Loading D} (row : TransactionRow D) (loaded : Loaded db before l) (fresh : Fresh db before x)
    {account : Account D} (number : account.accountNumber = x.1) (unknown : l.db.accounts.find? account.accountNumber = none)
    (id : row.txnId = idOf x) (owner : row.accountNumber = x.1) :
    ∃ l', Loading.flush { l with db := { l.db with accounts := l.db.accounts.insert account unknown } } = .ok l' ∧
      Loaded db (before ++ [x]) { l' with pending := l'.pending ++ [row], total := l'.total + 1 } := by
  have accounts : ∀ accNo, (l.db.accounts.insert account unknown).find? accNo =
      if accNo = x.1 then some account else l.db.accounts.find? accNo := by
    intro accNo
    rw [Table.find?_insert, number]
  have queued : Queued db before { l with db := { l.db with accounts := l.db.accounts.insert account unknown } } := by
    refine ⟨loaded.pending, loaded.distinct, ?_, loaded.flushed⟩
    intro r mem
    rw [accounts]
    split_ifs
    · rfl
    · exact loaded.owners r mem
  obtain ⟨transactions, flushes, stored⟩ := queued.flush
  have closed : ¬ ((db.accounts.find? x.1).isSome ∨ Opened db before x.1) := by
    rw [← loaded.known, ← number, unknown]
    simp
  rw [not_or] at closed
  have opens : Opens db before x := ⟨fresh, by simpa using closed.1, closed.2⟩
  have waiting : ∀ i, Waiting db (before ++ [x]) i ↔ idOf x = i := by
    intro i
    rw [waiting_snoc]
    simp [fresh, opens]
  refine ⟨_, flushes, ⟨?_, ?_, ?_, ?_⟩, ?_, ?_, loaded.admins, loaded.loginAttempts, loaded.savingsGoals⟩
  · intro i
    rw [waiting]
    simp [id, eq_comm]
  · exact List.nodup_singleton _
  · intro r mem
    have only : r = row := by simpa using mem
    show ((l.db.accounts.insert account unknown).find? r.accountNumber).isSome
    rw [accounts, only, owner, if_pos rfl]
    rfl
  · intro i given
    rw [waiting, List.map_append, List.mem_append]
    refine (stored i given).trans ?_
    constructor
    · rintro (kept | mem)
      · exact .inl kept
      · refine .inr ⟨.inl mem, ?_⟩
        rintro rfl
        obtain ⟨e', mem', same⟩ := List.mem_map.mp mem
        exact fresh.first e' mem' same
    · rintro (kept | ⟨mem | last, flushed⟩)
      · exact .inl kept
      · exact .inr mem
      · have same : i = idOf x := by simpa using last
        exact absurd same.symm flushed
  · intro accNo
    rw [opened_snoc]
    show ((l.db.accounts.insert account unknown).find? accNo).isSome ↔ _
    rw [accounts]
    by_cases own : accNo = x.1
    · simp [own, fresh]
    · rw [if_neg own, loaded.known]
      simp [fresh, Ne.symm own]
  · intro accNo a known
    show (l.db.accounts.insert account unknown).find? accNo = some a
    have other : accNo ≠ x.1 := by
      rintro rfl
      rw [opens.unknown] at known
      cases known
    rw [accounts, if_neg other]
    exact loaded.kept accNo a known

variable [Zero D] (s : Surroundings D)

/-- An entry that is skipped. -/
theorem loadTransaction_skip {l : Loading D} (seen : idOf x ≠ "" → (l.db.transactions.find? (idOf x)).isSome) :
    loadTransaction s l x = .ok l := by
  unfold loadTransaction
  by_cases given : x.2.txnId.getD "" = ""
  · simp only [given, if_true]
    rfl
  · have found : (l.db.transactions.find? (x.2.txnId.getD "")).isSome = true := seen given
    simp only [if_neg given, found, if_true]
    rfl

/-- An entry of a known account. -/
theorem loadTransaction_known {l : Loading D} (given : idOf x ≠ "") (missing : l.db.transactions.find? (idOf x) = none)
    (known : (l.db.accounts.find? x.1).isSome) :
    loadTransaction s l x =
      .ok { l with pending := l.pending ++ [transactionRow s x.1 x.2], total := l.total + 1 } := by
  obtain ⟨a, account⟩ := Option.isSome_iff_exists.mp known
  have absent : l.db.transactions.find? (x.2.txnId.getD "") = none := missing
  have id : x.2.txnId.getD "" ≠ "" := given
  unfold loadTransaction
  simp only [if_neg id, absent, Option.isSome_none, Bool.false_eq_true, if_false, account]
  rfl

/-- An entry of an unknown account. -/
theorem loadTransaction_unknown {l : Loading D} (given : idOf x ≠ "")
    (missing : l.db.transactions.find? (idOf x) = none)
    (unknown : l.db.accounts.find? (stub x.1 (s.now x.1) : Account D).accountNumber = none) :
    loadTransaction s l x =
      (Loading.flush { l with db := { l.db with accounts := l.db.accounts.insert _ unknown } }).map fun l' =>
        { l' with pending := l'.pending ++ [transactionRow s x.1 x.2], total := l'.total + 1 } := by
  have absent : l.db.transactions.find? (x.2.txnId.getD "") = none := missing
  have id : x.2.txnId.getD "" ≠ "" := given
  have account : l.db.accounts.find? x.1 = none := unknown
  have goes : l.db.accounts.insertAll? [stub x.1 (s.now x.1)] = some (l.db.accounts.insert _ unknown) := by
    simp only [Table.insertAll?, Table.insert?, dif_pos unknown, Option.bind_some]
  unfold loadTransaction inserted
  simp only [if_neg id, absent, Option.isSome_none, Bool.false_eq_true, if_false, account, goes]
  rfl

/-- An entry whose id does not wait is taken. -/
theorem Loaded.step {l : Loading D} (loaded : Loaded db before l) (new : ¬ Waiting db before (idOf x)) :
    ∃ l', loadTransaction s l x = .ok l' ∧ Loaded db (before ++ [x]) l' := by
  by_cases seen : idOf x ≠ "" → (l.db.transactions.find? (idOf x)).isSome
  · exact ⟨l, loadTransaction_skip s seen, loaded.skip seen⟩
  rw [Classical.not_imp, Bool.not_eq_true, Option.isSome_eq_false_iff, Option.isNone_iff_eq_none] at seen
  obtain ⟨given, missing⟩ := seen
  have fresh := loaded.fresh given missing new
  by_cases known : (l.db.accounts.find? x.1).isSome
  · exact ⟨_, loadTransaction_known s given missing known, loaded.load fresh known rfl rfl⟩
  · have unknown : l.db.accounts.find? (stub x.1 (s.now x.1) : Account D).accountNumber = none :=
      Option.not_isSome_iff_eq_none.mp known
    obtain ⟨l', flushes, loaded'⟩ := loaded.opens (transactionRow s x.1 x.2) fresh rfl unknown rfl rfl
    refine ⟨_, ?_, loaded'⟩
    rw [loadTransaction_unknown s given missing unknown, flushes]
    rfl

/-- After an entry whose id waits, the pending rows do not go in. -/
theorem Loaded.repeats {l l' : Loading D} (loaded : Loaded db before l) (waits : Waiting db before (idOf x))
    (taken : loadTransaction s l x = .ok l') : Doomed l' := by
  have absent := waits.absent
  have missing : l.db.transactions.find? (idOf x) = none := by
    have stored := loaded.flushed (idOf x) absent.1
    simpa [absent.2.1, waits] using stored
  by_cases known : (l.db.accounts.find? x.1).isSome
  · rw [loadTransaction_known s absent.1 missing known] at taken
    cases taken
    refine Option.not_isSome_iff_eq_none.mp fun goes => ?_
    have nodup := (Table.insertAll?_isSome.mp goes).1
    rw [List.map_append, List.nodup_append] at nodup
    exact nodup.2.2 _ ((loaded.pending _).mpr waits) _ List.mem_cons_self rfl
  · have unknown : l.db.accounts.find? (stub x.1 (s.now x.1) : Account D).accountNumber = none :=
      Option.not_isSome_iff_eq_none.mp known
    have queued : Queued db before { l with db := { l.db with accounts := l.db.accounts.insert _ unknown } } := by
      refine ⟨loaded.pending, loaded.distinct, ?_, loaded.flushed⟩
      intro r mem
      rw [Table.find?_insert]
      split_ifs
      · rfl
      · exact loaded.owners r mem
    obtain ⟨transactions, flushes, stored⟩ := queued.flush
    rw [loadTransaction_unknown s absent.1 missing unknown, flushes] at taken
    cases taken
    refine Option.not_isSome_iff_eq_none.mp fun goes => ?_
    have new := (Table.insertAll?_isSome.mp goes).2 (transactionRow s x.1 x.2) (by simp)
    have there : (transactions.find? (idOf x)).isSome := (stored _ absent.1).mpr (.inr absent.2.2)
    have gone : transactions.find? (idOf x) = none := new
    rw [gone] at there
    cases there

/-- Rows that do not go in stay pending. -/
theorem Doomed.step {l l' : Loading D} (doomed : Doomed l) (taken : loadTransaction s l x = .ok l') : Doomed l' := by
  by_cases seen : idOf x ≠ "" → (l.db.transactions.find? (idOf x)).isSome
  · rw [loadTransaction_skip s seen] at taken
    cases taken
    exact doomed
  rw [Classical.not_imp, Bool.not_eq_true, Option.isSome_eq_false_iff, Option.isNone_iff_eq_none] at seen
  obtain ⟨given, missing⟩ := seen
  by_cases known : (l.db.accounts.find? x.1).isSome
  · rw [loadTransaction_known s given missing known] at taken
    cases taken
    exact Table.insertAll?_append_none doomed _
  · have unknown : l.db.accounts.find? (stub x.1 (s.now x.1) : Account D).accountNumber = none :=
      Option.not_isSome_iff_eq_none.mp known
    have stuck : Doomed { l with db := { l.db with accounts := l.db.accounts.insert _ unknown } } := doomed
    rw [loadTransaction_unknown s given missing unknown, stuck.flush] at taken
    cases taken

/-- Entries of which none has the id of one that waits are all taken. -/
theorem Loaded.run {l : Loading D} (rest : List (String × JsonTransaction D)) (loaded : Loaded db before l)
    (new : ∀ b e after, rest = b ++ e :: after → ¬ Waiting db (before ++ b) (idOf e)) :
    ∃ l', rest.foldlM (loadTransaction s) l = .ok l' ∧ Loaded db (before ++ rest) l' := by
  induction rest generalizing before l with
  | nil => exact ⟨l, rfl, by simpa using loaded⟩
  | cons x rest ih =>
    obtain ⟨l₁, taken, loaded₁⟩ := loaded.step s (by simpa using new [] x rest rfl)
    obtain ⟨l', run, loaded'⟩ := ih loaded₁ fun b e after split => by
      have later := new (x :: b) e after (by rw [split, List.cons_append])
      simpa using later
    refine ⟨l', ?_, by simpa using loaded'⟩
    rw [List.foldlM_cons, taken]
    exact run

theorem Doomed.run {l l' : Loading D} (rest : List (String × JsonTransaction D)) (doomed : Doomed l)
    (run : rest.foldlM (loadTransaction s) l = .ok l') : Doomed l' := by
  induction rest generalizing l with
  | nil =>
    cases run
    exact doomed
  | cons x rest ih =>
    rw [List.foldlM_cons] at run
    cases taken : loadTransaction s l x with
    | error e =>
      rw [taken] at run
      cases run
    | ok l₁ =>
      rw [taken] at run
      exact ih (doomed.step s taken) run

/-- Behind an entry with the id of one that waits, nothing is flushed any more. -/
theorem Loaded.run_repeats {l l' : Loading D} (rest : List (String × JsonTransaction D)) (loaded : Loaded db before l)
    (repeated : ¬ ∀ b e after, rest = b ++ e :: after → ¬ Waiting db (before ++ b) (idOf e))
    (run : rest.foldlM (loadTransaction s) l = .ok l') : Doomed l' := by
  induction rest generalizing before l with
  | nil =>
    refine absurd (fun b e after split => ?_) repeated
    simp at split
  | cons x rest ih =>
    rw [List.foldlM_cons] at run
    by_cases waits : Waiting db before (idOf x)
    · cases taken : loadTransaction s l x with
      | error e =>
        rw [taken] at run
        cases run
      | ok l₁ =>
        rw [taken] at run
        exact (loaded.repeats s waits taken).run s rest run
    · obtain ⟨l₁, taken, loaded₁⟩ := loaded.step s waits
      rw [taken] at run
      refine ih loaded₁ (fun new => repeated ?_) run
      intro b e after split
      rcases List.cons_eq_append_iff.mp split with ⟨rfl, here⟩ | ⟨b', rfl, later⟩
      · obtain ⟨rfl, _⟩ := List.cons.inj here
        simpa using waits
      · simpa using new b' e after later

end Loop

/-! ## The five functions -/

section Functions

variable [Zero D] (s : Surroundings D)

/-- The database without pending rows goes through. -/
theorem inserted_nil {κ ρ : Type} [DecidableEq κ] {key : ρ → κ} (t : Table key) : inserted t [] = .ok t := rfl

theorem accountsLoop_known {raw : List (String × JsonAccount D)}
    (known : ∀ e ∈ raw, (getAccount db e.1).isSome) : ∃ entities, accountsLoop db raw = .ok (entities, []) := by
  induction raw with
  | nil => exact ⟨[], rfl⟩
  | cons e raw ih =>
    obtain ⟨existing, found⟩ := Option.isSome_iff_exists.mp (known e List.mem_cons_self)
    obtain ⟨entities, rest⟩ := ih fun e' mem => known e' (List.mem_cons_of_mem e mem)
    refine ⟨assign existing e.2 :: entities, ?_⟩
    simp only [accountsLoop, found, rest]
    rfl

/-- The accounts do not change where all of them are there. -/
theorem migrateAccounts_known {raw : List (String × JsonAccount D)} (known : ∀ e ∈ raw, (getAccount db e.1).isSome) :
    migrateAccounts raw db = .ok (raw.length, db) := by
  obtain ⟨entities, loop⟩ := accountsLoop_known known
  unfold migrateAccounts
  rw [loop]
  rfl

/-- A missing account ends the script. -/
theorem migrateAccounts_missing {raw : List (String × JsonAccount D)}
    (missing : ¬ ∀ e ∈ raw, (getAccount db e.1).isSome) : migrateAccounts raw db = .error .attributeError := by
  have loop : accountsLoop db raw = .error .attributeError := by
    induction raw with
    | nil => simp at missing
    | cons e raw ih =>
      rw [accountsLoop]
      cases found : getAccount db e.1 with
      | none => rfl
      | some existing =>
        have rest : ¬ ∀ e' ∈ raw, (getAccount db e'.1).isSome := by
          intro all
          refine missing fun e' mem => ?_
          rcases List.mem_cons.mp mem with rfl | mem
          · rw [found]
            rfl
          · exact all e' mem
        rw [ih rest]
        rfl
  unfold migrateAccounts
  rw [loop]
  rfl

/-- What the transactions of the file make of the database. -/
structure Loads (db : MigrationDb D) (entries : List (String × JsonTransaction D)) (db' : MigrationDb D) : Prop where
  known : ∀ accNo, (db'.accounts.find? accNo).isSome ↔ (db.accounts.find? accNo).isSome ∨ Opened db entries accNo
  kept : ∀ accNo a, db.accounts.find? accNo = some a → db'.accounts.find? accNo = some a
  stored : ∀ id, id ≠ "" → ((db'.transactions.find? id).isSome ↔
    (db.transactions.find? id).isSome ∨ id ∈ entries.map idOf)
  admins : db'.admins = db.admins
  loginAttempts : db'.loginAttempts = db.loginAttempts
  savingsGoals : db'.savingsGoals = db.savingsGoals

theorem migrateTransactions_ok {raw : List (String × List (JsonTransaction D))} (tidy : Unrepeated db (pairs raw)) :
    ∃ n db', migrateTransactions s raw db = .ok (n, db') ∧ Loads db (pairs raw) db' := by
  obtain ⟨l, run, loaded⟩ := loaded_nil.run s (pairs raw) tidy
  rw [List.nil_append] at loaded
  obtain ⟨transactions, flushes, stored⟩ := loaded.toQueued.flush
  refine ⟨l.total, { l.db with transactions }, ?_, ?_⟩
  · unfold migrateTransactions
    rw [run]
    show (do let l ← l.flush; _) = _
    rw [flushes]
    rfl
  · exact ⟨loaded.known, loaded.kept, stored, loaded.admins, loaded.loginAttempts, loaded.savingsGoals⟩

theorem migrateTransactions_repeated {raw : List (String × List (JsonTransaction D))}
    (repeated : ¬ Unrepeated db (pairs raw)) : ∃ e, migrateTransactions s raw db = .error e := by
  unfold migrateTransactions
  cases run : (pairs raw).foldlM (loadTransaction s) { db } with
  | error e => exact ⟨e, rfl⟩
  | ok l =>
    have doomed := loaded_nil.run_repeats s (pairs raw) repeated run
    refine ⟨.integrityError, ?_⟩
    show (do let l ← l.flush; _) = _
    rw [doomed.flush]
    rfl

/-- Transactions that are all there change nothing. -/
theorem migrateTransactions_again {raw : List (String × List (JsonTransaction D))}
    (there : ∀ e ∈ pairs raw, idOf e ≠ "" → (db.transactions.find? (idOf e)).isSome) :
    migrateTransactions s raw db = .ok (0, db) := by
  have run : ∀ entries : List (String × JsonTransaction D), (∀ e ∈ entries, idOf e ≠ "" →
      (db.transactions.find? (idOf e)).isSome) → entries.foldlM (loadTransaction s) { db } = .ok { db } := by
    intro entries all
    induction entries with
    | nil => rfl
    | cons e entries ih =>
      rw [List.foldlM_cons, loadTransaction_skip s (all e List.mem_cons_self)]
      exact ih fun e' mem => all e' (List.mem_cons_of_mem e mem)
  unfold migrateTransactions
  rw [run _ there]
  rfl

/-- The admin is there afterwards, and nothing else changes. -/
theorem migrateAdmin_ok (raw : Option JsonAdmin) (db : MigrationDb D) :
    ∃ n admins, migrateAdmin s raw db = .ok (n, { db with admins }) ∧
      ∀ s' : Surroundings D, ∀ db' : MigrationDb D, db'.admins = admins → migrateAdmin s' raw db' = .ok (0, db') := by
  cases raw with
  | none => exact ⟨0, db.admins, rfl, fun _ _ _ => rfl⟩
  | some raw =>
    by_cases there : (db.admins.find? (raw.username.getD "simon")).isSome
    · refine ⟨0, db.admins, ?_, ?_⟩
      · simp only [migrateAdmin, there, if_true]
        rfl
      · intro s' db' same
        simp only [migrateAdmin, same, there, if_true]
        rfl
    · let row : AdminRow := ⟨raw.username.getD "simon", raw.password.getD "", "admin", s.now (raw.username.getD "simon")⟩
      have new : db.admins.find? row.username = none := Option.not_isSome_iff_eq_none.mp there
      have goes : db.admins.insertAll? [row] = some (db.admins.insert row new) := by
        simp only [Table.insertAll?, Table.insert?, dif_pos new, Option.bind_some]
      refine ⟨1, db.admins.insert row new, ?_, ?_⟩
      · simp only [migrateAdmin, there, inserted]
        rw [goes]
        rfl
      · intro s' db' same
        have found : ((db.admins.insert row new).find? (raw.username.getD "simon")).isSome := by
          rw [Table.find?_insert, if_pos rfl]
          rfl
        simp only [migrateAdmin, same, found, if_true]
        rfl

/-- The login attempts are there afterwards, and nothing else changes. -/
theorem migrateLoginAttempts_ok {raw : List (String × JsonLoginAttempt)} (keys : (raw.map Prod.fst).Nodup)
    (db : MigrationDb D) : ∃ n loginAttempts, migrateLoginAttempts s raw db = .ok (n, { db with loginAttempts }) ∧
      ∀ e ∈ raw, (loginAttempts.find? e.1).isSome := by
  have keysOf : ((missingAttempts raw db).map fun e => loginAttemptRow s e.1 e.2).map LoginAttemptRow.key =
      (missingAttempts raw db).map Prod.fst := by
    rw [List.map_map]
    rfl
  have distinct : ((missingAttempts raw db).map Prod.fst).Nodup := (List.filter_sublist.map Prod.fst).nodup keys
  have new : ∀ row ∈ (missingAttempts raw db).map (fun e => loginAttemptRow s e.1 e.2),
      db.loginAttempts.find? row.key = none := by
    intro row mem
    obtain ⟨e, missing, rfl⟩ := List.mem_map.mp mem
    exact Option.isNone_iff_eq_none.mp (List.mem_filter.mp missing).2
  obtain ⟨loginAttempts, goes⟩ := Option.isSome_iff_exists.mp
    (Table.insertAll?_isSome.mpr ⟨keysOf.symm ▸ distinct, new⟩)
  refine ⟨(missingAttempts raw db).length, loginAttempts, ?_, ?_⟩
  · unfold migrateLoginAttempts inserted
    simp only [goes]
    rfl
  · intro e mem
    rw [Table.find?_insertAll? goes, keysOf]
    by_cases there : (db.loginAttempts.find? e.1).isSome
    · exact .inl there
    · refine .inr (List.mem_map_of_mem (List.mem_filter.mpr ⟨mem, ?_⟩))
      simpa using there

/-- Login attempts that are all there change nothing. -/
theorem migrateLoginAttempts_again {raw : List (String × JsonLoginAttempt)}
    (there : ∀ e ∈ raw, (db.loginAttempts.find? e.1).isSome) : migrateLoginAttempts s raw db = .ok (0, db) := by
  have none : missingAttempts raw db = [] := by
    refine List.filter_eq_nil_iff.mpr fun e mem => ?_
    simpa [Option.isSome_iff_ne_none] using there e mem
  unfold migrateLoginAttempts
  rw [none]
  rfl

theorem savingsGoalRow_ids (goals : List (String × JsonSavingsGoal D)) :
    (goals.map fun e => savingsGoalRow s e.1 e.2).map SavingsGoal.goalId =
      goals.map fun e => e.2.goalId.getD "" := by
  rw [List.map_map]
  rfl

/-- The goals go in where the new ones have different ids and belong to known accounts. -/
theorem migrateSavingsGoals_ok (raw : List (String × List (JsonSavingsGoal D))) (db : MigrationDb D)
    (ids : ((missingGoals raw db).map fun e => e.2.goalId.getD "").Nodup)
    (owners : ∀ e ∈ missingGoals raw db, (db.accounts.find? e.1).isSome) :
    ∃ n savingsGoals, migrateSavingsGoals s raw db = .ok (n, { db with savingsGoals }) ∧
      ∀ e ∈ pairs raw, e.2.goalId.getD "" ≠ "" → (savingsGoals.find? (e.2.goalId.getD "")).isSome := by
  have new : ∀ row ∈ (missingGoals raw db).map (fun e => savingsGoalRow s e.1 e.2),
      db.savingsGoals.find? row.goalId = none := by
    intro row mem
    obtain ⟨e, missing, rfl⟩ := List.mem_map.mp mem
    have absent := of_decide_eq_true (List.mem_filter.mp missing).2
    exact Option.isNone_iff_eq_none.mp absent.2
  obtain ⟨savingsGoals, goes⟩ := Option.isSome_iff_exists.mp
    (Table.insertAll?_isSome.mpr ⟨(savingsGoalRow_ids s _).symm ▸ ids, new⟩)
  have owned : ((missingGoals raw db).map Prod.fst).all (fun accNo => (db.accounts.find? accNo).isSome) = true := by
    simpa [List.all_eq_true] using owners
  refine ⟨(missingGoals raw db).length, savingsGoals, ?_, ?_⟩
  · unfold migrateSavingsGoals checkAccounts inserted
    simp only [owned, if_true, goes]
    rfl
  · intro e mem given
    rw [Table.find?_insertAll? goes, savingsGoalRow_ids]
    by_cases there : (db.savingsGoals.find? (e.2.goalId.getD "")).isSome
    · exact .inl there
    · refine .inr (List.mem_map_of_mem (f := fun e => e.2.goalId.getD "") (List.mem_filter.mpr ⟨mem, decide_eq_true ?_⟩))
      exact ⟨given, by simpa using there⟩

theorem migrateSavingsGoals_iff {raw : List (String × List (JsonSavingsGoal D))} {r : ℕ × MigrationDb D}
    (ok : migrateSavingsGoals s raw db = .ok r) :
    ((missingGoals raw db).map fun e => e.2.goalId.getD "").Nodup ∧
      ∀ e ∈ missingGoals raw db, (db.accounts.find? e.1).isSome := by
  unfold migrateSavingsGoals checkAccounts inserted at ok
  by_cases owned : ((missingGoals raw db).map Prod.fst).all (fun accNo => (db.accounts.find? accNo).isSome) = true
  · simp only [owned, if_true] at ok
    cases goes : db.savingsGoals.insertAll? ((missingGoals raw db).map fun e => savingsGoalRow s e.1 e.2) with
    | none =>
      simp only [goes] at ok
      cases ok
    | some t =>
      have distinct := (Table.insertAll?_isSome.mp (Option.isSome_of_eq_some goes)).1
      rw [savingsGoalRow_ids] at distinct
      refine ⟨distinct, ?_⟩
      simpa [List.all_eq_true] using owned
  · simp only [owned] at ok
    cases ok

/-- Goals that are all there change nothing. -/
theorem migrateSavingsGoals_again {raw : List (String × List (JsonSavingsGoal D))}
    (there : ∀ e ∈ pairs raw, e.2.goalId.getD "" ≠ "" → (db.savingsGoals.find? (e.2.goalId.getD "")).isSome) :
    migrateSavingsGoals s raw db = .ok (0, db) := by
  have none : missingGoals raw db = [] := by
    refine List.filter_eq_nil_iff.mpr fun e mem => ?_
    intro missing
    have absent := of_decide_eq_true missing
    have found := there e mem absent.1
    rw [Option.isNone_iff_eq_none.mp absent.2] at found
    cases found
  unfold migrateSavingsGoals
  rw [none]
  rfl

end Functions

/-! ## The script as a whole -/

section Whole

variable [Zero D] {s s' : Surroundings D} {files : JsonFiles D}

/-- The script completes when its five functions do. -/
theorem main_eq_ok {counts : Counts} {db' : MigrationDb D} :
    main s files db = (.ok counts, db') ↔ ∃ db₁ db₂ db₃ db₄,
      migrateAccounts files.accounts db = .ok (counts.accounts, db₁) ∧
      migrateTransactions s files.transactions db₁ = .ok (counts.transactions, db₂) ∧
      migrateAdmin s files.admin db₂ = .ok (counts.admin, db₃) ∧
      migrateLoginAttempts s files.loginAttempts db₃ = .ok (counts.loginAttempts, db₄) ∧
      migrateSavingsGoals s files.savingsGoals db₄ = .ok (counts.savingsGoals, db') := by
  constructor
  · intro completes
    unfold main at completes
    split at completes
    · cases completes
    rename_i db₁ accounts
    split at completes
    · cases completes
    rename_i db₂ transactions
    split at completes
    · cases completes
    rename_i db₃ admin
    split at completes
    · cases completes
    rename_i db₄ loginAttempts
    split at completes
    · cases completes
    rename_i savingsGoals
    cases completes
    exact ⟨db₁, db₂, db₃, db₄, accounts, transactions, admin, loginAttempts, savingsGoals⟩
  · rintro ⟨db₁, db₂, db₃, db₄, accounts, transactions, admin, loginAttempts, savingsGoals⟩
    simp only [main, accounts, transactions, admin, loginAttempts, savingsGoals]

/-- An entity with the values of the file is that of its row. -/
theorem getAccount_some {accNo : String} {a : Account D} (found : getAccount db accNo = some a) :
    db.accounts.find? accNo = some a := (Option.filter_eq_some_iff.mp found).1

theorem getAccount_congr {db' : MigrationDb D} {accNo : String} {a : Account D} (found : getAccount db accNo = some a)
    (kept : db'.accounts.find? accNo = some a) : getAccount db' accNo = some a := by
  unfold getAccount at found ⊢
  rw [kept]
  exact Option.filter_eq_some_iff.mpr ⟨rfl, (Option.filter_eq_some_iff.mp found).2⟩

/-- What the script needs is enough. -/
theorem faithful_of_migratable (fit : Migratable db files) : Faithful s s' files db := by
  have known : ∀ e ∈ files.accounts, (getAccount db e.1).isSome := by
    intro e mem
    obtain ⟨a, found, _⟩ := fit.accounts e mem
    exact Option.isSome_of_eq_some found
  obtain ⟨transactions, db₂, loads, loaded⟩ := migrateTransactions_ok s fit.transactions
  obtain ⟨admin, admins, administers, adminAgain⟩ := migrateAdmin_ok s files.admin db₂
  obtain ⟨attempts, loginAttempts, records, recorded⟩ := migrateLoginAttempts_ok s files.keys { db₂ with admins }
  have missing : missingGoals files.savingsGoals { db₂ with admins, loginAttempts } =
      missingGoals files.savingsGoals db := by
    unfold missingGoals
    rw [loaded.savingsGoals]
  obtain ⟨goals, savingsGoals, saves, saved⟩ := migrateSavingsGoals_ok s
    files.savingsGoals { db₂ with admins, loginAttempts } (by rw [missing]; exact fit.goals) (by
      rw [missing]
      exact fun e mem => (loaded.known e.1).mpr (fit.owners e mem))
  let db' : MigrationDb D := { db₂ with admins, loginAttempts, savingsGoals }
  have stored : ∀ e ∈ pairs files.transactions, idOf e ≠ "" → (db'.transactions.find? (idOf e)).isSome := by
    intro e mem given
    exact (loaded.stored _ given).mpr (.inr (List.mem_map_of_mem mem))
  refine ⟨⟨files.accounts.length, transactions, admin, attempts, goals⟩, db', ?_, ⟨?_, stored, recorded, saved⟩,
    ⟨files.accounts.length, 0, 0, 0, 0⟩, ?_⟩
  · exact main_eq_ok.mpr ⟨db, db₂, _, _, migrateAccounts_known known, loads, administers, records, saves⟩
  · intro e mem
    obtain ⟨a, found, carries⟩ := fit.accounts e mem
    exact ⟨a, loaded.kept e.1 a (getAccount_some found), carries⟩
  · have known' : ∀ e ∈ files.accounts, (getAccount db' e.1).isSome := by
      intro e mem
      obtain ⟨a, found, _⟩ := fit.accounts e mem
      exact Option.isSome_of_eq_some (getAccount_congr found (loaded.kept e.1 a (getAccount_some found)))
    exact main_eq_ok.mpr ⟨db', db', db', db', migrateAccounts_known known', migrateTransactions_again s' stored,
      adminAgain s' db' rfl, migrateLoginAttempts_again s' recorded, migrateSavingsGoals_again s' saved⟩

end Whole

end Migration

/-! ## A first migration -/

namespace Sample

open Migration

def emptyDb : MigrationDb ℚ := ⟨default, default, default, default, default⟩

def sqlite : Surroundings ℚ := ⟨fun _ => none, fun _ => 0, id⟩

/-- One account that the database does not have. -/
def oneAccount : JsonFiles ℚ where
  accounts := [("1001", { name := some "Asha", balance := some 100 })]
  transactions := []
  admin := none
  loginAttempts := []
  savingsGoals := []
  keys := List.nodup_nil

/-- One transaction id twice. -/
def oneIdTwice : JsonFiles ℚ where
  accounts := []
  transactions := [("1001", [{ txnId := some "T1" }, { txnId := some "T1" }])]
  admin := none
  loginAttempts := []
  savingsGoals := []
  keys := List.nodup_nil

end Sample

end UnionBank
