import UnionBank.Lib.Prog
import UnionBank.Entities

/-!
# What authentication stores

The tables that logins and tokens read and write, with the columns they use, and what a flush makes of them.

- `Tab`, `Row`: the tables and their rows, found by their keys; `Db`: the committed rows;
- `Database`: SQLite, which takes texts of any length and gives instants back without a time zone, and PostgreSQL, which
  refuses longer texts and the character NUL;
- `Change`: pending changes; `flush`: a DELETE wins over the other changes of its row.
-/

namespace UnionBank.Auth

open Programs Prog

/-- The exceptions of the tables and of the endpoints. -/
inductive Exn where
  | integrityError
  | dataError
  | staleDataError
  | pendingRollbackError
  | operationalError
  | typeError
  | attributeError
  | jwtError
  | httpException (status : ℕ) (detail : String)
deriving DecidableEq, Repr

/-- A `datetime`, and whether it knows its time zone. -/
structure Stamp where
  time : Time
  aware : Bool
deriving DecidableEq, Repr

/-- An account, as far as authentication looks at it. -/
structure AccountRow where
  password : String
  isActive : Bool
  isFrozen : Bool
  deletedAt : Option Time
deriving DecidableEq, Repr

/-- An admin; the secret as stored. -/
structure AdminRow where
  password : String
  role : String
  totpSecret : Option String
  totpEnabled : Bool
deriving DecidableEq, Repr

structure LoginAttempt where
  count : ℕ
  firstFailed : Option Stamp
  lockoutUntil : Option Stamp
deriving DecidableEq, Repr

structure RefreshToken where
  accountNumber : String
  role : String
  expiresAt : Time
  revokedAt : Option Time
deriving DecidableEq, Repr

/-- The tables; their keys are account numbers, user names, lock keys, account numbers and hashed token ids. -/
inductive Tab where
  | accounts
  | admins
  | loginAttempts
  | tokenVersions
  | refreshTokens
deriving DecidableEq

/-- The rows of a table; a token version is its number. -/
@[reducible] def Row : Tab → Type
  | .accounts => AccountRow
  | .admins => AdminRow
  | .loginAttempts => LoginAttempt
  | .tokenVersions => ℕ
  | .refreshTokens => RefreshToken

instance : (t : Tab) → DecidableEq (Row t)
  | .accounts => inferInstanceAs (DecidableEq AccountRow)
  | .admins => inferInstanceAs (DecidableEq AdminRow)
  | .loginAttempts => inferInstanceAs (DecidableEq LoginAttempt)
  | .tokenVersions => inferInstanceAs (DecidableEq ℕ)
  | .refreshTokens => inferInstanceAs (DecidableEq RefreshToken)

/-- The committed rows, by table and key. -/
@[ext] structure Db where
  rows : (t : Tab) → String → Option (Row t)

namespace Db

/-- The store with another row, or none, under a key. -/
def set (db : Db) (t : Tab) (key : String) (row : Option (Row t)) : Db :=
  ⟨Function.update db.rows t (Function.update (db.rows t) key row)⟩

variable (db : Db) {t u : Tab} {key key' : String} (row : Option (Row t))

@[simp] theorem set_self : (db.set t key row).rows t key = row := by
  show Function.update db.rows t _ t key = row
  rw [Function.update_self, Function.update_self]

@[simp] theorem set_set (row' : Option (Row t)) : (db.set t key row).set t key row' = db.set t key row' := by
  simp [set]

/-- A row that is written as it is. -/
theorem set_same {row : Option (Row t)} (h : db.rows t key = row) : db.set t key row = db := by
  subst h
  simp [set]

theorem set_of_key_ne (h : key' ≠ key) : (db.set t key row).rows t key' = db.rows t key' := by
  show Function.update db.rows t _ t key' = _
  rw [Function.update_self, Function.update_of_ne h]

theorem set_of_tab_ne (h : u ≠ t) : (db.set t key row).rows u = db.rows u := Function.update_of_ne h _ _

/-- Every other row is kept. -/
theorem set_of_ne (h : u = t → key' ≠ key) : (db.set t key row).rows u key' = db.rows u key' := by
  by_cases hu : u = t
  · subst hu
    exact set_of_key_ne db row (h rfl)
  · rw [set_of_tab_ne db row hu]

/-- Rows under two keys are written in any order. -/
theorem set_comm (row' : Option (Row u)) (h : t = u → key ≠ key') :
    (db.set t key row).set u key' row' = (db.set u key' row').set t key row := by
  have other : u = t → key' ≠ key := fun same same' => h same.symm same'.symm
  have rows : ∀ v k, ((db.set t key row).set u key' row').rows v k = ((db.set u key' row').set t key row).rows v k := by
    intro v k
    by_cases first : v = t ∧ k = key
    · obtain ⟨rfl, rfl⟩ := first
      rw [set_of_ne _ _ h, set_self, set_self]
    · by_cases second : v = u ∧ k = key'
      · obtain ⟨rfl, rfl⟩ := second
        rw [set_self, set_of_ne _ _ other, set_self]
      · have ne : v = t → k ≠ key := fun hv hk => first ⟨hv, hk⟩
        have ne' : v = u → k ≠ key' := fun hv hk => second ⟨hv, hk⟩
        rw [set_of_ne _ _ ne', set_of_ne _ _ ne, set_of_ne _ _ ne, set_of_ne _ _ ne']
  exact Db.ext (funext fun v => funext (rows v))

/-- The row a SELECT finds: a deleted account is not found. -/
def find? : (t : Tab) → String → Option (Row t)
  | .accounts, accNo => (db.rows .accounts accNo).filter fun row => row.deletedAt.isNone
  | .admins, username => db.rows .admins username
  | .loginAttempts, key => db.rows .loginAttempts key
  | .tokenVersions, accNo => db.rows .tokenVersions accNo
  | .refreshTokens, tokenId => db.rows .refreshTokens tokenId

end Db

/-! ## Columns -/

/-- The supported databases. -/
inductive Database where
  | sqlite
  | postgresql
deriving DecidableEq

namespace Database

/-- Whether a `String(n)` column takes a text. -/
def takes : Database → ℕ → String → Bool
  | sqlite, _, _ => true
  | postgresql, n, s => s.length ≤ n && !s.toList.contains '\x00'

/-- A `DateTime(timezone=True)` column: SQLite keeps no time zone. -/
def stamp : Database → Stamp → Stamp
  | sqlite, s => { s with aware := false }
  | postgresql, s => { s with aware := true }

theorem takes_mono {B : Database} {m n : ℕ} {s : String} (le : m ≤ n) (h : B.takes m s = true) : B.takes n s = true := by
  cases B with
  | sqlite => rfl
  | postgresql =>
    simp only [takes, Bool.and_eq_true, decide_eq_true_eq] at h ⊢
    exact ⟨h.1.trans le, h.2⟩

theorem takes_append {B : Database} {m n : ℕ} {s t : String} (hs : B.takes m s = true) (ht : B.takes n t = true) :
    B.takes (m + n) (s ++ t) = true := by
  cases B with
  | sqlite => rfl
  | postgresql =>
    simp only [takes, Bool.and_eq_true, decide_eq_true_eq, Bool.not_eq_true', List.contains_eq_mem, decide_eq_false_iff_not,
      String.length_append, String.toList_append, List.mem_append, not_or] at hs ht ⊢
    exact ⟨by omega, hs.2, ht.2⟩

/-- Whether the columns of a table take a row. -/
def fits (B : Database) : (t : Tab) → String → Row t → Bool
  | .accounts, accNo, row => B.takes 10 accNo && B.takes 128 row.password
  | .admins, username, row =>
    B.takes 50 username && B.takes 128 row.password && B.takes 20 row.role && row.totpSecret.all (B.takes 32)
  | .loginAttempts, key, _ => B.takes 100 key
  | .tokenVersions, accNo, _ => B.takes 10 accNo
  | .refreshTokens, tokenId, row => B.takes 32 tokenId && B.takes 50 row.accountNumber && B.takes 20 row.role

/-- The row as the columns keep it. -/
def keeps (B : Database) : (t : Tab) → Row t → Row t
  | .loginAttempts, row =>
    { row with firstFailed := row.firstFailed.map B.stamp, lockoutUntil := row.lockoutUntil.map B.stamp }
  | .accounts, row | .admins, row | .tokenVersions, row | .refreshTokens, row => row

end Database

/-! ## Changes -/

/-- The column of a row that an UPDATE leaves: only a column that was changed is written. -/
def column {α : Type} [DecidableEq α] (loaded current stored : α) : α := if loaded = current then stored else current

/-- What an UPDATE makes of the stored row. -/
def merge : (t : Tab) → (loaded current stored : Row t) → Row t
  | .accounts, loaded, current, stored => {
      password := column loaded.password current.password stored.password,
      isActive := column loaded.isActive current.isActive stored.isActive,
      isFrozen := column loaded.isFrozen current.isFrozen stored.isFrozen,
      deletedAt := column loaded.deletedAt current.deletedAt stored.deletedAt }
  | .admins, loaded, current, stored => {
      password := column loaded.password current.password stored.password,
      role := column loaded.role current.role stored.role,
      totpSecret := column loaded.totpSecret current.totpSecret stored.totpSecret,
      totpEnabled := column loaded.totpEnabled current.totpEnabled stored.totpEnabled }
  | .loginAttempts, loaded, current, stored => {
      count := column loaded.count current.count stored.count,
      firstFailed := column loaded.firstFailed current.firstFailed stored.firstFailed,
      lockoutUntil := column loaded.lockoutUntil current.lockoutUntil stored.lockoutUntil }
  | .tokenVersions, loaded, current, stored => column loaded current stored
  | .refreshTokens, loaded, current, stored => {
      accountNumber := column loaded.accountNumber current.accountNumber stored.accountNumber,
      role := column loaded.role current.role stored.role,
      expiresAt := column loaded.expiresAt current.expiresAt stored.expiresAt,
      revokedAt := column loaded.revokedAt current.revokedAt stored.revokedAt }

theorem column_loaded {α : Type} [DecidableEq α] (loaded current : α) : column loaded current loaded = current := by
  unfold column
  split
  · assumption
  · rfl

/-- A row that was not changed since it was loaded becomes the current one. -/
@[simp] theorem merge_loaded (t : Tab) (loaded current : Row t) : merge t loaded current loaded = current := by
  cases t <;> simp only [merge, column_loaded]

/-- A pending change of a session: `loaded` is the row as its SELECT found it. -/
inductive Change where
  | insert (t : Tab) (key : String) (row : Row t)
  | update (t : Tab) (key : String) (loaded current : Row t)
  | delete (t : Tab) (key : String)

namespace Change

/-- The row a change is about. -/
def tab : Change → Tab
  | insert t .. | update t .. | delete t _ => t

def key : Change → String
  | insert _ key _ | update _ key .. | delete _ key => key

def isInsert : Change → Bool
  | insert .. => true
  | _ => false

def isDelete : Change → Bool
  | delete .. => true
  | _ => false

/-- Whether a change deletes a row. -/
def deletes (t : Tab) (key : String) (c : Change) : Bool := c.isDelete && c.tab = t && c.key = key

variable (B : Database) (db : Db)

/-- One statement of a flush. An UPDATE of a row that is gone is a stale-data error; a DELETE of one is not. -/
def apply : Change → Except Exn Db
  | insert t key row =>
    if !B.fits t key row then .error .dataError
    else if (db.rows t key).isSome then .error .integrityError
    else .ok (db.set t key (some (B.keeps t row)))
  | update t key loaded current =>
    match db.rows t key with
    | none => .error .staleDataError
    | some stored =>
      if !B.fits t key (merge t loaded current stored) then .error .dataError
      else .ok (db.set t key (some (B.keeps t (merge t loaded current stored))))
  | delete t key => .ok (db.set t key none)

end Change

/-- The statements of a flush: a deleted row is not updated, and the DELETEs come last. -/
def statements (cs : List Change) : List Change :=
  (cs.filter fun c => !c.isDelete && (c.isInsert || !cs.any (Change.deletes c.tab c.key))) ++ cs.filter Change.isDelete

/-- The statements of a flush, one after the other. -/
def flush (B : Database) (cs : List Change) (db : Db) : Except Exn Db :=
  (statements cs).foldlM (fun db c => c.apply B db) db

/-! ## Flushes of one statement -/

section Flush

variable {B : Database} {db : Db} {t : Tab} {key : String}

theorem flush_insert {row : Row t} (fits : B.fits t key row = true) (absent : db.rows t key = none) :
    flush B [.insert t key row] db = .ok (db.set t key (some (B.keeps t row))) := by
  simp [flush, statements, Change.isDelete, Change.isInsert, Change.apply, fits, absent]

theorem flush_update {row row' : Row t} (stored : db.rows t key = some row) (fits : B.fits t key row' = true) :
    flush B [.update t key row row'] db = .ok (db.set t key (some (B.keeps t row'))) := by
  simp [flush, statements, Change.isDelete, Change.isInsert, Change.apply, Change.deletes, stored, fits]

theorem flush_delete : flush B [.delete t key] db = .ok (db.set t key none) := rfl

theorem flush_delete_twice : flush B [.delete t key, .delete t key] db = .ok (db.set t key none) := by
  show Except.ok ((db.set t key none).set t key none) = _
  rw [Db.set_set]

end Flush

/-! ## Flushes of changes and one more -/

namespace Change

/-- The change is about another row. -/
def Elsewhere (t : Tab) (key : String) (c : Change) : Prop := t = c.tab → key ≠ c.key

variable {B : Database} {db : Db} {t : Tab} {key : String} {c : Change}

/-- A statement about another row. -/
theorem apply_elsewhere (h : c.Elsewhere t key) {db' : Db} (ok : c.apply B db = .ok db') :
    db'.rows t key = db.rows t key := by
  cases c with
  | insert u key' row =>
    simp only [apply] at ok
    split at ok
    · cases ok
    · split at ok
      · cases ok
      · cases ok
        exact Db.set_of_ne db _ h
  | update u key' loaded current =>
    simp only [apply] at ok
    split at ok
    · cases ok
    · split at ok
      · cases ok
      · cases ok
        exact Db.set_of_ne db _ h
  | delete u key' =>
    cases ok
    exact Db.set_of_ne db _ h

/-- A statement and the removal of another row can trade places. -/
theorem apply_remove (c : Change) (h : c.Elsewhere t key) :
    c.apply B (db.set t key none) = (c.apply B db).map fun db' => db'.set t key none := by
  have other : c.tab = t → c.key ≠ key := by
    intro same same'
    exact h same.symm same'.symm
  cases c with
  | insert u key' row =>
    have same : (db.set t key none).rows u key' = db.rows u key' := Db.set_of_ne db _ other
    have comm : ∀ row', (db.set t key none).set u key' row' = (db.set u key' row').set t key none :=
      fun row' => Db.set_comm db none row' h
    simp only [apply, same, comm]
    split
    · rfl
    · split <;> rfl
  | update u key' loaded current =>
    have same : (db.set t key none).rows u key' = db.rows u key' := Db.set_of_ne db _ other
    have comm : ∀ row', (db.set t key none).set u key' row' = (db.set u key' row').set t key none :=
      fun row' => Db.set_comm db none row' h
    simp only [apply, same, comm]
    split
    · rfl
    · split <;> rfl
  | delete u key' =>
    have comm : (db.set t key none).set u key' none = (db.set u key' none).set t key none := Db.set_comm db none none h
    simp only [apply, Except.map, comm]

end Change

section More

variable {B : Database} {db : Db} {t : Tab} {key : String} {cs : List Change} {c : Change}

/-- Statements about other rows. -/
theorem foldlM_elsewhere (h : ∀ c ∈ cs, c.Elsewhere t key) {db' : Db}
    (ok : cs.foldlM (fun db c => c.apply B db) db = .ok db') : db'.rows t key = db.rows t key := by
  induction cs generalizing db with
  | nil =>
    cases ok
    rfl
  | cons c cs ih =>
    rw [List.foldlM_cons] at ok
    cases first : c.apply B db with
    | error e =>
      rw [first] at ok
      cases ok
    | ok db₁ =>
      rw [first] at ok
      rw [ih (fun c' hc => h c' (List.mem_cons_of_mem _ hc)) ok]
      exact Change.apply_elsewhere (h c List.mem_cons_self) first

theorem mem_of_mem_statements (h : c ∈ statements cs) : c ∈ cs := by
  rcases List.mem_append.mp h with h | h
  · exact List.mem_of_mem_filter h
  · exact List.mem_of_mem_filter h

/-- A flush of changes that are about other rows. -/
theorem flush_elsewhere (h : ∀ c ∈ cs, c.Elsewhere t key) {db' : Db} (ok : flush B cs db = .ok db') :
    db'.rows t key = db.rows t key :=
  foldlM_elsewhere (fun c hc => h c (mem_of_mem_statements hc)) ok

/-- A change before the DELETEs of other rows might as well come after them. -/
theorem foldlM_deletes (h : ∀ d ∈ cs, d.isDelete = true ∧ d.Elsewhere c.tab c.key) :
    (c :: cs).foldlM (fun db c => c.apply B db) db = cs.foldlM (fun db c => c.apply B db) db >>= c.apply B := by
  induction cs generalizing db with
  | nil =>
    rw [List.foldlM_cons, List.foldlM_nil, pure_bind]
    cases c.apply B db <;> rfl
  | cons d cs ih =>
    have rest := fun db => @ih db fun d' hd => h d' (List.mem_cons_of_mem _ hd)
    obtain ⟨deletes, elsewhere⟩ := h d List.mem_cons_self
    cases d with
    | insert | update => cases deletes
    | delete u key' =>
      have trade : c.apply B (db.set u key' none) = (c.apply B db).map fun db' => db'.set u key' none := by
        apply Change.apply_remove
        intro same same'
        exact elsewhere same.symm same'.symm
      calc
        (c :: .delete u key' :: cs).foldlM (fun db c => c.apply B db) db
        _ = (c.apply B db).map (fun db' => db'.set u key' none) >>= cs.foldlM (fun db c => c.apply B db) := by
          rw [List.foldlM_cons]
          cases c.apply B db <;> rfl
        _ = (c :: cs).foldlM (fun db c => c.apply B db) (db.set u key' none) := by
          rw [← trade, List.foldlM_cons]
        _ = _ := rest _

/-- A change after changes of other rows. -/
theorem flush_append (c : Change) (writes : c.isDelete = false) (h : ∀ d ∈ cs, d.Elsewhere c.tab c.key) :
    flush B (cs ++ [c]) db = flush B cs db >>= c.apply B := by
  have kept : cs.any (Change.deletes c.tab c.key) = false := by
    rw [List.any_eq_false]
    intro d hd deleted
    simp only [Change.deletes, Bool.and_eq_true, decide_eq_true_eq] at deleted
    exact h d hd deleted.1.2.symm deleted.2.symm
  have same : statements (cs ++ [c]) =
      (cs.filter fun d => !d.isDelete && (d.isInsert || !cs.any (Change.deletes d.tab d.key))) ++
        c :: cs.filter Change.isDelete := by
    simp [statements, List.filter_append, Change.deletes, writes, kept]
  have deletes : ∀ d ∈ cs.filter Change.isDelete, d.isDelete = true ∧ d.Elsewhere c.tab c.key := by
    intro d hd
    rw [List.mem_filter] at hd
    exact ⟨hd.2, h d hd.1⟩
  unfold flush
  rw [same, statements, List.foldlM_append, List.foldlM_append, LawfulMonad.bind_assoc]
  congr 1
  funext db'
  exact foldlM_deletes deletes

/-- The change finds what the flush of the others leaves. -/
theorem flush_append_ok (writes : c.isDelete = false) (h : ∀ d ∈ cs, d.Elsewhere c.tab c.key) {db' : Db}
    (before : flush B cs db = .ok db') : flush B (cs ++ [c]) db = c.apply B db' := by
  rw [flush_append c writes h, before]
  rfl

theorem flush_append_error (writes : c.isDelete = false) (h : ∀ d ∈ cs, d.Elsewhere c.tab c.key) {e : Exn}
    (before : flush B cs db = .error e) : flush B (cs ++ [c]) db = .error e := by
  rw [flush_append c writes h, before]
  rfl

end More

end UnionBank.Auth
