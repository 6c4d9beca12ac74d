import UnionBank.StaleReads
import UnionBank.Dormancy

/-!
# Accounts written back

Profile updates, password changes and closures read an account, change some of its fields and write the whole row back
through `accountRepo.update`; the command line writes back what it has kept since the login. The session sends the columns
that differ from the row that `update` finds. When this row is still the one that was read, they are the fields that the
request names, whatever is committed before the call commits itself (`write_backs_frame`).

- `Writer`: the requests that write an account back; `Writer.columns`: the fields that they name;
- `Only`: a row that differs in some columns only; `KeepsRows`: a step of which this is so for every row;
- `AsRead`: the condition on a step; `Writing`: what is known of a request on its way.
-/

namespace UnionBank

open Keyed Programs Prog

set_option linter.unusedSectionVars false

variable {D : Type}

/-! ## Columns -/

/-- The columns that a request may name. -/
inductive Column where
  | name
  | age
  | gender
  | mobile
  | email
  | password
  | isActive
deriving DecidableEq

/-- A row that differs from another one in some columns only. -/
structure Only (columns : List Column) (a a' : Account D) : Prop where
  accountNumber : a'.accountNumber = a.accountNumber
  balance : a'.balance = a.balance
  isFrozen : a'.isFrozen = a.isFrozen
  createdAt : a'.createdAt = a.createdAt
  deletedAt : a'.deletedAt = a.deletedAt
  isActive : .isActive ∉ columns → a'.isActive = a.isActive
  name : .name ∉ columns → a'.name = a.name
  age : .age ∉ columns → a'.age = a.age
  gender : .gender ∉ columns → a'.gender = a.gender
  mobile : .mobile ∉ columns → a'.mobile = a.mobile
  email : .email ∉ columns → a'.email = a.email
  password : .password ∉ columns → a'.password = a.password

/-- Every row stays, but for these columns. -/
def KeepsRows (columns : List Column) (l l' : Ledger D) : Prop :=
  ∀ accNo a, l.accounts.find? accNo = some a → ∃ a', l'.accounts.find? accNo = some a' ∧ Only columns a a'

section Only

variable {columns : List Column} {a a' a'' : Account D} {l l' l'' : Ledger D}

theorem Only.refl (a : Account D) : Only columns a a := by
  constructor <;> simp

theorem Only.trans (h : Only columns a a') (h' : Only columns a' a'') : Only columns a a'' where
  accountNumber := h'.accountNumber.trans h.accountNumber
  balance := h'.balance.trans h.balance
  isFrozen := h'.isFrozen.trans h.isFrozen
  createdAt := h'.createdAt.trans h.createdAt
  deletedAt := h'.deletedAt.trans h.deletedAt
  isActive other := (h'.isActive other).trans (h.isActive other)
  name other := (h'.name other).trans (h.name other)
  age other := (h'.age other).trans (h.age other)
  gender other := (h'.gender other).trans (h.gender other)
  mobile other := (h'.mobile other).trans (h.mobile other)
  email other := (h'.email other).trans (h.email other)
  password other := (h'.password other).trans (h.password other)

theorem KeepsRows.refl (l : Ledger D) : KeepsRows columns l l := fun _ a found => ⟨a, found, .refl a⟩

theorem KeepsRows.trans (h : KeepsRows columns l l') (h' : KeepsRows columns l' l'') : KeepsRows columns l l'' := by
  intro accNo a found
  obtain ⟨a', found', only⟩ := h accNo a found
  obtain ⟨a'', found'', only'⟩ := h' accNo a' found'
  exact ⟨a'', found'', only.trans only'⟩

end Only

/-! ## Changes -/

/-- An update of these columns, a new account, or a change of another table than those of the ledger. -/
def Change.Names (columns : List Column) : Change D → Prop
  | .account loaded current => Only columns loaded current
  | .insert (.account _) => True
  | .tokenVersion .. | .insert (.tokenVersion _) => True
  | _ => False

section Changes

variable [Zero D] [LT D] [DecidableEq D] [DecidableLT D] {B : Backend D} {db db' : Db D} {columns : List Column}

/-- The columns that the session has not changed keep what is stored, whoever has stored it. -/
theorem merge_only {loaded current stored : Account D} {balance : D} (only : Only columns loaded current)
    (column : B.moneyColumn loaded.balance current.balance stored.balance = .ok balance) :
    Only columns stored (loaded.merge current stored balance) := by
  have kept : balance = stored.balance := by
    rw [only.balance, Backend.moneyColumn, Backend.numberColumn, if_pos rfl] at column
    exact (Except.ok.inj column).symm
  constructor
  · rfl
  · exact kept
  · simp only [Account.merge, only.isFrozen, column_loaded]
  · simp only [Account.merge, only.createdAt, column_loaded]
  · simp only [Account.merge, only.deletedAt, column_loaded]
  · intro other
    simp only [Account.merge, only.isActive other, column_loaded]
  · intro other
    simp only [Account.merge, only.name other, column_loaded]
  · intro other
    simp only [Account.merge, only.age other, column_loaded]
  · intro other
    simp only [Account.merge, only.gender other, column_loaded]
  · intro other
    simp only [Account.merge, only.mobile other, column_loaded]
  · intro other
    simp only [Account.merge, only.email other, column_loaded]
  · intro other
    simp only [Account.merge, only.password other, column_loaded]

theorem apply_names {c : Change D} (names : c.Names columns) (h : c.apply B db = .ok db') :
    KeepsRows columns db.toLedger db'.toLedger := by
  have support : c.isSupport = true → KeepsRows columns db.toLedger db'.toLedger := fun hs => by
    rw [apply_support hs h]
    exact .refl _
  cases c with
  | account loaded current =>
    obtain ⟨stored, found, balance, column, -, -, rfl⟩ := apply_account_ok.mp h
    intro accNo a there
    have set : (db.accounts.set (loaded.merge current stored balance)).find? accNo = _ := Table.find?_set ..
    by_cases same : accNo = stored.accountNumber
    · have key : loaded.accountNumber = stored.accountNumber := (Table.key_of_find? found).symm
      rw [key, ← same, there] at found
      obtain rfl := Option.some.inj found
      have here : accNo = (loaded.merge current a balance).accountNumber := same
      rw [if_pos here, there] at set
      exact ⟨_, set, merge_only names column⟩
    · have elsewhere : ¬accNo = (loaded.merge current stored balance).accountNumber := same
      rw [if_neg elsewhere, there] at set
      exact ⟨a, set, .refl a⟩
  | insert row =>
    cases row with
    | account row =>
      simp only [Change.apply, NewRow.insert, bind_eq_ok, require_eq_ok, found_eq_ok, pure_eq_ok] at h
      obtain ⟨balance, _, _, _, _, _, accounts, inserted, rfl⟩ := h
      intro accNo a there
      have find := Table.find?_insert? inserted accNo
      obtain ⟨free, -⟩ := Table.insert?_eq_some.mp inserted
      have ne : ¬accNo = row.accountNumber := by
        rintro rfl
        exact absurd (there.symm.trans free) (by simp)
      rw [if_neg ne, there] at find
      exact ⟨a, find, .refl a⟩
    | tokenVersion => exact support rfl
    | _ => exact names.elim
  | tokenVersion => exact support rfl
  | _ => exact names.elim

theorem flush_names {cs : List (Change D)} (names : ∀ c ∈ cs, c.Names columns) (h : flush B cs db = .ok db') :
    KeepsRows columns db.toLedger db'.toLedger := by
  induction cs generalizing db with
  | nil =>
    cases h
    exact .refl _
  | cons c cs ih =>
    obtain ⟨first, rest⟩ := List.forall_mem_cons.mp names
    obtain ⟨db₁, applied, flushed⟩ := (flush_cons_ok B).mp h
    exact (apply_names first applied).trans (ih rest flushed)

end Changes

/-! ## Requests that write an account back -/

namespace Cli

/-- What `update_profile` and `change_password` of the command line end with: `Account.save` writes what the object of
the session has, with what was typed in; `form` and `password` are the fields that were. -/
def save (object : Account D) (form : Api.ProfileForm) (password : Option String) : Svc D (Answer D) := do
  let typed := { form.fill object with password := password.getD object.password, deletedAt := none }
  match ← accountRepo.get object.accountNumber with
  | some existing => accountRepo.update { typed with createdAt := existing.createdAt }
  | none => accountRepo.create typed
  accountRepo.commit
  return .message "Profile updated successfully!"

end Cli

/-- The requests: of the endpoints of v1 and v2, of `AccountService`, and of the command line. -/
inductive Writer (D : Type) where
  | updateProfile (accNo : String) (form : Api.ProfileForm)
  | updateAttributes (accNo : String) (kwargs : List (AccountService.AccountField D))
  | changePassword (accNo currentPassword newPassword confirmPassword : String)
  | changePasswordV2 (accNo currentPwd newPwd : String)
  | closeAccount (accNo password : String)
  | save (object : Account D) (form : Api.ProfileForm) (password : Option String)

/-- The columns that a form names. -/
def Api.ProfileForm.columns (form : Api.ProfileForm) : List Column :=
  (if form.name.isSome then [.name] else []) ++ (if form.age.isSome then [.age] else []) ++
    (if form.gender.isSome then [.gender] else []) ++ (if form.mobile.isSome then [.mobile] else []) ++
    (if form.email.isSome then [.email] else [])

/-- The column of an attribute, where it is one that a request may name. -/
def AccountService.AccountField.column : AccountService.AccountField D → Option Column
  | .name _ => some .name
  | .age _ => some .age
  | .gender _ => some .gender
  | .mobile _ => some .mobile
  | .email _ => some .email
  | .password _ => some .password
  | _ => none

/-- An attribute of the account's number, its money, its state or its dates. -/
def AccountService.AccountField.isInner : AccountService.AccountField D → Bool
  | .accountNumber _ | .balance _ | .isActive _ | .isFrozen _ | .createdAt _ | .deletedAt _ => true
  | _ => false

namespace Writer

/-- The fields that a request names. -/
def columns : Writer D → List Column
  | updateProfile _ form => form.columns
  | updateAttributes _ kwargs => kwargs.filterMap AccountService.AccountField.column
  | changePassword .. | changePasswordV2 .. => [.password]
  | closeAccount .. => [.isActive]
  | save _ form password => form.columns ++ if password.isSome then [.password] else []

/-- It names no money and no state, and the command line has a live account. -/
def Plain : Writer D → Prop
  | updateAttributes _ kwargs => ∀ field ∈ kwargs, field.isInner = false
  | save object .. => object.deletedAt = none
  | _ => True

/-- What it has read before it begins: the command line has kept the row of its account. -/
def seen : Writer D → List (Cell × Row D)
  | save object .. => [(.account object.accountNumber, .account (some object))]
  | _ => []

variable [Zero D] [Add D] [Sub D] [LE D] [LT D] [DecidableLE D] [DecidableLT D] (env : Env D) (checks : Checks)

def prog : Writer D → Svc D (Answer D)
  | updateProfile accNo form => Api.updateProfile checks accNo form
  | updateAttributes accNo kwargs => return .reply (.service (← AccountService.updateProfile accNo kwargs))
  | changePassword accNo currentPassword newPassword confirmPassword =>
    Api.changePassword env checks accNo currentPassword newPassword confirmPassword
  | changePasswordV2 accNo currentPwd newPwd =>
    return .reply (.service (← AccountService.changePassword env accNo currentPwd newPwd))
  | closeAccount accNo password => return .reply (.service (← AccountService.closeAccount env accNo password))
  | save object form password => Cli.save object form password

end Writer

section Fields

variable {columns : List Column} {account account' : Account D}

theorem fill_only (form : Api.ProfileForm) (account : Account D) : Only form.columns account (form.fill account) := by
  constructor
  · rfl
  · rfl
  · rfl
  · rfl
  · rfl
  · exact fun _ => rfl
  · cases h : form.name <;> simp [Api.ProfileForm.columns, Api.ProfileForm.fill, h]
  · cases h : form.age <;> simp [Api.ProfileForm.columns, Api.ProfileForm.fill, h]
  · cases h : form.gender <;> simp [Api.ProfileForm.columns, Api.ProfileForm.fill, h]
  · cases h : form.mobile <;> simp [Api.ProfileForm.columns, Api.ProfileForm.fill, h]
  · cases h : form.email <;> simp [Api.ProfileForm.columns, Api.ProfileForm.fill, h]
  · exact fun _ => rfl

theorem password_only (password : String) (mem : .password ∈ columns) (account : Account D) :
    Only columns account { account with password } := by
  constructor <;> simp [mem]

theorem isActive_only (mem : .isActive ∈ columns) (account : Account D) :
    Only columns account { account with isActive := false } := by
  constructor <;> simp [mem]

theorem assign_only {field : AccountService.AccountField D} (plain : field.isInner = false)
    (named : ∀ column, field.column = some column → column ∈ columns) (h : field.assign account = .ok account') :
    Only columns account account' := by
  cases field with
  | name | age | gender | mobile | email | password =>
    cases h
    have mem := named _ rfl
    constructor <;> simp [mem]
  | unknown =>
    cases h
    exact .refl _
  | readOnly => cases h
  | _ => cases plain

theorem assigned_only {kwargs : List (AccountService.AccountField D)} (plain : ∀ field ∈ kwargs, field.isInner = false)
    (named : ∀ field ∈ kwargs, ∀ column, field.column = some column → column ∈ columns)
    (h : kwargs.foldlM AccountService.AccountField.assign account = .ok account') : Only columns account account' := by
  induction kwargs generalizing account with
  | nil =>
    cases h
    exact .refl _
  | cons field kwargs ih =>
    rw [List.foldlM_cons, bind_eq_ok] at h
    obtain ⟨next, first, rest⟩ := h
    obtain ⟨plain, plainRest⟩ := List.forall_mem_cons.mp plain
    obtain ⟨named, namedRest⟩ := List.forall_mem_cons.mp named
    exact (assign_only plain named first).trans (ih plainRest namedRest rest)

end Fields

/-! ## What a request does -/

/-- The row that a request has read last, and whether it has anything pending. -/
abbrev HeldRow (D : Type) := Option (Account D) × Bool

/-- Reads while nothing is pending, and one update that changes the named columns of the row that was read. A request may
pass over what it reads. -/
def writesBack (columns : List Column) : Spec (Op.Res (D := D)) Exn (HeldRow D)
  | .query (.getAccount accNo), (held, clean), Q =>
    clean = true ∧ Q (.ok none) (held, true) ∧ (∀ e, Q (.error e) (held, true)) ∧
      ∀ a, a.accountNumber = accNo → Q (.ok (some a)) (held, true) ∨ Q (.ok (some a)) (some a, true)
  | .query (.updateAccount account), (held, clean), Q =>
    (clean = true ∧ ∃ a, held = some a ∧ a.accountNumber = account.accountNumber ∧
      Only columns a { account with createdAt := a.createdAt }) ∧ ∀ r, Q r (held, false)
  | .query (.incrementTokenVersion _), (held, _), Q => ∀ r, Q r (held, false)
  | .create row, (held, _), Q => (∃ a, row = .account a) ∧ Q (.ok ()) (held, false)
  | .commit, _, Q => ∀ r, Q r (none, false)
  | _, _, _ => False

section Rules

variable {columns : List Column} {held : Option (Account D)} {clean : Bool}

theorem writes_get {accNo : String} {Q : Except Exn (Option (Account D)) → HeldRow D → Prop}
    (missing : Q (.ok none) (held, true)) (fails : ∀ e, Q (.error e) (held, true))
    (found : ∀ a, a.accountNumber = accNo → Q (.ok (some a)) (held, true) ∨ Q (.ok (some a)) (some a, true)) :
    wp (writesBack columns) (accountRepo.get accNo) Q (held, true) := by
  rw [accountRepo.get, ask, wp_perform]
  exact ⟨rfl, missing, fails, found⟩

theorem writes_update {a account : Account D} {Q : Except Exn Unit → HeldRow D → Prop}
    (number : a.accountNumber = account.accountNumber) (only : Only columns a { account with createdAt := a.createdAt })
    (h : ∀ r, Q r (some a, false)) : wp (writesBack columns) (accountRepo.update account) Q (some a, true) := by
  rw [accountRepo.update, ask, wp_perform]
  exact ⟨⟨rfl, a, rfl, number, only⟩, h⟩

theorem writes_commit {Q : Except Exn Unit → HeldRow D → Prop} (h : ∀ r, Q r (none, false)) :
    wp (writesBack (D := D) columns) accountRepo.commit Q (held, clean) := by
  rw [accountRepo.commit, wp_perform]
  exact h

end Rules

section Programs

variable [Zero D] [Add D] [Sub D] [LE D] [LT D] [DecidableLE D] [DecidableLT D] (env : Env D) (checks : Checks)

theorem updateProfile_writes (accNo : String) (form : Api.ProfileForm) :
    wp (writesBack form.columns) (Api.updateProfile (D := D) checks accNo form) (fun _ _ => True) (none, true) := by
  rw [Api.updateProfile, wp_bind]
  refine writes_get trivial (fun e => trivial) fun a named => .inr ?_
  rw [andThen_ok]
  simp only
  split
  · trivial
  split
  · trivial
  split
  · trivial
  rw [wp_bind]
  refine writes_update rfl (fill_only form a) fun r => ?_
  cases r with
  | error e => trivial
  | ok _ =>
    rw [andThen_ok, wp_bind]
    refine writes_commit fun r => ?_
    cases r <;> trivial

theorem updateAttributes_writes (accNo : String) {kwargs : List (AccountService.AccountField D)}
    (plain : ∀ field ∈ kwargs, field.isInner = false) :
    wp (writesBack (kwargs.filterMap AccountService.AccountField.column)) (AccountService.updateProfile accNo kwargs)
      (fun _ _ => True) (none, true) := by
  rw [AccountService.updateProfile, wp_bind]
  refine writes_get trivial (fun e => trivial) fun a named => .inr ?_
  rw [andThen_ok]
  simp only [wp_bind, wp_ofExcept]
  cases assigned : kwargs.foldlM AccountService.AccountField.assign a with
  | error e => trivial
  | ok a' =>
    have only : Only (kwargs.filterMap AccountService.AccountField.column) a a' :=
      assigned_only plain (fun field mem column eq => List.mem_filterMap.mpr ⟨field, mem, eq⟩) assigned
    rw [andThen_ok, wp_bind]
    have same : ({ a' with createdAt := a.createdAt } : Account D) = a' := by rw [← only.createdAt]
    refine writes_update only.accountNumber.symm (by rw [same]; exact only) fun r => ?_
    cases r with
    | error e => trivial
    | ok _ =>
      rw [andThen_ok, wp_bind]
      refine writes_commit fun r => ?_
      cases r <;> trivial

theorem changePassword_writes (accNo currentPassword newPassword confirmPassword : String) :
    wp (writesBack [.password]) (Api.changePassword env checks accNo currentPassword newPassword confirmPassword)
      (fun _ _ => True) (none, true) := by
  rw [Api.changePassword, wp_bind]
  refine writes_get trivial (fun e => trivial) fun a named => .inr ?_
  rw [andThen_ok]
  simp only
  split
  · trivial
  split
  · trivial
  split
  · trivial
  rw [wp_bind]
  refine writes_update rfl (password_only _ (List.mem_singleton_self _) a) fun r => ?_
  cases r with
  | error e => trivial
  | ok _ =>
    rw [andThen_ok, wp_bind]
    refine writes_commit fun r => ?_
    cases r <;> trivial

theorem changePasswordV2_writes (accNo currentPwd newPwd : String) :
    wp (writesBack [.password]) (AccountService.changePassword env accNo currentPwd newPwd) (fun _ _ => True)
      (none, true) := by
  rw [AccountService.changePassword, wp_bind]
  refine writes_get trivial (fun e => trivial) fun a named => .inr ?_
  rw [andThen_ok]
  simp only
  split
  · trivial
  rw [wp_bind]
  refine writes_update rfl (password_only _ (List.mem_singleton_self _) a) fun r => ?_
  cases r with
  | error e => trivial
  | ok _ =>
    rw [andThen_ok, wp_bind, tokenVersionRepo.increment, ask, wp_perform]
    intro r
    cases r with
    | error e => trivial
    | ok _ =>
      rw [andThen_ok, wp_bind]
      refine writes_commit fun r => ?_
      cases r <;> trivial

theorem closeAccount_writes (accNo password : String) :
    wp (writesBack [.isActive]) (AccountService.closeAccount env accNo password) (fun _ _ => True) (none, true) := by
  rw [AccountService.closeAccount, wp_bind]
  refine writes_get trivial (fun e => trivial) fun a named => .inr ?_
  rw [andThen_ok]
  simp only
  split
  · trivial
  rw [wp_bind]
  refine writes_update rfl (isActive_only (List.mem_singleton_self _) a) fun r => ?_
  cases r with
  | error e => trivial
  | ok _ =>
    rw [andThen_ok, wp_bind]
    refine writes_commit fun r => ?_
    cases r <;> trivial

/-- The command line changes what it has kept, not what it reads. -/
theorem save_writes {object : Account D} (live : object.deletedAt = none) (form : Api.ProfileForm)
    (password : Option String) :
    wp (writesBack (form.columns ++ if password.isSome then [.password] else [])) (Cli.save object form password)
      (fun _ _ => True) (some object, true) := by
  have committed : ∀ {s : HeldRow D}, wp (writesBack (form.columns ++ if password.isSome then [.password] else []))
      (do accountRepo.commit; return (.message "Profile updated successfully!" : Answer D)) (fun _ _ => True) s := by
    intro s
    rw [wp_bind]
    refine writes_commit fun r => ?_
    cases r <;> trivial
  rw [Cli.save]
  simp only [wp_bind]
  refine writes_get ?_ (fun e => trivial) fun existing named => .inl ?_
  · rw [andThen_ok]
    simp only
    rw [wp_bind, accountRepo.create, add, wp_perform]
    exact ⟨⟨_, rfl⟩, committed⟩
  · rw [andThen_ok]
    simp only
    rw [wp_bind]
    refine writes_update rfl ?_ fun r => ?_
    · have filled := fill_only form object
      constructor
      · rfl
      · rfl
      · rfl
      · rfl
      · exact live.symm
      · exact fun _ => rfl
      · exact fun other => filled.name fun mem => other (List.mem_append_left _ mem)
      · exact fun other => filled.age fun mem => other (List.mem_append_left _ mem)
      · exact fun other => filled.gender fun mem => other (List.mem_append_left _ mem)
      · exact fun other => filled.mobile fun mem => other (List.mem_append_left _ mem)
      · exact fun other => filled.email fun mem => other (List.mem_append_left _ mem)
      · cases password <;> simp
    · cases r with
      | error e => trivial
      | ok _ => exact committed

/-- **A request** changes the fields that it names in what it has read, and writes the result back. -/
theorem writer_writes {w : Writer D} (plain : w.Plain) :
    ∃ held, wp (writesBack w.columns) (w.prog env checks) (fun _ _ => True) (held, true) ∧
      ∀ a, held = some a → (Cell.account a.accountNumber, Row.account (some a)) ∈ w.seen := by
  have service : ∀ {columns : List Column} {p : Svc D (ServiceResult D)} {s : HeldRow D},
      wp (writesBack columns) p (fun _ _ => True) s →
        wp (writesBack columns) (do return (.reply (.service (← p)) : Answer D)) (fun _ _ => True) s := by
    intro columns p s h
    rw [wp_bind]
    refine wp_mono ?_ ?_ h
    · intro o s Q Q' weaker hQ
      cases o with
      | query q => cases q <;> simp only [writesBack] at hQ ⊢ <;> grind
      | _ => simp only [writesBack] at hQ ⊢ <;> grind
    · intro r s _
      cases r <;> trivial
  cases w with
  | updateProfile accNo form => exact ⟨none, updateProfile_writes checks accNo form, by simp⟩
  | updateAttributes accNo kwargs => exact ⟨none, service (updateAttributes_writes accNo plain), by simp⟩
  | changePassword => exact ⟨none, changePassword_writes .., by simp⟩
  | changePasswordV2 => exact ⟨none, service (changePasswordV2_writes ..), by simp⟩
  | closeAccount => exact ⟨none, service (closeAccount_writes ..), by simp⟩
  | save object form password =>
    refine ⟨some object, save_writes plain form password, ?_⟩
    rintro a same
    obtain rfl := Option.some.inj same
    exact List.mem_singleton_self _

end Programs

/-! ## On its way -/

section Steps

variable [Zero D] [Add D] [Sub D] [LE D] [LT D] [DecidableEq D] [DecidableLE D] [DecidableLT D]
variable {B : Backend D} {α : Type} {columns : List Column} {journal : List (Cell × Row D)}

/-- What is known of a request on its way. -/
structure Writing (columns : List Column) (journal : List (Cell × Row D))
    (t : Thread (Op.Res (D := D)) Exn α (Session D)) : Prop where
  writes : ∃ held clean, wp (writesBack columns) t.prog (fun _ _ => True) (held, clean) ∧
    (clean = true → t.own.pending = []) ∧
      ∀ a, held = some a → (Cell.account a.accountNumber, Row.account (some a)) ∈ journal
  names : ∀ c ∈ t.own.pending, c.Names columns

/-- Whether an operation writes an account back. -/
def Op.updatesAccount : Op D → Bool
  | .query (.updateAccount _) => true
  | _ => false

/-- One operation; what has been read is as it was read when it is written back. -/
theorem Writing.step {o : Op D} {k : Except Exn o.Res → Svc D α} {l : Session D}
    (h : Writing columns journal ⟨.call o k, l⟩) (db : Db D)
    (timely : o.updatesAccount = true → Meets Db.row journal db) :
    Writing columns (if o.isCommit then [] else journal ++ readings Db.row o.cells db)
        ⟨k (handle B o (db, l)).1, (handle B o (db, l)).2.2⟩ ∧
      KeepsRows columns db.toLedger (handle B o (db, l)).2.1.toLedger := by
  obtain ⟨⟨held, clean, writes, rest, read⟩, names⟩ := h
  have step : writesBack columns o (held, clean) fun r s => wp (writesBack columns) (k r) (fun _ _ => True) s := writes
  simp only at rest names
  have kept : ∀ a, held = some a →
      (Cell.account a.accountNumber, Row.account (some a)) ∈ journal ++ readings Db.row o.cells db :=
    fun a same => List.mem_append_left _ (read a same)
  cases o with
  | query q =>
    cases q with
    | getAccount accNo =>
      obtain ⟨rfl, missing, fails, found⟩ := step
      have idle := rest rfl
      have reads : l.account? db accNo = db.liveAccount? accNo := Session.account?_eq_live (by simp [idle])
      have stays : (handle B (.query (.getAccount accNo)) (db, l)).2 = (db, l) := by
        simp only [handle, Query.staged, Session.stage, List.append_nil]
        split <;> rfl
      rw [stays]
      refine ⟨⟨?_, names⟩, .refl _⟩
      simp only [handle, Query.answer, reads, Op.isCommit, Bool.false_eq_true, if_false]
      split
      · exact ⟨held, true, fails _, rest, kept⟩
      · cases live : db.liveAccount? accNo with
        | none => exact ⟨held, true, missing, rest, kept⟩
        | some a =>
          have named := Ledger.accountNumber_of_live live
          rcases found a named with passed | taken
          · exact ⟨held, true, passed, rest, kept⟩
          · refine ⟨some a, true, taken, rest, ?_⟩
            rintro a' same
            obtain rfl := Option.some.inj same
            refine List.mem_append_right _ (List.mem_singleton.mpr ?_)
            simp only [Query.cell, Db.row, named, live]
    | updateAccount account =>
      obtain ⟨⟨rfl, a, rfl, number, only⟩, next⟩ := step
      have idle := rest rfl
      have here := timely rfl _ (read a rfl)
      have found : l.account? db account.accountNumber = some a := by
        rw [Session.account?_eq_live (by simp [idle]), ← number]
        exact Row.account.inj here
      simp only [handle, Op.isCommit, Bool.false_eq_true, if_false]
      split
      · exact ⟨⟨⟨some a, false, next _, by simp, kept⟩, names⟩, .refl _⟩
      · refine ⟨⟨⟨some a, false, next _, by simp, kept⟩, ?_⟩, .refl _⟩
        intro c hc
        rcases List.mem_append.mp hc with hc | hc
        · exact names c hc
        · simp only [Query.staged, found] at hc
          rw [List.mem_singleton.mp hc]
          exact only
    | incrementTokenVersion accNo =>
      have next : ∀ r, wp (writesBack columns) (k r) (fun _ _ => True) (held, false) := step
      simp only [handle, Op.isCommit, Bool.false_eq_true, if_false]
      split
      · exact ⟨⟨⟨held, false, next _, by simp, kept⟩, names⟩, .refl _⟩
      · refine ⟨⟨⟨held, false, next _, by simp, kept⟩, ?_⟩, .refl _⟩
        intro c hc
        rcases List.mem_append.mp hc with hc | hc
        · exact names c hc
        · simp only [Query.staged] at hc
          split at hc <;> rw [List.mem_singleton.mp hc] <;> trivial
    | _ => exact step.elim
  | create row =>
    obtain ⟨⟨a, rfl⟩, next⟩ := step
    refine ⟨⟨⟨held, false, next, by simp, kept⟩, ?_⟩, .refl _⟩
    intro c hc
    rcases List.mem_append.mp hc with hc | hc
    · exact names c hc
    · rw [List.mem_singleton.mp hc]
      trivial
  | commit =>
    have next : ∀ r, wp (writesBack columns) (k r) (fun _ _ => True) (none, false) := step
    simp only [handle, Op.isCommit, if_true]
    split
    · exact ⟨⟨⟨none, false, next _, by simp, by simp⟩, names⟩, .refl _⟩
    · split
      next db' flushed =>
        exact ⟨⟨⟨none, false, next _, by simp, by simp⟩, by simp [Session.clear]⟩, flush_names names flushed⟩
      next => exact ⟨⟨⟨none, false, next _, by simp, by simp⟩, by simp [Session.clear]⟩, .refl _⟩
  | _ => exact step.elim

end Steps

/-! ## Runs -/

section Runs

variable [Zero D] [Add D] [Sub D] [LE D] [LT D] [DecidableEq D] [DecidableLE D] [DecidableLT D]
variable {ι : Type} [Fintype ι] [DecidableEq ι]

/-- What a thread does: one of these requests, or anything else. -/
inductive Party (D : Type) where
  | writer (w : Writer D)
  | other (v : Visit D)

namespace Party

def prog (env : Env D) (checks : Checks) : Party D → Svc D (Answer D)
  | writer w => w.prog env checks
  | other v => v.prog env checks

def isWriter : Party D → Bool
  | writer _ => true
  | other _ => false

def seen : Party D → List (Cell × Row D)
  | writer w => w.seen
  | other _ => []

end Party

/-- The threads before their first step, each on a fresh session. -/
def parties (env : Env D) (checks : Checks) (db : Db D) (party : ι → Party D) : Desk D ι (Answer D) :=
  ⟨db, fun i => ⟨(party i).prog env checks, {}⟩⟩

/-- An account that is written back is in the store as it was read. -/
def AsRead (party : ι → Party D) (c : Desk D ι (Answer D)) (journal : Journals D ι) (i : ι) : Prop :=
  match (c.threads i).prog with
  | .call o _ => (party i).isWriter = true ∧ o.updatesAccount = true → Meets Db.row (journal i) c.store
  | _ => True

instance decidableAsRead (party : ι → Party D) (c : Desk D ι (Answer D)) (journal : Journals D ι) (i : ι) :
    Decidable (AsRead party c journal i) := by
  unfold AsRead
  split <;> infer_instance

/-- Every step of one of these requests changes the fields that it names only, in every row. -/
def Frames (B : Backend D) (party : ι → Party D) : Desk D ι (Answer D) → List ι → Prop
  | _, [] => True
  | c, i :: schedule =>
    (∀ w, party i = .writer w →
      KeepsRows w.columns c.store.toLedger ((threads B).next c (.step i)).store.toLedger) ∧
      Frames B party ((threads B).next c (.step i)) schedule

variable {B : Backend D} {party : ι → Party D}

/-- From any step on at which the requests are on their way. -/
theorem frames_of_writing {c : Desk D ι (Answer D)} {journal : Journals D ι} {schedule : List ι}
    (start : ∀ i w, party i = .writer w → Writing w.columns (journal i) (c.threads i))
    (timely : Throughout B (AsRead party) c journal schedule) : Frames B party c schedule := by
  induction schedule generalizing c journal with
  | nil => trivial
  | cons i schedule ih =>
    obtain ⟨now, later⟩ := timely
    have step : (∀ w, party i = .writer w →
        KeepsRows w.columns c.store.toLedger ((threads B).next c (.step i)).store.toLedger) ∧
          ∀ j w, party j = .writer w →
            Writing w.columns (journalsAfter c journal i j) (((threads B).next c (.step i)).threads j) := by
      unfold journalsAfter
      unfold AsRead at now
      cases here : (c.threads i).prog with
      | ret a =>
        simp only [System.next, here]
        exact ⟨fun _ _ => .refl _, start⟩
      | raise e =>
        simp only [System.next, here]
        exact ⟨fun _ _ => .refl _, start⟩
      | call o k =>
        rw [here] at now
        simp only
        by_cases free : ∀ j, (threads B).blocks o (c.threads j).own = false
        · have moved : (threads B).next c (.step i) =
              c.put i (handle B o (c.world i)).2 (k (handle B o (c.world i)).1) := by
            simp only [System.next, here]
            exact if_pos free
          have thread : c.threads i = ⟨.call o k, (c.threads i).own⟩ := by rw [← here]
          have own : ∀ w, party i = .writer w → Writing w.columns
                (if o.isCommit then [] else journal i ++ readings Db.row o.cells c.store)
                ⟨k (handle B o (c.world i)).1, (handle B o (c.world i)).2.2⟩ ∧
              KeepsRows w.columns c.store.toLedger (handle B o (c.world i)).2.1.toLedger := by
            intro w hw
            have writing := start i w hw
            rw [thread] at writing
            exact writing.step c.store fun updates => now ⟨by rw [hw]; rfl, updates⟩
          rw [moved]
          refine ⟨fun w hw => (own w hw).2, fun j w hw => ?_⟩
          by_cases hj : j = i
          · subst hj
            rw [Config.put_threads_self, Function.update_self]
            exact (own w hw).1
          · rw [Config.put_threads_of_ne _ _ _ hj, Function.update_of_ne hj]
            exact start j w hw
        · -- it waits for a lock, and reads nothing
          have stays : (threads B).next c (.step i) = c := by
            simp only [System.next, here]
            exact if_neg free
          have nothing : (if o.isCommit then [] else journal i ++ readings Db.row o.cells c.store) = journal i := by
            cases o with
            | acquire accNo => simp [Op.isCommit, Op.cells, readings]
            | _ => exact absurd (fun j => rfl) free
          simp only [nothing, Function.update_eq_self]
          rw [stays]
          exact ⟨fun _ _ => .refl _, start⟩
    exact ⟨step.1, ih step.2 later⟩

/-- **Only the named fields change** as long as no account is written back that has changed since it was read: whatever
else is committed in between, no balance, no freeze, no unfreezing and no closure is undone. -/
theorem write_backs_frame (env : Env D) (checks : Checks) (B : Backend D) (db : Db D) (party : ι → Party D)
    (plain : ∀ i w, party i = .writer w → w.Plain) (schedule : List ι)
    (timely : Throughout B (AsRead party) (parties env checks db party) (fun i => (party i).seen) schedule) :
    Frames B party (parties env checks db party) schedule := by
  refine frames_of_writing (fun i w here => ?_) timely
  obtain ⟨held, writes, read⟩ := writer_writes env checks (plain i w here)
  refine ⟨⟨held, true, ?_, fun _ => rfl, ?_⟩, by simp [parties]⟩
  · simp only [parties, here]
    exact writes
  · rw [here]
    exact read

end Runs

namespace Sample

local instance threeParties : NeZero 3 := ⟨by decide⟩

/-- A new name for the owner of the first account. -/
def newName : Writer ℤ := .updateProfile "1001" ⟨some "Asha Rao", none, none, none, none⟩

/-- The new name, a deposit to the same account, and its freezing. -/
def threeRequests (i : Fin 3) : Party ℤ :=
  if i = 0 then .writer newName
  else if i = 1 then .other (.call ⟨.deposit "1001" 500 "Salary" none, draws 1⟩)
  else .other (.call ⟨.freezeAccount "1001" "admin" none, draws 2⟩)

/-- The threads before their first step. -/
def renamed : Desk ℤ (Fin 3) (Answer ℤ) := parties paiseEnv lenient (store 10000 5000 0) threeRequests

/-- One after another. -/
def renamedLast : List (Fin 3) := List.replicate 6 1 ++ List.replicate 6 2 ++ List.replicate 4 0

theorem write_backs_frame_last : Frames paise threeRequests renamed renamedLast := by
  refine write_backs_frame paiseEnv lenient paise (store 10000 5000 0) threeRequests ?_ renamedLast (by decide)
  intro i w here
  simp only [threeRequests] at here
  split at here
  · cases here
    trivial
  · split at here <;> cases here

/-- The deposit and the freezing fall between the reading of the account and the update. -/
def amid : List (Fin 3) := [0] ++ List.replicate 6 1 ++ List.replicate 6 2

/-- The balance of the first account, and whether it is frozen. -/
def firstState (db : Db ℤ) : Option (ℤ × Bool) := (db.accounts.find? "1001").map fun a => (a.balance, a.isFrozen)

/-- The name was to change: the deposit is lost, and the account thaws. -/
theorem freeze_reverted :
    firstState ((threads paise).run renamed (UnionBank.steps amid)).store = some (10500, true) ∧
      firstState ((threads paise).run renamed (UnionBank.steps (amid ++ List.replicate 4 0))).store =
        some (10000, false) := by
  decide

end Sample

end UnionBank
