import UnionBank.Auth.Guessing
import UnionBank.Auth.SecondFactor
import UnionBank.Services.Endpoints

/-!
# Rotation of refresh tokens

A refresh hands out a new pair and revokes the token it was asked with. The revocation is committed with the row of the
new token, whose errors are logged only, so that the old token may survive (`rotation_revokes_iff`). Once a row is
revoked it stays so, whatever threads run at the same time and whatever fails, and nobody gets tokens for it again
(`revocation_final`).

- `Op.Writes`, `Kept`: operations that stage changes of a kind only, and a property of the store that these keep;
- `AuthCall`: logins, refreshes, password changes and the requests of `AuthRequest`, which write no row of a refresh
  token but to insert and to revoke it;
- `Presents`: a token that stands for a row.
-/

namespace UnionBank.Auth

open Programs Prog

/-! ## Changes that keep a property of the store -/

/-- An operation that stages such changes only. -/
def Op.Writes (P : Change → Prop) : Op → Prop
  | .stage c => P c
  | _ => True

/-- The store has a property, and all that the session has pending is of a kind. -/
structure Kept (P : Change → Prop) (I : Db → Prop) (w : Db × Session) : Prop where
  store : I w.1
  pending : ∀ c ∈ w.2.pending, P c

/-- Statements of a kind keep a property of the store. -/
def Keeping (B : Backend) (P : Change → Prop) (I : Db → Prop) : Prop :=
  ∀ {c : Change} {db db' : Db}, P c → I db → c.apply B.database db = .ok db' → I db'

section Keeping

variable {B : Backend} {P : Change → Prop} {I : Db → Prop} {w : Db × Session}

theorem flush_kept (keeping : Keeping B P I) {cs : List Change} {db db' : Db} (writes : ∀ c ∈ cs, P c) (store : I db)
    (flushed : flush B.database cs db = .ok db') : I db' := by
  have all : ∀ c ∈ statements cs, P c := fun c hc => writes c (mem_of_mem_statements hc)
  unfold flush at flushed
  generalize statements cs = ds at all flushed
  induction ds generalizing db with
  | nil =>
    cases flushed
    exact store
  | cons c ds ih =>
    rw [List.foldlM_cons] at flushed
    cases first : c.apply B.database db with
    | error e =>
      rw [first] at flushed
      cases flushed
    | ok db₁ =>
      rw [first] at flushed
      obtain ⟨here, rest⟩ := List.forall_mem_cons.mp all
      exact ih (keeping here store first) rest flushed

theorem handle_kept (keeping : Keeping B P I) {o : Op} (writes : o.Writes P) (kept : Kept P I w) :
    Kept P I (handle B o w).2 := by
  obtain ⟨db, s⟩ := w
  obtain ⟨store, pending⟩ := kept
  cases o with
  | select t key =>
    simp only [handle]
    split <;> exact ⟨store, pending⟩
  | stage c =>
    refine ⟨store, fun d hd => ?_⟩
    rcases List.mem_append.mp hd with hd | hd
    · exact pending d hd
    · rw [List.mem_singleton.mp hd]
      exact writes
  | verifyPassword => exact ⟨store, pending⟩
  | commit =>
    simp only [handle]
    split
    · exact ⟨store, pending⟩
    split
    next db' flushed => exact ⟨flush_kept keeping pending store flushed, by simp⟩
    next => exact ⟨store, by simp⟩
  | rollback => exact ⟨store, by simp [handle]⟩

theorem failed_kept {o : Op} (kept : Kept P I w) : Kept P I (failed o w) := by
  cases o with
  | commit => exact ⟨kept.store, by simp [Auth.failed]⟩
  | _ => exact kept

variable {ι α : Type} {c c' : Config ι Op.Res Exn α Db Session}

/-- Threads whose programs stage such changes only. -/
structure Threads (P : Change → Prop) (I : Db → Prop) (c : Config ι Op.Res Exn α Db Session) : Prop where
  store : I c.store
  pending : ∀ i, ∀ d ∈ (c.threads i).own.pending, P d
  writes : ∀ i, (c.threads i).prog.All (Op.Writes P)

theorem Threads.world (threads : Threads P I c) (i : ι) : Kept P I (c.world i) := ⟨threads.store, threads.pending i⟩

variable [DecidableEq ι]

theorem Threads.put (threads : Threads P I c) {i : ι} {w : Db × Session} {p : Svc α} (kept : Kept P I w)
    (writes : p.All (Op.Writes P)) : Threads P I (c.put i w p) := by
  refine ⟨kept.store, fun j => ?_, fun j => ?_⟩
  · by_cases same : j = i
    · subst same
      rw [Config.put_threads_self]
      exact kept.pending
    · rw [Config.put_threads_of_ne _ _ _ same]
      exact threads.pending j
  · by_cases same : j = i
    · subst same
      rw [Config.put_threads_self]
      exact writes
    · rw [Config.put_threads_of_ne _ _ _ same]
      exact threads.writes j

/-- **Any event** of any thread keeps the property. -/
theorem Threads.moves [Fintype ι] (keeping : Keeping B P I) (threads : Threads P I c) {ev : Event ι Exn}
    (moves : (system B).Moves c ev c') : Threads P I c' := by
  cases moves with
  | stay => exact threads
  | @step i o k here =>
    have writes := threads.writes i
    rw [here] at writes
    exact threads.put (handle_kept keeping writes.1 (threads.world i)) (writes.2 _)
  | @fail i e o k here =>
    have writes := threads.writes i
    rw [here] at writes
    exact threads.put (failed_kept (threads.world i)) (writes.2 _)

end Keeping

/-! ## Programs and the tables they write -/

section Writes

variable {P : Change → Prop}

theorem select_writes (t : Tab) (key : String) : (select t key).All (Op.Writes P) := all_perform trivial
theorem verifyPassword_writes (plain hashed : String) : (verifyPassword plain hashed).All (Op.Writes P) :=
  all_perform trivial
theorem commit_writes : commit.All (Op.Writes P) := all_perform trivial
theorem stage_writes {c : Change} (h : P c) : (stage c).All (Op.Writes P) := all_perform h

variable (attempts : ∀ c : Change, c.tab = .loginAttempts → P c)
include attempts

theorem isLocked_writes (key : String) (now : Time) : (loginAttemptRepo.isLocked key now).All (Op.Writes P) := by
  unfold loginAttemptRepo.isLocked
  refine all_bind (select_writes ..) fun model => ?_
  cases model with
  | none => trivial
  | some model =>
    simp only
    split
    · trivial
    split
    · split
      · trivial
      · exact all_bind (stage_writes (attempts _ rfl)) fun _ => trivial
    · exact all_bind (stage_writes (attempts _ rfl)) fun _ => trivial

theorem recordWrong_writes (logins : LoginSettings) (times : LoginTimes) (key : String) :
    (recordWrong logins times key).All (Op.Writes P) := by
  refine all_bind ?_ fun _ => all_bind commit_writes fun _ => trivial
  unfold loginAttemptRepo.recordFailure
  refine all_bind (select_writes ..) fun model => ?_
  cases model with
  | none => exact all_bind (stage_writes (attempts _ rfl)) fun _ => trivial
  | some model =>
    refine all_bind (select_writes ..) fun again => ?_
    cases again with
    | none => trivial
    | some again =>
      refine all_bind ?_ fun expired => all_bind (stage_writes (attempts _ rfl)) fun _ => trivial
      cases loginAttemptRepo.lockoutOver again times.recorded <;> trivial

theorem recordSuccess_writes (key : String) : (recordSuccess key).All (Op.Writes P) := by
  refine all_bind (all_bind (select_writes ..) fun model => ?_) fun _ => all_bind commit_writes fun _ => trivial
  cases model with
  | none => trivial
  | some model => exact stage_writes (attempts _ rfl)

theorem adminLogin_writes (logins : LoginSettings) (times : LoginTimes) (username password : String) :
    (adminLogin logins times username password).All (Op.Writes P) := by
  unfold adminLogin
  refine all_bind (isLocked_writes attempts ..) fun locked => ?_
  simp only
  split
  · trivial
  refine all_bind (select_writes ..) fun admin => ?_
  cases admin with
  | none => exact recordWrong_writes attempts ..
  | some admin =>
    refine all_bind (verifyPassword_writes ..) fun right => ?_
    split
    · exact recordSuccess_writes attempts _
    · exact recordWrong_writes attempts ..

theorem customerLogin_writes (logins : LoginSettings) (times : LoginTimes) (accNo password : String) :
    (customerLogin logins times accNo password).All (Op.Writes P) := by
  unfold customerLogin
  refine all_bind (isLocked_writes attempts ..) fun locked => ?_
  simp only
  split
  · trivial
  refine all_bind (select_writes ..) fun account => ?_
  cases account with
  | none => trivial
  | some account =>
    simp only
    split
    · trivial
    split
    · trivial
    refine all_bind (verifyPassword_writes ..) fun right => ?_
    split
    · exact recordWrong_writes attempts ..
    · exact recordSuccess_writes attempts _

end Writes

/-! ## Calls -/

section Calls

variable {τ : Type} (settings : Settings τ) (logins : LoginSettings) (checks : Checks) (times : LoginTimes)
variable (draws : Draws) (now : Time)

/-- The status of a failed login of a customer. -/
def LoginOutcome.customerStatus (outcome : LoginOutcome) : ℕ :=
  if outcome.saysLocked then 429 else if outcome = .notFound then 404 else 401

/-- `customer_login` and `v2_customer_login`. -/
def customerLoginTokens (accNo password : String) : Svc (AuthReply τ) := do
  let result ← customerLogin logins times accNo password
  if result ≠ .success then
    throw (.httpException result.customerStatus (result.customerMessage logins))
  return .tokens (← createTokenPair settings draws accNo "customer") "customer"

/-- `change_password` of v1: the version of the tokens stays. -/
def changePassword (accNo currentPassword newPassword confirmPassword : String) : Svc (AuthReply τ) := do
  match ← accountRepo.get accNo with
  | none => throw (.httpException 404 "Account not found.")
  | some account =>
    if !(← verifyPassword currentPassword account.password) then
      throw (.httpException 400 "Incorrect current password.")
    if (checks.validatePassword newPassword).1 = false then
      throw (.httpException 400 (checks.validatePassword newPassword).2)
    if newPassword ≠ confirmPassword then
      throw (.httpException 400 "Passwords do not match.")
    accountRepo.updatePassword accNo (settings.hashPassword newPassword)
    commit
    return .message "Password changed successfully."

/-- `v2_change_password`: `AccountService.change_password` raises the version as well. -/
def v2ChangePassword (accNo currentPwd newPwd : String) : Svc (AuthReply τ) := do
  match ← accountRepo.get accNo with
  | none => throw (.httpException 400 "Account not found.")
  | some account =>
    if !(← verifyPassword currentPwd account.password) then
      throw (.httpException 400 "Incorrect current password.")
    accountRepo.updatePassword accNo (settings.hashPassword newPwd)
    let _ ← tokenVersionRepo.increment accNo
    commit
    return .message "Password changed successfully."

/-- What a thread is asked for: the endpoints, and the bearer checks that come before them. -/
inductive AuthCall (τ : Type) where
  | adminLogin (login : AdminLogin)
  | customerLogin (accNo password : String)
  | refresh (v2 : Bool) (refreshToken : Option τ)
  | bearerAdmin (credentials : Option τ)
  | bearerCustomer (credentials : Option τ)
  | totp (username : String) (request : TotpRequest)
  | changePassword (accNo currentPassword newPassword confirmPassword : String)
  | v2ChangePassword (accNo currentPwd newPwd : String)

def AuthCall.prog : AuthCall τ → Svc (AuthReply τ)
  | adminLogin login => login.prog settings logins times draws now
  | customerLogin accNo password => customerLoginTokens settings logins times draws accNo password
  | refresh v2 refreshToken => refreshTokens settings draws v2 refreshToken
  | bearerAdmin credentials => do return .message (← getCurrentAdmin settings credentials now)
  | bearerCustomer credentials => do return .message (← getCurrentCustomer settings credentials now).1
  | totp username request => request.prog settings draws now username
  | changePassword accNo currentPassword newPassword confirmPassword =>
    Auth.changePassword settings checks accNo currentPassword newPassword confirmPassword
  | v2ChangePassword accNo currentPwd newPwd => Auth.v2ChangePassword settings accNo currentPwd newPwd

end Calls

/-! ## Revocation -/

/-- A change that deletes no row of a refresh token, and leaves those that it updates revoked. -/
def Change.KeepsRevoked : Change → Prop
  | .update .refreshTokens _ _ current => current.revokedAt.isSome = true
  | .delete .refreshTokens _ => False
  | _ => True

/-- The row of a refresh token is there and revoked. -/
def Revoked (id : String) (db : Db) : Prop :=
  ∃ row, db.rows .refreshTokens id = some row ∧ row.revokedAt.isSome = true

section Revocation

variable {B : Backend} {id : String} {db : Db} {s : Session}

theorem Change.KeepsRevoked.of_tab {c : Change} (other : c.tab ≠ .refreshTokens) : c.KeepsRevoked := by
  cases c with
  | insert => trivial
  | update t | delete t =>
    cases t with
    | refreshTokens => exact absurd rfl other
    | _ => trivial

theorem keeping_revoked : Keeping B Change.KeepsRevoked (Revoked id) := by
  intro c db db' keeps revoked ok
  by_cases here : c.tab = .refreshTokens ∧ c.key = id
  · obtain ⟨row, there, isRevoked⟩ := revoked
    cases c with
    | insert t key new =>
      obtain ⟨rfl, rfl⟩ := here
      replace there : db.rows .refreshTokens key = some row := there
      simp only [Change.apply, there] at ok
      split at ok <;> cases ok
    | update t key loaded current =>
      obtain ⟨rfl, rfl⟩ := here
      replace there : db.rows .refreshTokens key = some row := there
      simp only [Change.apply, there] at ok
      split at ok
      · cases ok
      · cases ok
        refine ⟨_, Db.set_self .., ?_⟩
        simp only [Database.keeps, merge, column]
        split
        · exact isRevoked
        · exact keeps
    | delete t key =>
      obtain ⟨rfl, rfl⟩ := here
      exact keeps.elim
  · have elsewhere : c.Elsewhere .refreshTokens id := fun same same' => here ⟨same.symm, same'.symm⟩
    obtain ⟨row, there, isRevoked⟩ := revoked
    exact ⟨row, by rw [Change.apply_elsewhere elsewhere ok, there], isRevoked⟩

theorem changed_revoked {c : Change} {own : RefreshToken} (keeps : c.KeepsRevoked)
    (isRevoked : own.revokedAt.isSome = true) :
    (Session.changed .refreshTokens id own c).revokedAt.isSome = true := by
  cases c with
  | insert | delete => exact isRevoked
  | update t key loaded current =>
    cases t with
    | refreshTokens =>
      simp only [Session.changed, dif_pos]
      split
      · exact keeps
      · exact isRevoked
    | _ => exact isRevoked

/-- A session sees a revoked row as revoked. -/
theorem Revoked.find? (revoked : Revoked id db) (pending : ∀ c ∈ s.pending, c.KeepsRevoked) :
    ∃ row, s.find? db .refreshTokens id = some row ∧ row.revokedAt.isSome = true := by
  obtain ⟨row, there, isRevoked⟩ := revoked
  refine ⟨s.own .refreshTokens id row, by simp only [Session.find?, Db.find?, there, Option.map_some], ?_⟩
  unfold Session.own
  generalize s.pending = cs at pending
  clear there
  induction cs generalizing row with
  | nil => exact isRevoked
  | cons c cs ih =>
    obtain ⟨first, rest⟩ := List.forall_mem_cons.mp pending
    exact ih _ (changed_revoked first isRevoked) rest

variable {τ : Type} (settings : Settings τ) (draws : Draws)

/-- Where a token decodes, it names this row. -/
def Presents (token : τ) (id : String) : Prop :=
  ∀ now payload accountNumber rawTokenId,
    settings.jwt.decode token settings.verifyingKey [settings.jwtAlgorithm] true now = .ok payload →
      rsplit payload.sub = some (accountNumber, rawTokenId) → settings.hashTokenId rawTokenId = id

variable {settings draws}

/-- A refresh with a token begins with the row of the token, and ends there when that is revoked. -/
theorem refreshTokens_revoked (draws : Draws) (v2 : Bool) {token : τ} (presents : Presents settings token id) :
    (∃ e, refreshTokens settings draws v2 (some token) = raise e) ∨
      ∃ k : Except Exn (Option RefreshToken) → Svc (AuthReply τ),
        refreshTokens settings draws v2 (some token) = .call (.select .refreshTokens id) k ∧
          (∀ e, ∃ e', k (.error e) = raise e') ∧
            ∀ row : RefreshToken, row.revokedAt.isSome = true → ∃ e', k (.ok (some row)) = raise e' := by
  simp only [refreshTokens, verifyRefreshToken]
  cases decoded : settings.jwt.decode token settings.verifyingKey [settings.jwtAlgorithm] true draws.decodeNow with
  | error e => exact .inl ⟨_, rfl⟩
  | ok payload =>
    simp only
    split
    · exact .inl ⟨_, rfl⟩
    cases split_ : rsplit payload.sub with
    | none => exact .inl ⟨_, rfl⟩
    | some parts =>
      obtain ⟨accountNumber, rawTokenId⟩ := parts
      have same := presents _ _ _ _ decoded split_
      subst same
      refine .inr ⟨_, rfl, fun e => ⟨_, rfl⟩, fun row revoked => ?_⟩
      refine ⟨.httpException 401 "Invalid or expired refresh token.", ?_⟩
      show ((if row.revokedAt.isSome = true then (pure none : Svc (Option Identity))
        else pure (some { accountNumber, role := payload.role })) >>= _) = _
      rw [if_pos revoked]
      rfl

theorem createTokenPair_writes {P : Change → Prop} (inserts : ∀ id row, P (.insert .refreshTokens id row))
    (subject role : String) : (createTokenPair settings draws subject role).All (Op.Writes P) := by
  have encoded : ∀ payload, (encode settings payload).All (Op.Writes P) := by
    intro payload
    unfold encode
    split <;> trivial
  have created : ∀ subject tokenType now, (createToken settings subject role tokenType now).All (Op.Writes P) := by
    intro subject tokenType now
    unfold createToken
    split
    · exact all_bind (all_tryCatch (all_bind (select_writes ..) fun _ => trivial) fun _ => trivial) fun _ => encoded _
    · exact encoded _
  refine all_bind (created ..) fun _ => all_bind (created ..) fun _ => all_bind ?_ fun _ => trivial
  exact all_tryCatch (all_bind (stage_writes (inserts _ _)) fun _ => commit_writes) fun _ => trivial

/-- The changes that endpoints stage, but for those of a version: logins, accounts and admins change as they like, and a
refresh token is inserted or revoked. -/
structure Usual (P : Change → Prop) : Prop where
  attempts : ∀ c : Change, c.tab = .loginAttempts → P c
  accounts : ∀ c : Change, c.tab = .accounts → P c
  admins : ∀ c : Change, c.tab = .admins → P c
  issued : ∀ id row, P (.insert .refreshTokens id row)
  revoked : ∀ id loaded current, current.revokedAt.isSome = true → P (.update .refreshTokens id loaded current)

/-- A call that raises the version of the tokens of an account. -/
def AuthCall.raisesVersion : AuthCall τ → Bool
  | v2ChangePassword .. => true
  | _ => false

section Endpoints

variable {now : Time} {P : Change → Prop}

/-- Programs that stage such changes only. -/
abbrev Spares (P : Change → Prop) {α : Type} (p : Svc α) : Prop := p.All (Op.Writes P)

theorem decoded_spares (token : τ) : Spares P (Prog.ofExcept (decodeToken settings token now)) := by
  cases decodeToken settings token now <;> trivial

theorem checkTokenVersion_spares (payload : Payload) : Spares P (checkTokenVersion payload) := by
  refine all_bind (all_tryCatch (all_bind (select_writes ..) fun _ => trivial) fun _ => trivial) fun current => ?_
  split <;> trivial

theorem getCurrentAdmin_rotates (credentials : Option τ) : Spares P (getCurrentAdmin settings credentials now) := by
  cases credentials with
  | none => trivial
  | some token =>
    refine all_bind (decoded_spares token) fun payload => ?_
    split
    · trivial
    · exact all_bind (checkTokenVersion_spares payload) fun _ => trivial

theorem getCurrentCustomer_spares (credentials : Option τ) :
    Spares P (getCurrentCustomer settings credentials now) := by
  cases credentials with
  | none => trivial
  | some token =>
    refine all_bind (decoded_spares token) fun payload => ?_
    split
    · trivial
    refine all_bind (checkTokenVersion_spares payload) fun _ => all_bind (select_writes ..) fun account => ?_
    cases account <;> trivial

theorem verifyTotp_rotates (secret : Option String) (code : String) :
    Spares P (verifyTotp settings now secret code) := by
  unfold verifyTotp
  split <;> trivial

variable (usual : Usual P)
include usual

theorem tokens_spare (subject role : String) : Spares P (createTokenPair settings draws subject role) :=
  createTokenPair_writes usual.issued subject role

theorem passwordStep_rotates (logins : LoginSettings) (times : LoginTimes) (username password : String) :
    Spares P (passwordStep logins times username password) := by
  refine all_bind (adminLogin_writes usual.attempts ..) fun result => ?_
  split <;> trivial

omit usual in
theorem codeStep_rotates (adminUser : Option AdminUser) (totpCode : Option String) :
    Spares P (codeStep settings now adminUser totpCode) := by
  unfold codeStep
  split
  · trivial
  split
  · split
    · trivial
    · refine all_bind (verifyTotp_rotates ..) fun valid => ?_
      split <;> trivial
  · trivial

theorem adminLogin_rotates (logins : LoginSettings) (times : LoginTimes) (login : AdminLogin) :
    Spares P (login.prog settings logins times draws now) := by
  unfold AdminLogin.prog
  refine all_bind (passwordStep_rotates usual ..) fun _ => ?_
  simp only
  split
  · exact all_bind (all_bind (select_writes ..) fun _ => trivial) fun _ => all_bind (codeStep_rotates ..) fun _ =>
      all_bind (tokens_spare usual ..) fun _ => trivial
  · exact all_bind (tokens_spare usual ..) fun _ => trivial

theorem updateTotp_spares (username : String) (secret : Option String) (enabled : Bool) :
    Spares P (adminRepo.updateTotp settings username draws.nonce secret enabled) := by
  refine all_bind (select_writes ..) fun model => ?_
  cases model with
  | none => trivial
  | some model => exact all_bind (stage_writes (usual.admins _ rfl)) fun _ => trivial

theorem totpWithCode_spares (missing invalid done : String) (stored : Option String → Option String) (enabled : Bool)
    (code username : String) :
    Spares P (totpWithCode settings draws now missing invalid done stored enabled code username) := by
  refine all_bind (all_bind (select_writes ..) fun _ => trivial) fun adminUser => ?_
  cases adminUser with
  | none => trivial
  | some adminUser =>
    simp only
    split
    · trivial
    refine all_bind (verifyTotp_rotates ..) fun valid => ?_
    split
    · trivial
    · exact all_bind (updateTotp_spares usual ..) fun _ => all_bind commit_writes fun _ => trivial

theorem totp_spares (username : String) (request : TotpRequest) :
    Spares P (request.prog settings draws now username) := by
  cases request with
  | status => exact all_bind (all_bind (select_writes ..) fun _ => trivial) fun _ => trivial
  | setup secret =>
    refine all_bind (all_bind (select_writes ..) fun _ => trivial) fun adminUser => ?_
    cases adminUser with
    | none => trivial
    | some adminUser => exact all_bind (updateTotp_spares usual ..) fun _ => all_bind commit_writes fun _ => trivial
  | verify code =>
    exact totpWithCode_spares usual "No TOTP secret generated. Call GET /api/admin/2fa/setup first."
      "Invalid TOTP code. Please try again." "Two-factor authentication enabled successfully." id true code username
  | disable code =>
    exact totpWithCode_spares usual "2FA is not enabled." "Invalid TOTP code."
      "Two-factor authentication disabled." (fun _ => none) false code username
  | changePassword currentPassword newPassword =>
    unfold TotpRequest.prog
    generalize (if username = "" then "admin" else username) = name
    refine all_bind (select_writes ..) fun admin => ?_
    cases admin with
    | none => trivial
    | some admin =>
      refine all_bind (verifyPassword_writes ..) fun right => ?_
      dsimp only
      split
      · trivial
      refine all_bind (all_bind (select_writes ..) fun model => ?_) fun _ =>
        all_bind commit_writes fun _ => all_bind commit_writes fun _ => trivial
      cases model with
      | none => trivial
      | some model => exact all_bind (stage_writes (usual.admins _ rfl)) fun _ => trivial

theorem revokeOld_spares' (v2 : Bool) (refreshToken : τ) : Spares P (revokeOld settings draws v2 refreshToken) := by
  unfold revokeOld
  simp only
  split
  · trivial
  split
  · trivial
  refine all_bind (all_tryCatch (all_bind (select_writes ..) fun row => ?_) fun _ => trivial) fun _ => trivial
  cases row with
  | none => trivial
  | some row => exact all_bind (stage_writes (usual.revoked _ _ _ rfl)) fun _ => trivial

omit usual in
theorem verifyRefreshToken_rotates (token : τ) : Spares P (verifyRefreshToken settings token draws.decodeNow) := by
  unfold verifyRefreshToken
  split
  · trivial
  split
  · trivial
  split
  · trivial
  refine all_bind (select_writes ..) fun row => ?_
  cases row with
  | none => trivial
  | some row =>
    simp only
    split <;> trivial

theorem refresh_spares (v2 : Bool) (refreshToken : Option τ) :
    Spares P (refreshTokens settings draws v2 refreshToken) := by
  cases refreshToken with
  | none => trivial
  | some token =>
    refine all_bind (verifyRefreshToken_rotates token) fun identity => ?_
    cases identity with
    | none => trivial
    | some identity =>
      exact all_bind (revokeOld_spares' usual ..) fun _ => all_bind (tokens_spare usual ..) fun _ => trivial

theorem updatePassword_spares (accNo password : String) : Spares P (accountRepo.updatePassword accNo password) := by
  refine all_bind (select_writes ..) fun model => ?_
  cases model with
  | none => trivial
  | some model => exact stage_writes (usual.accounts _ rfl)

/-- **Every endpoint** stages such changes only. -/
theorem authCall_spares (logins : LoginSettings) (checks : Checks) (times : LoginTimes) (call : AuthCall τ)
    (versions : call.raisesVersion = true → ∀ c : Change, c.tab = .tokenVersions → P c) :
    Spares P (call.prog settings logins checks times draws now) := by
  cases call with
  | adminLogin login => exact adminLogin_rotates usual ..
  | customerLogin accNo password =>
    refine all_bind (customerLogin_writes usual.attempts ..) fun result => ?_
    split
    · trivial
    · exact all_bind (tokens_spare usual ..) fun _ => trivial
  | refresh v2 refreshToken => exact refresh_spares usual ..
  | bearerAdmin credentials => exact all_bind (getCurrentAdmin_rotates _) fun _ => trivial
  | bearerCustomer credentials => exact all_bind (getCurrentCustomer_spares _) fun _ => trivial
  | totp username request => exact totp_spares usual ..
  | changePassword accNo currentPassword newPassword confirmPassword =>
    refine all_bind (select_writes ..) fun account => ?_
    cases account with
    | none => trivial
    | some account =>
      refine all_bind (verifyPassword_writes ..) fun right => ?_
      dsimp only
      split
      · trivial
      split
      · trivial
      split
      · trivial
      · exact all_bind (updatePassword_spares usual ..) fun _ => all_bind commit_writes fun _ => trivial
  | v2ChangePassword accNo currentPwd newPwd =>
    refine all_bind (select_writes ..) fun account => ?_
    cases account with
    | none => trivial
    | some account =>
      refine all_bind (verifyPassword_writes ..) fun right => ?_
      split
      · trivial
      refine all_bind (updatePassword_spares usual ..) fun _ => all_bind ?_ fun _ =>
        all_bind commit_writes fun _ => trivial
      refine all_bind (select_writes ..) fun version => ?_
      cases version with
      | none => exact all_bind (stage_writes (versions rfl _ rfl)) fun _ => trivial
      | some version => exact all_bind (stage_writes (versions rfl _ rfl)) fun _ => trivial

end Endpoints

theorem usual_keepsRevoked : Usual Change.KeepsRevoked where
  attempts c tab := .of_tab (by rw [tab]; decide)
  accounts c tab := .of_tab (by rw [tab]; decide)
  admins c tab := .of_tab (by rw [tab]; decide)
  issued _ _ := trivial
  revoked _ _ _ isRevoked := isRevoked

end Revocation

/-! ## Rotations -/

section Rotation

variable {τ : Type} {B : Backend} {settings : Settings τ} {old draws : Draws} {subject role : String} {db : Db}

/-- The row of a token once it is revoked. -/
def revokedRow (draws : Draws) (row : RefreshToken) : RefreshToken := { row with revokedAt := some draws.revokeNow }

/-- What a refresh has pending when it goes on to the new pair. -/
def revoking (settings : Settings τ) (old draws : Draws) (v2 : Bool) (row : RefreshToken) : List Change :=
  if v2 = true ∧ settings.jwtAlgorithm ∉ ["RS256", "HS256"] then []
  else [.update .refreshTokens (settings.hashTokenId old.refreshTokenId) row (revokedRow draws row)]

/-- The revocation of a token that has just been verified; v2 cannot read a token of another algorithm. -/
theorem exec_revokeOld (sound : settings.JwtSound) (plain : ':' ∉ old.refreshTokenId.toList) {refreshToken : τ}
    (encoded : settings.jwt.encode (refreshPayload settings old subject role) settings.signingKey
      settings.jwtAlgorithm = some refreshToken)
    (valid : (refreshPayload settings old subject role).Valid draws.decodeNow) {row : RefreshToken}
    (found : db.rows .refreshTokens (settings.hashTokenId old.refreshTokenId) = some row) (v2 : Bool) :
    exec (handle B) (revokeOld settings draws v2 refreshToken) (db, {}) =
      (.ok (), (db, { pending := revoking settings old draws v2 row })) := by
  have early : ¬draws.decodeNow < (refreshPayload settings old subject role).iat * 1000000 := Nat.not_lt.mpr valid.1
  have split := rsplit_append subject old.refreshTokenId plain
  have revoke : exec (handle B) (revokeRefreshToken settings old.refreshTokenId draws.revokeNow) (db, {}) =
      (.ok true, (db, { pending :=
        [.update .refreshTokens (settings.hashTokenId old.refreshTokenId) row (revokedRow draws row)] })) := by
    have select := exec_select B db {} .refreshTokens (settings.hashTokenId old.refreshTokenId)
    rw [revokeRefreshToken, tryCatch_eq, exec_bind, exec_attempt, refreshTokenRepo.revoke, selectRefreshToken,
      exec_bind, select]
    simp only [Bool.false_eq_true, if_false, Session.find?_clean, Db.find?, found]
    rfl
  unfold revokeOld revoking
  by_cases unread : v2 = true ∧ settings.jwtAlgorithm ∉ ["RS256", "HS256"]
  · obtain ⟨rfl, other⟩ := unread
    simp only [if_true, sound _ _ encoded, other, not_false_eq_true, and_self]
    rfl
  · have reads : settings.jwtAlgorithm ∈ (if v2 = true then ["RS256", "HS256"] else [settings.jwtAlgorithm]) := by
      split
      · next api =>
        by_contra other
        exact unread ⟨api, other⟩
      · exact List.mem_singleton_self _
    rw [if_neg unread]
    simp only [sound _ _ encoded, reads, not_true_eq_false, if_false, early, Bool.false_eq_true, false_and]
    rw [show (refreshPayload settings old subject role).sub = subject ++ ":" ++ old.refreshTokenId from rfl, split]
    simp only
    rw [exec_bind, revoke]
    rfl

/-- **A rotation**: the old token is revoked if and only if it can be read again and the store takes both rows. What the
store refuses is logged only, and the new pair is handed out all the same. -/
theorem rotation_revokes_iff (sound : settings.JwtSound) (plain : ':' ∉ old.refreshTokenId.toList) {refreshToken : τ}
    (encoded : settings.jwt.encode (refreshPayload settings old subject role) settings.signingKey
      settings.jwtAlgorithm = some refreshToken)
    (fresh : db.rows .refreshTokens (settings.hashTokenId draws.refreshTokenId) = none) {v2 : Bool}
    {pair : TokenPair τ} {role' : String} {w : Db × Session}
    (rotated : exec (handle B) (refreshTokens settings draws v2 (some refreshToken)) (db, {}) =
      (.ok (.tokens pair role'), w)) :
    ∃ row, db.rows .refreshTokens (settings.hashTokenId old.refreshTokenId) = some row ∧ row.revokedAt = none ∧
      (Revoked (settings.hashTokenId old.refreshTokenId) w.1 ↔
        (v2 = true → settings.jwtAlgorithm ∈ ["RS256", "HS256"]) ∧
          B.database.fits .refreshTokens (settings.hashTokenId old.refreshTokenId) (revokedRow draws row) = true ∧
          B.database.fits .refreshTokens (settings.hashTokenId draws.refreshTokenId)
            (refreshRow settings draws subject role) = true) := by
  have verified : ∃ row, db.rows .refreshTokens (settings.hashTokenId old.refreshTokenId) = some row ∧
      row.revokedAt = none ∧ w = persisted B db { pending := revoking settings old draws v2 row }
        (refreshInsert settings draws subject role) := by
    simp only [refreshTokens] at rotated
    by_cases valid : (refreshPayload settings old subject role).Valid draws.decodeNow
    · rw [exec_bind, exec_verifyRefreshToken sound plain encoded valid rfl] at rotated
      simp only [Session.find?_clean, Db.find?] at rotated
      cases found : db.rows .refreshTokens (settings.hashTokenId old.refreshTokenId) with
      | none =>
        rw [found] at rotated
        cases rotated
      | some row =>
        rw [found] at rotated
        cases unrevoked : row.revokedAt with
        | some t =>
          simp only [Option.bind_some, unrevoked, Option.isSome_some, if_true] at rotated
          cases rotated
        | none =>
          refine ⟨row, rfl, unrevoked, ?_⟩
          simp only [Option.bind_some, unrevoked, Option.isSome_none, Bool.false_eq_true, if_false] at rotated
          rw [exec_bind, exec_revokeOld sound plain encoded valid found v2] at rotated
          simp only at rotated
          rw [exec_bind] at rotated
          split at rotated
          · next pair' w' issued =>
            cases rotated
            exact (createTokenPair_ok _ _ _ _ _ issued).2.2.2
          · cases rotated
    · obtain ⟨e, refused⟩ := sound.refuse encoded valid
      simp only [verifyRefreshToken, refused] at rotated
      cases rotated
  obtain ⟨row, found, unrevoked, rfl⟩ := verified
  refine ⟨row, found, unrevoked, ?_⟩
  have apart : settings.hashTokenId old.refreshTokenId ≠ settings.hashTokenId draws.refreshTokenId := by
    intro same
    rw [same, fresh] at found
    cases found
  have kept : ∀ {db' : Db}, db'.rows .refreshTokens (settings.hashTokenId old.refreshTokenId) = some row →
      ¬Revoked (settings.hashTokenId old.refreshTokenId) db' := by
    rintro db' there ⟨row', there', isRevoked⟩
    rw [there] at there'
    cases there'
    rw [unrevoked] at isRevoked
    cases isRevoked
  have elsewhere : ∀ d ∈ ([.update .refreshTokens (settings.hashTokenId old.refreshTokenId) row
      (revokedRow draws row)] : List Change),
      d.Elsewhere .refreshTokens (settings.hashTokenId draws.refreshTokenId) := by
    intro d hd
    rw [List.mem_singleton.mp hd]
    exact fun _ same => apart same.symm
  have inserted : (refreshInsert settings draws subject role).Elsewhere .refreshTokens
      (settings.hashTokenId old.refreshTokenId) := fun _ same => apart same
  unfold persisted revoking
  by_cases unread : v2 = true ∧ settings.jwtAlgorithm ∉ ["RS256", "HS256"]
  · rw [if_pos unread]
    refine iff_of_false ?_ fun rhs => unread.2 (rhs.1 unread.1)
    simp only [Bool.false_eq_true, if_false, List.nil_append]
    split
    · next db' flushed =>
      refine kept ?_
      rw [flush_elsewhere (fun d hd => by rw [List.mem_singleton.mp hd]; exact inserted) flushed, found]
    · exact kept found
  · have reads : v2 = true → settings.jwtAlgorithm ∈ ["RS256", "HS256"] :=
      fun api => by_contra fun other => unread ⟨api, other⟩
    rw [if_neg unread]
    simp only [Bool.false_eq_true, if_false]
    cases oldFits : B.database.fits .refreshTokens (settings.hashTokenId old.refreshTokenId) (revokedRow draws row) with
    | false =>
      have refused : flush B.database [.update .refreshTokens (settings.hashTokenId old.refreshTokenId) row
          (revokedRow draws row)] db = .error .dataError := by
        simp [flush, statements, Change.isDelete, Change.isInsert, Change.apply, Change.deletes, found, oldFits]
      rw [flush_append_error rfl elsewhere refused]
      exact iff_of_false (kept found) fun rhs => Bool.noConfusion rhs.2.1
    | true =>
      rw [flush_append_ok rfl elsewhere (flush_update found oldFits)]
      have absent : (db.set .refreshTokens (settings.hashTokenId old.refreshTokenId)
          (some (B.database.keeps .refreshTokens (revokedRow draws row)))).rows .refreshTokens
            (settings.hashTokenId draws.refreshTokenId) = none := by
        rw [Db.set_of_key_ne _ _ apart.symm, fresh]
      simp only [refreshInsert, Change.apply, absent]
      cases newFits : B.database.fits .refreshTokens (settings.hashTokenId draws.refreshTokenId)
          (refreshRow settings draws subject role) with
      | false => exact iff_of_false (kept found) fun rhs => Bool.noConfusion rhs.2.2
      | true =>
        refine iff_of_true ⟨revokedRow draws row, ?_, rfl⟩ ⟨reads, trivial, rfl⟩
        exact (Db.set_of_key_ne _ _ apart).trans (Db.set_self ..)

end Rotation

/-! ## Once revoked, always revoked -/

section Runs

variable {τ ι : Type} [DecidableEq ι] {B : Backend} {settings : Settings τ} {id : String}

/-- Threads before their first step, each with a call of its own and a fresh session. -/
def calls (settings : Settings τ) (logins : LoginSettings) (checks : Checks) (times : ι → LoginTimes)
    (draws : ι → Draws) (now : ι → Time) (db : Db) (call : ι → AuthCall τ) :
    Config ι Op.Res Exn (AuthReply τ) Db Session :=
  ⟨db, fun i => ⟨(call i).prog settings logins checks (times i) (draws i) (now i), {}⟩⟩

/-- A refresh with a token of a revoked row is about to begin, or has been refused. -/
def Refusing (settings : Settings τ) (draws : Draws) (v2 : Bool) (token : τ) (p : Svc (AuthReply τ)) : Prop :=
  p = refreshTokens settings draws v2 (some token) ∨ ∃ e, p = raise e

theorem Refusing.moves {draws : Draws} {v2 : Bool} {token : τ} (presents : Presents settings token id)
    {c c' : Config ι Op.Res Exn (AuthReply τ) Db Session} {ev : Event ι Exn}
    (threads : Threads Change.KeepsRevoked (Revoked id) c) (moves : (system B).Moves c ev c') {i : ι}
    (refusing : Refusing settings draws v2 token (c.threads i).prog) :
    Refusing settings draws v2 token (c'.threads i).prog := by
  have first : ∀ {o k}, (c.threads i).prog = .call o k → (∀ e, ∃ e', k (.error e) = raise e') ∧
      ∃ e', k ((handle B o (c.world i)).1) = raise e' := by
    intro o k here
    rcases refusing with begun | ⟨e, ended⟩
    · rcases refreshTokens_revoked draws v2 presents with ⟨e, ended⟩ | ⟨k', call, fails, finds⟩
      · rw [begun, ended] at here
        cases here
      · rw [begun, call] at here
        cases here
        refine ⟨fails, ?_⟩
        obtain ⟨row, found, isRevoked⟩ := Revoked.find? threads.store (threads.pending i)
        cases live : (c.threads i).own.inactive with
        | true =>
          simp only [handle, Config.world, live, if_true]
          exact fails _
        | false =>
          simp only [handle, Config.world, live, Bool.false_eq_true, if_false, found]
          exact finds row isRevoked
    · rw [ended] at here
      cases here
  cases moves with
  | stay => exact refusing
  | @step j o k here =>
    by_cases same : i = j
    · subst same
      rw [Config.put_threads_self]
      exact .inr (first here).2
    · rw [Config.put_threads_of_ne _ _ _ same]
      exact refusing
  | @fail j e o k here =>
    by_cases same : i = j
    · subst same
      rw [Config.put_threads_self]
      exact .inr ((first here).1 e)
    · rw [Config.put_threads_of_ne _ _ _ same]
      exact refusing

variable [Fintype ι]

/-- **A revocation is final**: whatever endpoints run at the same time, in whatever order their operations come and
whatever of them fails, the row stays revoked, and no refresh with a token of it ends with tokens. -/
theorem revocation_final (B : Backend) (settings : Settings τ) (logins : LoginSettings) (checks : Checks)
    (times : ι → LoginTimes) (draws : ι → Draws) (now : ι → Time) (db : Db) (id : String) (revoked : Revoked id db)
    (call : ι → AuthCall τ) (events : List (Event ι Exn)) :
    Revoked id ((system B).run (calls settings logins checks times draws now db call) events).store ∧
      ∀ i v2 token reply, call i = .refresh v2 (some token) → Presents settings token id →
        (((system B).run (calls settings logins checks times draws now db call) events).threads i).result ≠
          some (.ok reply) := by
  have start : Threads Change.KeepsRevoked (Revoked id) (calls settings logins checks times draws now db call) :=
    ⟨revoked, by simp [calls], fun i => authCall_spares usual_keepsRevoked logins checks (times i) (call i)
      fun _ c tab => .of_tab (by rw [tab]; decide)⟩
  have run := System.run_induction (M := system B) events (P := fun c =>
    Threads Change.KeepsRevoked (Revoked id) c ∧ ∀ i v2 token, call i = .refresh v2 (some token) →
      Presents settings token id → Refusing settings (draws i) v2 token (c.threads i).prog)
    ⟨start, fun i v2 token asked _ => .inl (by simp only [calls, asked]; rfl)⟩
    fun c ev c' kept moves => ⟨kept.1.moves keeping_revoked moves,
      fun i v2 token asked presents => (kept.2 i v2 token asked presents).moves presents kept.1 moves⟩
  refine ⟨run.1.store, fun i v2 token reply asked presents ends => ?_⟩
  unfold Thread.result at ends
  rcases run.2 i v2 token asked presents with begun | ⟨e, ended⟩
  · rcases refreshTokens_revoked (draws i) v2 presents with ⟨e, ended⟩ | ⟨k, call, -⟩
    · rw [begun, ended] at ends
      cases ends
    · rw [begun, call] at ends
      cases ends
  · rw [ended] at ends
    cases ends

end Runs

namespace Sample

/-- The draws of the second login. -/
def secondDraws : Draws := { draws with refreshTokenId := "ref_89abcdef0123456789abcdef" }

/-- The store after a login of account 1001. -/
def loggedIn : Db :=
  doors.db.set .refreshTokens (digest draws.refreshTokenId) (some ⟨"1001", "customer", 7 * day, none⟩)

/-- The refresh token of that login. -/
def firstToken : Payload × String × String := (refreshPayload hs256 draws "1001" "customer", "secret", "HS256")

theorem firstToken_signed : hs256.jwt.encode (refreshPayload hs256 draws "1001" "customer") hs256.signingKey
    hs256.jwtAlgorithm = some firstToken := rfl

/-- On SQLite the old token is revoked, with the API of version 2 too. -/
theorem rotation_revokes_sqlite :
    ∃ pair role w,
      exec (handle (plain .sqlite)) (refreshTokens hs256 secondDraws true (some firstToken)) (loggedIn, {}) =
        (.ok (.tokens pair role), w) ∧
      ∃ row, loggedIn.rows .refreshTokens (digest draws.refreshTokenId) = some row ∧ row.revokedAt = none ∧
        (Revoked (digest draws.refreshTokenId) w.1 ↔
          (true = true → "HS256" ∈ ["RS256", "HS256"]) ∧
            Database.sqlite.fits .refreshTokens (digest draws.refreshTokenId) (revokedRow secondDraws row) = true ∧
            Database.sqlite.fits .refreshTokens (digest secondDraws.refreshTokenId)
              (refreshRow hs256 secondDraws "1001" "customer") = true) :=
  ⟨_, _, _, rfl, rotation_revokes_iff (B := plain .sqlite) hs256_sound (by decide) firstToken_signed rfl rfl⟩

/-- The token after it was revoked. -/
def loggedOut : Db :=
  loggedIn.set .refreshTokens (digest draws.refreshTokenId) (some ⟨"1001", "customer", 7 * day, some 0⟩)

/-- A refresh with it beside a password change, of which a commit fails. -/
def refreshesLate : Fin 2 → AuthCall (Payload × String × String)
  | 0 => .refresh true (some firstToken)
  | 1 => .changePassword "1001" "secret" "Secret_12" "Secret_12"

/-- The checks of a request, where everything is in order. -/
def lenient : Checks := ⟨fun _ => true, fun _ => true, fun _ => true, fun _ => (true, "")⟩

theorem revocation_final_late :
    Revoked (digest draws.refreshTokenId) ((system (plain .sqlite)).run
      (calls hs256 defaults lenient (fun _ => ⟨0, 0⟩) (fun _ => secondDraws) (fun _ => 0) loggedOut refreshesLate)
      [.step 1, .step 0, .step 1, .fail 1 .dataError, .step 0]).store :=
  (revocation_final (plain .sqlite) hs256 defaults lenient _ _ _ loggedOut _ ⟨_, rfl, rfl⟩ refreshesLate _).1

end Sample

end UnionBank.Auth
