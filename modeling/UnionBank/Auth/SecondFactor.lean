import UnionBank.Auth.Secrets
import UnionBank.Auth.Logins
import UnionBank.Lib.Locks

/-!
# The second factor of the admins

The requests of v1 and v2 that look at a second factor or write it, among all others. While the factor of an admin is on,
the code is asked for by the login of v1, by verifying and by disabling, but neither by the login of v2 nor by the setup.

- `AdminLogin`, `TotpRequest`, `AuthRequest`: the requests; `AuthVisit`: a request with its threads and its clock;
- `Op.SparesAdmins`: an operation that writes no admin;
- `Enforced`: what the second factor is for, of one request; `Asked`: the condition.
-/

namespace UnionBank.Auth

open Programs Prog

/-! ## Requests -/

/-- What a request answers. -/
inductive AuthReply (τ : Type) where
  | tokens (pair : TokenPair τ) (role : String)
  | totpSetup (secret manual : String)
  | totpStatus (enabled : Bool)
  | message (text : String)

/-- A login of an admin; `v2` asks for no code, although its form has the field. -/
structure AdminLogin where
  v2 : Bool
  username : String
  password : String
  totpCode : Option String

/-- A request of an admin who is logged in. -/
inductive TotpRequest where
  | status
  | setup (secret : String)
  | verify (code : String)
  | disable (code : String)
  | changePassword (currentPassword newPassword : String)

/-- An operation that writes no admin. -/
def Op.SparesAdmins : Op → Prop
  | .stage c => c.tab ≠ .admins
  | _ => True

/-- The requests; a `beside` is any other one, which writes no admin. -/
inductive AuthRequest (τ : Type) where
  | adminLogin (login : AdminLogin)
  | totp (credentials : Option τ) (request : TotpRequest)
  | refresh (v2 : Bool) (refreshToken : Option τ)
  | beside (prog : Svc (AuthReply τ)) (spares : prog.All Op.SparesAdmins)

section Programs

variable {τ : Type} (settings : Settings τ) (logins : LoginSettings) (times : LoginTimes) (draws : Draws) (now : Time)

/-- Whether the message of a failed login contains "locked". -/
def LoginOutcome.saysLocked : LoginOutcome → Bool
  | locked _ | wrong 0 => true
  | _ => false

/-- The password of a login. -/
def passwordStep (username password : String) : Svc Unit := do
  let result ← Auth.adminLogin logins times username password
  if result ≠ .success then
    throw (.httpException (if result.saysLocked then 429 else 401) (result.adminMessage logins))

/-- `pyotp.TOTP(secret).verify(code, valid_window=1)`; what `pyotp` raises is a server error. -/
def verifyTotp (secret : Option String) (code : String) : Svc Bool :=
  match secret.bind fun secret => settings.totpVerify secret code now with
  | some valid => return valid
  | none => throw .typeError

/-- The code of a login of v1, when the factor is on. -/
def codeStep (adminUser : Option AdminUser) (totpCode : Option String) : Svc Unit := do
  match adminUser with
  | none => return ()
  | some adminUser =>
    if adminUser.totpEnabled then
      match totpCode.filter (· ≠ "") with
      | none =>
        throw (.httpException 428 "Two-factor authentication is enabled. Please provide your TOTP code.")
      | some code =>
        if !(← verifyTotp settings now adminUser.totpSecret code) then
          throw (.httpException 401 "Invalid TOTP code.")

/-- `admin_login` and `v2_admin_login`. -/
def AdminLogin.prog (login : AdminLogin) : Svc (AuthReply τ) := do
  passwordStep logins times login.username login.password
  if !login.v2 then
    let adminUser ← adminRepo.getByUsername settings login.username
    codeStep settings now adminUser login.totpCode
  return .tokens (← createTokenPair settings draws login.username "admin") "admin"

/-- `admin_totp_setup`. -/
def totpSetup (secret username : String) : Svc (AuthReply τ) := do
  match ← adminRepo.getByUsername settings username with
  | some _ =>
    let _ ← adminRepo.updateTotp settings username draws.nonce (some secret) false
    commit
  | none => pure ()
  return .totpSetup secret
    s!"otpauth://totp/Union%20Bank%20Admin:{username}?secret={secret}&issuer=Union%20Bank%20Admin"

/-- `admin_totp_verify` and `admin_totp_disable`: a code for the stored secret, and what is stored then. -/
def totpWithCode (missing invalid done : String) (stored : Option String → Option String) (enabled : Bool)
    (code username : String) : Svc (AuthReply τ) := do
  match ← adminRepo.getByUsername settings username with
  | none => throw (.httpException 400 missing)
  | some adminUser =>
    if (adminUser.totpSecret.filter (· ≠ "")).isNone then
      throw (.httpException 400 missing)
    if !(← verifyTotp settings now adminUser.totpSecret code) then
      throw (.httpException 400 invalid)
    let _ ← adminRepo.updateTotp settings username draws.nonce (stored adminUser.totpSecret) enabled
    commit
    return .message done

def totpVerify (code username : String) : Svc (AuthReply τ) :=
  totpWithCode settings draws now "No TOTP secret generated. Call GET /api/admin/2fa/setup first."
    "Invalid TOTP code. Please try again." "Two-factor authentication enabled successfully." id true code username

def totpDisable (code username : String) : Svc (AuthReply τ) :=
  totpWithCode settings draws now "2FA is not enabled." "Invalid TOTP code." "Two-factor authentication disabled."
    (fun _ => none) false code username

/-- `admin_change_password`; the audit log is another table, and committed on its own. -/
def changeAdminPassword (currentPassword newPassword username : String) : Svc (AuthReply τ) := do
  match ← selectAdmin username with
  | none => throw (.httpException 404 "Admin not found.")
  | some admin =>
    if !(← verifyPassword currentPassword admin.password) then
      throw (.httpException 400 "Incorrect current password.")
    let _ ← adminRepo.updatePassword username (settings.hashPassword newPassword)
    commit
    commit
    return .message "Admin password changed successfully."

/-- The endpoint behind the bearer check, for the user name of the token. -/
def TotpRequest.prog (username : String) : TotpRequest → Svc (AuthReply τ)
  | status => do
    let adminUser ← adminRepo.getByUsername settings username
    return .totpStatus ((adminUser.map AdminUser.totpEnabled).getD false)
  | setup secret => totpSetup settings draws secret username
  | verify code => totpVerify settings draws now code username
  | disable code => totpDisable settings draws now code username
  | changePassword currentPassword newPassword =>
    changeAdminPassword settings currentPassword newPassword (if username = "" then "admin" else username)

/-- The rotation of a refresh token; the two APIs allow other algorithms, and what is raised is logged only. -/
def revokeOld (v2 : Bool) (refreshToken : τ) : Svc Unit :=
  let algorithms := if v2 then ["RS256", "HS256"] else [settings.jwtAlgorithm]
  match settings.jwt.decode refreshToken settings.verifyingKey algorithms false draws.decodeNow with
  | .error _ => return ()
  | .ok payload =>
    match rsplit payload.sub with
    | none => return ()
    | some (_, oldTokenId) => do
      let _ ← revokeRefreshToken settings oldTokenId draws.revokeNow

/-- `refresh_token` and `v2_refresh_token`. -/
def refreshTokens (v2 : Bool) (refreshToken : Option τ) : Svc (AuthReply τ) := do
  match refreshToken with
  | none => throw (.httpException 401 "No refresh token provided.")
  | some token =>
    match ← verifyRefreshToken settings token draws.decodeNow with
    | none => throw (.httpException 401 "Invalid or expired refresh token.")
    | some identity =>
      revokeOld settings draws v2 token
      return .tokens (← createTokenPair settings draws identity.accountNumber identity.role) identity.role

end Programs

/-! ## Runs of requests -/

/-- A request, the thread that it runs on, the one of the bearer check, and when they look at the clock. -/
structure AuthVisit (τ : Type) where
  request : AuthRequest τ
  thread : ℕ
  loop : ℕ
  times : LoginTimes
  draws : Draws
  now : Time

section Visits

variable {τ : Type} (B : Backend) (settings : Settings τ) (logins : LoginSettings)

namespace Bank

/-- The bearer check of a request, on the thread of the event loop. -/
def bearer (bank : Bank) (v : AuthVisit τ) (credentials : Option τ) : Except Exn String × Bank :=
  bank.serve B v.loop (getCurrentAdmin settings credentials v.draws.decodeNow)

/-- One request: its answer, and the bank after it. -/
def visit (bank : Bank) (v : AuthVisit τ) : Except Exn (AuthReply τ) × Bank :=
  match v.request with
  | .adminLogin login => bank.serve B v.thread (login.prog settings logins v.times v.draws v.now)
  | .totp credentials request =>
    match bank.bearer B settings v credentials with
    | (.error e, bank) => (.error e, bank)
    | (.ok username, bank) => bank.serve B v.thread (request.prog settings v.draws v.now username)
  | .refresh v2 refreshToken => bank.serve B v.thread (refreshTokens settings v.draws v2 refreshToken)
  | .beside prog _ => bank.serve B v.thread prog

end Bank

/-- The code that a request carries. -/
def AuthRequest.code : AuthRequest τ → Option String
  | adminLogin login => login.totpCode
  | totp _ (.verify code) | totp _ (.disable code) => some code
  | _ => none

/-- A request carries a code that is valid for the secret of an admin. -/
def AuthVisit.Proves (v : AuthVisit τ) (admin : AdminRow) : Prop :=
  ∃ secret code, decryptTotpSecret settings admin.totpSecret = some secret ∧ v.request.code = some code ∧
    settings.totpVerify secret code v.now = some true

/-- **What the factor is for**: an admin who has it on gets no tokens at a login without a code, and without one it is
neither turned off nor given another secret. -/
structure Enforced (bank : Bank) (v : AuthVisit τ) (answer : Except Exn (AuthReply τ)) (bank' : Bank) : Prop where
  login : ∀ login admin pair role, v.request = .adminLogin login → bank.db.rows .admins login.username = some admin →
    admin.totpEnabled = true → answer = .ok (.tokens pair role) → v.Proves settings admin
  kept : ∀ username admin, bank.db.rows .admins username = some admin → admin.totpEnabled = true →
    (∃ admin', bank'.db.rows .admins username = some admin' ∧ admin'.totpEnabled = true ∧
      decryptTotpSecret settings admin'.totpSecret = decryptTotpSecret settings admin.totpSecret) ∨
    v.Proves settings admin

/-- A login of v2 that the password opens carries a valid code when the factor is on, and whoever sets a factor up has
none on. -/
def Asked (bank : Bank) (v : AuthVisit τ) : Prop :=
  match v.request with
  | .adminLogin login => login.v2 = true →
      (bank.serve B v.thread (passwordStep logins v.times login.username login.password)).1 = .ok () →
      ∀ admin, bank.db.rows .admins login.username = some admin → admin.totpEnabled = true → v.Proves settings admin
  | .totp credentials (.setup _) => ∀ username admin, (bank.bearer B settings v credentials).1 = .ok username →
      bank.db.rows .admins username = some admin → admin.totpEnabled = false
  | _ => True

/-- Every request of a run is answered so, as long as every one before it and itself is asked. -/
def EnforcedRun : Bank → List (AuthVisit τ) → Prop
  | _, [] => True
  | bank, v :: visits =>
    Enforced settings bank v (bank.visit B settings logins v).1 (bank.visit B settings logins v).2 ∧
      EnforcedRun (bank.visit B settings logins v).2 visits

def AskedRun : Bank → List (AuthVisit τ) → Prop
  | _, [] => True
  | bank, v :: visits => Asked B settings logins bank v ∧ AskedRun (bank.visit B settings logins v).2 visits

end Visits

/-! ## Programs that write no admin -/

section Spares

theorem select_spares (t : Tab) (key : String) : (select t key).All Op.SparesAdmins := all_perform trivial
theorem verifyPassword_spares (plain hashed : String) : (verifyPassword plain hashed).All Op.SparesAdmins :=
  all_perform trivial
theorem commit_spares : commit.All Op.SparesAdmins := all_perform trivial
theorem stage_spares {c : Change} (other : c.tab ≠ .admins) : (stage c).All Op.SparesAdmins := all_perform other

theorem isLocked_spares (key : String) (now : Time) : (loginAttemptRepo.isLocked key now).All Op.SparesAdmins := by
  unfold loginAttemptRepo.isLocked
  refine all_bind (select_spares ..) fun model => ?_
  cases model with
  | none => trivial
  | some model =>
    simp only
    split
    · trivial
    split
    · split
      · trivial
      · exact all_bind (stage_spares (by simp [Change.tab])) fun _ => trivial
    · exact all_bind (stage_spares (by simp [Change.tab])) fun _ => trivial

theorem recordFailure_spares (key : String) (maxAttempts lockoutMinutes : ℕ) (now : Time) :
    (loginAttemptRepo.recordFailure key maxAttempts lockoutMinutes now).All Op.SparesAdmins := by
  unfold loginAttemptRepo.recordFailure
  refine all_bind (select_spares ..) fun model => ?_
  cases model with
  | none => exact all_bind (stage_spares (by simp [Change.tab])) fun _ => trivial
  | some model =>
    refine all_bind (select_spares ..) fun again => ?_
    cases again with
    | none => trivial
    | some again =>
      refine all_bind ?_ fun expired => all_bind (stage_spares (by simp [Change.tab])) fun _ => trivial
      cases loginAttemptRepo.lockoutOver again now <;> trivial

theorem recordWrong_spares (logins : LoginSettings) (times : LoginTimes) (key : String) :
    (recordWrong logins times key).All Op.SparesAdmins :=
  all_bind (recordFailure_spares ..) fun _ => all_bind commit_spares fun _ => trivial

theorem recordSuccess_spares (key : String) : (recordSuccess key).All Op.SparesAdmins := by
  refine all_bind (all_bind (select_spares ..) fun model => ?_) fun _ => all_bind commit_spares fun _ => trivial
  cases model with
  | none => trivial
  | some model => exact stage_spares (by simp [Change.tab])

theorem adminLogin_spares (logins : LoginSettings) (times : LoginTimes) (username password : String) :
    (adminLogin logins times username password).All Op.SparesAdmins := by
  unfold adminLogin
  refine all_bind (isLocked_spares ..) fun locked => ?_
  simp only
  split
  · trivial
  refine all_bind (select_spares ..) fun admin => ?_
  cases admin with
  | none => exact recordWrong_spares ..
  | some admin =>
    refine all_bind (verifyPassword_spares ..) fun right => ?_
    split
    · exact recordSuccess_spares _
    · exact recordWrong_spares ..

theorem passwordStep_spares (logins : LoginSettings) (times : LoginTimes) (username password : String) :
    (passwordStep logins times username password).All Op.SparesAdmins := by
  refine all_bind (adminLogin_spares ..) fun result => ?_
  split <;> trivial

variable {τ : Type} (settings : Settings τ) (draws : Draws) (now : Time)

theorem getTokenVersion_spares (accNo : String) : (getTokenVersion accNo).All Op.SparesAdmins :=
  all_tryCatch (all_bind (select_spares ..) fun _ => trivial) fun _ => trivial

theorem encode_spares (payload : Payload) : (encode settings payload).All Op.SparesAdmins := by
  unfold encode
  split <;> trivial

theorem createToken_spares (subject role tokenType : String) :
    (createToken settings subject role tokenType now).All Op.SparesAdmins := by
  unfold createToken
  split
  · exact all_bind (getTokenVersion_spares _) fun _ => encode_spares ..
  · exact encode_spares ..

theorem createTokenPair_spares (subject role : String) :
    (createTokenPair settings draws subject role).All Op.SparesAdmins := by
  refine all_bind (createToken_spares ..) fun _ => all_bind (createToken_spares ..) fun _ => all_bind ?_ fun _ => trivial
  exact all_tryCatch (all_bind (stage_spares (by simp [Change.tab])) fun _ => commit_spares) fun _ => trivial

theorem getCurrentAdmin_spares (credentials : Option τ) :
    (getCurrentAdmin settings credentials now).All Op.SparesAdmins := by
  cases credentials with
  | none => trivial
  | some token =>
    refine all_bind ?_ fun payload => ?_
    · cases decodeToken settings token now <;> trivial
    split
    · trivial
    refine all_bind (all_bind (getTokenVersion_spares _) fun version => ?_) fun _ => trivial
    split <;> trivial

theorem getByUsername_spares (username : String) :
    (adminRepo.getByUsername settings username).All Op.SparesAdmins :=
  all_bind (select_spares ..) fun _ => trivial

theorem verifyTotp_spares (secret : Option String) (code : String) :
    (verifyTotp settings now secret code).All Op.SparesAdmins := by
  unfold verifyTotp
  split <;> trivial

theorem codeStep_spares (adminUser : Option AdminUser) (totpCode : Option String) :
    (codeStep settings now adminUser totpCode).All Op.SparesAdmins := by
  unfold codeStep
  split
  · trivial
  split
  · split
    · trivial
    · refine all_bind (verifyTotp_spares ..) fun valid => ?_
      split <;> trivial
  · trivial

theorem adminLoginProg_spares (logins : LoginSettings) (times : LoginTimes) (login : AdminLogin) :
    (login.prog settings logins times draws now).All Op.SparesAdmins := by
  unfold AdminLogin.prog
  refine all_bind (passwordStep_spares ..) fun _ => ?_
  have tokens : (createTokenPair settings draws login.username "admin" >>= fun pair =>
      (pure (.tokens pair "admin") : Svc (AuthReply τ))).All Op.SparesAdmins :=
    all_bind (createTokenPair_spares ..) fun _ => trivial
  simp only
  split
  · exact all_bind (getByUsername_spares ..) fun _ => all_bind (codeStep_spares ..) fun _ => tokens
  · exact tokens

theorem verifyRefreshToken_spares (refreshToken : τ) :
    (verifyRefreshToken settings refreshToken now).All Op.SparesAdmins := by
  unfold verifyRefreshToken
  split
  · trivial
  split
  · trivial
  split
  · trivial
  refine all_bind (select_spares ..) fun row => ?_
  cases row with
  | none => trivial
  | some row =>
    simp only
    split <;> trivial

theorem revokeOld_spares (v2 : Bool) (refreshToken : τ) :
    (revokeOld settings draws v2 refreshToken).All Op.SparesAdmins := by
  unfold revokeOld
  simp only
  split
  · trivial
  split
  · trivial
  refine all_bind (all_tryCatch (all_bind (select_spares ..) fun row => ?_) fun _ => trivial) fun _ => trivial
  cases row with
  | none => trivial
  | some row => exact all_bind (stage_spares (by simp [Change.tab])) fun _ => trivial

theorem refreshTokens_spares (v2 : Bool) (refreshToken : Option τ) :
    (refreshTokens settings draws v2 refreshToken).All Op.SparesAdmins := by
  cases refreshToken with
  | none => trivial
  | some token =>
    refine all_bind (verifyRefreshToken_spares ..) fun identity => ?_
    cases identity with
    | none => trivial
    | some identity =>
      exact all_bind (revokeOld_spares ..) fun _ => all_bind (createTokenPair_spares ..) fun _ => trivial

end Spares

/-! ## The rows of the admins -/

/-- Nothing is pending for an admin. -/
def Session.Calm (s : Session) : Prop := ∀ c ∈ s.pending, c.tab ≠ .admins

section Rows

variable {B : Backend} {db db' : Db} {s : Session} {α : Type}

theorem Session.Calm.of_nil (nothing : s.pending = []) : s.Calm := by
  simp [Session.Calm, nothing]

theorem Session.Calm.elsewhere (calm : s.Calm) (username : String) : ∀ c ∈ s.pending, c.Elsewhere .admins username :=
  fun c hc same => absurd same.symm (calm c hc)

theorem Session.Calm.find? (calm : s.Calm) (username : String) :
    s.find? db .admins username = db.rows .admins username := by
  have own : s.own .admins username = id := funext fun row => Session.own_elsewhere row (calm.elsewhere username)
  rw [Session.find?, own, Option.map_id]
  rfl

theorem flush_admins (calm : s.Calm) (flushed : flush B.database s.pending db = .ok db') :
    db'.rows .admins = db.rows .admins :=
  funext fun username => flush_elsewhere (calm.elsewhere username) flushed

theorem handle_spares {o : Op} (spares : o.SparesAdmins) (calm : s.Calm) :
    (handle B o (db, s)).2.2.Calm ∧ (handle B o (db, s)).2.1.rows .admins = db.rows .admins := by
  cases o with
  | select t key =>
    simp only [handle]
    split <;> exact ⟨calm, rfl⟩
  | stage c =>
    refine ⟨fun d hd => ?_, rfl⟩
    rcases List.mem_append.mp hd with hd | hd
    · exact calm d hd
    · rw [List.mem_singleton.mp hd]
      exact spares
  | verifyPassword => exact ⟨calm, rfl⟩
  | commit =>
    simp only [handle]
    split
    · exact ⟨calm, rfl⟩
    split
    next db' flushed => exact ⟨.of_nil rfl, flush_admins calm flushed⟩
    next => exact ⟨.of_nil rfl, rfl⟩
  | rollback => exact ⟨.of_nil rfl, rfl⟩

/-- **A program** that writes no admin leaves their rows, whatever the session had pending. -/
theorem exec_spares {p : Svc α} (spares : p.All Op.SparesAdmins) {w : Db × Session} (calm : w.2.Calm) :
    (exec (handle B) p w).2.2.Calm ∧ (exec (handle B) p w).2.1.rows .admins = w.1.rows .admins := by
  induction p generalizing w with
  | ret | raise => exact ⟨calm, rfl⟩
  | call o k ih =>
    obtain ⟨here, later⟩ := spares
    obtain ⟨calm', same⟩ := handle_spares (B := B) here calm
    obtain ⟨ends, rows⟩ := ih _ (later _) calm'
    exact ⟨ends, rows.trans same⟩

/-- What `update_totp` and `update_password` do: the row of one admin is read and changed. -/
def rewriteAdmin (username : String) (f : AdminRow → AdminRow) : Svc Bool := do
  let some model ← selectAdmin username | return false
  stage (.update .admins username model (f model))
  return true

/-- The rows of the admins when one of them may have been changed. -/
structure Rewritten (username : String) (f : AdminRow → AdminRow) (db : Db) (w : Db × Session) : Prop where
  calm : w.2.Calm
  others : ∀ other, other ≠ username → w.1.rows .admins other = db.rows .admins other
  row : ∀ admin, db.rows .admins username = some admin →
    w.1.rows .admins username = some admin ∨ w.1.rows .admins username = some (f admin)

theorem Rewritten.of_same {username : String} {f : AdminRow → AdminRow} {w : Db × Session} (calm : w.2.Calm)
    (same : w.1.rows .admins = db.rows .admins) : Rewritten username f db w where
  calm := calm
  others _ _ := by rw [same]
  row admin there := .inl (by rw [same, there])

theorem exec_rewriteAdmin (B : Backend) (db : Db) (username : String) (f : AdminRow → AdminRow) {k : Svc α}
    (spares : k.All Op.SparesAdmins) (calm : s.Calm) :
    Rewritten username f db (exec (handle B) (rewriteAdmin username f >>= fun _ => commit >>= fun _ => k) (db, s)).2 := by
  rw [rewriteAdmin, selectAdmin, select, Prog.bind_assoc, exec_perform_bind]
  simp only [handle, calm.find?]
  split
  next w failed =>
    split at failed
    · cases failed
    cases failed
    cases found : db.rows .admins username with
    | none =>
      have idle : ((pure false : Svc Bool) >>= fun _ => commit >>= fun _ => k).All Op.SparesAdmins :=
        all_bind (p := pure false) trivial fun _ => all_bind commit_spares fun _ => spares
      obtain ⟨ends, same⟩ := exec_spares (B := B) idle (w := (db, s)) calm
      exact .of_same ends same
    | some admin =>
      simp only [Prog.bind_assoc]
      rw [stage, exec_perform_bind]
      simp only [handle, pure_eq, bind_ret]
      rw [commit, exec_perform_bind]
      have live : s.inactive = false := by simp_all
      simp only [handle, live, Bool.false_eq_true, if_false]
      set c : Change := .update .admins username admin (f admin) with hc
      have apart : ∀ d ∈ s.pending, d.Elsewhere c.tab c.key := calm.elsewhere username
      cases first : flush B.database s.pending db with
      | error e =>
        rw [flush_append_error rfl apart first]
        exact .of_same (.of_nil rfl) rfl
      | ok db₁ =>
        have same₁ := flush_admins calm first
        rw [flush_append_ok rfl apart first]
        have there : db₁.rows .admins username = some admin := by rw [same₁, found]
        simp only [hc, Change.apply, there, merge_loaded]
        by_cases refused : (!B.database.fits .admins username (f admin)) = true
        · rw [if_pos refused]
          exact .of_same (.of_nil rfl) rfl
        · rw [if_neg refused]
          obtain ⟨ends, same⟩ := exec_spares (B := B) spares (w := (db₁.set .admins username (some (f admin)), {}))
            (.of_nil rfl)
          refine ⟨ends, fun other ne => ?_, fun admin' there' => .inr ?_⟩
          · exact (congrFun same other).trans ((Db.set_of_key_ne db₁ _ ne).trans (congrFun same₁ other))
          · rw [found] at there'
            cases there'
            exact (congrFun same username).trans (Db.set_self ..)
  next e w failed =>
    split at failed
    · cases failed
      exact .of_same calm rfl
    · cases failed

/-! ## The requests one by one -/

variable {τ : Type} {settings : Settings τ} {draws : Draws} {now : Time}

theorem exec_getByUsername (calm : s.Calm) (username : String) :
    exec (handle B) (adminRepo.getByUsername settings username) (db, s) =
      if s.inactive then (.error .pendingRollbackError, (db, s))
      else (.ok ((db.rows .admins username).map (mapAdmin settings username)), (db, s)) := by
  rw [adminRepo.getByUsername, selectAdmin, select, exec_perform_bind]
  simp only [handle, calm.find?]
  cases s.inactive <;> rfl

/-- A code for a secret. -/
def Fits (settings : Settings τ) (now : Time) (secret : Option String) (code : String) : Prop :=
  ∃ stored, secret = some stored ∧ settings.totpVerify stored code now = some true

theorem verifyTotp_ok {secret : Option String} {code : String} {w w' : Db × Session}
    (h : exec (handle B) (verifyTotp settings now secret code) w = (.ok true, w')) : Fits settings now secret code := by
  unfold verifyTotp at h
  split at h
  · next valid found =>
    obtain ⟨stored, same, verified⟩ := Option.bind_eq_some_iff.mp found
    cases h
    exact ⟨stored, same, verified⟩
  · cases h

theorem codeStep_ok {adminUser : AdminUser} {totpCode : Option String} {w w' : Db × Session}
    (h : exec (handle B) (codeStep settings now (some adminUser) totpCode) w = (.ok (), w'))
    (enabled : adminUser.totpEnabled = true) :
    ∃ code, totpCode = some code ∧ Fits settings now adminUser.totpSecret code := by
  simp only [codeStep, enabled, if_true] at h
  split at h
  · cases h
  · next code given =>
    rw [exec_bind] at h
    split at h
    · next valid w₁ verified =>
      cases valid with
      | false => cases h
      | true => exact ⟨code, (Option.filter_eq_some_iff.mp given).1, verifyTotp_ok verified⟩
    · cases h

/-- **A login** that hands out tokens has asked for the code, unless it is one of v2. -/
theorem adminLogin_fits {logins : LoginSettings} {times : LoginTimes} {login : AdminLogin} {pair : TokenPair τ}
    {role : String} {admin : AdminRow} (calm : s.Calm) (found : db.rows .admins login.username = some admin)
    (enabled : admin.totpEnabled = true)
    (h : (exec (handle B) (login.prog settings logins times draws now) (db, s)).1 = .ok (.tokens pair role)) :
    (exec (handle B) (passwordStep logins times login.username login.password) (db, s)).1 = .ok () ∧
      (login.v2 = false →
        ∃ code, login.totpCode = some code ∧ Fits settings now (decryptTotpSecret settings admin.totpSecret) code) := by
  obtain ⟨calm', same⟩ :=
    exec_spares (B := B) (passwordStep_spares logins times login.username login.password) (w := (db, s)) calm
  rw [AdminLogin.prog, exec_bind] at h
  split at h
  · next u w passed =>
    refine ⟨by rw [passed], fun v1 => ?_⟩
    obtain ⟨db₁, s₁⟩ := w
    rw [passed] at calm' same
    have found' : db₁.rows .admins login.username = some admin := by
      rw [← found]
      exact congrFun same _
    simp only [v1, Bool.not_false, if_true] at h
    rw [exec_bind, exec_getByUsername calm'] at h
    split at h
    · next adminUser w₂ got =>
      split at got
      · cases got
      cases got
      rw [found', exec_bind] at h
      split at h
      · next coded => exact codeStep_ok coded enabled
      · cases h
    · cases h
  · cases h

/-- Verifying and disabling change the row of an admin with a code for the secret that is stored. -/
theorem exec_totpWithCode (settings : Settings τ) (draws : Draws) (now : Time) (missing invalid done : String)
    (stored : Option String → Option String) (enabled : Bool) (code username : String) (calm : s.Calm) {w : Db × Session}
    (h : (exec (handle B) (totpWithCode settings draws now missing invalid done stored enabled code username)
      (db, s)).2 = w) :
    w.2.Calm ∧ ∀ other admin, db.rows .admins other = some admin →
      w.1.rows .admins other = some admin ∨ Fits settings now (decryptTotpSecret settings admin.totpSecret) code := by
  have idle : ∀ {w : Db × Session}, (db, s) = w → w.2.Calm ∧ ∀ other admin, db.rows .admins other = some admin →
      w.1.rows .admins other = some admin ∨ Fits settings now (decryptTotpSecret settings admin.totpSecret) code := by
    rintro _ rfl
    exact ⟨calm, fun _ _ there => .inl there⟩
  rw [totpWithCode, exec_bind, exec_getByUsername calm] at h
  split at h
  · next adminUser w₁ got =>
    split at got
    · cases got
    cases got
    cases found : db.rows .admins username with
    | none =>
      rw [found] at h
      exact idle h
    | some admin =>
      rw [found] at h
      simp only [Option.map_some] at h
      split at h
      · exact idle h
      rw [exec_bind] at h
      split at h
      · next valid w₂ verified =>
        have stays : w₂ = (db, s) := by
          unfold verifyTotp at verified
          split at verified
          · cases verified
            rfl
          · cases verified
        subst stays
        cases valid with
        | false => exact idle h
        | true =>
          have rewritten := exec_rewriteAdmin B db username
            (fun model => { model with
              totpSecret := encryptTotpSecret settings draws.nonce (stored (mapAdmin settings username admin).totpSecret),
              totpEnabled := enabled })
            (k := (pure (.message done) : Svc (AuthReply τ))) trivial calm
          subst h
          refine ⟨rewritten.calm, fun other admin' there => ?_⟩
          by_cases same : other = username
          · subst same
            rw [found] at there
            cases there
            exact .inr (verifyTotp_ok verified)
          · exact .inl ((rewritten.others other same).trans there)
      · next e w₂ raised =>
        have stays : w₂ = (db, s) := by
          unfold verifyTotp at raised
          split at raised <;> cases raised
          rfl
        subst stays
        exact idle h
  · next e w₁ got =>
    split at got
    · cases got
      exact idle h
    · cases got

/-- The setup changes the row of one admin, whatever they have. -/
theorem exec_totpSetup (settings : Settings τ) (draws : Draws) (secret username : String) (calm : s.Calm)
    {w : Db × Session} (h : (exec (handle B) (totpSetup settings draws secret username) (db, s)).2 = w) :
    w.2.Calm ∧ ∀ other, other ≠ username → w.1.rows .admins other = db.rows .admins other := by
  rw [totpSetup, exec_bind, exec_getByUsername calm] at h
  split at h
  · next adminUser w₁ got =>
    split at got
    · cases got
    cases got
    cases found : db.rows .admins username with
    | none =>
      rw [found] at h
      subst h
      exact ⟨calm, fun _ _ => rfl⟩
    | some admin =>
      rw [found] at h
      subst h
      have rewritten := exec_rewriteAdmin B db username
        (fun model => { model with
          totpSecret := encryptTotpSecret settings draws.nonce (some secret), totpEnabled := false })
        (k := (pure (.totpSetup secret
          s!"otpauth://totp/Union%20Bank%20Admin:{username}?secret={secret}&issuer=Union%20Bank%20Admin") :
            Svc (AuthReply τ))) trivial calm
      exact ⟨rewritten.calm, rewritten.others⟩
  · next e w₁ got =>
    split at got
    · cases got
      subst h
      exact ⟨calm, fun _ _ => rfl⟩
    · cases got

/-- Another password keeps the factor. -/
theorem exec_changeAdminPassword (settings : Settings τ) (currentPassword newPassword username : String)
    (calm : s.Calm) {w : Db × Session}
    (h : (exec (handle B) (changeAdminPassword settings currentPassword newPassword username) (db, s)).2 = w) :
    w.2.Calm ∧ ∀ other admin, db.rows .admins other = some admin → ∃ password,
      w.1.rows .admins other = some { admin with password } := by
  have idle : ∀ {w : Db × Session}, (db, s) = w → w.2.Calm ∧ ∀ other admin, db.rows .admins other = some admin →
      ∃ password, w.1.rows .admins other = some { admin with password } := by
    rintro _ rfl
    exact ⟨calm, fun _ admin there => ⟨admin.password, there⟩⟩
  rw [changeAdminPassword, selectAdmin, select, exec_perform_bind] at h
  simp only [handle, calm.find?] at h
  split at h
  · next adminUser w₁ got =>
    split at got
    · cases got
    cases got
    cases found : db.rows .admins username with
    | none =>
      rw [found] at h
      exact idle h
    | some admin =>
      rw [found] at h
      simp only at h
      rw [verifyPassword, exec_perform_bind] at h
      simp only [handle] at h
      split at h
      · exact idle h
      · have rewritten := exec_rewriteAdmin B db username
          (fun model => { model with password := settings.hashPassword newPassword })
          (k := commit >>= fun _ => (pure (.message "Admin password changed successfully.") : Svc (AuthReply τ)))
          (all_bind commit_spares fun _ => trivial) calm
        subst h
        refine ⟨rewritten.calm, fun other admin' there => ?_⟩
        by_cases same : other = username
        · subst same
          rcases rewritten.row admin' there with kept | changed
          · exact ⟨admin'.password, kept⟩
          · exact ⟨_, changed⟩
        · exact ⟨admin'.password, (rewritten.others other same).trans there⟩
  · next e w₁ got =>
    split at got
    · cases got
      exact idle h
    · cases got

end Rows

/-! ## Runs -/

section Runs

variable {τ : Type} {B : Backend} {settings : Settings τ} {logins : LoginSettings} {bank : Bank}

/-- No session has anything pending for an admin. -/
def Bank.Calm (bank : Bank) : Prop := ∀ thread, (bank.sessions thread).Calm

theorem Bank.Calm.serve {α : Type} {p : Svc α} {thread : ℕ} (calm : bank.Calm)
    (ends : (exec (handle B) p (bank.db, bank.sessions thread)).2.2.Calm) : (bank.serve B thread p).2.Calm := by
  intro other
  show (Function.update bank.sessions thread _ other).Calm
  rw [Function.update_apply]
  split
  · exact ends
  · exact calm other

theorem Bank.serve_spares {α : Type} {p : Svc α} (thread : ℕ) (spares : p.All Op.SparesAdmins) (calm : bank.Calm) :
    (bank.serve B thread p).2.Calm ∧ (bank.serve B thread p).2.db.rows .admins = bank.db.rows .admins := by
  obtain ⟨ends, same⟩ := exec_spares (B := B) spares (w := (bank.db, bank.sessions thread)) (calm thread)
  exact ⟨calm.serve ends, same⟩

theorem Fits.proves {v : AuthVisit τ} {admin : AdminRow} {code : String} (carried : v.request.code = some code)
    (fits : Fits settings v.now (decryptTotpSecret settings admin.totpSecret) code) : v.Proves settings admin := by
  obtain ⟨secret, stored, verified⟩ := fits
  exact ⟨secret, code, stored, carried, verified⟩

/-- A request that is no login. -/
theorem Enforced.of_kept {v : AuthVisit τ} {answer : Except Exn (AuthReply τ)} {bank' : Bank}
    (other : ∀ login, v.request ≠ .adminLogin login)
    (kept : ∀ username admin, bank.db.rows .admins username = some admin → admin.totpEnabled = true →
      (∃ admin', bank'.db.rows .admins username = some admin' ∧ admin'.totpEnabled = true ∧
        decryptTotpSecret settings admin'.totpSecret = decryptTotpSecret settings admin.totpSecret) ∨
      v.Proves settings admin) : Enforced settings bank v answer bank' where
  login login _ _ _ here _ _ _ := absurd here (other login)
  kept := kept

/-- A request that leaves the rows of the admins. -/
theorem Enforced.of_same {v : AuthVisit τ} {answer : Except Exn (AuthReply τ)} {bank' : Bank}
    (other : ∀ login, v.request ≠ .adminLogin login) (same : bank'.db.rows .admins = bank.db.rows .admins) :
    Enforced settings bank v answer bank' :=
  .of_kept other fun _ admin there on => .inl ⟨admin, by rw [same, there], on, rfl⟩

/-- **One request.** -/
theorem visit_enforced {v : AuthVisit τ} (calm : bank.Calm) (asked : Asked B settings logins bank v) :
    Enforced settings bank v (bank.visit B settings logins v).1 (bank.visit B settings logins v).2 ∧
      (bank.visit B settings logins v).2.Calm := by
  obtain ⟨request, thread, loop, times, draws, now⟩ := v
  cases request with
  | adminLogin login =>
    obtain ⟨calm', same⟩ := Bank.serve_spares (B := B) thread
      (adminLoginProg_spares settings draws now logins times login) calm
    refine ⟨⟨?_, fun username admin there on => .inl ⟨admin, (congrFun same _).trans there, on, rfl⟩⟩, calm'⟩
    rintro login' admin pair role here there on tokens
    cases here
    obtain ⟨passed, v1⟩ := adminLogin_fits (calm thread) there on tokens
    cases api : login.v2 with
    | true => exact asked api passed admin there on
    | false =>
      obtain ⟨code, carried, fits⟩ := v1 api
      exact Fits.proves carried fits
  | refresh v2 refreshToken =>
    obtain ⟨calm', same⟩ := Bank.serve_spares (B := B) thread
      (refreshTokens_spares settings draws v2 refreshToken) calm
    exact ⟨.of_same (by simp) same, calm'⟩
  | beside prog spares =>
    obtain ⟨calm', same⟩ := Bank.serve_spares (B := B) thread spares calm
    exact ⟨.of_same (by simp) same, calm'⟩
  | totp credentials request =>
    obtain ⟨calm₁, same₁⟩ := Bank.serve_spares (B := B) loop
      (getCurrentAdmin_spares settings draws.decodeNow credentials) calm
    simp only [Bank.visit]
    split
    · next e bank₁ refused =>
      have ends : bank₁ = _ := (congrArg Prod.snd refused).symm
      subst ends
      exact ⟨.of_same (by simp) same₁, calm₁⟩
    · next username bank₁ accepted =>
      have ends : bank₁ = _ := (congrArg Prod.snd accepted).symm
      have there₁ : ∀ other admin, bank.db.rows .admins other = some admin →
          bank₁.db.rows .admins other = some admin := by
        intro other admin there
        rw [ends]
        exact (congrFun same₁ _).trans there
      have calm₂ : bank₁.Calm := by
        rw [ends]
        exact calm₁
      have untouched : ∀ {answer : Except Exn (AuthReply τ)} {bank' : Bank},
          (∀ other admin, bank₁.db.rows .admins other = some admin → ∃ password,
            bank'.db.rows .admins other = some { admin with password }) →
          Enforced settings bank ⟨.totp credentials request, thread, loop, times, draws, now⟩ answer bank' :=
        fun kept => .of_kept (by simp) fun other admin there on => by
          obtain ⟨password, there'⟩ := kept other admin (there₁ other admin there)
          exact .inl ⟨_, there', on, rfl⟩
      cases request with
      | status =>
        obtain ⟨calm', same⟩ := Bank.serve_spares (B := B) (p := TotpRequest.status.prog settings draws now
          username) thread (all_bind (getByUsername_spares settings username) fun _ => trivial) calm₂
        exact ⟨untouched fun other admin there => ⟨admin.password, (congrFun same _).trans there⟩, calm'⟩
      | setup secret =>
        obtain ⟨ends, others⟩ := exec_totpSetup (B := B) settings draws secret username
          (calm₂ thread) rfl
        refine ⟨.of_kept (by simp) fun other admin there on => ?_, calm₂.serve ends⟩
        have elsewhere : other ≠ username := by
          rintro rfl
          have off := asked other admin (congrArg Prod.fst accepted) there
          rw [on] at off
          cases off
        exact .inl ⟨admin, (others other elsewhere).trans (there₁ other admin there), on, rfl⟩
      | verify code =>
        obtain ⟨ends, kept⟩ := exec_totpWithCode (B := B) settings draws now
          "No TOTP secret generated. Call GET /api/admin/2fa/setup first." "Invalid TOTP code. Please try again."
          "Two-factor authentication enabled successfully." id true code username (calm₂ thread) rfl
        refine ⟨.of_kept (by simp) fun other admin there on => ?_, calm₂.serve ends⟩
        rcases kept other admin (there₁ other admin there) with same | fits
        · exact .inl ⟨admin, same, on, rfl⟩
        · exact .inr (Fits.proves rfl fits)
      | disable code =>
        obtain ⟨ends, kept⟩ := exec_totpWithCode (B := B) settings draws now "2FA is not enabled." "Invalid TOTP code."
          "Two-factor authentication disabled." (fun _ => none) false code username (calm₂ thread) rfl
        refine ⟨.of_kept (by simp) fun other admin there on => ?_, calm₂.serve ends⟩
        rcases kept other admin (there₁ other admin there) with same | fits
        · exact .inl ⟨admin, same, on, rfl⟩
        · exact .inr (Fits.proves rfl fits)
      | changePassword currentPassword newPassword =>
        obtain ⟨ends, kept⟩ := exec_changeAdminPassword (B := B) settings currentPassword newPassword _
          (calm₂ thread) rfl
        exact ⟨untouched kept, calm₂.serve ends⟩

/-- **The second factor is enforced** in every run in which the logins of v2 bring the code, and nobody who has a factor
asks for another one. -/
theorem second_factor_enforced (settings : Settings τ) (logins : LoginSettings) (B : Backend) (bank : Bank)
    (clean : bank.Clean) (visits : List (AuthVisit τ)) (asked : AskedRun B settings logins bank visits) :
    EnforcedRun B settings logins bank visits := by
  have calm : bank.Calm := fun thread => .of_nil (by rw [clean thread])
  clear clean
  induction visits generalizing bank with
  | nil => trivial
  | cons v visits ih =>
    obtain ⟨now, later⟩ := asked
    obtain ⟨enforced, calm'⟩ := visit_enforced calm now
    exact ⟨enforced, ih _ later calm'⟩

end Runs

namespace Sample

/-- An admin who has a second factor. -/
def twoFactor : Bank := { doors with
  db := doors.db.set .admins "root" (some ⟨"toor", "admin", some "plain:JBSWY3DPEHPK3PXPJBSWY3DPEHPK3PXP", true⟩) }

/-- A request on the first thread, with the bearer check on the second one. -/
def asks (request : AuthRequest (Payload × String × String)) : AuthVisit (Payload × String × String) :=
  ⟨request, 0, 1, ⟨0, 0⟩, draws, 0⟩

/-- An access token of the admin. -/
def rootToken : Payload × String × String := (payloadOf hs256 "root" "admin" "access" 0 (some 0), "secret", "HS256")

/-- A login of v1 and the end of the factor, with codes. -/
def withCodes : List (AuthVisit (Payload × String × String)) :=
  [asks (.adminLogin ⟨false, "root", "toor", some "492039"⟩), asks (.totp (some rootToken) (.disable "492039"))]

theorem second_factor_enforced_withCodes : EnforcedRun (plain .sqlite) hs256 defaults twoFactor withCodes := by
  refine second_factor_enforced hs256 defaults (plain .sqlite) twoFactor (fun _ => rfl) withCodes ?_
  refine ⟨fun v2 => absurd v2 (by decide), trivial, trivial⟩

/-- Whether an answer is a pair of tokens. -/
def handsOut {τ : Type} : Except Exn (AuthReply τ) → Bool
  | .ok (.tokens ..) => true
  | _ => false

/-- A login of v2 with the right password and no code. -/
def codeless : AuthVisit (Payload × String × String) := asks (.adminLogin ⟨true, "root", "toor", none⟩)

/-- A setup by an admin who has a factor. -/
def anew : AuthVisit (Payload × String × String) := asks (.totp (some rootToken) (.setup "KRSXG5CTMVRXEZLU"))

/-- The one hands out tokens, the other turns the factor off. -/
theorem factor_bypassed :
    ¬EnforcedRun (plain .sqlite) hs256 defaults twoFactor [codeless] ∧
      ¬EnforcedRun (plain .sqlite) hs256 defaults twoFactor [anew] := by
  have tokens : handsOut (twoFactor.visit (plain .sqlite) hs256 defaults codeless).1 = true := by decide +kernel
  have off : ((twoFactor.visit (plain .sqlite) hs256 defaults anew).2.db.rows .admins "root").map AdminRow.totpEnabled =
      some false := by decide +kernel
  constructor
  · intro h
    cases answer : (twoFactor.visit (plain .sqlite) hs256 defaults codeless).1 with
    | error e => simp [handsOut, answer] at tokens
    | ok reply =>
      cases reply with
      | tokens pair role =>
        obtain ⟨_, code, _, carried, _⟩ := h.1.login _ _ _ _ rfl rfl rfl answer
        cases carried
      | totpSetup | totpStatus | message => simp [handsOut, answer] at tokens
  · intro h
    rcases h.1.kept "root" _ rfl rfl with ⟨admin', there, on, _⟩ | ⟨_, code, _, carried, _⟩
    · simp [there, on] at off
    · cases carried

end Sample

end UnionBank.Auth
