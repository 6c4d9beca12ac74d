import UnionBank.Auth.Session

/-!
# Tokens

The helpers of `entrypoints/api/common.py` and `utils/token_security.py`. What they take from other packages is a
parameter: PyJWT (`Jwt`), Fernet, pyotp and SHA-256.

- `Jwt`, `Fernet`, `Settings`: the packages and the settings; `Draws`: the clock and the random values of a request;
- `rsplit`, `dropPrefix`: the string methods;
- `createToken`, `createTokenPair`, `revokeRefreshToken`, `verifyRefreshToken`: issuing and exchanging tokens;
- `getCurrentCustomer`, `getCurrentAdmin`: the bearer checks;
- `encryptTotpSecret`, `decryptTotpSecret`, `adminRepo`: the secrets of the second factor;
- `Jwt.Sound`, `Fernet.Sound`: what the packages promise.
-/

namespace UnionBank.Auth

open Programs Prog

/-! ## Other packages -/

/-- The claims of a token; its instants are whole seconds. -/
structure Payload where
  sub : String
  role : String
  type : String
  iat : ℕ
  exp : ℕ
  tokenVersion : Option ℕ
deriving DecidableEq, Repr

/-- What PyJWT raises when it decodes. -/
inductive JwtError where
  | expiredSignatureError
  | invalidTokenError
deriving DecidableEq, Repr

/-- PyJWT, over tokens `τ`: `encode` with a key and an algorithm, `none` where it raises, and `decode` with a key and
the algorithms that are allowed, with or without a check of `exp`. -/
structure Jwt (τ : Type) where
  encode : Payload → String → String → Option τ
  decode : τ → String → List String → Bool → Time → Except JwtError Payload

/-- A Fernet cipher; `encrypt` draws on a nonce and raises on a text it cannot encode. -/
structure Fernet where
  encrypt : String → String → Option String
  decrypt : String → Option String

/-- The settings and the packages. -/
structure Settings (τ : Type) where
  jwt : Jwt τ
  jwtAlgorithm : String
  jwtSecret : String
  jwtPrivateKey : String
  jwtPublicKey : String
  accessTokenExpireMinutes : ℕ
  refreshTokenExpireDays : ℕ
  hashTokenId : String → String
  fernet : Option Fernet
  totpVerify : String → String → Time → Option Bool
  hashPassword : String → String

/-- The clock and the random values of a request. -/
structure Draws where
  accessNow : Time
  refreshNow : Time
  persistNow : Time
  decodeNow : Time
  revokeNow : Time
  refreshTokenId : String
  nonce : String

/-! ## Strings -/

/-- `s.rsplit(":", 1)`, of a text with a colon. -/
def rsplit (s : String) : Option (String × String) :=
  if ':' ∈ s.toList then
    let tail := (s.toList.reverse.takeWhile fun c => c ≠ ':').reverse
    some (String.ofList (s.toList.take (s.toList.length - tail.length - 1)), String.ofList tail)
  else none

/-- The text after a prefix, where it is there. -/
def dropPrefix (pre s : String) : Option String :=
  if pre.toList <+: s.toList then some (String.ofList (s.toList.drop pre.toList.length)) else none

/-- A text without colons behind one. -/
theorem rsplit_append (account raw : String) (h : ':' ∉ raw.toList) :
    rsplit (account ++ ":" ++ raw) = some (account, raw) := by
  have tail : ((account ++ ":" ++ raw).toList.reverse.takeWhile fun c => c ≠ ':').reverse = raw.toList := by
    have list : (account ++ ":" ++ raw).toList = account.toList ++ ':' :: raw.toList := by simp
    rw [list, List.reverse_append, List.reverse_cons, List.append_assoc]
    have plain : ∀ c ∈ raw.toList.reverse, (decide (c ≠ ':')) = true := by
      intro c hc
      rw [List.mem_reverse] at hc
      rw [decide_eq_true_eq]
      rintro rfl
      exact h hc
    rw [List.takeWhile_append_of_pos plain]
    simp
  have colon : ':' ∈ (account ++ ":" ++ raw).toList := by simp
  unfold rsplit
  rw [if_pos colon]
  simp only [tail]
  have front : (account ++ ":" ++ raw).toList.take ((account ++ ":" ++ raw).toList.length - raw.toList.length - 1) =
      account.toList := by
    have list : (account ++ ":" ++ raw).toList = account.toList ++ ':' :: raw.toList := by simp
    have length : (account.toList ++ ':' :: raw.toList).length - raw.toList.length - 1 = account.toList.length := by
      rw [List.length_append, List.length_cons]
      omega
    rw [list, length]
    exact List.take_left
  rw [front, String.ofList_toList, String.ofList_toList]

theorem dropPrefix_append (pre s : String) : dropPrefix pre (pre ++ s) = some s := by
  unfold dropPrefix
  simp

theorem dropPrefix_of_head_ne {pre s : String} {c d : Char} {cs ds : List Char} (hp : pre.toList = c :: cs)
    (hs : s.toList = d :: ds) (ne : c ≠ d) : dropPrefix pre s = none := by
  unfold dropPrefix
  rw [hp, hs, if_neg]
  rw [List.cons_prefix_cons]
  exact fun h => ne h.1

/-! ## Tokens -/

/-- A day. -/
def day : Time := 24 * 60 * minute

/-- The seconds of an instant, as a token keeps them. -/
def seconds (now : Time) : ℕ := now / 1000000

section Tokens

variable {τ : Type} (settings : Settings τ) (draws : Draws)

/-- `_get_signing_key`. -/
def Settings.signingKey : String :=
  if settings.jwtAlgorithm = "RS256" ∧ settings.jwtPrivateKey ≠ "" then settings.jwtPrivateKey else settings.jwtSecret

/-- `_get_verifying_key`. -/
def Settings.verifyingKey : String :=
  if settings.jwtAlgorithm = "RS256" ∧ settings.jwtPublicKey ≠ "" then settings.jwtPublicKey else settings.jwtSecret

/-- `_get_token_version`: a lookup that fails gives 0. -/
def getTokenVersion (accNo : String) : Svc ℕ := tryCatch (tokenVersionRepo.getVersion accNo) fun _ => return 0

/-- `jwt.encode` with the configured algorithm. -/
def encode (payload : Payload) : Svc τ :=
  match settings.jwt.encode payload settings.signingKey settings.jwtAlgorithm with
  | some token => return token
  | none => throw .jwtError

/-- How long a token of a type lives. -/
def lifetime (tokenType : String) : Time :=
  if tokenType = "refresh" then settings.refreshTokenExpireDays * day else settings.accessTokenExpireMinutes * minute

/-- The claims of a token. -/
def payloadOf (subject role tokenType : String) (now : Time) (tokenVersion : Option ℕ) : Payload where
  sub := subject
  role := role
  type := tokenType
  iat := seconds now
  exp := seconds (now + lifetime settings tokenType)
  tokenVersion := tokenVersion

/-- Only access tokens carry a version. -/
def createToken (subject role tokenType : String) (now : Time) : Svc τ := do
  if tokenType = "access" then
    let tokenVersion ← getTokenVersion subject
    encode settings (payloadOf settings subject role tokenType now (some tokenVersion))
  else
    encode settings (payloadOf settings subject role tokenType now none)

/-- The answer of `create_token_pair`. -/
structure TokenPair (τ : Type) where
  accessToken : τ
  refreshToken : τ
  refreshTokenId : String
  tokenType : String
  expiresIn : ℕ

/-- The row of a new refresh token. -/
def refreshRow (subject role : String) : RefreshToken where
  accountNumber := subject
  role := role
  expiresAt := draws.persistNow + settings.refreshTokenExpireDays * day
  revokedAt := none

/-- The row is stored under the hash of the id, and committed; whatever is raised there is logged only. -/
def persistRefreshToken (subject role : String) : Svc Unit :=
  tryCatch (do
    refreshTokenRepo.create (settings.hashTokenId draws.refreshTokenId) (refreshRow settings draws subject role)
    commit) fun _ => return ()

def createTokenPair (subject role : String) : Svc (TokenPair τ) := do
  let accessToken ← createToken settings subject role "access" draws.accessNow
  let refreshToken ← createToken settings (subject ++ ":" ++ draws.refreshTokenId) role "refresh" draws.refreshNow
  persistRefreshToken settings draws subject role
  return {
    accessToken, refreshToken, refreshTokenId := draws.refreshTokenId, tokenType := "bearer",
    expiresIn := settings.accessTokenExpireMinutes * 60 }

/-- The row is marked, and nothing is committed; whatever is raised is logged only. -/
def revokeRefreshToken (refreshTokenId : String) (now : Time) : Svc Bool :=
  tryCatch (refreshTokenRepo.revoke (settings.hashTokenId refreshTokenId) now) fun _ => return false

/-- Whom a refresh token is for. -/
structure Identity where
  accountNumber : String
  role : String
deriving DecidableEq

def verifyRefreshToken (refreshToken : τ) (now : Time) : Svc (Option Identity) := do
  match settings.jwt.decode refreshToken settings.verifyingKey [settings.jwtAlgorithm] true now with
  | .error _ => return none
  | .ok payload =>
    if payload.type ≠ "refresh" then
      return none
    match rsplit payload.sub with
    | none => return none
    | some (accountNumber, rawTokenId) =>
      match ← refreshTokenRepo.get (settings.hashTokenId rawTokenId) with
      | none => return none
      | some tokenData =>
        if tokenData.revokedAt.isSome then return none else return some { accountNumber, role := payload.role }

/-! ## Bearer checks -/

def decodeToken (token : τ) (now : Time) : Except Exn Payload :=
  match settings.jwt.decode token settings.verifyingKey [settings.jwtAlgorithm] true now with
  | .ok payload => .ok payload
  | .error .expiredSignatureError => .error (.httpException 401 "Token has expired. Please log in again.")
  | .error .invalidTokenError => .error (.httpException 401 "Invalid token.")

/-- `_check_token_version`: a token without a version counts as version 0. -/
def checkTokenVersion (payload : Payload) : Svc Unit := do
  let currentVersion ← getTokenVersion payload.sub
  if payload.tokenVersion.getD 0 ≠ currentVersion then
    throw (.httpException 401 "Token has been invalidated. Please log in again.")

/-- The customer of a bearer token, and their account. -/
def getCurrentCustomer (credentials : Option τ) (now : Time) : Svc (String × AccountRow) := do
  match credentials with
  | none => throw (.httpException 401 "Not authenticated.")
  | some token =>
    let payload ← Prog.ofExcept (decodeToken settings token now)
    if payload.role ≠ "customer" then
      throw (.httpException 403 "Customer access required.")
    checkTokenVersion payload
    match ← accountRepo.get payload.sub with
    | none => throw (.httpException 401 "Account no longer exists.")
    | some domainAccount => return (payload.sub, domainAccount)

/-- The admin of a bearer token. -/
def getCurrentAdmin (credentials : Option τ) (now : Time) : Svc String := do
  match credentials with
  | none => throw (.httpException 401 "Not authenticated.")
  | some token =>
    let payload ← Prog.ofExcept (decodeToken settings token now)
    if payload.role ≠ "admin" then
      throw (.httpException 403 "Admin access required.")
    checkTokenVersion payload
    return payload.sub

end Tokens

/-! ## Secrets of the second factor -/

section Totp

variable {τ : Type} (settings : Settings τ)

/-- `encrypt_totp_secret`: the text that is stored. -/
def encryptTotpSecret (nonce : String) (secret : Option String) : Option String :=
  secret.map fun secret =>
    match settings.fernet with
    | none => "plain:" ++ secret
    | some fernet =>
      match fernet.encrypt secret nonce with
      | some encrypted => "enc:" ++ encrypted
      | none => "plain:" ++ secret

/-- `decrypt_totp_secret`: text without a prefix is a secret from before the encryption. -/
def decryptTotpSecret (encryptedSecret : Option String) : Option String :=
  encryptedSecret.bind fun stored =>
    match dropPrefix "enc:" stored with
    | some ciphertext => settings.fernet.bind fun fernet => fernet.decrypt ciphertext
    | none =>
      match dropPrefix "plain:" stored with
      | some secret => some secret
      | none => some stored

/-- An admin as a repository hands it out, with the secret decrypted. -/
structure AdminUser where
  username : String
  password : String
  role : String
  totpSecret : Option String
  totpEnabled : Bool
deriving DecidableEq

/-- `map_admin`. -/
def mapAdmin (username : String) (model : AdminRow) : AdminUser where
  username := username
  password := model.password
  role := model.role
  totpSecret := decryptTotpSecret settings model.totpSecret
  totpEnabled := model.totpEnabled

namespace adminRepo

def getByUsername (username : String) : Svc (Option AdminUser) := do
  return (← selectAdmin username).map (mapAdmin settings username)

def updatePassword (username newHashed : String) : Svc Bool := do
  let some model ← selectAdmin username | return false
  stage (.update .admins username model { model with password := newHashed })
  return true

def updateTotp (username nonce : String) (totpSecret : Option String) (totpEnabled : Bool) : Svc Bool := do
  let some model ← selectAdmin username | return false
  stage (.update .admins username model
    { model with totpSecret := encryptTotpSecret settings nonce totpSecret, totpEnabled })
  return true

end adminRepo

end Totp

/-! ## What the packages promise -/

/-- A token that was encoded decodes to its claims, with an algorithm that is allowed, from the second of its issue on
and, where that is checked, before it has expired. -/
def Settings.JwtSound {τ : Type} (settings : Settings τ) : Prop :=
  ∀ payload token, settings.jwt.encode payload settings.signingKey settings.jwtAlgorithm = some token →
    ∀ algorithms verifyExp now, settings.jwt.decode token settings.verifyingKey algorithms verifyExp now =
      if settings.jwtAlgorithm ∉ algorithms then .error .invalidTokenError
      else if now < payload.iat * 1000000 then .error .invalidTokenError
      else if verifyExp = true ∧ payload.exp * 1000000 ≤ now then .error .expiredSignatureError
      else .ok payload

/-- A text that was encrypted decrypts to itself. -/
def Fernet.Sound (fernet : Fernet) : Prop :=
  ∀ secret nonce encrypted, fernet.encrypt secret nonce = some encrypted → fernet.decrypt encrypted = some secret

/-- When a token can be used. -/
def Payload.Valid (payload : Payload) (now : Time) : Prop := payload.iat * 1000000 ≤ now ∧ now < payload.exp * 1000000

instance (payload : Payload) (now : Time) : Decidable (payload.Valid now) := by
  unfold Payload.Valid
  infer_instance

theorem Settings.JwtSound.decode {τ : Type} {settings : Settings τ} (sound : settings.JwtSound) {payload : Payload}
    {token : τ} (encoded : settings.jwt.encode payload settings.signingKey settings.jwtAlgorithm = some token)
    {now : Time} (valid : payload.Valid now) :
    settings.jwt.decode token settings.verifyingKey [settings.jwtAlgorithm] true now = .ok payload := by
  have early : ¬now < payload.iat * 1000000 := Nat.not_lt.mpr valid.1
  have late : ¬payload.exp * 1000000 ≤ now := Nat.not_le.mpr valid.2
  rw [sound payload token encoded]
  simp [early, late]

/-- Outside of its time a token is refused. -/
theorem Settings.JwtSound.refuse {τ : Type} {settings : Settings τ} (sound : settings.JwtSound) {payload : Payload}
    {token : τ} (encoded : settings.jwt.encode payload settings.signingKey settings.jwtAlgorithm = some token)
    {now : Time} (invalid : ¬payload.Valid now) :
    ∃ e, settings.jwt.decode token settings.verifyingKey [settings.jwtAlgorithm] true now = .error e := by
  rw [sound payload token encoded]
  by_cases early : now < payload.iat * 1000000
  · exact ⟨.invalidTokenError, by simp [early]⟩
  · have late : payload.exp * 1000000 ≤ now := by
      by_contra h
      exact invalid ⟨Nat.not_lt.mp early, Nat.not_le.mp h⟩
    exact ⟨.expiredSignatureError, by simp [early, late]⟩

/-! ## Runs -/

section Runs

variable {τ : Type} (B : Backend) (settings : Settings τ) (draws : Draws) (db : Db) (s : Session)

theorem exec_select (t : Tab) (key : String) : exec (handle B) (select t key) (db, s) =
    (if s.inactive then .error .pendingRollbackError else .ok (s.find? db t key), (db, s)) := by
  rw [select, exec_perform]
  simp only [handle]
  split <;> rfl

theorem exec_selectAdmin (username : String) : exec (handle B) (selectAdmin username) (db, s) =
    (if s.inactive then .error .pendingRollbackError else .ok (s.find? db .admins username), (db, s)) :=
  exec_select B db s .admins username

theorem exec_stage (c : Change) : exec (handle B) (stage c) (db, s) =
    (.ok (), (db, { s with pending := s.pending ++ [c] })) := by
  rw [stage, exec_perform]
  rfl

/-- A commit of a live session. -/
theorem exec_commit (p : List Change) : exec (handle B) commit (db, ⟨p, false⟩) =
    match flush B.database p db with
    | .ok db' => (.ok (), (db', {}))
    | .error e => (.error e, (db, { inactive := true })) := by
  rw [commit, exec_perform]
  rfl

/-- The version that a lookup gives: 0 where the session is dead. -/
def versionSeen (accNo : String) : ℕ := if s.inactive then 0 else (s.find? db .tokenVersions accNo).getD 0

theorem exec_getTokenVersion (accNo : String) :
    exec (handle B) (getTokenVersion accNo) (db, s) = (.ok (versionSeen db s accNo), (db, s)) := by
  have select := exec_select B db s .tokenVersions accNo
  unfold getTokenVersion tokenVersionRepo.getVersion selectVersion versionSeen
  rw [tryCatch_eq, exec_bind, exec_attempt, exec_bind, select]
  cases s.inactive <;> rfl

/-- The claims of a new token. -/
def newPayload (subject role tokenType : String) (now : Time) : Payload :=
  payloadOf settings subject role tokenType now (if tokenType = "access" then some (versionSeen db s subject) else none)

theorem exec_encode (payload : Payload) : exec (handle B) (encode settings payload) (db, s) =
    (match settings.jwt.encode payload settings.signingKey settings.jwtAlgorithm with
      | some token => .ok token
      | none => .error .jwtError, (db, s)) := by
  unfold encode
  split <;> rfl

/-- Creating a token leaves the session as it is. -/
theorem exec_createToken (subject role tokenType : String) (now : Time) :
    exec (handle B) (createToken settings subject role tokenType now) (db, s) =
      exec (handle B) (encode settings (newPayload settings db s subject role tokenType now)) (db, s) := by
  unfold createToken newPayload
  split
  · rw [exec_bind, exec_getTokenVersion]
  · rfl

/-- What storing a refresh token leaves. -/
def persisted (c : Change) : Db × Session :=
  if s.inactive then (db, { s with pending := s.pending ++ [c] })
  else match flush B.database (s.pending ++ [c]) db with
    | .ok db' => (db', {})
    | .error _ => (db, { inactive := true })

/-- The INSERT of a new refresh token. -/
def refreshInsert (subject role : String) : Change :=
  .insert .refreshTokens (settings.hashTokenId draws.refreshTokenId) (refreshRow settings draws subject role)

theorem exec_persistRefreshToken (subject role : String) :
    exec (handle B) (persistRefreshToken settings draws subject role) (db, s) =
      (.ok (), persisted B db s (refreshInsert settings draws subject role)) := by
  unfold persistRefreshToken refreshTokenRepo.create stage commit persisted refreshInsert
  rw [tryCatch_eq, exec_bind, exec_attempt, exec_perform_bind]
  simp only [handle, exec_perform]
  cases s.inactive with
  | true => rfl
  | false =>
    simp only [Bool.false_eq_true, if_false]
    cases flush B.database (s.pending ++ [.insert .refreshTokens (settings.hashTokenId draws.refreshTokenId)
      (refreshRow settings draws subject role)]) db <;> rfl

/-- The claims of the tokens of a pair. -/
def accessPayload (subject role : String) (tokenVersion : ℕ) : Payload :=
  payloadOf settings subject role "access" draws.accessNow (some tokenVersion)

def refreshPayload (subject role : String) : Payload :=
  payloadOf settings (subject ++ ":" ++ draws.refreshTokenId) role "refresh" draws.refreshNow none

/-- A pair that is returned, and what it leaves. -/
theorem createTokenPair_ok {subject role : String} {pair : TokenPair τ} {w : Db × Session}
    (issued : exec (handle B) (createTokenPair settings draws subject role) (db, s) = (.ok pair, w)) :
    settings.jwt.encode (accessPayload settings draws subject role (versionSeen db s subject)) settings.signingKey
        settings.jwtAlgorithm = some pair.accessToken ∧
      settings.jwt.encode (refreshPayload settings draws subject role) settings.signingKey settings.jwtAlgorithm =
        some pair.refreshToken ∧
      pair.refreshTokenId = draws.refreshTokenId ∧
      w = persisted B db s (refreshInsert settings draws subject role) := by
  have newAccess : newPayload settings db s subject role "access" draws.accessNow =
      accessPayload settings draws subject role (versionSeen db s subject) := rfl
  have newRefresh : newPayload settings db s (subject ++ ":" ++ draws.refreshTokenId) role "refresh" draws.refreshNow =
      refreshPayload settings draws subject role := rfl
  unfold createTokenPair at issued
  rw [exec_bind, exec_createToken, exec_encode, newAccess] at issued
  cases access : settings.jwt.encode (accessPayload settings draws subject role (versionSeen db s subject))
      settings.signingKey settings.jwtAlgorithm with
  | none =>
    rw [access] at issued
    cases issued
  | some accessToken =>
    rw [access] at issued
    simp only at issued
    rw [exec_bind, exec_createToken, exec_encode, newRefresh] at issued
    cases refresh : settings.jwt.encode (refreshPayload settings draws subject role) settings.signingKey
        settings.jwtAlgorithm with
    | none =>
      rw [refresh] at issued
      cases issued
    | some refreshToken =>
      rw [refresh] at issued
      simp only at issued
      rw [exec_bind, exec_persistRefreshToken] at issued
      cases issued
      exact ⟨rfl, rfl, rfl, rfl⟩

end Runs

end UnionBank.Auth
