import UnionBank.Auth.Secrets

/-!
# Bearer tokens

Which tokens the bearer checks accept: they look at the role, at the version and, for customers, for the account, and
at no time at the type.

- `exec_getCurrentAdmin`, `exec_getCurrentCustomer`: the answers of the checks;
- `Accepted`: one of the checks accepts a token; `Screened`: what keeps a token that is no access token out;
- `only_access_iff`: the checks accept access tokens only where other tokens are screened.
-/

namespace UnionBank.Auth

open Programs Prog

section Bearer

variable {τ : Type} (B : Backend) (settings : Settings τ) (db : Db) (s : Session)

/-- The answer of the version check. -/
theorem exec_checkTokenVersion (payload : Payload) : exec (handle B) (checkTokenVersion payload) (db, s) =
    (if payload.tokenVersion.getD 0 ≠ versionSeen db s payload.sub then
      .error (.httpException 401 "Token has been invalidated. Please log in again.") else .ok (), (db, s)) := by
  unfold checkTokenVersion
  rw [exec_bind, exec_getTokenVersion]
  simp only
  split <;> rfl

variable {settings}

theorem decodeToken_ok {token : τ} {now : Time} {payload : Payload}
    (decoded : settings.jwt.decode token settings.verifyingKey [settings.jwtAlgorithm] true now = .ok payload) :
    decodeToken settings token now = .ok payload := by
  unfold decodeToken
  rw [decoded]

theorem decodeToken_error {token : τ} {now : Time} {e : JwtError}
    (failed : settings.jwt.decode token settings.verifyingKey [settings.jwtAlgorithm] true now = .error e) :
    ∃ e', decodeToken settings token now = .error e' := by
  unfold decodeToken
  rw [failed]
  cases e <;> exact ⟨_, rfl⟩

/-- The answer of the admin check to a token that decodes. -/
theorem exec_getCurrentAdmin {token : τ} {now : Time} {payload : Payload}
    (decoded : decodeToken settings token now = .ok payload) :
    exec (handle B) (getCurrentAdmin settings (some token) now) (db, s) =
      (if payload.role ≠ "admin" then .error (.httpException 403 "Admin access required.")
        else if payload.tokenVersion.getD 0 ≠ versionSeen db s payload.sub then
          .error (.httpException 401 "Token has been invalidated. Please log in again.")
        else .ok payload.sub, (db, s)) := by
  unfold getCurrentAdmin
  simp only [decoded, exec_bind, exec_ofExcept]
  by_cases role : payload.role = "admin"
  · simp only [role, ne_eq, not_true_eq_false, if_false, pure_eq, exec_bind, exec_checkTokenVersion]
    by_cases version : payload.tokenVersion.getD 0 = versionSeen db s payload.sub
    · simp only [version, not_true_eq_false, if_false, exec_ret]
    · simp only [version, not_false_eq_true, if_true]
  · simp only [role, ne_eq, not_false_eq_true, if_true]
    rfl

/-- The answer of the customer check to a token that decodes. -/
theorem exec_getCurrentCustomer {token : τ} {now : Time} {payload : Payload}
    (decoded : decodeToken settings token now = .ok payload) :
    exec (handle B) (getCurrentCustomer settings (some token) now) (db, s) =
      (if payload.role ≠ "customer" then .error (.httpException 403 "Customer access required.")
        else if payload.tokenVersion.getD 0 ≠ versionSeen db s payload.sub then
          .error (.httpException 401 "Token has been invalidated. Please log in again.")
        else if s.inactive then .error .pendingRollbackError
        else match s.find? db .accounts payload.sub with
          | none => .error (.httpException 401 "Account no longer exists.")
          | some account => .ok (payload.sub, account), (db, s)) := by
  have select : exec (handle B) (accountRepo.get payload.sub) (db, s) =
      (if s.inactive then .error .pendingRollbackError else .ok (s.find? db .accounts payload.sub), (db, s)) :=
    exec_select B db s .accounts payload.sub
  unfold getCurrentCustomer
  simp only [decoded, exec_bind, exec_ofExcept]
  by_cases role : payload.role = "customer"
  · simp only [role, ne_eq, not_true_eq_false, if_false, exec_bind, exec_checkTokenVersion]
    by_cases version : payload.tokenVersion.getD 0 = versionSeen db s payload.sub
    · simp only [version, not_true_eq_false, if_false, select]
      cases s.inactive with
      | true => rfl
      | false =>
        simp only [Bool.false_eq_true, if_false]
        cases s.find? db .accounts payload.sub <;> rfl
    · simp only [version, not_false_eq_true, if_true]
  · simp only [role, ne_eq, not_false_eq_true, if_true]
    rfl

/-- A token that does not decode is refused. -/
theorem exec_bearer_error {token : τ} {now : Time} {e : Exn} (failed : decodeToken settings token now = .error e) :
    exec (handle B) (getCurrentAdmin settings (some token) now) (db, s) = (.error e, (db, s)) ∧
      exec (handle B) (getCurrentCustomer settings (some token) now) (db, s) = (.error e, (db, s)) := by
  unfold getCurrentAdmin getCurrentCustomer
  simp only [failed, exec_bind, exec_ofExcept, and_self]

/-- One of the checks accepts the token. -/
def Accepted (settings : Settings τ) (token : τ) (now : Time) : Prop :=
  (∃ username w, exec (handle B) (getCurrentAdmin settings (some token) now) (db, s) = (.ok username, w)) ∨
    ∃ customer w, exec (handle B) (getCurrentCustomer settings (some token) now) (db, s) = (.ok customer, w)

/-- What the checks look at keeps a token without a version out: it cannot be used at this time, its subject has a
version other than 0, its role is another one, or it is a customer's and its subject is not a live account. -/
def Screened (payload : Payload) (now : Time) : Prop :=
  ¬payload.Valid now ∨ versionSeen db s payload.sub ≠ 0 ∨ payload.role ≠ "admin" ∧
    (payload.role = "customer" → s.inactive = true ∨ s.find? db .accounts payload.sub = none)

variable {B db s}

/-- A token without a version is accepted unless it is screened. -/
theorem accepted_iff (sound : settings.JwtSound) {payload : Payload} {token : τ} {now : Time}
    (encoded : settings.jwt.encode payload settings.signingKey settings.jwtAlgorithm = some token)
    (unversioned : payload.tokenVersion = none) :
    Accepted B db s settings token now ↔ ¬Screened db s payload now := by
  unfold Accepted Screened
  by_cases valid : payload.Valid now
  · have decoded := decodeToken_ok (sound.decode encoded valid)
    rw [exec_getCurrentAdmin B db s decoded, exec_getCurrentCustomer B db s decoded, unversioned]
    by_cases version : versionSeen db s payload.sub = 0
    · by_cases admin : payload.role = "admin"
      · simp [valid, version, admin]
      · by_cases customer : payload.role = "customer"
        · cases live : s.inactive with
          | true => simp [valid, version, customer]
          | false => cases s.find? db .accounts payload.sub <;> simp [valid, version, customer]
        · simp [valid, version, admin, customer]
    · have other : ¬0 = versionSeen db s payload.sub := fun e => version e.symm
      by_cases admin : payload.role = "admin"
      · simp [valid, version, admin, other]
      · by_cases customer : payload.role = "customer"
        · simp [valid, version, customer, other]
        · simp [valid, version, admin, customer]
  · obtain ⟨e, failed⟩ := sound.refuse encoded valid
    obtain ⟨e', failed'⟩ := decodeToken_error failed
    have refused := exec_bearer_error B db s failed'
    rw [refused.1, refused.2]
    simp [valid]

/-- A token that was created carries its claims. -/
theorem createToken_ok {B₀ : Backend} {db₀ : Db} {s₀ : Session} {subject role tokenType : String} {created : Time}
    {token : τ} {w : Db × Session}
    (h : exec (handle B₀) (createToken settings subject role tokenType created) (db₀, s₀) = (.ok token, w)) :
    settings.jwt.encode (newPayload settings db₀ s₀ subject role tokenType created) settings.signingKey
      settings.jwtAlgorithm = some token := by
  rw [exec_createToken, exec_encode] at h
  cases encoded : settings.jwt.encode (newPayload settings db₀ s₀ subject role tokenType created) settings.signingKey
      settings.jwtAlgorithm with
  | none =>
    rw [encoded] at h
    cases h
  | some token' =>
    rw [encoded] at h
    cases h
    rfl

/-- **Access tokens only**: whatever token the server has created, at any later time and in any state, the checks accept
it only as an access token if and only if it is one or is screened. -/
theorem only_access_iff (sound : settings.JwtSound) {B₀ : Backend} {db₀ : Db} {s₀ : Session}
    {subject role tokenType : String} {created : Time} {token : τ} {w : Db × Session}
    (h : exec (handle B₀) (createToken settings subject role tokenType created) (db₀, s₀) = (.ok token, w))
    (B : Backend) (db : Db) (s : Session) (now : Time) :
    (Accepted B db s settings token now → tokenType = "access") ↔
      tokenType = "access" ∨ Screened db s (payloadOf settings subject role tokenType created none) now := by
  have encoded := createToken_ok h
  by_cases access : tokenType = "access"
  · simp [access]
  · have claims : newPayload settings db₀ s₀ subject role tokenType created =
        payloadOf settings subject role tokenType created none := by
      unfold newPayload
      rw [if_neg access]
    rw [claims] at encoded
    rw [accepted_iff sound encoded rfl]
    simp [access]

end Bearer

namespace Sample

/-- The refresh token of a customer is refused: no account has its subject for a number. -/
theorem only_access_customer :
    ∃ token w, exec (handle (plain .sqlite)) (createToken hs256 "1001:ref_0123456789abcdef01234567" "customer" "refresh"
      0) (doors.db, {}) = (.ok token, w) ∧ (Accepted (plain .sqlite) doors.db {} hs256 token 0 → "refresh" = "access") := by
  obtain ⟨token, w, created⟩ : ∃ token w, exec (handle (plain .sqlite))
      (createToken hs256 "1001:ref_0123456789abcdef01234567" "customer" "refresh" 0) (doors.db, {}) = (.ok token, w) :=
    ⟨_, _, rfl⟩
  refine ⟨token, w, created, ?_⟩
  exact (only_access_iff hs256_sound created (plain .sqlite) doors.db {} 0).mpr
    (.inr (.inr (.inr ⟨by decide, fun _ => .inr (by decide)⟩)))

/-- The refresh token of an admin is a bearer token, also after it was revoked. -/
theorem admin_refresh_accepted :
    ∃ token w, exec (handle (plain .sqlite)) (createToken hs256 "root:ref_0123456789abcdef01234567" "admin" "refresh" 0)
        (doors.db, {}) = (.ok token, w) ∧ Accepted (plain .sqlite) doors.db {} hs256 token 0 ∧
      Accepted (plain .sqlite) (doors.db.set .refreshTokens (digest "ref_0123456789abcdef01234567")
        (some ⟨"root", "admin", 7 * day, some 0⟩)) {} hs256 token 0 ∧ "refresh" ≠ "access" :=
  ⟨_, _, rfl, .inl ⟨_, _, rfl⟩, .inl ⟨_, _, rfl⟩, by decide⟩

end Sample

end UnionBank.Auth
