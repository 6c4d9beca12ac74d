import UnionBank.Auth.Lockout
import UnionBank.Auth.Tokens

/-!
# Issued secrets and the store

A refresh token is honoured when its row was stored at its issue, and a secret of the second factor is read back when
its column takes the text that is stored.

- `Db.Later`: what becomes of the rows of refresh tokens; `Honoured`, `ReadBack`: the two round trips;
- `StoresToken`, `StoresSecret`: the issue or the update goes through;
- `honoured_iff`, `readBack_iff`, and both together `secrets_survive_iff`.
-/

namespace UnionBank.Auth

open Programs Prog

/-- The rows of refresh tokens go on; they may be marked as revoked. -/
def Db.Later (db db' : Db) : Prop :=
  ∀ tokenId row, db.rows .refreshTokens tokenId = some row →
    ∃ revokedAt, db'.rows .refreshTokens tokenId = some { row with revokedAt }

theorem Db.Later.refl (db : Db) : db.Later db := fun _ row h => ⟨row.revokedAt, h⟩

theorem Db.Later.trans {db db' db'' : Db} (h : db.Later db') (h' : db'.Later db'') : db.Later db'' := by
  intro tokenId row stored
  obtain ⟨revokedAt, stored'⟩ := h tokenId row stored
  obtain ⟨revokedAt', stored''⟩ := h' tokenId _ stored'
  exact ⟨revokedAt', stored''⟩

section RefreshToken

variable {τ : Type} (B : Backend) (settings : Settings τ) (draws : Draws) (subject role : String)

/-- Until it is revoked or expires, the token is accepted for its subject and role. -/
def Honoured (refreshToken : τ) (db : Db) : Prop :=
  ∀ (db' : Db) (s : Session) (now : Time), db.Later db' → s.inactive = false →
    (∀ row, s.find? db' .refreshTokens (settings.hashTokenId draws.refreshTokenId) = some row → row.revokedAt = none) →
    (refreshPayload settings draws subject role).Valid now →
    (exec (handle B) (verifyRefreshToken settings refreshToken now) (db', s)).1 = .ok (some ⟨subject, role⟩)

/-- The issue stores its row: the session is live, what it has pending goes through, and the columns take the row. -/
def StoresToken (db : Db) (s : Session) : Prop :=
  s.inactive = false ∧ (∃ db', flush B.database s.pending db = .ok db') ∧
    B.database.takes 32 (settings.hashTokenId draws.refreshTokenId) = true ∧ B.database.takes 50 subject = true ∧
    B.database.takes 20 role = true

variable {B settings draws subject role} {db : Db} {s : Session}

/-- The answer of a look at a refresh token. -/
theorem exec_verifyRefreshToken (sound : settings.JwtSound) (plain : ':' ∉ draws.refreshTokenId.toList)
    {refreshToken : τ} (encoded : settings.jwt.encode (refreshPayload settings draws subject role) settings.signingKey
      settings.jwtAlgorithm = some refreshToken) {now : Time}
    (valid : (refreshPayload settings draws subject role).Valid now) (live : s.inactive = false) :
    exec (handle B) (verifyRefreshToken settings refreshToken now) (db, s) =
      (.ok ((s.find? db .refreshTokens (settings.hashTokenId draws.refreshTokenId)).bind fun row =>
        if row.revokedAt.isSome then none else some ⟨subject, role⟩), (db, s)) := by
  have decoded := sound.decode encoded valid
  have split := rsplit_append subject draws.refreshTokenId plain
  have select := exec_select B db s .refreshTokens (settings.hashTokenId draws.refreshTokenId)
  rw [live] at select
  unfold verifyRefreshToken
  rw [decoded]
  simp only [refreshPayload, payloadOf, ne_eq, not_true_eq_false, if_false, split, refreshTokenRepo.get,
    selectRefreshToken]
  rw [exec_bind, select]
  cases s.find? db .refreshTokens (settings.hashTokenId draws.refreshTokenId) with
  | none => rfl
  | some row =>
    simp only [Bool.false_eq_true, if_false, Option.bind_some]
    split <;> rfl

variable (subject role) in
/-- A new token is stored as it was issued, or it is not there. -/
theorem persisted_refreshInsert
    (fresh : db.rows .refreshTokens (settings.hashTokenId draws.refreshTokenId) = none)
    (elsewhere : ∀ c ∈ s.pending, c.Elsewhere .refreshTokens (settings.hashTokenId draws.refreshTokenId)) :
    StoresToken B settings draws subject role db s ∧
        (persisted B db s (refreshInsert settings draws subject role)).1.rows .refreshTokens
          (settings.hashTokenId draws.refreshTokenId) = some (refreshRow settings draws subject role) ∨
      ¬StoresToken B settings draws subject role db s ∧
        (persisted B db s (refreshInsert settings draws subject role)).1.rows .refreshTokens
          (settings.hashTokenId draws.refreshTokenId) = none := by
  unfold persisted StoresToken
  cases live : s.inactive with
  | true => simp [fresh]
  | false =>
    cases before : flush B.database s.pending db with
    | error e =>
      have flushed := flush_append_error (c := refreshInsert settings draws subject role) rfl elsewhere before
      simp [flushed, fresh]
    | ok db₁ =>
      have flushed := flush_append_ok (c := refreshInsert settings draws subject role) rfl elsewhere before
      have absent : db₁.rows .refreshTokens (settings.hashTokenId draws.refreshTokenId) = none := by
        rw [flush_elsewhere elsewhere before, fresh]
      have columns : B.database.fits .refreshTokens (settings.hashTokenId draws.refreshTokenId)
          (refreshRow settings draws subject role) = true ↔
          B.database.takes 32 (settings.hashTokenId draws.refreshTokenId) = true ∧ B.database.takes 50 subject = true ∧
            B.database.takes 20 role = true := by
        simp [Database.fits, refreshRow, and_assoc]
      rw [← columns, flushed]
      cases fits : B.database.fits .refreshTokens (settings.hashTokenId draws.refreshTokenId)
          (refreshRow settings draws subject role) with
      | true => simp [refreshInsert, Change.apply, fits, absent, Database.keeps]
      | false => simp [refreshInsert, Change.apply, fits, fresh]

/-- An instant is before the last full second of a later one. -/
theorem lt_of_seconds (now span : ℕ) (h : 1000000 ≤ span) : now < (now + span) / 1000000 * 1000000 := by omega

variable (draws subject role) in
/-- The time of a refresh token is empty only if it lives no day. -/
theorem refreshPayload_valid (lives : settings.refreshTokenExpireDays ≠ 0) :
    (refreshPayload settings draws subject role).Valid draws.refreshNow := by
  have positive : 1 ≤ settings.refreshTokenExpireDays := Nat.one_le_iff_ne_zero.mpr lives
  have span : 1000000 ≤ settings.refreshTokenExpireDays * day :=
    (show 1000000 ≤ day by decide).trans (Nat.le_mul_of_pos_left _ positive)
  constructor
  · exact Nat.div_mul_le_self _ _
  · exact lt_of_seconds draws.refreshNow _ span

theorem refreshPayload_invalid (lives : settings.refreshTokenExpireDays = 0) (now : Time) :
    ¬(refreshPayload settings draws subject role).Valid now := by
  rintro ⟨early, late⟩
  have same : (refreshPayload settings draws subject role).exp = (refreshPayload settings draws subject role).iat := by
    simp [refreshPayload, payloadOf, lifetime, lives]
  rw [same] at late
  exact absurd late (Nat.not_lt.mpr early)

/-- **Refresh tokens**: the token of a pair is honoured if and only if its row was stored. -/
theorem honoured_iff (sound : settings.JwtSound) (plain : ':' ∉ draws.refreshTokenId.toList)
    (fresh : db.rows .refreshTokens (settings.hashTokenId draws.refreshTokenId) = none)
    (elsewhere : ∀ c ∈ s.pending, c.Elsewhere .refreshTokens (settings.hashTokenId draws.refreshTokenId))
    {pair : TokenPair τ} {w : Db × Session}
    (issued : exec (handle B) (createTokenPair settings draws subject role) (db, s) = (.ok pair, w)) :
    Honoured B settings draws subject role pair.refreshToken w.1 ↔
      settings.refreshTokenExpireDays = 0 ∨ StoresToken B settings draws subject role db s := by
  obtain ⟨-, encoded, -, rfl⟩ := createTokenPair_ok B settings draws db s issued
  constructor
  · intro honoured
    by_contra lost
    rw [not_or] at lost
    obtain ⟨lives, lost⟩ := lost
    rcases persisted_refreshInsert (B := B) subject role fresh elsewhere with
      ⟨stores, -⟩ | ⟨-, absent⟩
    · exact lost stores
    · have valid := refreshPayload_valid draws subject role lives
      have unseen : (Session.mk [] false).find? (persisted B db s (refreshInsert settings draws subject role)).1
          .refreshTokens (settings.hashTokenId draws.refreshTokenId) = none := by
        rw [Session.find?_clean]
        exact absent
      have accepted := honoured _ ⟨[], false⟩ _ (Db.Later.refl _) rfl (by simp [unseen]) valid
      rw [exec_verifyRefreshToken sound plain encoded valid rfl, unseen] at accepted
      cases accepted
  · rintro (none | stores) db' s' now later live unrevoked valid
    · exact absurd valid (refreshPayload_invalid none now)
    · rcases persisted_refreshInsert (B := B) subject role fresh elsewhere with
        ⟨-, stored⟩ | ⟨lost, -⟩
      · obtain ⟨revokedAt, stored'⟩ := later _ _ stored
        have seen : ∃ row, s'.find? db' .refreshTokens (settings.hashTokenId draws.refreshTokenId) = some row := by
          have found : db'.find? .refreshTokens (settings.hashTokenId draws.refreshTokenId) = _ := stored'
          unfold Session.find?
          rw [found]
          exact ⟨_, rfl⟩
        obtain ⟨row, seen⟩ := seen
        rw [exec_verifyRefreshToken sound plain encoded valid live, seen]
        simp [unrevoked row seen]
      · exact absurd stores lost

end RefreshToken

/-! ## Secrets of the second factor -/

section TotpSecret

variable {τ : Type} (B : Backend) (settings : Settings τ) (username nonce : String) (secret : Option String)
  (enabled : Bool)

/-- The secret that is read after its update was committed is the one that was written. -/
def ReadBack (db : Db) (s : Session) : Prop :=
  ∃ admin w, exec (handle B) (do
      let _ ← adminRepo.updateTotp settings username nonce secret enabled
      commit
      adminRepo.getByUsername settings username) (db, s) = (.ok (some admin), w) ∧ admin.totpSecret = secret

/-- The update goes through: the session is live, what it has pending goes through, and the column takes the stored
text. -/
def StoresSecret (db : Db) (s : Session) : Prop :=
  s.inactive = false ∧ (∃ db', flush B.database s.pending db = .ok db') ∧
    ∀ stored ∈ encryptTotpSecret settings nonce secret, B.database.takes 32 stored = true

variable {B settings username nonce secret enabled} {db : Db} {s : Session}

/-- A row that no pending change is about is seen as it is stored. -/
theorem Session.own_elsewhere {t : Tab} {key : String} (row : Row t) (h : ∀ c ∈ s.pending, c.Elsewhere t key) :
    s.own t key row = row := by
  unfold Session.own
  generalize s.pending = cs at h
  induction cs with
  | nil => rfl
  | cons c cs ih =>
    have here : Session.changed t key row c = row := by
      cases c with
      | insert | delete => rfl
      | update u key' loaded current =>
        by_cases same : u = t
        · have other : key' ≠ key := fun e => h _ List.mem_cons_self same.symm e.symm
          simp [Session.changed, same, other]
        · simp [Session.changed, same]
    rw [List.foldl_cons, here]
    exact ih fun c' hc => h c' (List.mem_cons_of_mem _ hc)

/-- A stored text decrypts to the secret it was made of. -/
theorem decrypt_encrypt (sound : ∀ fernet ∈ settings.fernet, fernet.Sound) :
    decryptTotpSecret settings (encryptTotpSecret settings nonce secret) = secret := by
  have clear : ∀ text, decryptTotpSecret settings (some ("plain:" ++ text)) = some text := by
    intro text
    have head : ("plain:" ++ text).toList = 'p' :: ("lain:".toList ++ text.toList) := by
      rw [String.toList_append]
      rfl
    unfold decryptTotpSecret
    rw [Option.bind_some, dropPrefix_of_head_ne (show "enc:".toList = 'e' :: "nc:".toList from rfl) head (by decide),
      dropPrefix_append]
  cases secret with
  | none => rfl
  | some text =>
    unfold encryptTotpSecret
    rw [Option.map_some]
    cases cipher : settings.fernet with
    | none => exact clear text
    | some fernet =>
      simp only
      cases encrypted : fernet.encrypt text nonce with
      | none => exact clear text
      | some ciphertext =>
        have back := sound fernet cipher text nonce ciphertext encrypted
        unfold decryptTotpSecret
        rw [Option.bind_some, dropPrefix_append, cipher]
        exact back

/-- The UPDATE of a secret. -/
def totpUpdate (settings : Settings τ) (username nonce : String) (secret : Option String) (enabled : Bool)
    (row : AdminRow) : Change :=
  .update .admins username row
    { row with totpSecret := encryptTotpSecret settings nonce secret, totpEnabled := enabled : AdminRow }

/-- The update and its commit, of an admin that is found. -/
theorem exec_updateTotp {row : AdminRow} (live : s.inactive = false) (found : s.find? db .admins username = some row) :
    exec (handle B) (do
      let _ ← adminRepo.updateTotp settings username nonce secret enabled
      commit
      adminRepo.getByUsername settings username) (db, s) =
    match flush B.database (s.pending ++ [totpUpdate settings username nonce secret enabled row]) db with
      | .ok db' => (.ok ((db'.find? .admins username).map (mapAdmin settings username)), (db', {}))
      | .error e => (.error e, (db, { inactive := true })) := by
  have select := exec_selectAdmin B db s username
  rw [live, found] at select
  unfold adminRepo.updateTotp adminRepo.getByUsername
  have staged := exec_stage B db s (totpUpdate settings username nonce secret enabled row)
  rw [exec_bind, exec_bind, select]
  simp only [Bool.false_eq_true, if_false]
  unfold totpUpdate at staged
  simp only [exec_bind, staged, live, pure_eq, exec_ret, exec_commit, totpUpdate]
  cases flush B.database (s.pending ++ [.update .admins username row
      { row with totpSecret := encryptTotpSecret settings nonce secret, totpEnabled := enabled }]) db with
  | error e => rfl
  | ok db' =>
    simp only [exec_selectAdmin, Bool.false_eq_true, if_false, Session.find?_clean]

/-- **Secrets of the second factor**: what is read is what was written if and only if the update went through. -/
theorem readBack_iff (sound : ∀ fernet ∈ settings.fernet, fernet.Sound) {row : AdminRow}
    (stored : db.rows .admins username = some row) (fits : B.database.fits .admins username row = true)
    (elsewhere : ∀ c ∈ s.pending, c.Elsewhere .admins username) :
    ReadBack B settings username nonce secret enabled db s ↔ StoresSecret B settings nonce secret db s := by
  have found : s.find? db .admins username = some row := by
    have there : db.find? .admins username = some row := stored
    unfold Session.find?
    rw [there, Option.map_some, Session.own_elsewhere row elsewhere]
  unfold ReadBack StoresSecret
  cases live : s.inactive with
  | true =>
    have dead : exec (handle B) (adminRepo.updateTotp settings username nonce secret enabled) (db, s) =
        (.error .pendingRollbackError, (db, s)) := by
      unfold adminRepo.updateTotp
      rw [exec_bind, exec_selectAdmin, live]
      rfl
    rw [exec_bind, dead]
    simp
  | false =>
    rw [exec_updateTotp live found]
    cases before : flush B.database s.pending db with
    | error e =>
      rw [flush_append_error (c := totpUpdate settings username nonce secret enabled row) rfl elsewhere before]
      simp
    | ok db₁ =>
      have there : db₁.rows .admins username = some row := by
        rw [flush_elsewhere elsewhere before, stored]
      have columns : B.database.fits .admins username
          { row with totpSecret := encryptTotpSecret settings nonce secret, totpEnabled := enabled } = true ↔
          ∀ stored ∈ encryptTotpSecret settings nonce secret, B.database.takes 32 stored = true := by
        simp only [Database.fits, Bool.and_eq_true] at fits ⊢
        simp [fits.1.1.1, fits.1.1.2, fits.1.2, Option.all_eq_true]
      rw [flush_append_ok (c := totpUpdate settings username nonce secret enabled row) rfl elsewhere before, ← columns]
      cases takes : B.database.fits .admins username
          { row with totpSecret := encryptTotpSecret settings nonce secret, totpEnabled := enabled } with
      | false => simp [totpUpdate, Change.apply, there, takes]
      | true =>
        have read : (mapAdmin settings username
            { row with totpSecret := encryptTotpSecret settings nonce secret, totpEnabled := enabled }).totpSecret =
            secret := decrypt_encrypt sound
        simp [totpUpdate, Change.apply, there, takes, Database.keeps, Db.find?, read]

end TotpSecret

/-! ## Both round trips -/

/-- **Issued secrets survive storage** exactly where their rows and texts are stored: for every subject, role and
configuration the token of a pair is honoured if and only if its row was stored, or the token never is valid; and a
secret of the second factor is read back if and only if the column takes its stored text. -/
theorem secrets_survive_iff {τ : Type} {B : Backend} {settings : Settings τ} (sound : settings.JwtSound)
    (ciphers : ∀ fernet ∈ settings.fernet, fernet.Sound) :
    (∀ (draws : Draws) (subject role : String) (db : Db) (s : Session) (pair : TokenPair τ) (w : Db × Session),
      ':' ∉ draws.refreshTokenId.toList → db.rows .refreshTokens (settings.hashTokenId draws.refreshTokenId) = none →
      (∀ c ∈ s.pending, c.Elsewhere .refreshTokens (settings.hashTokenId draws.refreshTokenId)) →
      exec (handle B) (createTokenPair settings draws subject role) (db, s) = (.ok pair, w) →
      (Honoured B settings draws subject role pair.refreshToken w.1 ↔
        settings.refreshTokenExpireDays = 0 ∨ StoresToken B settings draws subject role db s)) ∧
    ∀ (username nonce : String) (secret : Option String) (enabled : Bool) (db : Db) (s : Session) (row : AdminRow),
      db.rows .admins username = some row → B.database.fits .admins username row = true →
      (∀ c ∈ s.pending, c.Elsewhere .admins username) →
      (ReadBack B settings username nonce secret enabled db s ↔ StoresSecret B settings nonce secret db s) := by
  constructor
  · intro draws subject role db s pair w plain fresh elsewhere issued
    exact honoured_iff sound plain fresh elsewhere issued
  · intro username nonce secret enabled db s row stored fits elsewhere
    exact readBack_iff ciphers stored fits elsewhere

/-! ## Long texts -/

namespace Sample

/-- Tokens in the clear, with their key and algorithm. -/
def clearJwt : Jwt (Payload × String × String) where
  encode payload key algorithm := some (payload, key, algorithm)
  decode token key algorithms verifyExp now :=
    if token.2.1 ≠ key ∨ token.2.2 ∉ algorithms then .error .invalidTokenError
    else if now < token.1.iat * 1000000 then .error .invalidTokenError
    else if verifyExp = true ∧ token.1.exp * 1000000 ≤ now then .error .expiredSignatureError
    else .ok token.1

/-- The SHA-256 digests of the ids of the examples. -/
def digest : String → String
  | "ref_0123456789abcdef01234567" => "48fbccfa0b0e889f00e51184215137ac75436ad8f326d282da316ae922edd34c"
  | "ref_89abcdef0123456789abcdef" => "1870c4229ccf08d083894af5426e2068f9a56eb038ebb5cb1d4824e64bd0df2a"
  | id => id

/-- The settings of a fresh installation. -/
def hs256 : Settings (Payload × String × String) where
  jwt := clearJwt
  jwtAlgorithm := "HS256"
  jwtSecret := "secret"
  jwtPrivateKey := ""
  jwtPublicKey := ""
  accessTokenExpireMinutes := 15
  refreshTokenExpireDays := 7
  hashTokenId := digest
  fernet := none
  totpVerify secret code _ := some (secret = "JBSWY3DPEHPK3PXPJBSWY3DPEHPK3PXP" ∧ code = "492039")
  hashPassword password := password

theorem hs256_sound : hs256.JwtSound := by
  intro payload token encoded algorithms verifyExp now
  cases encoded
  simp [Settings.signingKey, Settings.verifyingKey, hs256, clearJwt]

def draws : Draws where
  accessNow := 0
  refreshNow := 0
  persistNow := 0
  decodeNow := 0
  revokeNow := 0
  refreshTokenId := "ref_0123456789abcdef01234567"
  nonce := ""

/-- On SQLite the token of a first login is honoured, and a new secret is read back. -/
theorem secrets_survive_sqlite :
    (∃ pair w, exec (handle (plain .sqlite)) (createTokenPair hs256 draws "root" "admin") (doors.db, {}) =
        (.ok pair, w) ∧ Honoured (plain .sqlite) hs256 draws "root" "admin" pair.refreshToken w.1) ∧
      ReadBack (plain .sqlite) hs256 "root" "" (some "JBSWY3DPEHPK3PXPJBSWY3DPEHPK3PXP") true doors.db {} := by
  have survive := secrets_survive_iff (B := plain .sqlite) hs256_sound (by rintro fernet ⟨⟩)
  constructor
  · refine ⟨_, _, rfl, ?_⟩
    refine (survive.1 draws "root" "admin" doors.db {} _ _ (by decide) rfl (by simp) rfl).mpr (.inr ?_)
    exact ⟨rfl, ⟨_, rfl⟩, rfl, rfl, rfl⟩
  · refine (survive.2 "root" "" _ true doors.db {} _ rfl rfl (by simp)).mpr ?_
    exact ⟨rfl, ⟨_, rfl⟩, fun _ _ => rfl⟩

/-- PostgreSQL refuses the 64 digits of the digest, and the error is logged only: the token is refused at once. The 38
characters of a secret in the clear are refused as well. -/
theorem long_texts_lost :
    (∃ pair w, exec (handle (plain .postgresql)) (createTokenPair hs256 draws "root" "admin") (doors.db, {}) =
        (.ok pair, w) ∧ ¬Honoured (plain .postgresql) hs256 draws "root" "admin" pair.refreshToken w.1) ∧
      ¬ReadBack (plain .postgresql) hs256 "root" "" (some "JBSWY3DPEHPK3PXPJBSWY3DPEHPK3PXP") true doors.db {} := by
  constructor
  · refine ⟨_, _, rfl, fun honoured => ?_⟩
    have accepted := honoured _ {} 0 (Db.Later.refl _) rfl (by rintro row ⟨⟩) (by decide)
    cases accepted
  · rintro ⟨admin, w, read, -⟩
    cases read

end Sample

end UnionBank.Auth
