import UnionBank.Auth.Bearer
import UnionBank.Auth.Rotation
import UnionBank.Lib.Coupling

/-!
# Versions of access tokens

An access token carries the version that its subject had when it was made, and the bearer checks ask for the version of
now. A password change of v2 raises it, and nothing lowers it while calls come one after another. So no access token
from before such a change lets a customer in after it, whatever is asked for later and whichever database operations
fail on the way (`password_change_final`).

- `ages`: what is known of the versions, whatever the database answers; `Aged`, the stores and sessions it is about;
- `Promised`: what a call makes of the versions and the tokens it hands out, and `wp_call` for every call;
- `Bank.turn`, `Bank.turns`: calls one after another, each with its own failures.
-/

namespace UnionBank.Auth

open Programs Prog

/-- A change of no version. -/
def Change.Versionless (c : Change) : Prop := c.tab ≠ .tokenVersions

theorem usual_versionless : Usual Change.Versionless where
  attempts c tab := by rw [Change.Versionless, tab]; decide
  accounts c tab := by rw [Change.Versionless, tab]; decide
  admins c tab := by rw [Change.Versionless, tab]; decide
  issued _ _ := by rw [Change.Versionless, Change.tab]; decide
  revoked _ _ _ _ := by rw [Change.Versionless, Change.tab]; decide

/-! ## What a call makes of the versions -/

/-- The rows of the versions, the account whose version is about to be raised, and whether the session is known to be
live. -/
structure Ages where
  rows : String → Option ℕ
  raising : Option String := none
  live : Bool := false

/-- The version of an account; one without a row has version 0. -/
def Ages.version (s : Ages) (accNo : String) : ℕ := (s.rows accNo).getD 0

/-- What `increment` stages. -/
def raised (rows : String → Option ℕ) (accNo : String) : Change :=
  match rows accNo with
  | none => .insert .tokenVersions accNo (1 : ℕ)
  | some version => .update .tokenVersions accNo version (version + 1 : ℕ)

/-- The rows once that is committed. -/
def raisedRows (rows : String → Option ℕ) (accNo : String) : String → Option ℕ :=
  Function.update rows accNo (some ((rows accNo).getD 0 + 1))

/-- What is known of the versions: a lookup gives them, and a commit changes the one that was staged or none. -/
def ages : Spec Op.Res Exn Ages
  | .select .tokenVersions key, s, Q =>
    s.raising = none ∧ Q (.ok (s.rows key)) { s with live := true } ∧ ∀ e, Q (.error e) s
  | .select _ _, s, Q => (∀ r, Q (.ok r) { s with live := true }) ∧ ∀ e, Q (.error e) s
  | .stage c, s, Q => s.raising = none ∧ (c.Versionless ∧ Q (.ok ()) s ∨
      s.live = true ∧ ∃ accNo, c = raised s.rows accNo ∧ Q (.ok ()) { s with raising := some accNo })
  | .verifyPassword .., s, Q => ∀ right, Q (.ok right) s
  | .commit, s, Q => Q (.ok ()) { rows := (s.raising.map (raisedRows s.rows)).getD s.rows } ∧
      ∀ e, Q (.error e) { rows := s.rows }
  | .rollback, s, Q => Q (.ok ()) { rows := s.rows }

theorem ages_mono : Spec.Mono ages := by
  intro o s Q Q' weaker h
  match o with
  | .select t key =>
    cases t with
    | tokenVersions => exact ⟨h.1, weaker _ _ h.2.1, fun e => weaker _ _ (h.2.2 e)⟩
    | accounts | admins | loginAttempts | refreshTokens =>
      exact ⟨fun r => weaker _ _ (h.1 r), fun e => weaker _ _ (h.2 e)⟩
  | .stage c =>
    refine ⟨h.1, ?_⟩
    rcases h.2 with ⟨versionless, ok⟩ | ⟨live, accNo, same, ok⟩
    · exact .inl ⟨versionless, weaker _ _ ok⟩
    · exact .inr ⟨live, accNo, same, weaker _ _ ok⟩
  | .verifyPassword .. => exact fun right => weaker _ _ (h right)
  | .commit => exact ⟨weaker _ _ h.1, fun e => weaker _ _ (h.2 e)⟩
  | .rollback => exact weaker _ _ h

/-- A store and a session with these versions. -/
structure Aged (w : Db × Session) (s : Ages) : Prop where
  rows : ∀ accNo, w.1.rows .tokenVersions accNo = s.rows accNo
  live : s.live = true → w.2.inactive = false
  pending : ∃ cs : List Change, (∀ c ∈ cs, c.Versionless) ∧
    w.2.pending = cs ++ (s.raising.map (raised s.rows)).toList
  raising : s.raising.isSome = true → w.2.inactive = false

section Handler

variable {B : Backend} {w : Db × Session} {s : Ages}

theorem Aged.versionless (aged : Aged w s) (idle : s.raising = none) : ∀ c ∈ w.2.pending, c.Versionless := by
  obtain ⟨cs, versionless, same⟩ := aged.pending
  rw [same, idle]
  simpa using versionless

theorem Aged.of_versionless {rows : String → Option ℕ} {live : Bool}
    (same : ∀ accNo, w.1.rows .tokenVersions accNo = rows accNo) (isLive : live = true → w.2.inactive = false)
    (versionless : ∀ c ∈ w.2.pending, c.Versionless) : Aged w ⟨rows, none, live⟩ :=
  ⟨same, isLive, ⟨w.2.pending, versionless, by simp⟩, by simp⟩

theorem Change.Versionless.elsewhere {c : Change} (versionless : c.Versionless) (accNo : String) :
    c.Elsewhere .tokenVersions accNo := fun same => absurd same.symm versionless

/-- Committing a raised version. -/
theorem flush_raised {cs : List Change} (versionless : ∀ c ∈ cs, c.Versionless) {db db' : Db} {rows : String → Option ℕ}
    (same : ∀ accNo, db.rows .tokenVersions accNo = rows accNo) {accNo : String}
    (flushed : flush B.database (cs ++ [raised rows accNo]) db = .ok db') (other : String) :
    db'.rows .tokenVersions other = raisedRows rows accNo other := by
  have tab : (raised rows accNo).tab = .tokenVersions := by unfold raised; split <;> rfl
  have key : (raised rows accNo).key = accNo := by unfold raised; split <;> rfl
  have writes : (raised rows accNo).isDelete = false := by unfold raised; split <;> rfl
  have elsewhere : ∀ d ∈ cs, d.Elsewhere (raised rows accNo).tab (raised rows accNo).key := by
    intro d hd
    rw [tab]
    exact (versionless d hd).elsewhere _
  rw [flush_append _ writes elsewhere] at flushed
  cases first : flush B.database cs db with
  | error e =>
    rw [first] at flushed
    cases flushed
  | ok db₁ =>
    rw [first] at flushed
    replace flushed : (raised rows accNo).apply B.database db₁ = .ok db' := flushed
    have kept : ∀ accNo, db₁.rows .tokenVersions accNo = rows accNo := fun accNo => by
      rw [flush_elsewhere (fun d hd => (versionless d hd).elsewhere accNo) first, same]
    unfold raisedRows
    by_cases here : other = accNo
    · subst here
      rw [Function.update_self]
      unfold raised at flushed
      cases row : rows other with
      | none =>
        simp only [row, Change.apply, kept, Option.isSome_none, Bool.false_eq_true, if_false] at flushed
        split at flushed
        · cases flushed
        · cases flushed
          exact Db.set_self ..
      | some version =>
        simp only [row, Change.apply, kept, merge_loaded] at flushed
        split at flushed
        · cases flushed
        · cases flushed
          exact Db.set_self ..
    · rw [Function.update_of_ne here, ← kept]
      refine Change.apply_elsewhere ?_ flushed
      intro _
      rw [key]
      exact here

theorem handle_aged : Handler.Keeps (handle B) ages Aged := by
  rintro o ⟨db, p, inactive⟩ ⟨rows, raising, live⟩ Q aged obeys
  cases o with
  | select t key =>
    cases inactive with
    | true =>
      refine ⟨⟨rows, raising, live⟩, aged, ?_⟩
      cases t with
      | tokenVersions => exact obeys.2.2 _
      | accounts | admins | loginAttempts | refreshTokens => exact obeys.2 _
    | false =>
      refine ⟨⟨rows, raising, true⟩, ⟨aged.rows, fun _ => rfl, aged.pending, aged.raising⟩, ?_⟩
      cases t with
      | tokenVersions =>
        obtain ⟨idle, ok, -⟩ := obeys
        have found : Session.find? ⟨p, false⟩ db .tokenVersions key = rows key := by
          show (db.rows .tokenVersions key).map _ = _
          rw [aged.rows]
          dsimp only
          cases rows key with
          | none => rfl
          | some version =>
            exact congrArg some (Session.own_elsewhere version fun c hc => (aged.versionless idle c hc).elsewhere key)
        simp only [handle, Bool.false_eq_true, if_false, found]
        exact ok
      | accounts | admins | loginAttempts | refreshTokens => exact obeys.1 _
  | stage c =>
    obtain ⟨idle, ⟨versionless, ok⟩ | ⟨isLive, accNo, rfl, ok⟩⟩ := obeys
    · dsimp only at idle
      subst idle
      refine ⟨⟨rows, none, live⟩, .of_versionless aged.rows aged.live fun d hd => ?_, ok⟩
      rcases List.mem_append.mp hd with hd | hd
      · exact aged.versionless rfl d hd
      · rw [List.mem_singleton.mp hd]
        exact versionless
    · dsimp only at idle isLive
      subst idle
      refine ⟨⟨rows, some accNo, live⟩, ⟨aged.rows, aged.live, ⟨p, aged.versionless rfl, rfl⟩, fun _ => ?_⟩, ok⟩
      exact aged.live isLive
  | verifyPassword plain hashed => exact ⟨_, aged, obeys _⟩
  | commit =>
    cases inactive with
    | true =>
      refine ⟨⟨rows, none, false⟩, .of_versionless aged.rows (by simp) (aged.versionless ?_), obeys.2 _⟩
      cases raising with
      | none => rfl
      | some accNo => cases aged.raising rfl
    | false =>
      obtain ⟨cs, versionless, same⟩ := aged.pending
      dsimp only at same
      subst same
      simp only [handle, Bool.false_eq_true, if_false]
      cases flushed : flush B.database (cs ++ (raising.map (raised rows)).toList) db with
      | error e => exact ⟨⟨rows, none, false⟩, .of_versionless aged.rows (by simp) (by simp), obeys.2 _⟩
      | ok db' =>
        refine ⟨⟨(raising.map (raisedRows rows)).getD rows, none, false⟩, .of_versionless (fun other => ?_) (by simp)
          (by simp), obeys.1⟩
        cases raising with
        | none =>
          rw [Option.map_none, Option.toList_none, List.append_nil] at flushed
          exact (flush_elsewhere (fun d hd => (versionless d hd).elsewhere other) flushed).trans (aged.rows other)
        | some accNo => exact flush_raised versionless aged.rows flushed other
  | rollback => exact ⟨⟨rows, none, false⟩, .of_versionless aged.rows (by simp) (by simp [handle]), obeys⟩

theorem failed_aged : Strikes failed ages (fun o => o.fallible = true) Aged Aged := by
  rintro o ⟨db, p, inactive⟩ ⟨rows, raising, live⟩ Q e fallible aged obeys
  cases o with
  | select t key =>
    refine ⟨_, aged, ?_⟩
    cases t with
    | tokenVersions => exact obeys.2.2 e
    | accounts | admins | loginAttempts | refreshTokens => exact obeys.2 e
  | commit => exact ⟨⟨rows, none, false⟩, .of_versionless aged.rows (by simp) (by simp [failed]), obeys.2 e⟩
  | stage | verifyPassword | rollback => cases fallible

end Handler

/-! ## Every call -/

section Calls

variable {τ α β : Type} {rows : String → Option ℕ}

/-- A program that stages no version leaves the rows as they are. -/
theorem wp_usual {p : Svc α} (spares : Spares Change.Versionless p) {Q : Except Exn α → Ages → Prop}
    (ends : ∀ r live, Q r ⟨rows, none, live⟩) (live : Bool) : wp ages p Q ⟨rows, none, live⟩ := by
  induction p generalizing live with
  | ret | raise => exact ends _ _
  | call o k ih =>
    obtain ⟨here, later⟩ := spares
    cases o with
    | select t key =>
      cases t with
      | tokenVersions => exact ⟨rfl, ih _ (later _) true, fun e => ih _ (later _) live⟩
      | accounts | admins | loginAttempts | refreshTokens =>
        exact ⟨fun r => ih _ (later _) true, fun e => ih _ (later _) live⟩
    | stage c => exact ⟨rfl, .inl ⟨here, ih _ (later _) live⟩⟩
    | verifyPassword => exact fun right => ih _ (later _) live
    | commit => exact ⟨ih _ (later _) false, fun e => ih _ (later _) false⟩
    | rollback => exact ih _ (later _) false

/-- Such a program, and what comes after it. -/
theorem wp_usual_bind {p : Svc α} {f : α → Svc β} (spares : Spares Change.Versionless p)
    {Q : Except Exn β → Ages → Prop} (raises : ∀ e live, Q (.error e) ⟨rows, none, live⟩)
    (rest : ∀ a live, wp ages (f a) Q ⟨rows, none, live⟩) (live : Bool) : wp ages (p >>= f) Q ⟨rows, none, live⟩ := by
  rw [wp_bind]
  refine wp_usual spares (fun r live => ?_) live
  cases r with
  | ok a => exact rest a live
  | error e => exact raises e live

variable (settings : Settings τ)

/-- An access token that was made when its subject had at most the version it has now. -/
def Issued (version : String → ℕ) (token : τ) : Prop :=
  ∃ (draws : Draws) (subject role : String) (v : ℕ), v ≤ version subject ∧
    settings.jwt.encode (accessPayload settings draws subject role v) settings.signingKey settings.jwtAlgorithm =
      some token

theorem Issued.mono {settings : Settings τ} {version version' : String → ℕ} {token : τ}
    (issued : Issued settings version token) (later : ∀ accNo, version accNo ≤ version' accNo) :
    Issued settings version' token := by
  obtain ⟨draws, subject, role, v, old, encoded⟩ := issued
  exact ⟨draws, subject, role, v, old.trans (later subject), encoded⟩

/-- A new pair carries the version of now, or 0 where the lookup fails. -/
theorem wp_createTokenPair (draws : Draws) (subject role : String) {Q : Except Exn (TokenPair τ) → Ages → Prop}
    (raises : ∀ e live, Q (.error e) ⟨rows, none, live⟩)
    (ends : ∀ pair live, Issued settings (fun accNo => (rows accNo).getD 0) pair.accessToken →
      Q (.ok pair) ⟨rows, none, live⟩) (live : Bool) :
    wp ages (createTokenPair settings draws subject role) Q ⟨rows, none, live⟩ := by
  have finish : ∀ v, v ≤ (rows subject).getD 0 → ∀ live, wp ages
      (encode settings (accessPayload settings draws subject role v))
      (andThen ages (fun accessToken => do
        let refreshToken ← createToken settings (subject ++ ":" ++ draws.refreshTokenId) role "refresh" draws.refreshNow
        persistRefreshToken settings draws subject role
        return ({
          accessToken, refreshToken, refreshTokenId := draws.refreshTokenId, tokenType := "bearer",
          expiresIn := settings.accessTokenExpireMinutes * 60 } : TokenPair τ)) Q) ⟨rows, none, live⟩ := by
    intro v old live
    unfold encode
    split
    · next accessToken encoded =>
      show wp ages _ Q ⟨rows, none, live⟩
      refine wp_usual_bind ?_ raises (fun refreshToken live => ?_) live
      · rw [createToken, if_neg (by decide), encode]
        split <;> trivial
      · refine wp_usual_bind ?_ raises (fun _ live => ?_) live
        · exact all_tryCatch (all_bind (stage_writes (usual_versionless.issued _ _)) fun _ => commit_writes)
            fun _ => trivial
        · exact ends _ live ⟨draws, subject, role, v, old, encoded⟩
    · exact raises _ _
  unfold createTokenPair
  rw [wp_bind, createToken, if_pos rfl, wp_bind, getTokenVersion, wp_tryCatch]
  unfold tokenVersionRepo.getVersion selectVersion select
  rw [wp_bind, wp_perform]
  exact ⟨rfl, finish _ le_rfl true, fun e => finish 0 (Nat.zero_le _) live⟩

/-- What a call makes of the versions of the store, and of the tokens it hands out. -/
structure Promised (call : AuthCall τ) (rows : String → Option ℕ) (r : Except Exn (AuthReply τ)) (s : Ages) : Prop where
  idle : s.raising = none
  later : ∀ accNo, (rows accNo).getD 0 ≤ s.version accNo
  tokens : ∀ pair role, r = .ok (.tokens pair role) → Issued settings s.version pair.accessToken
  changed : ∀ accNo currentPwd newPwd reply, call = .v2ChangePassword accNo currentPwd newPwd → r = .ok reply →
    (rows accNo).getD 0 < s.version accNo

variable {settings} {call : AuthCall τ}

theorem Promised.error (e : Exn) (live : Bool) : Promised settings call rows (.error e) ⟨rows, none, live⟩ where
  idle := rfl
  later _ := le_rfl
  tokens := by rintro pair role ⟨⟩
  changed := by rintro accNo currentPwd newPwd reply - ⟨⟩

/-- A call that raises no version and hands out no tokens. -/
theorem Promised.of_quiet {r : Except Exn (AuthReply τ)} (raises : call.raisesVersion = false)
    (quiet : ∀ pair role, r ≠ .ok (.tokens pair role)) (live : Bool) :
    Promised settings call rows r ⟨rows, none, live⟩ where
  idle := rfl
  later _ := le_rfl
  tokens pair role same := absurd same (quiet pair role)
  changed := by
    rintro accNo currentPwd newPwd reply rfl
    cases raises

/-- A pair, at the end of a call. -/
theorem wp_tokens (raises : call.raisesVersion = false) (draws : Draws) (subject role : String) (live : Bool) :
    wp ages (do return .tokens (← createTokenPair settings draws subject role) role)
      (Promised settings call rows) ⟨rows, none, live⟩ := by
  rw [wp_bind]
  refine wp_createTokenPair settings draws subject role Promised.error (fun pair live issued => ?_) live
  refine ⟨rfl, fun _ => le_rfl, ?_, ?_⟩
  · rintro _ _ ⟨⟩
    exact issued
  · rintro accNo currentPwd newPwd reply rfl
    cases raises

theorem wp_v2ChangePassword (accNo currentPwd newPwd : String) (live : Bool) :
    wp ages (v2ChangePassword settings accNo currentPwd newPwd)
      (Promised settings (.v2ChangePassword accNo currentPwd newPwd) rows) ⟨rows, none, live⟩ := by
  unfold v2ChangePassword
  refine wp_usual_bind (select_writes ..) Promised.error (fun account live => ?_) live
  cases account with
  | none => exact .error _ _
  | some account =>
    refine wp_usual_bind (verifyPassword_writes ..) Promised.error (fun right live => ?_) live
    split
    · exact .error _ _
    refine wp_usual_bind (updatePassword_spares usual_versionless ..) Promised.error (fun _ live => ?_) live
    unfold tokenVersionRepo.increment selectVersion select stage commit
    have ends : wp ages (do perform Op.commit; return AuthReply.message "Password changed successfully.")
        (Promised settings (.v2ChangePassword accNo currentPwd newPwd) rows) ⟨rows, some accNo, true⟩ := by
      rw [wp_bind, wp_perform]
      refine ⟨⟨rfl, fun other => ?_, by rintro _ _ ⟨⟩, ?_⟩, fun e => .error e false⟩
      · by_cases here : other = accNo
        · simp [Ages.version, raisedRows, here]
        · simp [Ages.version, raisedRows, here]
      · rintro _ _ _ _ ⟨⟩ -
        simp [Ages.version, raisedRows]
    rw [wp_bind, wp_bind, wp_perform]
    refine ⟨rfl, ?_, fun e => .error e live⟩
    rw [andThen_ok]
    dsimp only
    cases row : rows accNo with
    | none =>
      dsimp only
      rw [wp_bind, wp_perform]
      exact ⟨rfl, .inr ⟨rfl, accNo, by simp [raised, row], ends⟩⟩
    | some version =>
      dsimp only
      rw [wp_bind, wp_perform]
      exact ⟨rfl, .inr ⟨rfl, accNo, by simp [raised, row], ends⟩⟩

/-- A call that hands out no tokens and raises no version. -/
theorem wp_quiet {p : Svc α} {f : α → AuthReply τ} (spares : Spares Change.Versionless p)
    (raises : call.raisesVersion = false) (quiet : ∀ a pair role, f a ≠ .tokens pair role) (live : Bool) :
    wp ages (do return f (← p)) (Promised settings call rows) ⟨rows, none, live⟩ := by
  refine wp_usual_bind spares Promised.error (fun a live => ?_) live
  exact .of_quiet raises (fun pair role same => quiet a pair role (Except.ok.inj same)) live

theorem byUsername_spares (username : String) : Spares Change.Versionless (adminRepo.getByUsername settings username) :=
  all_bind (select_writes ..) fun _ => trivial

/-- A message. -/
theorem promised_message (raises : call.raisesVersion = false) (text : String) (live : Bool) :
    Promised settings call rows (.ok (.message text)) ⟨rows, none, live⟩ :=
  .of_quiet raises (by rintro pair role ⟨⟩) live

theorem wp_totp (draws : Draws) (now : Time) (username : String) (request : TotpRequest) (live : Bool) :
    wp ages (request.prog settings draws now username) (Promised settings (.totp username request) rows)
      ⟨rows, none, live⟩ := by
  have withCode : ∀ missing invalid done (stored : Option String → Option String) enabled code live,
      wp ages (totpWithCode settings draws now missing invalid done stored enabled code username)
        (Promised settings (.totp username request) rows) ⟨rows, none, live⟩ := by
    intro missing invalid done stored enabled code live
    refine wp_usual_bind (byUsername_spares _) Promised.error (fun adminUser live => ?_) live
    cases adminUser with
    | none => exact .error _ _
    | some adminUser =>
      dsimp only
      split
      · exact .error _ _
      refine wp_usual_bind (verifyTotp_rotates ..) Promised.error (fun valid live => ?_) live
      split
      · exact .error _ _
      refine wp_usual_bind (updateTotp_spares usual_versionless ..) Promised.error (fun _ live => ?_) live
      refine wp_usual_bind commit_writes Promised.error (fun _ live => ?_) live
      exact promised_message rfl _ live
  cases request with
  | status => exact wp_quiet (byUsername_spares _) rfl (by rintro a pair role ⟨⟩) live
  | setup secret =>
    refine wp_usual_bind (byUsername_spares _) Promised.error (fun adminUser live => ?_) live
    cases adminUser with
    | none => exact .of_quiet rfl (by rintro pair role ⟨⟩) live
    | some adminUser =>
      refine wp_usual_bind (updateTotp_spares usual_versionless ..) Promised.error (fun _ live => ?_) live
      refine wp_usual_bind commit_writes Promised.error (fun _ live => ?_) live
      exact .of_quiet rfl (by rintro pair role ⟨⟩) live
  | verify code =>
    exact withCode "No TOTP secret generated. Call GET /api/admin/2fa/setup first."
      "Invalid TOTP code. Please try again." "Two-factor authentication enabled successfully." id true code live
  | disable code =>
    exact withCode "2FA is not enabled." "Invalid TOTP code." "Two-factor authentication disabled." (fun _ => none)
      false code live
  | changePassword currentPassword newPassword =>
    unfold TotpRequest.prog
    generalize (if username = "" then "admin" else username) = name
    refine wp_usual_bind (select_writes ..) Promised.error (fun admin live => ?_) live
    cases admin with
    | none => exact .error _ _
    | some admin =>
      refine wp_usual_bind (verifyPassword_writes ..) Promised.error (fun right live => ?_) live
      dsimp only
      split
      · exact .error _ _
      refine wp_usual_bind (all_bind (select_writes ..) fun model => ?_) Promised.error (fun _ live => ?_) live
      · cases model with
        | none => trivial
        | some model => exact all_bind (stage_writes (usual_versionless.admins _ rfl)) fun _ => trivial
      refine wp_usual_bind commit_writes Promised.error (fun _ live => ?_) live
      refine wp_usual_bind commit_writes Promised.error (fun _ live => ?_) live
      exact promised_message rfl _ live

theorem wp_changePassword (checks : Checks) (accNo currentPassword newPassword confirmPassword : String) (live : Bool) :
    wp ages (changePassword settings checks accNo currentPassword newPassword confirmPassword)
      (Promised settings (.changePassword accNo currentPassword newPassword confirmPassword) rows)
      ⟨rows, none, live⟩ := by
  refine wp_usual_bind (select_writes ..) Promised.error (fun account live => ?_) live
  cases account with
  | none => exact .error _ _
  | some account =>
    refine wp_usual_bind (verifyPassword_writes ..) Promised.error (fun right live => ?_) live
    dsimp only
    split
    · exact .error _ _
    split
    · exact .error _ _
    split
    · exact .error _ _
    refine wp_usual_bind (updatePassword_spares usual_versionless ..) Promised.error (fun _ live => ?_) live
    refine wp_usual_bind commit_writes Promised.error (fun _ live => ?_) live
    exact promised_message rfl _ live

/-- **Every call** keeps the versions, but for the password change of v2, which raises one. -/
theorem wp_call (logins : LoginSettings) (checks : Checks) (times : LoginTimes) (draws : Draws) (now : Time)
    (call : AuthCall τ) (live : Bool) :
    wp ages (call.prog settings logins checks times draws now) (Promised settings call rows) ⟨rows, none, live⟩ := by
  have usual := usual_versionless
  cases call with
  | adminLogin login =>
    refine wp_usual_bind (passwordStep_rotates usual ..) Promised.error (fun _ live => ?_) live
    dsimp only
    split
    · refine wp_usual_bind (byUsername_spares _) Promised.error (fun adminUser live => ?_) live
      refine wp_usual_bind (codeStep_rotates ..) Promised.error (fun _ live => ?_) live
      exact wp_tokens rfl ..
    · exact wp_tokens rfl ..
  | customerLogin accNo password =>
    refine wp_usual_bind (customerLogin_writes usual.attempts ..) Promised.error (fun result live => ?_) live
    dsimp only
    split
    · exact .error _ _
    · exact wp_tokens rfl ..
  | refresh v2 refreshToken =>
    cases refreshToken with
    | none => exact .error _ _
    | some token =>
      refine wp_usual_bind (verifyRefreshToken_rotates token) Promised.error (fun identity live => ?_) live
      cases identity with
      | none => exact .error _ _
      | some identity =>
        refine wp_usual_bind (revokeOld_spares' usual ..) Promised.error (fun _ live => ?_) live
        exact wp_tokens rfl ..
  | bearerAdmin credentials => exact wp_quiet (getCurrentAdmin_rotates _) rfl (by rintro a pair role ⟨⟩) live
  | bearerCustomer credentials => exact wp_quiet (getCurrentCustomer_spares _) rfl (by rintro a pair role ⟨⟩) live
  | totp username request => exact wp_totp ..
  | changePassword accNo currentPassword newPassword confirmPassword => exact wp_changePassword ..
  | v2ChangePassword accNo currentPwd newPwd => exact wp_v2ChangePassword ..

end Calls

/-! ## Calls one after another -/

/-- A call, the thread that serves it, and which of its database operations fail. -/
structure Turn (τ : Type) where
  call : AuthCall τ
  thread : ℕ
  times : LoginTimes
  draws : Draws
  now : Time
  faults : List (Option Exn)

namespace Bank

variable {τ : Type} (B : Backend) (settings : Settings τ) (logins : LoginSettings) (checks : Checks)

/-- A turn: the answer, and the bank after it. -/
def turn (bank : Bank) (t : Turn τ) : Except Exn (AuthReply τ) × Bank :=
  let (r, (db, s), _) := exec (struckBy (handle B) failed Op.fallible)
    (t.call.prog settings logins checks t.times t.draws t.now) ((bank.db, bank.sessions t.thread), t.faults)
  (r, { db, sessions := Function.update bank.sessions t.thread s })

def turns (bank : Bank) : List (Turn τ) → Bank
  | [] => bank
  | t :: ts => turns (bank.turn B settings logins checks t).2 ts

/-- The answers. -/
def answers (bank : Bank) : List (Turn τ) → List (Except Exn (AuthReply τ))
  | [] => []
  | t :: ts => (bank.turn B settings logins checks t).1 :: answers (bank.turn B settings logins checks t).2 ts

/-- The version of an account. -/
def version (bank : Bank) (accNo : String) : ℕ := (bank.db.rows .tokenVersions accNo).getD 0

/-- No session is about to change a version. -/
def Settled (bank : Bank) : Prop := ∀ thread, ∀ c ∈ (bank.sessions thread).pending, c.Versionless

end Bank

section Runs

variable {τ : Type} {B : Backend} {settings : Settings τ} {logins : LoginSettings} {checks : Checks} {bank : Bank}

/-- One turn. -/
theorem turn_promised (settled : bank.Settled) (t : Turn τ) :
    (bank.turn B settings logins checks t).2.Settled ∧ ∃ s : Ages,
      Promised settings t.call (bank.db.rows .tokenVersions) (bank.turn B settings logins checks t).1 s ∧
        ∀ accNo, (bank.turn B settings logins checks t).2.version accNo = s.version accNo := by
  have start : Aged (bank.db, bank.sessions t.thread) ⟨bank.db.rows .tokenVersions, none, false⟩ :=
    .of_versionless (fun _ => rfl) (by simp) (settled t.thread)
  obtain ⟨s, aged, promised⟩ := exec_of_wp_struckBy handle_aged failed_aged start
    (wp_call logins checks t.times t.draws t.now t.call false) t.faults
  refine ⟨fun thread c hc => ?_, s, promised, fun accNo => congrArg (Option.getD · 0) (aged.rows accNo)⟩
  by_cases same : thread = t.thread
  · subst same
    refine aged.versionless promised.idle c ?_
    simpa [Bank.turn] using hc
  · refine settled thread c ?_
    simpa [Bank.turn, Function.update_of_ne same] using hc

theorem turns_settled (settled : bank.Settled) (ts : List (Turn τ)) :
    (bank.turns B settings logins checks ts).Settled ∧
      ∀ accNo, bank.version accNo ≤ (bank.turns B settings logins checks ts).version accNo := by
  induction ts generalizing bank with
  | nil => exact ⟨settled, fun _ => le_rfl⟩
  | cons t ts ih =>
    obtain ⟨settled', s, promised, same⟩ := turn_promised settled t
    obtain ⟨ends, later⟩ := ih settled'
    refine ⟨ends, fun accNo => le_trans ?_ (later accNo)⟩
    rw [same]
    exact promised.later accNo

theorem turns_append (bank : Bank) (ts ts' : List (Turn τ)) : bank.turns B settings logins checks (ts ++ ts') =
    (bank.turns B settings logins checks ts).turns B settings logins checks ts' := by
  induction ts generalizing bank with
  | nil => rfl
  | cons t ts ih => exact ih _

/-- The tokens of a run are no newer than its end. -/
theorem issued_of_answers (settled : bank.Settled) {ts : List (Turn τ)} {pair : TokenPair τ} {role : String}
    (handed : .ok (.tokens pair role) ∈ bank.answers B settings logins checks ts) :
    Issued settings (bank.turns B settings logins checks ts).version pair.accessToken := by
  induction ts generalizing bank with
  | nil => cases handed
  | cons t ts ih =>
    obtain ⟨settled', s, promised, same⟩ := turn_promised settled t
    rcases List.mem_cons.mp handed with here | later
    · refine (promised.tokens pair role here.symm).mono fun accNo => ?_
      rw [← same]
      exact (turns_settled settled' ts).2 accNo
    · exact ih settled' later

/-- Whoever is let in with an access token is its subject, and the token is of the version of now. -/
theorem accepted_version (sound : settings.JwtSound) (settled : bank.Settled) {token : τ} {draws : Draws}
    {subject role : String} {v : ℕ}
    (encoded : settings.jwt.encode (accessPayload settings draws subject role v) settings.signingKey
      settings.jwtAlgorithm = some token) {thread : ℕ} {now : Time} {accNo : String} {account : AccountRow}
    (accepted : (bank.serve B thread (getCurrentCustomer settings (some token) now)).1 = .ok (accNo, account)) :
    accNo = subject ∧ v = bank.version subject := by
  replace accepted : (exec (handle B) (getCurrentCustomer settings (some token) now)
    (bank.db, bank.sessions thread)).1 = .ok (accNo, account) := accepted
  by_cases valid : (accessPayload settings draws subject role v).Valid now
  · rw [exec_getCurrentCustomer B _ _ (decodeToken_ok (sound.decode encoded valid))] at accepted
    dsimp only at accepted
    split at accepted
    · cases accepted
    split at accepted
    · cases accepted
    rename_i current
    split at accepted
    · cases accepted
    rename_i live
    have found : (bank.sessions thread).find? bank.db .tokenVersions subject = bank.db.rows .tokenVersions subject := by
      show (bank.db.rows .tokenVersions subject).map _ = _
      cases bank.db.rows .tokenVersions subject with
      | none => rfl
      | some version =>
        refine congrArg some (Session.own_elsewhere version fun c hc => ?_)
        exact (settled thread c hc).elsewhere subject
    have seen : v = bank.version subject := by
      have same := not_not.mp current
      unfold versionSeen at same
      rw [if_neg live] at same
      exact same.trans (congrArg (Option.getD · 0) found)
    split at accepted
    · cases accepted
    · cases accepted
      exact ⟨rfl, seen⟩
  · obtain ⟨e, refused⟩ := sound.refuse encoded valid
    obtain ⟨e', failed⟩ := decodeToken_error refused
    rw [(exec_bearer_error B _ _ failed).2] at accepted
    cases accepted

end Runs

namespace Sample

/-- A login of account 1001, and a password change. -/
def signsIn : Turn (Payload × String × String) := ⟨.customerLogin "1001" "secret", 0, ⟨0, 0⟩, draws, 0, []⟩

def changes : Turn (Payload × String × String) :=
  ⟨.v2ChangePassword "1001" "secret" "Secret_12", 1, ⟨0, 0⟩, draws, 0, []⟩

end Sample

end UnionBank.Auth
