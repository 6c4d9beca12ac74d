import UnionBank.Lib.Machine
import UnionBank.Auth.Lockout

/-!
# Parallel guessing

Logins with wrong passwords for one key, each on a session of its own, whose operations interleave in any way.

- `Siege`: the calls in progress, which of them have begun and how many passwords have been verified;
- `Admits`: a look at the lock refuses, or leaves room for all calls under way; a commit finds the row that was read;
- `guessing`: what a call does from operation to operation, `Inv`: what holds between the operations of all calls;
- `guessing_bounded`: no more than the limit are verified, every failure is counted, and no call raises.
-/

namespace UnionBank.Auth

open Programs Prog

set_option linter.unusedSectionVars false

variable {ι : Type} [Fintype ι] [DecidableEq ι]

/-! ## Calls at the same time -/

/-- The sessions of the calls over one store. -/
def system (B : Backend) : System Op.Res Exn Db Session := ⟨handle B, failed, Op.fallible, fun _ _ => false⟩

/-- The calls in progress, which of them have begun, and how many passwords have been verified. -/
structure Siege (ι : Type) where
  config : Config ι Op.Res Exn LoginOutcome Db Session
  begun : ι → Bool
  verified : ℕ

namespace Siege

variable (B : Backend) (s : Siege ι)

/-- Whether the next operation of a call verifies a password. -/
def isVerifying (i : ι) : Bool :=
  match (s.config.threads i).prog with
  | .call (.verifyPassword ..) _ => true
  | _ => false

/-- One operation of a call. -/
def next (i : ι) : Siege ι where
  config := (system B).next s.config (.step i)
  begun := Function.update s.begun i true
  verified := s.verified + if s.isVerifying i then 1 else 0

/-- The operations of the calls, in some order. -/
def run (s : Siege ι) (schedule : List ι) : Siege ι := schedule.foldl (next B) s

/-- The calls that have begun and not ended. -/
def underWay : Finset ι := Finset.univ.filter fun i => s.begun i = true ∧ (s.config.threads i).result = none

/-- Whether a call has ended as a wrong password. -/
def failedWrong : Option (Except Exn LoginOutcome) → Bool
  | some (.ok (.wrong _)) => true
  | _ => false

/-- The calls that have ended as a wrong password. -/
def completed : Finset ι := Finset.univ.filter fun i => failedWrong (s.config.threads i).result = true

end Siege

/-- The failures that a row counts. -/
def counted (row : Option LoginAttempt) : ℕ := (row.map LoginAttempt.count).getD 0

/-- A look at the lock is refused. -/
def Refuses (now : Time) (row : Option LoginAttempt) : Prop :=
  ∃ a ∈ row, 5 ≤ a.count ∧ ∃ u ∈ a.lockoutUntil, now < u.time

instance (now : Time) (row : Option LoginAttempt) : Decidable (Refuses now row) := by
  unfold Refuses
  infer_instance

/-- A change is made to the row that is stored. -/
def Change.Current (db : Db) : Change → Prop
  | .insert t key _ => db.rows t key = none
  | .update t key loaded _ => db.rows t key = some loaded
  | .delete .. => True

instance (db : Db) : (c : Change) → Decidable (c.Current db)
  | .insert t key _ => inferInstanceAs (Decidable (db.rows t key = none))
  | .update t key loaded _ => inferInstanceAs (Decidable (db.rows t key = some loaded))
  | .delete .. => isTrue trivial

/-- The condition on an operation: a call that begins is refused, or the failures counted and the calls under way leave
room for it; a commit finds the rows as they were read. -/
def Siege.Admits (settings : LoginSettings) (key : String) (times : ι → LoginTimes) (s : Siege ι) (i : ι) : Prop :=
  (s.begun i = false → Refuses (times i).checked (s.config.store.rows .loginAttempts key) ∨
    counted (s.config.store.rows .loginAttempts key) + s.underWay.card < min settings.maxLoginAttempts 5) ∧
  match (s.config.threads i).prog with
  | .call .commit _ => ∀ c ∈ (s.config.threads i).own.pending, c.Current s.config.store
  | _ => True

instance (settings : LoginSettings) (key : String) (times : ι → LoginTimes) (s : Siege ι) (i : ι) :
    Decidable (s.Admits settings key times i) := by
  unfold Siege.Admits
  refine @instDecidableAnd _ _ inferInstance ?_
  split <;> infer_instance

/-- Every operation of a schedule meets the condition. -/
def Siege.Admitted (B : Backend) (settings : LoginSettings) (key : String) (times : ι → LoginTimes) :
    Siege ι → List ι → Prop
  | _, [] => True
  | s, i :: schedule => s.Admits settings key times i ∧ Admitted B settings key times (s.next B i) schedule

instance instDecidableAdmitted (B : Backend) (settings : LoginSettings) (key : String) (times : ι → LoginTimes) :
    (s : Siege ι) → (schedule : List ι) → Decidable (s.Admitted B settings key times schedule)
  | _, [] => isTrue trivial
  | s, i :: schedule =>
    have := instDecidableAdmitted B settings key times (s.next B i) schedule
    inferInstanceAs (Decidable (_ ∧ _))

/-! ## One call -/

/-- Where a call is. -/
inductive Position where
  | outside
  | admitted
  | verified
  | looked
  | read (loaded : Option LoginAttempt)
  | staged (loaded : Option LoginAttempt)
  | refused
  | done

/-- The change that records a failure. -/
def failureChange (settings : LoginSettings) (times : LoginTimes) (key : String) : Option LoginAttempt → Change
  | none => .insert .loginAttempts key ⟨1, some ⟨times.recorded, true⟩, none⟩
  | some row => .update .loginAttempts key row
      (loginAttemptRepo.failedOnce settings.maxLoginAttempts settings.loginLockoutMinutes times.recorded row false)

section Call

variable (B : Backend) (settings : LoginSettings) (db₀ : Db) (key : String) (times : LoginTimes)

/-- What a call with a wrong password asks for and is answered, from place to place. -/
def guessing : Spec Op.Res Exn Position := fun o pos Q =>
  match o with
  | .select .loginAttempts k => k = key ∧ match pos with
    | .outside => (∀ row, Refuses times.checked row → Q (.ok row) .refused) ∧ ∀ row, counted row < 5 → Q (.ok row) .admitted
    | .verified => Q (.ok none) (.read none) ∧ ∀ row, Q (.ok (some row)) .looked
    | .looked => ∀ row, row.lockoutUntil = none → Q (.ok (some row)) (.read (some row))
    | _ => False
  | .select t k => pos = .admitted ∧ Q (.ok (db₀.find? t k)) .admitted
  | .verifyPassword plain hashed => pos = .admitted ∧ Q (.ok (B.verifyPassword plain hashed)) .verified
  | .stage c => ∃ loaded, pos = .read loaded ∧ c = failureChange settings times key loaded ∧ Q (.ok ()) (.staged loaded)
  | .commit => ∃ loaded, pos = .staged loaded ∧ Q (.ok ()) .done
  | .rollback => False

/-- How a call ends. -/
def GuessEnds (r : Except Exn LoginOutcome) (pos : Position) : Prop :=
  (∃ minutes, r = .ok (.locked minutes) ∧ pos = .refused) ∨ ∃ remaining, r = .ok (.wrong remaining) ∧ pos = .done

variable {B settings db₀ key times}

theorem recordWrong_guessing : wp (guessing B settings db₀ key times) (recordWrong settings times key) GuessEnds .verified := by
  have commits : ∀ (loaded : Option LoginAttempt) (remaining : ℕ),
      wp (guessing B settings db₀ key times) (do commit; return .wrong remaining) GuessEnds (.staged loaded) :=
    fun loaded remaining => ⟨loaded, rfl, .inr ⟨remaining, rfl, rfl⟩⟩
  unfold recordWrong loginAttemptRepo.recordFailure
  rw [wp_bind, wp_bind]
  refine ⟨rfl, ?_, fun row => ?_⟩
  · exact ⟨none, rfl, rfl, commits none _⟩
  · refine ⟨rfl, fun row unlocked => ?_⟩
    have counts : loginAttemptRepo.lockoutOver row times.recorded = .ok false := by
      simp [loginAttemptRepo.lockoutOver, unlocked]
    show wp (guessing B settings db₀ key times) (do
      let expired ← Prog.ofExcept (loginAttemptRepo.lockoutOver row times.recorded)
      _) _ _
    rw [counts]
    exact ⟨some row, rfl, rfl, commits _ _⟩

/-- What follows the look at the lock. -/
theorem guarded_guessing {body : Svc LoginOutcome} (h : wp (guessing B settings db₀ key times) body GuessEnds .admitted) :
    wp (guessing B settings db₀ key times) (do
      let (isLocked, remaining) ← loginAttemptRepo.isLocked key times.checked
      if isLocked then
        return .locked remaining
      body) GuessEnds .outside := by
  unfold loginAttemptRepo.isLocked
  rw [wp_bind, wp_bind]
  refine ⟨rfl, ?_, ?_⟩
  · rintro row ⟨a, rfl, many, u, until_, early⟩
    have until_ : a.lockoutUntil = some u := until_
    have large : ¬a.count < 5 := by omega
    simp only [andThen_ok, large, if_false, until_, early, if_true, pure_eq, wp_ret]
    exact .inl ⟨_, rfl, rfl⟩
  · intro row few
    cases row with
    | none => simpa using h
    | some a =>
      have small : a.count < 5 := few
      simpa [small] using h

/-- A login with a wrong password, of an admin or of an account that may log in. -/
theorem login_guessing {login : Login} (may : login.hashed db₀ ≠ none) (wrong : login.right B db₀ = false) :
    wp (guessing B settings db₀ login.key times) (login.prog settings times) GuessEnds .outside := by
  cases login with
  | customer accNo password =>
    obtain ⟨hashed, may⟩ := Option.ne_none_iff_exists'.mp may
    have refuted : B.verifyPassword password hashed = false := by simpa [Login.right, may] using wrong
    obtain ⟨account, live, rfl⟩ := Option.map_eq_some_iff.mp may
    obtain ⟨there, free⟩ := Option.filter_eq_some_iff.mp live
    obtain ⟨thawed, active⟩ : account.isFrozen = false ∧ account.isActive = true := by simpa using free
    refine guarded_guessing ?_
    rw [wp_bind]
    refine ⟨rfl, ?_⟩
    rw [there]
    simp only [wp_ret, andThen_ok, thawed, active, Bool.false_eq_true, if_false, Bool.not_true]
    rw [wp_bind]
    refine ⟨rfl, ?_⟩
    rw [refuted]
    exact recordWrong_guessing
  | admin username password =>
    obtain ⟨hashed, may⟩ := Option.ne_none_iff_exists'.mp may
    have refuted : B.verifyPassword password hashed = false := by simpa [Login.right, may] using wrong
    obtain ⟨admin, there, rfl⟩ := Option.map_eq_some_iff.mp may
    have found : db₀.find? .admins username = some admin := there
    refine guarded_guessing ?_
    rw [wp_bind]
    refine ⟨rfl, ?_⟩
    rw [found]
    simp only [wp_ret, andThen_ok]
    rw [wp_bind]
    refine ⟨rfl, ?_⟩
    rw [refuted]
    exact recordWrong_guessing

end Call

/-! ## All calls -/

namespace Position

/-- Past the lock, and not at the end. -/
def inFlight : Position → ℕ
  | admitted | verified | looked | read _ | staged _ => 1
  | outside | refused | done => 0

/-- At the end, with a wrong password. -/
def isDone : Position → ℕ
  | done => 1
  | _ => 0

/-- Past the verification. -/
def isPast : Position → ℕ
  | verified | looked | read _ | staged _ | done => 1
  | outside | admitted | refused => 0

theorem isPast_le (p : Position) : p.isPast ≤ p.inFlight + p.isDone := by
  cases p <;> simp [isPast, inFlight, isDone]

/-- What the session of a call has pending. -/
def session (settings : LoginSettings) (times : LoginTimes) (key : String) : Position → Session
  | staged loaded => { pending := [failureChange settings times key loaded] }
  | _ => {}

end Position

/-- A sum over the calls when one of them has moved. -/
theorem sum_update (f : Position → ℕ) (pos : ι → Position) (i : ι) (p : Position) :
    ∑ j, f (Function.update pos i p j) + f (pos i) = ∑ j, f (pos j) + f p := by
  have before := Finset.add_sum_erase Finset.univ (fun j => f (pos j)) (Finset.mem_univ i)
  have after := Finset.add_sum_erase Finset.univ (fun j => f (Function.update pos i p j)) (Finset.mem_univ i)
  have others : ∑ j ∈ Finset.univ.erase i, f (Function.update pos i p j) = ∑ j ∈ Finset.univ.erase i, f (pos j) :=
    Finset.sum_congr rfl fun j hj => by rw [Function.update_of_ne (Finset.ne_of_mem_erase hj)]
  simp only [Function.update_self] at after
  omega

section Invariant

variable (B : Backend) (settings : LoginSettings) (db₀ : Db) (key : String) (times : ι → LoginTimes)

/-- Between two operations: where every call is, the row of the key, and what has been counted. -/
structure Inv (pos : ι → Position) (row : Option LoginAttempt) (s : Siege ι) : Prop where
  store : s.config.store = db₀.set .loginAttempts key row
  follows : ∀ i, wp (guessing B settings db₀ key (times i)) (s.config.threads i).prog GuessEnds (pos i)
  session : ∀ i, (s.config.threads i).own = (pos i).session settings (times i) key
  begun : ∀ i, s.begun i = true ↔ pos i ≠ .outside
  there : ∀ i, pos i = .looked → row ≠ none
  unlocked : ∀ a, row = some a → a.count < settings.maxLoginAttempts → a.lockoutUntil = none
  counts : counted row = ∑ i, (pos i).isDone
  room : ∑ i, (pos i).inFlight + counted row ≤ settings.maxLoginAttempts
  verified : s.verified = ∑ i, (pos i).isPast

variable {B settings db₀ key times} {pos : ι → Position} {row : Option LoginAttempt} {s : Siege ι}

/-- A call that has ended is refused or done. -/
theorem Inv.ended (inv : Inv B settings db₀ key times pos row s) (i : ι) :
    match (s.config.threads i).result with
    | none => (pos i).inFlight = 1 ∨ pos i = .outside
    | some r => GuessEnds r (pos i) := by
  have follows := inv.follows i
  unfold Thread.result
  cases hp : (s.config.threads i).prog with
  | ret a =>
    rw [hp] at follows
    exact follows
  | raise e =>
    rw [hp] at follows
    exact follows
  | call o k =>
    rw [hp, wp_call] at follows
    show (pos i).inFlight = 1 ∨ pos i = .outside
    generalize pos i = p at follows
    cases p with
    | outside => exact .inr rfl
    | refused | done =>
      cases o with
      | select t k => cases t <;> simp [guessing] at follows
      | _ => simp [guessing] at follows
    | _ => exact .inl rfl

/-- The calls under way are those in flight. -/
theorem Inv.card_underWay (inv : Inv B settings db₀ key times pos row s) :
    s.underWay.card = ∑ i, (pos i).inFlight := by
  rw [Siege.underWay, Finset.card_filter]
  refine Finset.sum_congr rfl fun i _ => ?_
  have ended := inv.ended i
  cases hr : (s.config.threads i).result with
  | none =>
    rw [hr] at ended
    rcases ended with flying | outside
    · have begun : s.begun i = true := by
        rw [inv.begun i]
        intro out
        rw [out] at flying
        cases flying
      simp [begun, flying]
    · have waiting : s.begun i = false := by
        rw [← Bool.not_eq_true, inv.begun i]
        simp [outside]
      simp [waiting, outside, Position.inFlight]
  | some r =>
    rw [hr] at ended
    rcases ended with ⟨_, _, place⟩ | ⟨_, _, place⟩ <;> simp [place, Position.inFlight]

/-- The calls completed are those that are done. -/
theorem Inv.card_completed (inv : Inv B settings db₀ key times pos row s) :
    s.completed.card = ∑ i, (pos i).isDone := by
  rw [Siege.completed, Finset.card_filter]
  refine Finset.sum_congr rfl fun i _ => ?_
  have ended := inv.ended i
  cases hr : (s.config.threads i).result with
  | none =>
    rw [hr] at ended
    rcases ended with flying | outside
    · cases hp : pos i <;> rw [hp] at flying <;> simp_all [Siege.failedWrong, Position.isDone, Position.inFlight]
    · simp [outside, Siege.failedWrong, Position.isDone]
  | some r =>
    rw [hr] at ended
    rcases ended with ⟨_, rfl, place⟩ | ⟨_, rfl, place⟩ <;> simp [place, Siege.failedWrong, Position.isDone]

/-- One call moves to another place, and the row of the key with it. -/
theorem Inv.move (inv : Inv B settings db₀ key times pos row s) {i : ι} {p : Position} {row' : Option LoginAttempt}
    {prog : Svc LoginOutcome} {v : ℕ} (follows : wp (guessing B settings db₀ key (times i)) prog GuessEnds p)
    (inside : p ≠ .outside) (there : p = .looked → row' ≠ none) (kept : row ≠ none → row' ≠ none)
    (unlocked : ∀ a, row' = some a → a.count < settings.maxLoginAttempts → a.lockoutUntil = none)
    (counts : counted row' + (pos i).isDone = counted row + p.isDone)
    (room : ∑ j, (pos j).inFlight + p.inFlight + counted row' ≤ settings.maxLoginAttempts + (pos i).inFlight)
    (verified : v + (pos i).isPast = s.verified + p.isPast) :
    Inv B settings db₀ key times (Function.update pos i p) row'
      { config := s.config.put i (db₀.set .loginAttempts key row', p.session settings (times i) key) prog,
        begun := Function.update s.begun i true, verified := v } := by
  have flights := sum_update Position.inFlight pos i p
  have dones := sum_update Position.isDone pos i p
  have pasts := sum_update Position.isPast pos i p
  have before := inv.counts
  have past := inv.verified
  constructor
  · rfl
  · intro j
    by_cases same : j = i
    · subst same
      simpa using follows
    · simpa [Config.put_threads_of_ne _ _ _ same, Function.update_of_ne same] using inv.follows j
  · intro j
    by_cases same : j = i
    · subst same
      simp
    · simpa [Config.put_threads_of_ne _ _ _ same, Function.update_of_ne same] using inv.session j
  · intro j
    by_cases same : j = i
    · subst same
      simpa using inside
    · simpa [Function.update_of_ne same] using inv.begun j
  · intro j
    by_cases same : j = i
    · subst same
      simpa using there
    · simpa [Function.update_of_ne same] using fun looked => kept (inv.there j looked)
  · exact unlocked
  · omega
  · omega
  · show v = _
    omega

/-- A call in flight goes on. -/
theorem Inv.glide (inv : Inv B settings db₀ key times pos row s) {i : ι} {p : Position} {prog : Svc LoginOutcome} {v : ℕ}
    (flying : (pos i).inFlight = 1) (still : p.inFlight = 1)
    (follows : wp (guessing B settings db₀ key (times i)) prog GuessEnds p) (there : p = .looked → row ≠ none)
    (verified : v + (pos i).isPast = s.verified + p.isPast) :
    Inv B settings db₀ key times (Function.update pos i p) row
      { config := s.config.put i (db₀.set .loginAttempts key row, p.session settings (times i) key) prog,
        begun := Function.update s.begun i true, verified := v } := by
  have undone : ∀ p : Position, p.inFlight = 1 → p.isDone = 0 ∧ p ≠ .outside := by
    rintro (_ | _ | _ | _ | _ | _ | _ | _) h <;> first | cases h; done | simp [Position.isDone]
  have room := inv.room
  refine inv.move follows (undone p still).2 there id inv.unlocked ?_ ?_ verified
  · rw [(undone _ flying).1, (undone p still).1]
  · omega

/-- A step of a call that is at an operation. -/
theorem Siege.next_call {o : Op} {k : Except Exn o.Res → Svc LoginOutcome} {i : ι}
    (here : (s.config.threads i).prog = .call o k) : s.next B i =
      { config := s.config.put i (handle B o (s.config.world i)).2 (k (handle B o (s.config.world i)).1),
        begun := Function.update s.begun i true, verified := s.verified + if s.isVerifying i then 1 else 0 } := by
  simp [Siege.next, System.next, here, system]

/-- What the row becomes when a failure is recorded over the row that was read. -/
theorem flush_failure {loaded : Option LoginAttempt} {times : LoginTimes} (takes : B.database.takes 100 key = true)
    (current : (failureChange settings times key loaded).Current (db₀.set .loginAttempts key row)) :
    loaded = row ∧ ∃ row', flush B.database [failureChange settings times key loaded] (db₀.set .loginAttempts key row) =
        .ok (db₀.set .loginAttempts key row') ∧ row' ≠ none ∧ counted row' = counted row + 1 ∧
      ∀ a, row' = some a → a.count < settings.maxLoginAttempts → (∀ b, row = some b → b.lockoutUntil = none) →
        a.lockoutUntil = none := by
  cases loaded with
  | none =>
    have absent : row = none := by simpa [failureChange, Change.Current] using current
    subst absent
    refine ⟨rfl, some (B.database.keeps .loginAttempts ⟨1, some ⟨times.recorded, true⟩, none⟩), ?_, by simp, ?_, ?_⟩
    · unfold failureChange
      rw [flush_insert (fits_attempt takes _) (Db.set_self ..), Db.set_set]
    · rfl
    · rintro a ⟨⟩ _ _
      rfl
  | some b =>
    have stored : row = some b := by simpa [failureChange, Change.Current] using current
    subst stored
    refine ⟨rfl, some (B.database.keeps .loginAttempts (loginAttemptRepo.failedOnce settings.maxLoginAttempts
      settings.loginLockoutMinutes times.recorded b false)), ?_, by simp, ?_, ?_⟩
    · unfold failureChange
      rw [flush_update (Db.set_self ..) (fits_attempt takes _), Db.set_set]
    · simp only [counted, Option.map_some, Option.getD_some, Database.keeps, loginAttemptRepo.failedOnce,
        Bool.false_eq_true, if_false]
      split <;> rfl
    · rintro a ⟨⟩ few free
      have free := free b rfl
      simp only [Database.keeps, loginAttemptRepo.failedOnce, Bool.false_eq_true, if_false] at few ⊢
      split
      · rename_i many
        rw [if_pos many] at few
        simp only at few
        omega
      · simp [free]

/-- **One operation of one call.** -/
theorem next_inv {i : ι} (takes : B.database.takes 100 key = true) (inv : Inv B settings db₀ key times pos row s)
    (admits : s.Admits settings key times i) : ∃ pos' row', Inv B settings db₀ key times pos' row' (s.next B i) := by
  have follows := inv.follows i
  have own := inv.session i
  have room := inv.room
  have stored : s.config.store.rows .loginAttempts key = row := by rw [inv.store, Db.set_self]
  -- a call that is at its end stays there
  have stays : (s.config.threads i).result ≠ none → s.next B i = s := by
    intro over_
    have begun : s.begun i = true := by
      rw [inv.begun i]
      intro out
      have ended := inv.ended i
      cases hr : (s.config.threads i).result with
      | none => exact over_ hr
      | some r =>
        rw [hr, out] at ended
        rcases ended with ⟨_, _, h⟩ | ⟨_, _, h⟩ <;> cases h
    have still : Function.update s.begun i true = s.begun := by rw [← begun, Function.update_eq_self]
    unfold Siege.next
    unfold Thread.result at over_
    cases hp : (s.config.threads i).prog with
    | ret a => simp [System.next, hp, still, Siege.isVerifying]
    | raise e => simp [System.next, hp, still, Siege.isVerifying]
    | call o k => simp [hp] at over_
  have flying : (pos i).inFlight ≤ ∑ j, (pos j).inFlight :=
    Finset.single_le_sum (f := fun j => (pos j).inFlight) (fun _ _ => Nat.zero_le _) (Finset.mem_univ i)
  cases hp : (s.config.threads i).prog with
  | ret a => exact ⟨pos, row, by rw [stays (by simp [Thread.result, hp])]; exact inv⟩
  | raise e => exact ⟨pos, row, by rw [stays (by simp [Thread.result, hp])]; exact inv⟩
  | call o k =>
    rw [Siege.next_call hp]
    rw [hp, wp_call] at follows
    have world : s.config.world i = (db₀.set .loginAttempts key row, (pos i).session settings (times i) key) := by
      unfold Config.world
      rw [inv.store, own]
    rw [world]
    generalize place : pos i = p at follows own flying
    cases o with
    | rollback => exact follows.elim
    | verifyPassword plain hashed =>
      obtain ⟨rfl, rest⟩ := follows
      have verifying : s.isVerifying i = true := by simp [Siege.isVerifying, hp]
      rw [verifying]
      exact ⟨_, row, inv.glide (p := .verified) (by rw [place]; rfl) rfl rest (by simp) (by rw [place]; rfl)⟩
    | stage c =>
      obtain ⟨loaded, rfl, rfl, rest⟩ := follows
      have verifying : s.isVerifying i = false := by simp [Siege.isVerifying, hp]
      rw [verifying]
      exact ⟨_, row, inv.glide (p := .staged loaded) (by rw [place]; rfl) rfl rest (by simp) (by rw [place]; rfl)⟩
    | commit =>
      obtain ⟨loaded, rfl, rest⟩ := follows
      have verifying : s.isVerifying i = false := by simp [Siege.isVerifying, hp]
      rw [verifying]
      have current : (failureChange settings (times i) key loaded).Current (db₀.set .loginAttempts key row) := by
        have commits := admits.2
        rw [hp, inv.store, own] at commits
        exact commits _ (List.mem_singleton_self _)
      obtain ⟨-, row', flushed, there, more, free⟩ := flush_failure takes current
      have done : handle B .commit (db₀.set .loginAttempts key row,
          (Position.staged loaded).session settings (times i) key) =
          (.ok (), (db₀.set .loginAttempts key row', {})) := by
        simp [handle, Position.session, flushed]
      rw [done]
      refine ⟨_, row', inv.move (p := .done) rest (by simp) (by simp) (fun _ => there) ?_ ?_ ?_ ?_⟩
      · intro a ha few
        refine free a ha few fun b hb => inv.unlocked b hb ?_
        rw [ha, hb] at more
        simp only [counted, Option.map_some, Option.getD_some] at more
        omega
      · rw [place]
        show _ + 0 = _ + 1
        omega
      · rw [place]
        show _ + 0 + _ ≤ _ + 1
        omega
      · rw [place]
        rfl
    | select t name =>
      have verifying : s.isVerifying i = false := by simp [Siege.isVerifying, hp]
      rw [verifying]
      have found : ∀ p : Position, p.session settings (times i) key = {} →
          handle B (.select t name) (db₀.set .loginAttempts key row, p.session settings (times i) key) =
            (.ok ((db₀.set .loginAttempts key row).find? t name), (db₀.set .loginAttempts key row, {})) := by
        intro p clean
        rw [clean]
        show (Except.ok (Session.find? ⟨[], false⟩ _ _ _), _) = _
        rw [Session.find?_clean]
      cases t with
      | loginAttempts =>
        obtain ⟨rfl, follows⟩ := follows
        have seen : (db₀.set .loginAttempts name row).find? .loginAttempts name = row := Db.set_self ..
        cases p with
        | outside =>
          obtain ⟨refused, passes⟩ := follows
          rw [found .outside rfl, seen]
          have waiting : s.begun i = false := by
            rw [← Bool.not_eq_true, inv.begun i]
            simp [place]
          have admits := admits.1 waiting
          rw [stored, inv.card_underWay] at admits
          rcases admits with refuses | free
          · refine ⟨_, row, inv.move (p := .refused) (refused row refuses) (by simp) (by simp) id inv.unlocked ?_ ?_ ?_⟩
            · rw [place]
              rfl
            · rw [place]
              exact room
            · rw [place]
              rfl
          · refine ⟨_, row, inv.move (p := .admitted) (passes row (by omega)) (by simp) (by simp) id inv.unlocked ?_ ?_ ?_⟩
            · rw [place]
              rfl
            · rw [place]
              show _ + 1 + _ ≤ _ + 0
              omega
            · rw [place]
              rfl
        | verified =>
          rw [found .verified rfl, seen]
          cases hr : row with
          | none =>
            exact ⟨_, none, (hr ▸ inv).glide (p := .read none) (by rw [place]; rfl) rfl follows.1 (by simp)
              (by rw [place]; rfl)⟩
          | some a =>
            exact ⟨_, some a, (hr ▸ inv).glide (p := .looked) (by rw [place]; rfl) rfl (follows.2 a) (by simp)
              (by rw [place]; rfl)⟩
        | looked =>
          rw [found .looked rfl, seen]
          cases hr : row with
          | none => exact absurd hr (inv.there i place)
          | some a =>
            have free : a.lockoutUntil = none := by
              refine inv.unlocked a hr ?_
              have one : Position.looked.inFlight = 1 := rfl
              rw [hr] at room
              simp only [counted, Option.map_some, Option.getD_some] at room
              omega
            exact ⟨_, some a, (hr ▸ inv).glide (p := .read (some a)) (by rw [place]; rfl) rfl (follows a free) (by simp)
              (by rw [place]; rfl)⟩
        | _ => exact follows.elim
      | accounts | admins | tokenVersions | refreshTokens =>
        obtain ⟨rfl, rest⟩ := follows
        rw [found .admitted rfl]
        refine ⟨_, row, inv.glide (p := .admitted) (by rw [place]; rfl) rfl ?_ (by simp) (by rw [place]; rfl)⟩
        unfold Db.find? at rest ⊢
        rw [Db.set_of_tab_ne _ _ (by decide)]
        exact rest

end Invariant

/-! ## Every interleaving -/

section Bound

variable (B : Backend) (settings : LoginSettings)

/-- The calls before their first operations, on sessions of their own. -/
def Siege.start (db : Db) (logins : ι → Login) (times : ι → LoginTimes) : Siege ι where
  config := ⟨db, fun i => ⟨(logins i).prog settings (times i), {}⟩⟩
  begun _ := false
  verified := 0

/-- No more passwords are verified than the limit, the row counts every call that has failed, and no call has raised. -/
structure Siege.Bounded (key : String) (s : Siege ι) : Prop where
  verified : s.verified ≤ settings.maxLoginAttempts
  counted : counted (s.config.store.rows .loginAttempts key) = s.completed.card
  answered : ∀ i e, (s.config.threads i).result ≠ some (.error e)

variable {B settings} {db₀ : Db} {key : String} {times : ι → LoginTimes} {logins : ι → Login}

theorem Inv.bounded {pos : ι → Position} {row : Option LoginAttempt} {s : Siege ι}
    (inv : Inv B settings db₀ key times pos row s) : s.Bounded settings key := by
  have room := inv.room
  have counts := inv.counts
  have past : ∑ i, (pos i).isPast ≤ ∑ i, (pos i).inFlight + ∑ i, (pos i).isDone := by
    rw [← Finset.sum_add_distrib]
    exact Finset.sum_le_sum fun i _ => (pos i).isPast_le
  constructor
  · rw [inv.verified]
    omega
  · rw [inv.store, Db.set_self, inv.card_completed, counts]
  · intro i e failed
    have ended := inv.ended i
    rw [failed] at ended
    rcases ended with ⟨_, h, _⟩ | ⟨_, h, _⟩ <;> cases h

/-- **Parallel guessing.** Any number of calls with wrong passwords for a key without recorded failures, in every order
of their operations in which a look at the lock refuses or leaves room, and a commit finds the row it has read. -/
theorem guessing_bounded {schedule : List ι}
    (admitted : (Siege.start settings db₀ logins times).Admitted B settings key times schedule)
    (fresh : db₀.rows .loginAttempts key = none) (takes : B.database.takes 100 key = true)
    (keyed : ∀ i, (logins i).key = key) (may : ∀ i, (logins i).hashed db₀ ≠ none)
    (wrong : ∀ i, (logins i).right B db₀ = false) :
    ((Siege.start settings db₀ logins times).run B schedule).Bounded settings key := by
  have main : ∀ (schedule : List ι) (s : Siege ι) (pos : ι → Position) (row : Option LoginAttempt),
      Inv B settings db₀ key times pos row s → s.Admitted B settings key times schedule →
      (s.run B schedule).Bounded settings key := by
    intro schedule
    induction schedule with
    | nil => exact fun s pos row inv _ => inv.bounded
    | cons i schedule ih =>
      intro s pos row inv admitted
      obtain ⟨pos', row', inv'⟩ := next_inv takes inv admitted.1
      exact ih _ pos' row' inv' admitted.2
  refine main schedule _ (fun _ => .outside) none ?_ admitted
  constructor
  · exact (db₀.set_same fresh).symm
  · intro i
    rw [← keyed i]
    exact login_guessing (may i) (wrong i)
  · exact fun i => rfl
  · intro i
    simp [Siege.start]
  · intro i h
    cases h
  · intro a h
    cases h
  · simp [counted, Position.isDone]
  · simp [counted, Position.inFlight]
  · simp [Siege.start, Position.isPast]

end Bound

/-! ## Two guesses in turn, and six at once -/

namespace Sample

/-- Guesses of one password by `n` callers. -/
def guessers (n : ℕ) : Siege (Fin n) :=
  Siege.start defaults doors.db (fun _ => .customer "1001" "guess") fun _ => ⟨0, 0⟩

/-- One call after the other. -/
def inTurn : List (Fin 2) := List.replicate 6 0 ++ List.replicate 7 1

theorem guessing_bounded_inTurn :
    ((guessers 2).run (plain .postgresql) inTurn).Bounded defaults "1001" := by
  have admitted : (guessers 2).Admitted (plain .postgresql) defaults "1001" (fun _ => ⟨0, 0⟩) inTurn := by decide
  exact guessing_bounded admitted rfl (by decide) (fun _ => rfl) (by decide) (by decide)

/-- All look at the lock before one of them is recorded: six passwords are verified where five are allowed. -/
theorem six_guesses_verified : doors.db.rows .loginAttempts "1001" = none ∧
    ¬((guessers 6).run (plain .postgresql) ((List.finRange 6).flatMap fun i => [i, i, i])).Bounded defaults "1001" := by
  refine ⟨rfl, fun bounded => ?_⟩
  have six : ((guessers 6).run (plain .postgresql) ((List.finRange 6).flatMap fun i => [i, i, i])).verified = 6 := by
    decide
  have five := bounded.verified
  rw [six] at five
  exact absurd five (by decide)

end Sample

end UnionBank.Auth
