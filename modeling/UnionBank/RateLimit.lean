import UnionBank.Lib.Window
import UnionBank.Dormancy

/-!
# The limit of money movements

`AccountRateLimiter` of `utils/account_rate_limit.py`, an object of the process beside the database, and the endpoints
that move money. Those of v1 ask it before they call the service, those of v2 do not.

- `AccountRateLimiter.checkAndRecord`; `MoneyMove`, `MovementRequest`, `Server.serve`: one request of either version;
- `Server.Limited`: no window holds more successes of an account than the limit; `Spared`: the steps that keep it;
- `Recorded`: what the limiter knows of the successes; `movements_limited`: every run of steps that are spared.
-/

namespace UnionBank

open Programs Prog Windows

set_option linter.unusedSectionVars false

/-! ## The limiter -/

/-- `AccountRateLimiter`. -/
structure AccountRateLimiter where
  operations : String → List Time
  maxOps : ℕ
  windowSeconds : ℕ

namespace AccountRateLimiter

/-- `_parse_limit`, of a count and the name of a period. -/
def parseLimit (count : ℕ) (period : String) : ℕ × ℕ :=
  (count, ([("second", 1), ("minute", 60), ("hour", 3600), ("day", 86400)].lookup period).getD 3600)

/-- A new limiter for `count/period`. -/
def init (count : ℕ) (period : String) : AccountRateLimiter where
  operations _ := []
  maxOps := (parseLimit count period).1
  windowSeconds := (parseLimit count period).2

variable (limiter : AccountRateLimiter)

/-- The window in microseconds. -/
def window : ℕ := limiter.windowSeconds * 1000000

/-- `_cleanup_window`. -/
def cleanupWindow (accNo : String) (now : Time) : AccountRateLimiter :=
  { limiter with
    operations := Function.update limiter.operations accNo (recent limiter.window now (limiter.operations accNo)) }

/-- The readings of the clock in one check: for the clean-up, and for the record or the message. -/
structure Readings where
  checked : Time
  recorded : Time

/-- The text of a refusal. -/
def retryMessage (currentCount : ℕ) (oldest now : Time) : String :=
  let retryAfter := (limiter.window - (now - oldest)) / 1000000
  s!"Rate limit exceeded. {currentCount}/{limiter.maxOps} money-movement operations in the last hour. " ++
    s!"Retry after {max 1 retryAfter} seconds."

/-- Whether the operation is allowed, or why not; without any operation to wait for there is an `IndexError`. -/
inductive Verdict where
  | allowed
  | refused (retryAfter : String)
  | indexError

/-- `check_and_record`. -/
def checkAndRecord (accNo : String) (now : Readings) : Verdict × AccountRateLimiter :=
  let limiter := limiter.cleanupWindow accNo now.checked
  let currentCount := (limiter.operations accNo).length
  if limiter.maxOps ≤ currentCount then
    match limiter.operations accNo with
    | [] => (.indexError, limiter)
    | oldest :: _ => (.refused (limiter.retryMessage currentCount oldest now.recorded), limiter)
  else
    (.allowed, { limiter with
      operations := Function.update limiter.operations accNo (limiter.operations accNo ++ [now.recorded]) })

end AccountRateLimiter

/-! ## The endpoints -/

variable {D : Type}

/-- What a customer asks for. -/
inductive MoneyMove (D : Type) where
  | deposit (amount : D) (category : String)
  | withdraw (amount : D) (category : String)
  | transfer (targetAccount : String) (amount : D) (category : String)

inductive ApiVersion where
  | v1
  | v2
deriving DecidableEq

/-- A request of an authenticated customer; v1 takes no idempotency key. -/
structure MovementRequest (D : Type) where
  version : ApiVersion
  accNo : String
  movement : MoneyMove D
  idempotencyKey : Option String
  draws : Draws
  now : AccountRateLimiter.Readings

namespace Api

section Endpoints

variable [Zero D] [Add D] [Sub D] [LE D] [LT D] [DecidableLE D] [DecidableLT D] (env : Env D)

/-- The answer to a deposit or a withdrawal. -/
def serviceAnswer (result : ServiceResult D) : Answer D :=
  if result.success then .message result.message else .httpException 400 result.message

/-- The answer to a transfer. -/
def transferAnswer (receiver : Account D) (targetAccount : String) (amount : D) (result : TransferResult D) : Answer D :=
  if result.success then
    .message (s!"{env.fmtCurrency amount} transferred to {receiver.name} ({targetAccount}). " ++
      s!"New balance: {env.fmtCurrency (env.float result.senderBalance)}")
  else .httpException 400 result.errorMessage

/-- What comes before the limiter in v1, and before the service in v2: the receiver of a transfer, or an answer. -/
def lookUp (version : ApiVersion) (accNo : String) : MoneyMove D → Svc D (Except (Answer D) (Option (Account D)))
  | .deposit .. | .withdraw .. => return .ok none
  | .transfer targetAccount _ _ => do
    let some _ ← accountRepo.get accNo | return .error (.httpException 404 "Sender account not found.")
    let some receiver ← accountRepo.get targetAccount |
      return .error (.httpException 404 "Recipient account not found.")
    if version = .v1 then
      if targetAccount = accNo then
        return .error (.httpException 400 "Cannot transfer to your own account.")
      if receiver.isFrozen then
        return .error (.httpException 403 "Recipient account is frozen.")
      if !receiver.isActive then
        return .error (.httpException 403 "Recipient account is closed.")
    return .ok (some receiver)

/-- The service call and its answer; a transfer has looked its receiver up. -/
def move (draws : Draws) (accNo : String) (idempotencyKey : Option String) (receiver : Option (Account D)) :
    MoneyMove D → Svc D (Answer D)
  | .deposit amount category => do
    return serviceAnswer (← TransactionService.deposit env draws accNo amount category idempotencyKey)
  | .withdraw amount category => do
    return serviceAnswer (← TransactionService.withdraw env draws accNo amount category idempotencyKey)
  | .transfer targetAccount amount category => do
    let result ← TransactionService.transfer env draws accNo targetAccount amount category idempotencyKey
    match receiver with
    | some receiver => return transferAnswer env receiver targetAccount amount result
    | none => throw .attributeError

end Endpoints

end Api

/-! ## Runs -/

/-- Whether an endpoint has answered with a message. -/
def answered (r : Except Exn (Answer D)) : Bool :=
  match r with
  | .ok (.message _) => true
  | _ => false

/-- A successful movement. -/
structure Success where
  version : ApiVersion
  accNo : String
  time : Time

/-- The bank, the limiter of its process, and the movements that have succeeded. -/
structure Server (D : Type) where
  bank : Bank D
  limiter : AccountRateLimiter
  successes : List Success

/-- What comes in: a movement, or any other visit. -/
inductive Arrival (D : Type) where
  | movement (r : MovementRequest D)
  | other (v : Visit D)

section Runs

variable [Zero D] [Add D] [Sub D] [LE D] [LT D] [DecidableEq D] [DecidableLE D] [DecidableLT D]
variable (env : Env D) (checks : Checks) (B : Backend D)

/-- A program on the session of a thread. -/
def Bank.perform {α : Type} (bank : Bank D) (thread : ℕ) (p : Svc D α) : Except Exn α × Bank D :=
  let (r, db, s) := exec (handle B) p (bank.db, bank.sessions thread)
  (r, { db, sessions := Function.update bank.sessions thread s })

namespace Server

/-- The service call of a request that has got so far, and the note of its success. -/
def conclude (server : Server D) (thread : ℕ) (r : MovementRequest D) (receiver : Option (Account D)) :
    Except Exn (Answer D) × Server D :=
  let key := if r.version = .v1 then none else r.idempotencyKey
  let (answer, bank) := server.bank.perform B thread (Api.move env r.draws r.accNo key receiver r.movement)
  (answer, { server with
    bank, successes := if answered answer then server.successes ++ [⟨r.version, r.accNo, r.now.recorded⟩] else server.successes })

/-- One movement. -/
def serve (server : Server D) (thread : ℕ) (r : MovementRequest D) : Except Exn (Answer D) × Server D :=
  let (found, bank) := server.bank.perform B thread (Api.lookUp r.version r.accNo r.movement)
  let server := { server with bank }
  match found with
  | .error e => (.error e, server)
  | .ok (.error answer) => (.ok answer, server)
  | .ok (.ok receiver) =>
    match r.version with
    | .v2 => server.conclude env B thread r receiver
    | .v1 =>
      match server.limiter.checkAndRecord r.accNo r.now with
      | (.indexError, limiter) => (.error (.valueError "list index out of range"), { server with limiter })
      | (.refused retryAfter, limiter) => (.ok (.httpException 429 retryAfter), { server with limiter })
      | (.allowed, limiter) => { server with limiter }.conclude env B thread r receiver

/-- One arrival. -/
def next (server : Server D) (thread : ℕ) : Arrival D → Server D
  | .movement r => (server.serve env B thread r).2
  | .other v => { server with bank := (server.bank.attend env checks B thread v).2 }

/-- Arrivals one after another. -/
def run (server : Server D) : List (ℕ × Arrival D) → Server D
  | [] => server
  | (thread, a) :: rest => (server.next env checks B thread a).run rest

/-- The times at which an account has succeeded, in any version or in one. -/
def times (server : Server D) (accNo : String) : List Time := (server.successes.filter fun m => m.accNo = accNo).map Success.time

def timesOf (server : Server D) (version : ApiVersion) (accNo : String) : List Time :=
  (server.successes.filter fun m => m.version = version ∧ m.accNo = accNo).map Success.time

/-- No window of the period holds more than `n` successes of an account. -/
def Limited (server : Server D) (n window : ℕ) : Prop := ∀ accNo start, (inWindow window start (server.times accNo)).length ≤ n

end Server

/-! ## What a request does -/

/-- What a request leaves: the limiter and the successes as they were, or its clean-up; a success of v2; or an operation
that the limiter has recorded, which may have succeeded. -/
inductive Server.Served (server : Server D) (r : MovementRequest D) (limiter : AccountRateLimiter)
    (successes : List Success) : Prop
  | kept (same : limiter = server.limiter) (none : successes = server.successes)
  | refused (cleaned : limiter = server.limiter.cleanupWindow r.accNo r.now.checked)
      (none : successes = server.successes)
  | unlimited (version : r.version = .v2) (same : limiter = server.limiter)
      (one : successes = server.successes ++ [⟨.v2, r.accNo, r.now.recorded⟩])
  | allowed (version : r.version = .v1)
      (few : (recent server.limiter.window r.now.checked (server.limiter.operations r.accNo)).length <
        server.limiter.maxOps)
      (recorded : limiter = { server.limiter with
        operations := Function.update server.limiter.operations r.accNo
          (recent server.limiter.window r.now.checked (server.limiter.operations r.accNo) ++ [r.now.recorded]) })
      (one : successes = server.successes ∨ successes = server.successes ++ [⟨.v1, r.accNo, r.now.recorded⟩])

section Effect

variable {server : Server D} {r : MovementRequest D}

/-- The verdicts of the limiter. -/
theorem AccountRateLimiter.checkAndRecord_cases (limiter : AccountRateLimiter) (accNo : String) (now : Readings) :
    ((limiter.checkAndRecord accNo now).1 ≠ .allowed ∧
        (limiter.checkAndRecord accNo now).2 = limiter.cleanupWindow accNo now.checked) ∨
      (limiter.checkAndRecord accNo now).1 = .allowed ∧
        (recent limiter.window now.checked (limiter.operations accNo)).length < limiter.maxOps ∧
        (limiter.checkAndRecord accNo now).2 = { limiter with
          operations := Function.update limiter.operations accNo
            (recent limiter.window now.checked (limiter.operations accNo) ++ [now.recorded]) } := by
  have cleaned : (limiter.cleanupWindow accNo now.checked).operations accNo =
      recent limiter.window now.checked (limiter.operations accNo) := by simp [cleanupWindow]
  have same : (limiter.cleanupWindow accNo now.checked).maxOps = limiter.maxOps := rfl
  unfold checkAndRecord
  simp only [cleaned, same]
  by_cases full : limiter.maxOps ≤ (recent limiter.window now.checked (limiter.operations accNo)).length
  · simp only [full, if_true]
    left
    split <;> simp
  · simp only [full, if_false]
    right
    refine ⟨trivial, by omega, ?_⟩
    simp [cleanupWindow]

variable (server r) in
/-- The end of a request: its success is noted, or nothing. -/
theorem Server.conclude_successes (thread : ℕ) (receiver : Option (Account D)) :
    (server.conclude env B thread r receiver).2.limiter = server.limiter ∧
      ((server.conclude env B thread r receiver).2.successes = server.successes ∨
        (server.conclude env B thread r receiver).2.successes =
          server.successes ++ [⟨r.version, r.accNo, r.now.recorded⟩]) := by
  unfold Server.conclude
  refine ⟨rfl, ?_⟩
  by_cases success : answered (server.bank.perform B thread (Api.move env r.draws r.accNo
      (if r.version = .v1 then none else r.idempotencyKey) receiver r.movement)).1 = true
  · exact .inr (if_pos success)
  · exact .inl (if_neg success)

variable (server r) in
theorem Server.serve_served (thread : ℕ) :
    server.Served r (server.serve env B thread r).2.limiter (server.serve env B thread r).2.successes := by
  unfold Server.serve
  rcases server.bank.perform B thread (Api.lookUp r.version r.accNo r.movement) with ⟨found, bank⟩
  cases found with
  | error e => exact .kept rfl rfl
  | ok found =>
    cases found with
    | error answer => exact .kept rfl rfl
    | ok receiver =>
      cases version : r.version with
      | v2 =>
        obtain ⟨same, successes⟩ := Server.conclude_successes env B { server with bank } r thread receiver
        rcases successes with none | one
        · exact .kept same none
        · rw [version] at one
          exact .unlimited version same one
      | v1 =>
        have verdict := server.limiter.checkAndRecord_cases r.accNo r.now
        rcases checked : server.limiter.checkAndRecord r.accNo r.now with ⟨answer, limiter⟩
        rw [checked] at verdict
        simp only [checked]
        cases answer with
        | indexError =>
          obtain ⟨-, cleaned⟩ | ⟨allowed, -⟩ := verdict
          · exact .refused cleaned rfl
          · cases allowed
        | refused retryAfter =>
          obtain ⟨-, cleaned⟩ | ⟨allowed, -⟩ := verdict
          · exact .refused cleaned rfl
          · cases allowed
        | allowed =>
          obtain ⟨refused, -⟩ | ⟨-, few, recorded⟩ := verdict
          · exact absurd rfl refused
          · obtain ⟨same, successes⟩ :=
              Server.conclude_successes env B { server with bank, limiter } r thread receiver
            rw [version] at successes
            exact .allowed version few (same.trans recorded) successes

end Effect

/-! ## The limit along a run -/

namespace Server

variable (n window : ℕ)

/-- A request that keeps the limit: one of v1 of an account without v2 successes in the window, or one that finds fewer
successes than the limit. -/
def Spared (server : Server D) (r : MovementRequest D) : Prop :=
  r.version = .v1 ∧ recent window r.now.recorded (server.timesOf .v2 r.accNo) = [] ∨
    (recent window r.now.recorded (server.times r.accNo)).length < n

instance (server : Server D) (r : MovementRequest D) : Decidable (server.Spared n window r) := by
  unfold Spared
  infer_instance

/-- Every movement of a run is spared. -/
def AllSpared : Server D → List (ℕ × Arrival D) → Prop
  | _, [] => True
  | server, (thread, a) :: rest =>
    (match a with
      | .movement r => server.Spared n window r
      | .other _ => True) ∧ AllSpared (server.next env checks B thread a) rest

/-- The clock does not go back. -/
def Orderly : Time → List (ℕ × Arrival D) → Prop
  | _, [] => True
  | clock, (_, .movement r) :: rest => clock ≤ r.now.checked ∧ r.now.checked ≤ r.now.recorded ∧ Orderly r.now.recorded rest
  | clock, (_, .other _) :: rest => Orderly clock rest

/-- What the limiter knows: every v1 success that still counts is recorded, and the limit holds. -/
structure Recorded (clock : Time) (server : Server D) : Prop where
  maxOps : server.limiter.maxOps = n
  period : server.limiter.window = window
  past : ∀ m ∈ server.successes, m.time ≤ clock
  known : ∀ accNo later, clock ≤ later → (recent window later (server.timesOf .v1 accNo)).length ≤
    (recent window later (server.limiter.operations accNo)).length
  limited : server.Limited n window

variable {n window} {server : Server D} {clock : Time} {r : MovementRequest D}

/-- The successes of an account are those of v1 and those of v2. -/
theorem recent_times (later : Time) (accNo : String) : (recent window later (server.times accNo)).length =
    (recent window later (server.timesOf .v1 accNo)).length +
      (recent window later (server.timesOf .v2 accNo)).length := by
  unfold times timesOf
  induction server.successes with
  | nil => rfl
  | cons m ms ih =>
    by_cases here : m.accNo = accNo
    · cases version : m.version with
      | v1 =>
        by_cases counts : later < m.time + window
        · simp [here, version, recent, counts] at ih ⊢
          omega
        · simp [here, version, recent, counts] at ih ⊢
          omega
      | v2 =>
        by_cases counts : later < m.time + window
        · simp [here, version, recent, counts] at ih ⊢
          omega
        · simp [here, version, recent, counts] at ih ⊢
          omega
    · simpa [here] using ih

/-- The successes of an account after one more. -/
theorem times_snoc (successes : List Success) (bank : Bank D) (limiter : AccountRateLimiter) (m : Success)
    (accNo : String) : times ⟨bank, limiter, successes ++ [m]⟩ accNo =
      times ⟨bank, limiter, successes⟩ accNo ++ if m.accNo = accNo then [m.time] else [] := by
  unfold times
  by_cases here : m.accNo = accNo <;> simp [List.filter_append, here]

theorem timesOf_snoc (successes : List Success) (bank : Bank D) (limiter : AccountRateLimiter) (m : Success)
    (version : ApiVersion) (accNo : String) : timesOf ⟨bank, limiter, successes ++ [m]⟩ version accNo =
      timesOf ⟨bank, limiter, successes⟩ version accNo ++
        if m.version = version ∧ m.accNo = accNo then [m.time] else [] := by
  unfold timesOf
  by_cases here : m.version = version ∧ m.accNo = accNo <;> simp [List.filter_append, here]

/-- Few successes count before one that is spared. -/
theorem Recorded.few (known : Recorded n window clock server) (spared : server.Spared n window r)
    (early : clock ≤ r.now.checked) (order : r.now.checked ≤ r.now.recorded)
    (allowed : r.version = .v1 →
      (recent server.limiter.window r.now.checked (server.limiter.operations r.accNo)).length < server.limiter.maxOps) :
    (recent window r.now.recorded (server.times r.accNo)).length < n := by
  rcases spared with ⟨version, unmixed⟩ | few
  · have room := allowed version
    rw [known.maxOps, known.period] at room
    have fewer := recent_length_anti window order (server.limiter.operations r.accNo)
    have recorded := known.known r.accNo r.now.recorded (early.trans order)
    rw [recent_times, unmixed, List.length_nil]
    omega
  · exact few

/-- One more success, at a time when few count. -/
theorem Recorded.limited_snoc (known : Recorded n window clock server)
    (few : (recent window r.now.recorded (server.times r.accNo)).length < n) (version : ApiVersion) (bank : Bank D)
    (limiter : AccountRateLimiter) :
    Limited ⟨bank, limiter, server.successes ++ [⟨version, r.accNo, r.now.recorded⟩]⟩ n window := by
  intro accNo start
  rw [times_snoc]
  by_cases here : r.accNo = accNo
  · subst here
    rw [if_pos rfl]
    exact inWindow_snoc_le (known.limited r.accNo) few start
  · rw [if_neg here, List.append_nil]
    exact known.limited accNo start

/-- **One movement** keeps the record. -/
theorem Recorded.serve (known : Recorded n window clock server) (spared : server.Spared n window r)
    (early : clock ≤ r.now.checked) (order : r.now.checked ≤ r.now.recorded) (thread : ℕ) :
    Recorded n window r.now.recorded (server.serve env B thread r).2 := by
  have served := serve_served env B server r thread
  have late : clock ≤ r.now.recorded := early.trans order
  have past : ∀ m ∈ server.successes, m.time ≤ r.now.recorded := fun m hm => (known.past m hm).trans late
  generalize (server.serve env B thread r).2 = after at served
  obtain ⟨bank, limiter, successes⟩ := after
  simp only at served
  cases served with
  | kept same none =>
    subst same none
    exact ⟨known.maxOps, known.period, past, fun accNo later h => known.known accNo later (late.trans h), known.limited⟩
  | refused cleaned none =>
    subst cleaned none
    refine ⟨known.maxOps, known.period, past, fun accNo later h => ?_, known.limited⟩
    have before := known.known accNo later (late.trans h)
    by_cases here : accNo = r.accNo
    · subst here
      simp only [AccountRateLimiter.cleanupWindow, Function.update_self, known.period]
      rw [recent_recent (order.trans h)]
      exact before
    · simp only [AccountRateLimiter.cleanupWindow, Function.update_of_ne here]
      exact before
  | unlimited version same one =>
    subst same one
    have few := known.few spared early order (by simp [version])
    refine ⟨known.maxOps, known.period, ?_, fun accNo later h => ?_, known.limited_snoc few _ _ _⟩
    · intro m hm
      rcases List.mem_append.mp hm with hm | hm
      · exact past m hm
      · rw [List.mem_singleton.mp hm]
    · have other : ¬(ApiVersion.v2 = .v1 ∧ r.accNo = accNo) := by simp
      rw [timesOf_snoc, if_neg other, List.append_nil]
      exact known.known accNo later (late.trans h)
  | allowed version few recorded one =>
    subst recorded
    have room := known.few spared early order fun _ => few
    -- the limiter has recorded the operation, whether or not the service went through
    have counts : ∀ accNo later, r.now.recorded ≤ later →
        (recent window later (server.timesOf .v1 accNo ++ if r.accNo = accNo then [r.now.recorded] else [])).length ≤
          (recent window later (Function.update server.limiter.operations r.accNo
            (recent server.limiter.window r.now.checked (server.limiter.operations r.accNo) ++ [r.now.recorded])
              accNo)).length := by
      intro accNo later h
      have before := known.known accNo later (late.trans h)
      by_cases here : r.accNo = accNo
      · subst here
        rw [if_pos rfl, Function.update_self, known.period, recent_append, recent_append, recent_recent (order.trans h)]
        simp only [List.length_append]
        omega
      · rw [if_neg here, List.append_nil, Function.update_of_ne (Ne.symm here)]
        exact before
    rcases one with none | one
    · subst none
      refine ⟨known.maxOps, known.period, past, fun accNo later h => ?_, known.limited⟩
      refine le_trans ?_ (counts accNo later h)
      show (recent window later (server.timesOf .v1 accNo)).length ≤ _
      rw [recent_append, List.length_append]
      omega
    · subst one
      refine ⟨known.maxOps, known.period, ?_, fun accNo later h => ?_, known.limited_snoc room _ _ _⟩
      · intro m hm
        rcases List.mem_append.mp hm with hm | hm
        · exact past m hm
        · rw [List.mem_singleton.mp hm]
      · rw [timesOf_snoc]
        simp only [true_and]
        exact counts accNo later h

/-- **Every run** whose movements are spared keeps the limit. -/
theorem Recorded.run (known : Recorded n window clock server) {arrivals : List (ℕ × Arrival D)}
    (orderly : Orderly clock arrivals) (spared : server.AllSpared env checks B n window arrivals) :
    (server.run env checks B arrivals).Limited n window := by
  induction arrivals generalizing clock server with
  | nil => exact known.limited
  | cons ta rest ih =>
    obtain ⟨thread, a⟩ := ta
    obtain ⟨here, rest_spared⟩ := spared
    cases a with
    | movement r =>
      obtain ⟨early, order, later⟩ := orderly
      exact ih (known.serve env B here early order thread) later rest_spared
    | other v => exact ih ⟨known.maxOps, known.period, known.past, known.known, known.limited⟩ orderly rest_spared

/-- A process that has just started, at a bank that may be in any state. -/
def start (bank : Bank D) (count : ℕ) (period : String) : Server D where
  bank := bank
  limiter := AccountRateLimiter.init count period
  successes := []

end Server

/-- **The limit of money movements**: with a limit `count/period`, in every run of requests of both versions at times
that do not decrease, whose movements are spared, no window of the period holds more than `count` successes of an
account. -/
theorem movements_limited (bank : Bank D) (count : ℕ) (period : String) (arrivals : List (ℕ × Arrival D))
    (orderly : Server.Orderly 0 arrivals)
    (spared : (Server.start bank count period).AllSpared env checks B count
      ((AccountRateLimiter.parseLimit count period).2 * 1000000) arrivals) :
    ((Server.start bank count period).run env checks B arrivals).Limited count
      ((AccountRateLimiter.parseLimit count period).2 * 1000000) := by
  refine Server.Recorded.run env checks B (show Server.Recorded _ _ 0 _ from ⟨rfl, rfl, ?_, ?_, ?_⟩) orderly spared
  · intro m hm
    cases hm
  · intro accNo later _
    exact Nat.zero_le _
  · intro accNo start
    exact Nat.zero_le _

end Runs

/-! ## Five in an hour -/

namespace Sample

/-- A deposit of account 1001 at the second `n`. -/
def paidIn (version : ApiVersion) (n : ℕ) : ℕ × Arrival ℤ :=
  (0, .movement ⟨version, "1001", .deposit 500 "General", none, draws n, ⟨n * 1000000, n * 1000000⟩⟩)

/-- The limit as it is by default. -/
def open_ : Server ℤ := Server.start (bank 10000 5000 0) 5 "hour"

theorem movements_limited_v1 :
    (open_.run paiseEnv lenient paise ((List.range 6).map fun n => paidIn .v1 (n + 1))).Limited 5 (3600 * 1000000) := by
  refine movements_limited paiseEnv lenient paise (bank 10000 5000 0) 5 "hour" _ ?_ ?_
  · exact ⟨by decide, by decide, by decide, by decide, by decide, by decide, by decide, by decide, by decide, by decide,
      by decide, by decide, trivial⟩
  · exact ⟨by decide +kernel, by decide +kernel, by decide +kernel, by decide +kernel, by decide +kernel,
      by decide +kernel, trivial⟩

/-- The sixth deposit within an hour goes through in v2. -/
theorem sixth_deposit_v2 :
    ¬(open_.run paiseEnv lenient paise ((List.range 6).map fun n => paidIn .v2 (n + 1))).Limited 5 (3600 * 1000000) := by
  intro limited
  have five := limited "1001" 0
  have six : (inWindow (3600 * 1000000) 0
      ((open_.run paiseEnv lenient paise ((List.range 6).map fun n => paidIn .v2 (n + 1))).times "1001")).length = 6 := by
    decide +kernel
  rw [six] at five
  exact absurd five (by decide)

end Sample

end UnionBank
