import UnionBank.RateLimit

/-!
# The sliding window

`check_and_record` and `get_remaining` of the limiter, called in any order by any accounts while the clock goes on.
What a call finds after its clean-up is what the calls that were allowed leave inside the window.

- `Call`, `trace`: calls and their outcomes; `allowedTimes`: when the calls of an account were allowed;
- `Knows`: what the stored lists say about the calls before; `Agrees`: limiters that answer alike from some time on;
- `Sliding`: the limiter as a sliding window; `sliding_window`.
-/

namespace UnionBank

open Windows

namespace AccountRateLimiter

/-- `get_remaining`. -/
def getRemaining (limiter : AccountRateLimiter) (accNo : String) (now : Time) : ℕ × AccountRateLimiter :=
  let limiter := limiter.cleanupWindow accNo now
  (limiter.maxOps - (limiter.operations accNo).length, limiter)

inductive Call where
  | checkAndRecord (accNo : String) (now : Readings)
  | getRemaining (accNo : String) (now : Time)

inductive Outcome where
  | verdict (v : Verdict)
  | remaining (n : ℕ)

namespace Call

def accNo : Call → String
  | checkAndRecord accNo _ => accNo
  | getRemaining accNo _ => accNo

/-- The reading of the clean-up. -/
def cleaned : Call → Time
  | checkAndRecord _ now => now.checked
  | getRemaining _ now => now

/-- The last reading. -/
def last : Call → Time
  | checkAndRecord _ now => now.recorded
  | getRemaining _ now => now

/-- The readings of the clock. -/
def readings : Call → List Time
  | checkAndRecord _ now => [now.checked, now.recorded]
  | getRemaining _ now => [now]

end Call

/-- One call. -/
def answer (limiter : AccountRateLimiter) : Call → Outcome × AccountRateLimiter
  | .checkAndRecord accNo now => ((.verdict (limiter.checkAndRecord accNo now).1), (limiter.checkAndRecord accNo now).2)
  | .getRemaining accNo now => ((.remaining (limiter.getRemaining accNo now).1), (limiter.getRemaining accNo now).2)

/-- A call and its outcome. -/
abbrev Event := Call × Outcome

/-- Calls one after another. -/
def trace (limiter : AccountRateLimiter) : List Call → List Event
  | [] => []
  | c :: calls => (c, (limiter.answer c).1) :: (limiter.answer c).2.trace calls

/-- When the calls of an account were allowed. -/
def allowedTimes (accNo : String) (events : List Event) : List Time := events.filterMap fun
  | (.checkAndRecord accNo' now, .verdict .allowed) => if accNo' = accNo then some now.recorded else none
  | _ => none

/-- The instants of the window that ends at `t`. -/
def windowAt (span : ℕ) (t : Time) (times : List Time) : List Time := times.filter fun s => s ≤ t ∧ t < s + span

/-- What an outcome says about the calls before: allowed where fewer than `n` calls of the account lie inside the window,
refused where `n` or more do, and what remains is what is missing to `n`. -/
def Fits (n span : ℕ) (past : List Event) : Event → Prop
  | (.checkAndRecord accNo now, .verdict .allowed) => (recent span now.checked (allowedTimes accNo past)).length < n
  | (.checkAndRecord accNo now, .verdict (.refused _)) => n ≤ (recent span now.checked (allowedTimes accNo past)).length
  | (.getRemaining accNo now, .remaining r) => r + (recent span now (allowedTimes accNo past)).length = n
  | _ => False

/-- **A sliding window** of `n` calls: no window holds more that were allowed, every outcome fits the calls before, a
refused call makes no difference to the others, and neither do the calls of other accounts. -/
structure Sliding (limiter : AccountRateLimiter) (n span : ℕ) (calls : List Call) : Prop where
  bounded : ∀ accNo t, (windowAt span t (allowedTimes accNo (limiter.trace calls))).length ≤ n
  fits : ∀ before e after, limiter.trace calls = before ++ e :: after → Fits n span before e
  free : ∀ before c message after, limiter.trace calls = before ++ (c, .verdict (.refused message)) :: after →
    limiter.trace ((before ++ after).map Prod.fst) = before ++ after
  apart : ∀ accNo, limiter.trace (calls.filter fun c => c.accNo = accNo) =
    (limiter.trace calls).filter fun e => e.1.accNo = accNo

section Limiter

variable {limiter : AccountRateLimiter} {c : Call} {clock : Time}

/-! ## The clock -/

/-- The clock goes on from `clock`. -/
def Ordered (clock : Time) (calls : List Call) : Prop := (clock :: calls.flatMap Call.readings).Pairwise (· ≤ ·)

theorem Ordered.cons {calls : List Call} (ordered : Ordered clock (c :: calls)) :
    clock ≤ c.cleaned ∧ c.cleaned ≤ c.last ∧ Ordered c.last calls := by
  obtain ⟨first, rest⟩ := List.pairwise_cons.mp ordered
  cases c with
  | checkAndRecord accNo now =>
    obtain ⟨second, rest⟩ := List.pairwise_cons.mp (show (now.checked :: now.recorded :: _).Pairwise _ from rest)
    exact ⟨first _ (by simp [Call.readings, Call.cleaned]), second _ (by simp [Call.last]), rest⟩
  | getRemaining accNo now => exact ⟨first _ (by simp [Call.readings, Call.cleaned]), le_rfl, rest⟩

/-! ## One call -/

/-- What a call answers and leaves of the list of its account, from what it finds there after the clean-up. -/
def respond (limiter : AccountRateLimiter) (found : List Time) : Call → Outcome × List Time
  | .checkAndRecord _ now =>
    if limiter.maxOps ≤ found.length then
      match found with
      | [] => (.verdict .indexError, found)
      | oldest :: _ => (.verdict (.refused (limiter.retryMessage found.length oldest now.recorded)), found)
    else (.verdict .allowed, found ++ [now.recorded])
  | .getRemaining _ _ => (.remaining (limiter.maxOps - found.length), found)

/-- What a call finds. -/
def found (limiter : AccountRateLimiter) (c : Call) : List Time :=
  recent limiter.window c.cleaned (limiter.operations c.accNo)

@[simp] theorem cleanupWindow_self (limiter : AccountRateLimiter) (accNo : String) (now : Time) :
    (limiter.cleanupWindow accNo now).operations accNo = recent limiter.window now (limiter.operations accNo) :=
  Function.update_self _ _ _

/-- A call answers from what it finds, and changes the list of its account alone. -/
theorem answer_eq (limiter : AccountRateLimiter) (c : Call) : limiter.answer c =
    ((limiter.respond (limiter.found c) c).1, { limiter with
      operations := Function.update limiter.operations c.accNo (limiter.respond (limiter.found c) c).2 }) := by
  cases c with
  | getRemaining accNo now =>
    simp only [answer, getRemaining, cleanupWindow_self]
    rfl
  | checkAndRecord accNo now =>
    have here : limiter.found (.checkAndRecord accNo now) =
        recent limiter.window now.checked (limiter.operations accNo) := rfl
    rw [here]
    by_cases full : limiter.maxOps ≤ (recent limiter.window now.checked (limiter.operations accNo)).length
    · cases held : recent limiter.window now.checked (limiter.operations accNo) with
      | nil =>
        rw [held] at full
        simp only [answer, checkAndRecord, cleanupWindow, Function.update_self, respond, Call.accNo, held, if_pos full]
      | cons oldest rest =>
        rw [held] at full
        simp only [answer, checkAndRecord, cleanupWindow, Function.update_self, respond, Call.accNo, held, if_pos full]
        rfl
    · simp only [answer, checkAndRecord, cleanupWindow, Function.update_self, Function.update_idem, respond, Call.accNo,
        if_neg full]

@[simp] theorem answer_maxOps (limiter : AccountRateLimiter) (c : Call) :
    (limiter.answer c).2.maxOps = limiter.maxOps := by rw [answer_eq]

@[simp] theorem answer_windowSeconds (limiter : AccountRateLimiter) (c : Call) :
    (limiter.answer c).2.windowSeconds = limiter.windowSeconds := by rw [answer_eq]

@[simp] theorem answer_window (limiter : AccountRateLimiter) (c : Call) : (limiter.answer c).2.window = limiter.window :=
  congrArg (· * 1000000) (answer_windowSeconds limiter c)

theorem answer_operations (limiter : AccountRateLimiter) (c : Call) (accNo : String) :
    (limiter.answer c).2.operations accNo =
      if accNo = c.accNo then (limiter.respond (limiter.found c) c).2 else limiter.operations accNo := by
  rw [answer_eq]
  exact Function.update_apply _ _ _ _

/-- A call that is not allowed leaves what it finds. -/
theorem respond_of_ne_allowed {found : List Time} (denied : (limiter.respond found c).1 ≠ .verdict .allowed) :
    (limiter.respond found c).2 = found := by
  cases c with
  | getRemaining accNo now => rfl
  | checkAndRecord accNo now =>
    by_cases full : limiter.maxOps ≤ found.length
    · simp only [respond, if_pos full]
      cases found <;> rfl
    · simp [respond, if_neg full] at denied

theorem trace_map_fst (limiter : AccountRateLimiter) (calls : List Call) : (limiter.trace calls).map Prod.fst = calls := by
  induction calls generalizing limiter with
  | nil => rfl
  | cons c calls ih => exact congrArg (c :: ·) (ih _)

/-! ## Limiters that answer alike -/

/-- For some accounts the limiters hold what counts from `clock` on. -/
structure Agrees (accounts : String → Prop) (clock : Time) (limiter limiter' : AccountRateLimiter) : Prop where
  maxOps : limiter'.maxOps = limiter.maxOps
  windowSeconds : limiter'.windowSeconds = limiter.windowSeconds
  counts : ∀ accNo, accounts accNo → ∀ later, clock ≤ later →
    recent limiter.window later (limiter'.operations accNo) = recent limiter.window later (limiter.operations accNo)

variable {accounts : String → Prop} {limiter' : AccountRateLimiter}

theorem Agrees.window (agrees : Agrees accounts clock limiter limiter') : limiter'.window = limiter.window :=
  congrArg (· * 1000000) agrees.windowSeconds

theorem Agrees.refl (accounts : String → Prop) (clock : Time) (limiter : AccountRateLimiter) :
    Agrees accounts clock limiter limiter := ⟨rfl, rfl, fun _ _ _ _ => rfl⟩

theorem Agrees.respond (agrees : Agrees accounts clock limiter limiter') (found : List Time) (c : Call) :
    limiter'.respond found c = limiter.respond found c := by
  obtain ⟨operations, maxOps, windowSeconds⟩ := limiter
  obtain ⟨operations', maxOps', windowSeconds'⟩ := limiter'
  obtain rfl : maxOps' = maxOps := agrees.maxOps
  obtain rfl : windowSeconds' = windowSeconds := agrees.windowSeconds
  cases c <;> rfl

/-- They answer a call of such an account alike, and go on alike. -/
theorem Agrees.answer (agrees : Agrees accounts clock limiter limiter') (own : accounts c.accNo) (early : clock ≤ c.cleaned)
    (order : c.cleaned ≤ c.last) : (limiter'.answer c).1 = (limiter.answer c).1 ∧
      Agrees accounts c.last (limiter.answer c).2 (limiter'.answer c).2 := by
  have found : limiter'.found c = limiter.found c := by
    rw [AccountRateLimiter.found, agrees.window]
    exact agrees.counts c.accNo own c.cleaned early
  have outcome : (limiter'.answer c).1 = (limiter.answer c).1 := by
    rw [answer_eq limiter', answer_eq limiter, found, agrees.respond]
  refine ⟨outcome, by simp [agrees.maxOps], by simp [agrees.windowSeconds], fun accNo inside later late => ?_⟩
  rw [answer_window, answer_operations, answer_operations, found, agrees.respond]
  by_cases here : accNo = c.accNo
  · rw [if_pos here, if_pos here]
  · rw [if_neg here, if_neg here]
    exact agrees.counts accNo inside later ((early.trans order).trans late)

/-- Calls of the accounts have the same outcomes. -/
theorem Agrees.trace {calls : List Call} (agrees : Agrees accounts clock limiter limiter') (own : ∀ c ∈ calls, accounts c.accNo)
    (ordered : Ordered clock calls) : limiter'.trace calls = limiter.trace calls := by
  induction calls generalizing limiter limiter' clock with
  | nil => rfl
  | cons c calls ih =>
    obtain ⟨early, order, later⟩ := ordered.cons
    obtain ⟨same, next⟩ := agrees.answer (own c List.mem_cons_self) early order
    rw [AccountRateLimiter.trace, AccountRateLimiter.trace, same,
      ih next (fun c' mem => own c' (List.mem_cons_of_mem c mem)) later]

/-- A call leaves what counts for other accounts; where it is not allowed, for all. -/
theorem agrees_answer (order : c.cleaned ≤ c.last)
    (other : ∀ accNo, accounts accNo → accNo = c.accNo → (limiter.answer c).1 ≠ .verdict .allowed) :
    Agrees accounts c.last limiter (limiter.answer c).2 := by
  refine ⟨by simp, by simp, fun accNo inside later late => ?_⟩
  rw [answer_operations]
  by_cases here : accNo = c.accNo
  · have denied := other accNo inside here
    rw [answer_eq] at denied
    rw [if_pos here, respond_of_ne_allowed denied, here]
    exact recent_recent (order.trans late) _
  · rw [if_neg here]

/-! ## What the limiter knows -/

theorem allowedTimes_append (accNo : String) (past later : List Event) :
    allowedTimes accNo (past ++ later) = allowedTimes accNo past ++ allowedTimes accNo later := List.filterMap_append ..

/-- The limiter has the limit, and its lists hold what counts of the calls before. -/
structure Knows (n span : ℕ) (clock : Time) (limiter : AccountRateLimiter) (past : List Event) : Prop where
  maxOps : limiter.maxOps = n
  window : limiter.window = span
  before : ∀ accNo, ∀ s ∈ allowedTimes accNo past, s ≤ clock
  counts : ∀ accNo later, clock ≤ later →
    recent span later (limiter.operations accNo) = recent span later (allowedTimes accNo past)
  bounded : ∀ accNo t, (windowAt span t (allowedTimes accNo past)).length ≤ n

variable {n span : ℕ} {past : List Event}

/-- The window that ends at a moment that has come holds what is recent. -/
theorem windowAt_eq_recent {t : Time} {times : List Time} (before : ∀ s ∈ times, s ≤ t) :
    windowAt span t times = recent span t times := by
  refine List.filter_congr fun s mem => ?_
  have early := before s mem
  simp [early]

/-- One more instant, at a time when fewer than `n` count. -/
theorem windowAt_snoc_le {times : List Time} {checked recorded : Time} (bounded : ∀ t, (windowAt span t times).length ≤ n)
    (few : (recent span checked times).length < n) (order : checked ≤ recorded) (t : Time) :
    (windowAt span t (times ++ [recorded])).length ≤ n := by
  by_cases inside : recorded ≤ t ∧ t < recorded + span
  · have fewer : (windowAt span t times).length ≤ (recent span checked times).length := by
      unfold windowAt recent
      rw [← List.countP_eq_length_filter, ← List.countP_eq_length_filter]
      refine List.countP_mono_left fun s _ counts => ?_
      have late : t < s + span := (of_decide_eq_true counts).2
      exact decide_eq_true (lt_of_le_of_lt (order.trans inside.1) late)
    have one : (windowAt span t (times ++ [recorded])).length = (windowAt span t times).length + 1 := by
      simp [windowAt, List.filter_append, inside]
    omega
  · have same : windowAt span t (times ++ [recorded]) = windowAt span t times := by
      simp [windowAt, List.filter_append, inside]
    rw [same]
    exact bounded t

theorem Knows.found (knows : Knows n span clock limiter past) (early : clock ≤ c.cleaned) :
    limiter.found c = recent span c.cleaned (allowedTimes c.accNo past) := by
  rw [AccountRateLimiter.found, knows.window]
  exact knows.counts c.accNo c.cleaned early

/-- No more than `n` count. -/
theorem Knows.length_le (knows : Knows n span clock limiter past) {t : Time} (h : clock ≤ t) (accNo : String) :
    (recent span t (allowedTimes accNo past)).length ≤ n := by
  rw [← windowAt_eq_recent fun s mem => (knows.before accNo s mem).trans h]
  exact knows.bounded accNo t

/-- The outcome of a call fits the calls before. -/
theorem Knows.fits (knows : Knows n span clock limiter past) (hn : 1 ≤ n) (early : clock ≤ c.cleaned) :
    Fits n span past (c, (limiter.answer c).1) := by
  rw [answer_eq, knows.found early]
  have most := knows.length_le early c.accNo
  cases c with
  | getRemaining accNo now =>
    show limiter.maxOps - _ + _ = n
    rw [knows.maxOps]
    exact Nat.sub_add_cancel most
  | checkAndRecord accNo now =>
    simp only [Call.cleaned, Call.accNo] at most ⊢
    by_cases full : limiter.maxOps ≤ (recent span now.checked (allowedTimes accNo past)).length
    · simp only [respond, if_pos full]
      rw [knows.maxOps] at full
      cases held : recent span now.checked (allowedTimes accNo past) with
      | nil =>
        rw [held, List.length_nil] at full
        omega
      | cons oldest rest => exact full
    · simp only [respond, if_neg full]
      rw [knows.maxOps] at full
      exact not_le.mp full

/-- A call that is not allowed adds nothing. -/
theorem allowedTimes_snoc_of_ne {o : Outcome} (denied : o ≠ .verdict .allowed) (accNo : String) :
    allowedTimes accNo (past ++ [(c, o)]) = allowedTimes accNo past := by
  rw [allowedTimes_append]
  have none : allowedTimes accNo [(c, o)] = [] := by
    cases c with
    | getRemaining accNo' now => rfl
    | checkAndRecord accNo' now =>
      cases o with
      | remaining r => rfl
      | verdict v =>
        cases v with
        | allowed => exact absurd rfl denied
        | refused message => rfl
        | indexError => rfl
  rw [none, List.append_nil]

/-- **One call** keeps the knowledge. -/
theorem Knows.answer (knows : Knows n span clock limiter past) (early : clock ≤ c.cleaned) (order : c.cleaned ≤ c.last) :
    Knows n span c.last (limiter.answer c).2 (past ++ [(c, (limiter.answer c).1)]) := by
  by_cases allowed : (limiter.answer c).1 = .verdict .allowed
  · cases c with
    | getRemaining accNo now => cases allowed
    | checkAndRecord accNo now =>
      have found := knows.found early
      simp only [Call.cleaned, Call.accNo, Call.last] at early order found ⊢
      have few : (recent span now.checked (allowedTimes accNo past)).length < n := by
        rw [answer_eq, found] at allowed
        by_contra full
        rw [not_lt, ← knows.maxOps] at full
        simp only [respond, if_pos full] at allowed
        cases held : recent span now.checked (allowedTimes accNo past) <;> simp [held] at allowed
      have kept : (limiter.respond (limiter.found (.checkAndRecord accNo now)) (.checkAndRecord accNo now)).2 =
          recent span now.checked (allowedTimes accNo past) ++ [now.recorded] := by
        rw [← knows.maxOps] at few
        rw [found]
        simp only [respond, if_neg (not_le.mpr few)]
      have times : ∀ accNo', allowedTimes accNo' (past ++ [(.checkAndRecord accNo now, .verdict .allowed)]) =
          allowedTimes accNo' past ++ if accNo = accNo' then [now.recorded] else [] := by
        intro accNo'
        rw [allowedTimes_append]
        by_cases own : accNo = accNo' <;> simp [allowedTimes, own]
      rw [allowed]
      refine ⟨by simp [knows.maxOps], by simp [knows.window], ?_, ?_, ?_⟩
      · intro accNo' s mem
        rw [times, List.mem_append] at mem
        rcases mem with old | new
        · exact (knows.before accNo' s old).trans (early.trans order)
        · by_cases own : accNo = accNo'
          · rw [if_pos own, List.mem_singleton] at new
            exact new.le
          · rw [if_neg own] at new
            cases new
      · intro accNo' later late
        have held : (limiter.answer (.checkAndRecord accNo now)).2.operations accNo' =
            if accNo' = accNo then recent span now.checked (allowedTimes accNo past) ++ [now.recorded]
            else limiter.operations accNo' := by
          rw [answer_operations, kept]
          rfl
        rw [times, held, recent_append]
        by_cases own : accNo' = accNo
        · rw [if_pos own, if_pos own.symm, recent_append, recent_recent (order.trans late), own]
        · rw [if_neg own, if_neg (Ne.symm own), recent_nil, List.append_nil]
          exact knows.counts accNo' later ((early.trans order).trans late)
      · intro accNo' t
        rw [times]
        by_cases own : accNo = accNo'
        · subst own
          rw [if_pos rfl]
          exact windowAt_snoc_le (knows.bounded accNo) few order t
        · rw [if_neg own, List.append_nil]
          exact knows.bounded accNo' t
  · have same : Agrees (fun _ => True) c.last limiter (limiter.answer c).2 := agrees_answer order fun _ _ _ => allowed
    have times : ∀ accNo, allowedTimes accNo (past ++ [(c, (limiter.answer c).1)]) = allowedTimes accNo past :=
      allowedTimes_snoc_of_ne allowed
    refine ⟨by simp [knows.maxOps], by simp [knows.window], ?_, ?_, ?_⟩
    · intro accNo s mem
      rw [times] at mem
      exact (knows.before accNo s mem).trans (early.trans order)
    · intro accNo later late
      have kept := same.counts accNo trivial later late
      rw [knows.window] at kept
      rw [times, kept]
      exact knows.counts accNo later ((early.trans order).trans late)
    · intro accNo t
      rw [times]
      exact knows.bounded accNo t

/-! ## All calls -/

theorem Knows.trace {calls : List Call} (knows : Knows n span clock limiter past) (hn : 1 ≤ n) (ordered : Ordered clock calls) :
    (∀ accNo t, (windowAt span t (allowedTimes accNo (past ++ limiter.trace calls))).length ≤ n) ∧
      ∀ before e after, limiter.trace calls = before ++ e :: after → Fits n span (past ++ before) e := by
  induction calls generalizing limiter clock past with
  | nil =>
    refine ⟨fun accNo t => ?_, fun before e after split => ?_⟩
    · rw [AccountRateLimiter.trace, List.append_nil]
      exact knows.bounded accNo t
    · simp [AccountRateLimiter.trace] at split
  | cons c calls ih =>
    obtain ⟨early, order, later⟩ := ordered.cons
    obtain ⟨bounded, fits⟩ := ih (knows.answer early order) later
    rw [AccountRateLimiter.trace]
    refine ⟨fun accNo t => ?_, fun before e after split => ?_⟩
    · have here := bounded accNo t
      rwa [List.append_assoc] at here
    · rcases before with _ | ⟨first, before⟩
      · obtain ⟨rfl, -⟩ := List.cons.inj split
        rw [List.append_nil]
        exact knows.fits hn early
      · obtain ⟨rfl, rest⟩ := List.cons.inj split
        have here := fits before e after rest
        rwa [List.append_assoc] at here

/-- The calls without one that is refused have the outcomes they have with it. -/
theorem trace_free {calls : List Call} (ordered : Ordered clock calls) {before after : List Event} {message : String}
    (split : limiter.trace calls = before ++ (c, .verdict (.refused message)) :: after) :
    limiter.trace ((before ++ after).map Prod.fst) = before ++ after := by
  induction calls generalizing limiter clock before with
  | nil => simp [AccountRateLimiter.trace] at split
  | cons c' calls ih =>
    obtain ⟨early, order, later⟩ := ordered.cons
    rw [AccountRateLimiter.trace] at split
    rcases before with _ | ⟨first, before⟩
    · obtain ⟨head, rest⟩ := List.cons.inj split
      obtain ⟨rfl, refused⟩ := Prod.mk.inj head
      have same : Agrees (fun _ => True) _ limiter (limiter.answer _).2 := agrees_answer order fun _ _ _ => by
        rw [refused]
        simp
      rw [List.nil_append, ← rest, trace_map_fst]
      exact (same.trace (fun _ _ => trivial) later).symm
    · obtain ⟨rfl, rest⟩ := List.cons.inj split
      have tail := ih later rest
      rw [List.cons_append, List.map_cons, AccountRateLimiter.trace, tail]

/-- The calls of one account have the outcomes they have among all. -/
theorem trace_apart {calls : List Call} (ordered : Ordered clock calls) (accNo : String)
    (agrees : Agrees (· = accNo) clock limiter limiter') :
    limiter'.trace (calls.filter fun c => c.accNo = accNo) = (limiter.trace calls).filter fun e => e.1.accNo = accNo := by
  induction calls generalizing limiter limiter' clock with
  | nil => rfl
  | cons c calls ih =>
    obtain ⟨early, order, later⟩ := ordered.cons
    by_cases own : c.accNo = accNo
    · obtain ⟨same, next⟩ := agrees.answer own early order
      rw [List.filter_cons_of_pos (by simpa using own), AccountRateLimiter.trace, AccountRateLimiter.trace,
        List.filter_cons_of_pos (by simpa using own), same, ih later next]
    · have kept : Agrees (· = accNo) c.last limiter (limiter.answer c).2 := agrees_answer order fun a ha here =>
        absurd (here.symm.trans ha) own
      have next : Agrees (· = accNo) c.last (limiter.answer c).2 limiter' := by
        refine ⟨by simp [agrees.maxOps], by simp [agrees.windowSeconds], fun a ha t ht => ?_⟩
        have old := kept.counts a ha t ht
        rw [answer_window, old]
        exact agrees.counts a ha t ((early.trans order).trans ht)
      rw [List.filter_cons_of_neg (by simpa using own), AccountRateLimiter.trace,
        List.filter_cons_of_neg (by simpa using own)]
      exact ih later next

/-- A limiter for `n` calls in a window. -/
def new (n windowSeconds : ℕ) : AccountRateLimiter where
  operations _ := []
  maxOps := n
  windowSeconds := windowSeconds

/-- The limiter of a setting such as `5/hour`. -/
theorem init_eq (count : ℕ) (period : String) : init count period = new count (parseLimit count period).2 := rfl

/-- **The limiter is a sliding window**, whatever is called while the clock goes on. -/
theorem sliding_window {n windowSeconds : ℕ} (hn : 1 ≤ n) {calls : List Call}
    (clock : (calls.flatMap Call.readings).Pairwise (· ≤ ·)) :
    (new n windowSeconds).Sliding n (windowSeconds * 1000000) calls := by
  have ordered : Ordered 0 calls := List.pairwise_cons.mpr ⟨fun t _ => t.zero_le, clock⟩
  have knows : Knows n (windowSeconds * 1000000) 0 (new n windowSeconds) [] :=
    ⟨rfl, rfl, fun _ _ mem => absurd mem List.not_mem_nil, fun _ _ _ => rfl, fun _ _ => Nat.zero_le n⟩
  obtain ⟨bounded, fits⟩ := knows.trace hn ordered
  exact ⟨bounded, fits, fun _ _ _ _ split => trace_free ordered split,
    fun accNo => trace_apart ordered accNo (Agrees.refl _ 0 _)⟩

/-- One call a second is allowed, and the second one is refused. -/
theorem sliding_window_pair : (new 1 1).Sliding 1 1000000
    [.checkAndRecord "1001" ⟨5, 6⟩, .checkAndRecord "1001" ⟨7, 7⟩, .getRemaining "1002" 8] :=
  sliding_window le_rfl (by decide)

end Limiter

end AccountRateLimiter

end UnionBank
