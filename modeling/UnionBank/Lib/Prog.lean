import Mathlib

/-!
# Programs over operations

A program asks for operations one at a time and goes on with the answer, which is a value or an exception. What an
operation does is left to a handler, so that one program text has several meanings: its run against a handler
(`exec`), its run with one operation failing or with the process dying (`execFault`), and, in `Machine.lean`, its
interleavings with other programs.

- `Prog` is a monad with exceptions; `attempt` turns an exception into a value, `ensuring` runs a clean-up;
- `wp spec p Q s`: from the abstract state `s` every run of `p` whose operations obey `spec` ends in `Q`. The rules
  `wp_bind`, `wp_attempt` and `wp_mono` compose it, and `exec_of_wp` carries it over to the runs of a handler that
  keeps to `spec`.
-/

namespace Programs

/-- Programs returning `α` or raising `ε`, over the operations `Op` with answers `Res`. -/
inductive Prog {Op : Type} (Res : Op → Type) (ε α : Type) : Type where
  | ret (a : α)
  | raise (e : ε)
  | call (o : Op) (k : Except ε (Res o) → Prog Res ε α)

namespace Prog

variable {Op : Type} {Res : Op → Type} {ε α β : Type}

/-- Sequencing; an exception skips the rest. -/
def bind : Prog Res ε α → (α → Prog Res ε β) → Prog Res ε β
  | ret a, f => f a
  | raise e, _ => raise e
  | call o k, f => call o fun r => (k r).bind f

/-- One operation; its exception is raised. -/
def perform (o : Op) : Prog Res ε (Res o) := call o fun
  | .ok a => ret a
  | .error e => raise e

/-- The outcome of a program as a value. -/
def attempt : Prog Res ε α → Prog Res ε (Except ε α)
  | ret a => ret (.ok a)
  | raise e => ret (.error e)
  | call o k => call o fun r => (k r).attempt

/-- A given outcome. -/
def ofExcept : Except ε α → Prog Res ε α
  | .ok a => ret a
  | .error e => raise e

instance : Monad (Prog Res ε) where
  pure := ret
  bind := bind

instance : MonadExcept ε (Prog Res ε) where
  throw := raise
  tryCatch p handler := p.attempt.bind fun
    | .ok a => ret a
    | .error e => handler e

/-- `p`, and then `cleanup` whether or not `p` raised. -/
def ensuring (p : Prog Res ε α) (cleanup : Prog Res ε Unit) : Prog Res ε α := do
  let r ← p.attempt
  cleanup
  ofExcept r

@[simp] theorem pure_eq (a : α) : (pure a : Prog Res ε α) = ret a := rfl
@[simp] theorem throw_eq (e : ε) : (throw e : Prog Res ε α) = raise e := rfl
@[simp] theorem bind_ret (a : α) (f : α → Prog Res ε β) : ret a >>= f = f a := rfl
@[simp] theorem bind_raise (e : ε) (f : α → Prog Res ε β) : (raise e : Prog Res ε α) >>= f = raise e := rfl

theorem tryCatch_eq (p : Prog Res ε α) (f : ε → Prog Res ε α) :
    tryCatch p f = p.attempt >>= fun
      | .ok a => ret a
      | .error e => f e := rfl

theorem bind_assoc {γ : Type} (p : Prog Res ε α) (f : α → Prog Res ε β) (g : β → Prog Res ε γ) :
    p >>= f >>= g = p >>= fun a => f a >>= g := by
  show (p.bind f).bind g = p.bind fun a => (f a).bind g
  induction p with
  | ret a => rfl
  | raise e => rfl
  | call o k ih => exact congrArg (call o) (funext fun r => ih r)

/-! ## Runs -/

/-- How a handler answers an operation in a world `W`. -/
abbrev Handler (Res : Op → Type) (ε W : Type) := (o : Op) → W → Except ε (Res o) × W

section Runs

variable {W : Type} (h : Handler Res ε W)

/-- The run of a program against a handler. -/
def exec : Prog Res ε α → W → Except ε α × W
  | ret a, w => (.ok a, w)
  | raise e, w => (.error e, w)
  | call o k, w => exec (k (h o w).1) (h o w).2

@[simp] theorem exec_ret (a : α) (w : W) : exec h (ret a) w = (.ok a, w) := rfl
@[simp] theorem exec_raise (e : ε) (w : W) : exec h (raise e : Prog Res ε α) w = (.error e, w) := rfl
theorem exec_call (o : Op) (k : Except ε (Res o) → Prog Res ε α) (w : W) :
    exec h (call o k) w = exec h (k (h o w).1) (h o w).2 := rfl

/-- A sequence runs its first part, and the second from where that ended unless it raised. -/
theorem exec_bind (p : Prog Res ε α) (f : α → Prog Res ε β) (w : W) :
    exec h (p >>= f) w = match exec h p w with
      | (.ok a, w') => exec h (f a) w'
      | (.error e, w') => (.error e, w') := by
  show exec h (p.bind f) w = _
  induction p generalizing w with
  | ret a => rfl
  | raise e => rfl
  | call o k ih => exact ih _ _

theorem exec_perform (o : Op) (w : W) : exec h (perform o : Prog Res ε (Res o)) w = h o w := by
  rw [perform, exec_call]
  rcases h o w with ⟨_ | _, w'⟩ <;> rfl

/-- One operation and the rest. -/
theorem exec_perform_bind (o : Op) (f : Res o → Prog Res ε α) (w : W) :
    exec h (perform o >>= f) w = match h o w with
      | (.ok a, w') => exec h (f a) w'
      | (.error e, w') => (.error e, w') := by
  rw [exec_bind, exec_perform]
  rcases h o w with ⟨_ | _, w'⟩ <;> rfl

theorem exec_attempt (p : Prog Res ε α) (w : W) :
    exec h p.attempt w = (.ok (exec h p w).1, (exec h p w).2) := by
  induction p generalizing w with
  | ret a => rfl
  | raise e => rfl
  | call o k ih => exact ih _ _

@[simp] theorem exec_ofExcept (r : Except ε α) (w : W) : exec h (ofExcept r) w = (r, w) := by
  cases r <;> rfl

end Runs

/-! ## Runs with a fault -/

/-- What strikes a run: an operation raises, or the process dies there. -/
inductive Fault (ε : Type) where
  | raise (e : ε)
  | die

/-- How a run with a fault ends. -/
inductive Outcome (ε α : Type) where
  | done (r : Except ε α)
  | died

section Faults

variable {W : Type} (h : Handler Res ε W) (fail : Op → W → W)

/-- The run in which operation number `n` is struck by `f`; `fail o` is what a failing `o` makes of the world. -/
def execFault (f : Fault ε) : ℕ → Prog Res ε α → W → Outcome ε α × W
  | _, ret a, w => (.done (.ok a), w)
  | _, raise e, w => (.done (.error e), w)
  | n + 1, call o k, w => execFault f n (k (h o w).1) (h o w).2
  | 0, call o k, w => match f with
    | .die => (.died, w)
    | .raise e => let (r, w') := exec h (k (.error e)) (fail o w); (.done r, w')

/-- Only a process that dies does not end. -/
theorem execFault_raise_done (e : ε) (n : ℕ) (p : Prog Res ε α) (w : W) :
    ∃ r, (execFault h fail (.raise e) n p w).1 = .done r := by
  induction p generalizing n w with
  | ret a => cases n <;> exact ⟨_, rfl⟩
  | raise e => cases n <;> exact ⟨_, rfl⟩
  | call o k ih =>
    cases n with
    | zero => exact ⟨_, rfl⟩
    | succ n => exact ih _ n _

/-- The operation a fault at number `n` strikes, and the world it finds. -/
def struck : ℕ → Prog Res ε α → W → Option (Op × W)
  | _, ret _, _ => none
  | _, raise _, _ => none
  | n + 1, call o k, w => struck n (k (h o w).1) (h o w).2
  | 0, call o _, w => some (o, w)

/-- The operations of a run come one after the other. -/
theorem struck_lt {m n : ℕ} {p : Prog Res ε α} {w : W} {x : Op × W} (hn : struck h n p w = some x)
    (hm : struck h m p w = none) : n < m := by
  induction p generalizing m n w with
  | ret a => cases n <;> cases hn
  | raise e => cases n <;> cases hn
  | call o k ih =>
    cases m with
    | zero => cases hm
    | succ m =>
      cases n with
      | zero => exact m.succ_pos
      | succ n => exact Nat.succ_lt_succ (ih _ hn hm)

/-- A fault that strikes nothing changes nothing. -/
theorem execFault_of_struck_none {f : Fault ε} {n : ℕ} {p : Prog Res ε α} {w : W} (hs : struck h n p w = none) :
    execFault h fail f n p w = (.done (exec h p w).1, (exec h p w).2) := by
  induction p generalizing n w with
  | ret a => cases n <;> rfl
  | raise e => cases n <;> rfl
  | call o k ih =>
    cases n with
    | zero => cases hs
    | succ n => exact ih _ hs

end Faults

/-! ## Weakest preconditions -/

/-- What is known of an operation in an abstract state: a predicate transformer on its answer and the next state. -/
abbrev Spec (Res : Op → Type) (ε σ : Type) := (o : Op) → σ → (Except ε (Res o) → σ → Prop) → Prop

section WP

variable {σ : Type} (spec : Spec Res ε σ)

/-- Every run of the program from `s` keeps to `spec` and ends in `Q`. -/
def wp : Prog Res ε α → (Except ε α → σ → Prop) → σ → Prop
  | ret a, Q, s => Q (.ok a) s
  | raise e, Q, s => Q (.error e) s
  | call o k, Q, s => spec o s fun r s' => (k r).wp Q s'

@[simp] theorem wp_ret (a : α) (Q : Except ε α → σ → Prop) (s : σ) : wp spec (ret a) Q s = Q (.ok a) s := rfl
@[simp] theorem wp_raise (e : ε) (Q : Except ε α → σ → Prop) (s : σ) : wp spec (raise e) Q s = Q (.error e) s := rfl

theorem wp_call (o : Op) (k : Except ε (Res o) → Prog Res ε α) (Q : Except ε α → σ → Prop) (s : σ) :
    wp spec (call o k) Q s = spec o s fun r s' => (k r).wp spec Q s' := rfl

/-- The rest of a sequence, as a postcondition of its first part. -/
def andThen (f : α → Prog Res ε β) (Q : Except ε β → σ → Prop) : Except ε α → σ → Prop
  | .ok a, s => wp spec (f a) Q s
  | .error e, s => Q (.error e) s

@[simp] theorem andThen_ok (f : α → Prog Res ε β) (Q : Except ε β → σ → Prop) (a : α) (s : σ) :
    andThen spec f Q (.ok a) s = wp spec (f a) Q s := rfl
@[simp] theorem andThen_error (f : α → Prog Res ε β) (Q : Except ε β → σ → Prop) (e : ε) (s : σ) :
    andThen spec f Q (.error e) s = Q (.error e) s := rfl

theorem wp_bind (p : Prog Res ε α) (f : α → Prog Res ε β) (Q : Except ε β → σ → Prop) (s : σ) :
    wp spec (p >>= f) Q s = wp spec p (andThen spec f Q) s := by
  show wp spec (p.bind f) Q s = _
  induction p generalizing s with
  | ret a => rfl
  | raise e => rfl
  | call o k ih =>
    show spec o s _ = spec o s _
    congr 1
    funext r s'
    exact ih r s'

theorem wp_attempt (p : Prog Res ε α) (Q : Except ε (Except ε α) → σ → Prop) (s : σ) :
    wp spec p.attempt Q s = wp spec p (fun r s' => Q (.ok r) s') s := by
  induction p generalizing s with
  | ret a => rfl
  | raise e => rfl
  | call o k ih =>
    show spec o s _ = spec o s _
    congr 1
    funext r s'
    exact ih r s'

theorem wp_ofExcept (r : Except ε α) (Q : Except ε α → σ → Prop) (s : σ) : wp spec (ofExcept r) Q s = Q r s := by
  cases r <;> rfl

theorem wp_ensuring (p : Prog Res ε α) (c : Prog Res ε Unit) (Q : Except ε α → σ → Prop) (s : σ) :
    wp spec (p.ensuring c) Q s =
      wp spec p (fun r s' => wp spec c (andThen spec (fun _ => ofExcept r) Q) s') s := by
  rw [ensuring, wp_bind, wp_attempt]
  congr 1
  funext r s'
  rw [andThen_ok, wp_bind]

/-- One operation. -/
@[simp] theorem wp_perform (o : Op) (Q : Except ε (Res o) → σ → Prop) (s : σ) :
    wp spec (perform o) Q s = spec o s Q := by
  show spec o s _ = _
  congr 1
  funext r s'
  cases r <;> rfl

theorem wp_tryCatch (p : Prog Res ε α) (f : ε → Prog Res ε α) (Q : Except ε α → σ → Prop) (s : σ) :
    wp spec (tryCatch p f) Q s = wp spec p (fun
      | .ok a, s' => Q (.ok a) s'
      | .error e, s' => wp spec (f e) Q s') s := by
  rw [tryCatch_eq, wp_bind, wp_attempt]
  congr 1
  funext r s'
  cases r <;> rfl

/-- The transformers of a monotone specification. -/
def Spec.Mono (spec : Spec Res ε σ) : Prop :=
  ∀ (o : Op) (s : σ) (Q Q' : Except ε (Res o) → σ → Prop), (∀ r s', Q r s' → Q' r s') → spec o s Q → spec o s Q'

variable {spec}

theorem wp_mono (hm : spec.Mono) {p : Prog Res ε α} {Q Q' : Except ε α → σ → Prop} {s : σ}
    (hQ : ∀ r s', Q r s' → Q' r s') (hp : wp spec p Q s) : wp spec p Q' s := by
  induction p generalizing s with
  | ret a => exact hQ _ _ hp
  | raise e => exact hQ _ _ hp
  | call o k ih => exact hm o s _ _ (fun r s' hr => ih r hr) hp

/-- A handler keeps to a specification along a relation of worlds and abstract states. -/
def Handler.Keeps {W : Type} (h : Handler Res ε W) (spec : Spec Res ε σ) (R : W → σ → Prop) : Prop :=
  ∀ (o : Op) (w : W) (s : σ) (Q : Except ε (Res o) → σ → Prop), R w s → spec o s Q →
    ∃ s', R (h o w).2 s' ∧ Q (h o w).1 s'

/-- Runs of a handler that keeps to the specification end in what the program's precondition promises. -/
theorem exec_of_wp {W : Type} {h : Handler Res ε W} {R : W → σ → Prop} (hk : h.Keeps spec R) {p : Prog Res ε α}
    {Q : Except ε α → σ → Prop} {w : W} {s : σ} (hR : R w s) (hp : wp spec p Q s) :
    ∃ s', R (exec h p w).2 s' ∧ Q (exec h p w).1 s' := by
  induction p generalizing w s with
  | ret a => exact ⟨s, hR, hp⟩
  | raise e => exact ⟨s, hR, hp⟩
  | call o k ih =>
    obtain ⟨s', hR', hQ'⟩ := hk o w s _ hR hp
    exact ih _ hR' hQ'

/-! ## Runs with a fault, again -/

section FaultRules

variable {W : Type} {h : Handler Res ε W} {fail : Op → W → W} {R : W → σ → Prop} {may : Op → Prop}

/-- A failing operation `o` keeps to the specification from `R` to `R'`. -/
def Strikes (fail : Op → W → W) (spec : Spec Res ε σ) (may : Op → Prop) (R R' : W → σ → Prop) : Prop :=
  ∀ (o : Op) (w : W) (s : σ) (Q : Except ε (Res o) → σ → Prop) (e : ε), may o → R w s → spec o s Q →
    ∃ s', R' (fail o w) s' ∧ Q (.error e) s'

/-- A raised fault strikes an operation that may fail. -/
def Fault.Allowed (may : Op → Prop) (h : Handler Res ε W) (f : Fault ε) (n : ℕ) (p : Prog Res ε α) (w : W) : Prop :=
  ∀ o w' e, struck h n p w = some (o, w') → f = .raise e → may o

/-- What the handler and every strike keep holds after a run with a fault, which ends as the program promises. -/
theorem execFault_keeps (hk : h.Keeps spec R) (strike : Strikes fail spec may R R) {f : Fault ε} {n : ℕ}
    {p : Prog Res ε α} {Q : Except ε α → σ → Prop} {w : W} {s : σ} (allowed : f.Allowed may h n p w) (hR : R w s)
    (hp : wp spec p Q s) :
    ∃ s', R (execFault h fail f n p w).2 s' ∧ ∀ r, (execFault h fail f n p w).1 = .done r → Q r s' := by
  induction p generalizing n w s with
  | ret a => cases n <;> exact ⟨s, hR, by rintro r ⟨⟩; exact hp⟩
  | raise e => cases n <;> exact ⟨s, hR, by rintro r ⟨⟩; exact hp⟩
  | call o k ih =>
    cases n with
    | succ n =>
      obtain ⟨s', hR', hQ'⟩ := hk o w s _ hR hp
      exact ih _ allowed hR' hQ'
    | zero =>
      cases f with
      | die => exact ⟨s, hR, by rintro r ⟨⟩⟩
      | raise e =>
        obtain ⟨s', hR', hQ'⟩ := strike o w s _ e (allowed o w e rfl rfl) hR hp
        obtain ⟨s'', hR'', hQ''⟩ := exec_of_wp hk hR' hQ'
        exact ⟨s'', hR'', by rintro r ⟨⟩; exact hQ''⟩

/-- What is known where a run is struck, when the handler keeps to the specification up to there. -/
theorem wp_struck (fail : Op → W → W) {p : Prog Res ε α} {Q : Except ε α → σ → Prop} {w w₁ : W} {s : σ} {n : ℕ} {o : Op} (hR : R w s)
    (hp : wp spec p Q s) (hs : struck h n p w = some (o, w₁))
    (hk : ∀ m o' w', m < n → struck h m p w = some (o', w') → ∀ s Q, R w' s → spec o' s Q →
      ∃ s', R (h o' w').2 s' ∧ Q (h o' w').1 s') :
    ∃ (k : Except ε (Res o) → Prog Res ε α) (s₁ : σ), R w₁ s₁ ∧ spec o s₁ (fun r s' => wp spec (k r) Q s') ∧
      ∀ e, execFault h fail (.raise e) n p w =
        (.done (exec h (k (.error e)) (fail o w₁)).1, (exec h (k (.error e)) (fail o w₁)).2) := by
  induction p generalizing n w s with
  | ret a => cases n <;> cases hs
  | raise e => cases n <;> cases hs
  | call o' k ih =>
    cases n with
    | succ n =>
      obtain ⟨s', hR', hQ'⟩ := hk 0 o' w n.succ_pos rfl s _ hR hp
      exact ih _ hR' hQ' hs fun m o'' w'' hm => hk (m + 1) o'' w'' (Nat.succ_lt_succ hm)
    | zero =>
      cases hs
      exact ⟨k, s, hR, hp, fun e => rfl⟩

/-- A run in which no operation raises. -/
theorem exec_of_wp_smooth
    (step : ∀ (o : Op) (w : W) (s : σ) (Q : Except ε (Res o) → σ → Prop) (a : Res o), (h o w).1 = .ok a → R w s →
      spec o s Q → ∃ s', R (h o w).2 s' ∧ Q (.ok a) s')
    {p : Prog Res ε α} {Q : Except ε α → σ → Prop} {w : W} {s : σ} (hR : R w s) (hp : wp spec p Q s)
    (smooth : ∀ n o w₁, struck h n p w = some (o, w₁) → ∀ e, (h o w₁).1 ≠ .error e) :
    ∃ s', R (exec h p w).2 s' ∧ Q (exec h p w).1 s' := by
  induction p generalizing w s with
  | ret a => exact ⟨s, hR, hp⟩
  | raise e => exact ⟨s, hR, hp⟩
  | call o k ih =>
    cases hr : (h o w).1 with
    | error e => exact absurd hr (smooth 0 o w rfl e)
    | ok a =>
      obtain ⟨s', hR', hQ'⟩ := step o w s _ a hr hR hp
      rw [exec_call, hr]
      exact ih _ hR' hQ' fun n o' w' hs => smooth (n + 1) o' w' (by rw [struck, hr]; exact hs)

/-- A run that is struck where `here` holds ends in what the specification says from there. -/
theorem execFault_of_struck {R' : W → σ → Prop} (here : Op → W → Prop) (hk : h.Keeps spec R) (hk' : h.Keeps spec R')
    {e : ε} (strike : ∀ (o : Op) (w : W) (s : σ) (Q : Except ε (Res o) → σ → Prop), here o w → R w s → spec o s Q →
      ∃ s', R' (fail o w) s' ∧ Q (.error e) s')
    {n : ℕ} {p : Prog Res ε α} {Q : Except ε α → σ → Prop} {w w₁ : W} {s : σ} {o : Op} (hR : R w s)
    (hp : wp spec p Q s) (hs : struck h n p w = some (o, w₁)) (ho : here o w₁) :
    ∃ r w' s', execFault h fail (.raise e) n p w = (.done r, w') ∧ R' w' s' ∧ Q r s' := by
  induction p generalizing n w s with
  | ret a => cases n <;> cases hs
  | raise e => cases n <;> cases hs
  | call o' k ih =>
    cases n with
    | succ n =>
      obtain ⟨s', hR', hQ'⟩ := hk o' w s _ hR hp
      exact ih _ hR' hQ' hs
    | zero =>
      cases hs
      obtain ⟨s', hR', hQ'⟩ := strike _ _ s _ ho hR hp
      obtain ⟨s'', hR'', hQ''⟩ := exec_of_wp hk' hR' hQ'
      exact ⟨_, _, s'', rfl, hR'', hQ''⟩

/-- A run one of whose operations leads from `R` to `R'`. -/
theorem exec_of_struck {R' : W → σ → Prop} (here : Op → W → Prop) (hk : h.Keeps spec R) (hk' : h.Keeps spec R')
    (step : ∀ (o : Op) (w : W) (s : σ) (Q : Except ε (Res o) → σ → Prop), here o w → R w s → spec o s Q →
      ∃ s', R' (h o w).2 s' ∧ Q (h o w).1 s')
    {n : ℕ} {p : Prog Res ε α} {Q : Except ε α → σ → Prop} {w w₁ : W} {s : σ} {o : Op} (hR : R w s)
    (hp : wp spec p Q s) (hs : struck h n p w = some (o, w₁)) (ho : here o w₁) :
    ∃ s', R' (exec h p w).2 s' ∧ Q (exec h p w).1 s' := by
  induction p generalizing n w s with
  | ret a => cases n <;> cases hs
  | raise e => cases n <;> cases hs
  | call o' k ih =>
    cases n with
    | succ n =>
      obtain ⟨s', hR', hQ'⟩ := hk o' w s _ hR hp
      exact ih _ hR' hQ' hs
    | zero =>
      cases hs
      obtain ⟨s', hR', hQ'⟩ := step _ _ s _ ho hR hp
      rw [exec_call]
      exact exec_of_wp hk' hR' hQ'

end FaultRules

/-- A handler as a specification. -/
def Handler.toSpec {W : Type} (h : Handler Res ε W) : Spec Res ε W := fun o w Q => Q (h o w).1 (h o w).2

/-- What holds of the run, and what the weakest precondition for the handler says, is the same. -/
theorem wp_handler {W : Type} (h : Handler Res ε W) (p : Prog Res ε α) (Q : Except ε α → W → Prop) (w : W) :
    wp (Handler.toSpec h) p Q w ↔ Q (exec h p w).1 (exec h p w).2 := by
  induction p generalizing w with
  | ret a => rfl
  | raise e => rfl
  | call o k ih => exact ih _ _

theorem toSpec_mono {W : Type} (h : Handler Res ε W) : Spec.Mono (Handler.toSpec h) :=
  fun _ _ _ _ hQ => hQ _ _

end WP

end Prog

end Programs
