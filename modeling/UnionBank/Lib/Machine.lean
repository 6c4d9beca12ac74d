import UnionBank.Lib.Prog

/-!
# Threads over a shared store

Threads that run programs of their own over one store. A step performs one operation of one thread, so a schedule is a
list of the threads in the order in which they step.

- `System`: how operations are answered, which may fail on their own, and which have to wait for another thread;
- `System.next` and `System.run`: a step, and a schedule; a thread that is at its end or has to wait stays;
- `System.Moves`: what a step can do; `run_induction` carries an invariant along a run, `run_along` along a run whose
  events meet a condition (`System.Along`).
-/

namespace Programs

open Prog

variable {ι Op : Type} {Res : Op → Type} {ε α S L : Type}

/-- A thread: what is left of its program, and the state of its own. -/
structure Thread (Res : Op → Type) (ε α L : Type) where
  prog : Prog Res ε α
  own : L

/-- What a finished thread has returned or raised. -/
def Thread.result (t : Thread Res ε α L) : Option (Except ε α) :=
  match t.prog with
  | .ret a => some (.ok a)
  | .raise e => some (.error e)
  | .call .. => none

/-- What threads run on. `fail o` is what a failing `o` leaves, `blocks o l` tells whether a thread with the state `l`
keeps every thread from performing `o`. -/
structure System (Res : Op → Type) (ε S L : Type) where
  handle : Handler Res ε (S × L)
  fail : Op → S × L → S × L
  fallible : Op → Bool
  blocks : Op → L → Bool

/-- The store and the threads. -/
structure Config (ι : Type) (Res : Op → Type) (ε α S L : Type) where
  store : S
  threads : ι → Thread Res ε α L

/-- A thread performs its operation, or the operation fails. -/
inductive Event (ι ε : Type) where
  | step (i : ι)
  | fail (i : ι) (e : ε)

namespace Config

variable [DecidableEq ι] (c : Config ι Res ε α S L)

/-- The world of a thread. -/
def world (i : ι) : S × L := (c.store, (c.threads i).own)

/-- Thread `i` goes on with `p`, in the world `w`. -/
def put (i : ι) (w : S × L) (p : Prog Res ε α) : Config ι Res ε α S L :=
  { store := w.1, threads := Function.update c.threads i ⟨p, w.2⟩ }

@[simp] theorem put_store (i : ι) (w : S × L) (p : Prog Res ε α) : (c.put i w p).store = w.1 := rfl

@[simp] theorem put_threads_self (i : ι) (w : S × L) (p : Prog Res ε α) : (c.put i w p).threads i = ⟨p, w.2⟩ :=
  Function.update_self ..

theorem put_threads_of_ne {i j : ι} (w : S × L) (p : Prog Res ε α) (h : j ≠ i) :
    (c.put i w p).threads j = c.threads j := Function.update_of_ne h ..

@[simp] theorem put_world_self (i : ι) (w : S × L) (p : Prog Res ε α) : (c.put i w p).world i = w := by
  rw [world, put_threads_self, put_store]

theorem put_world_of_ne {i j : ι} (w : S × L) (p : Prog Res ε α) (h : j ≠ i) :
    (c.put i w p).world j = (w.1, (c.threads j).own) := by
  rw [world, put_threads_of_ne _ _ _ h, put_store]

end Config

namespace System

variable [Fintype ι] [DecidableEq ι] (M : System Res ε S L)

/-- One event. -/
def next (c : Config ι Res ε α S L) : Event ι ε → Config ι Res ε α S L
  | .step i => match (c.threads i).prog with
    | .call o k =>
      if ∀ j, M.blocks o (c.threads j).own = false then
        c.put i (M.handle o (c.world i)).2 (k (M.handle o (c.world i)).1)
      else c
    | _ => c
  | .fail i e => match (c.threads i).prog with
    | .call o k => if M.fallible o then c.put i (M.fail o (c.world i)) (k (.error e)) else c
    | _ => c

/-- A schedule. -/
def run (c : Config ι Res ε α S L) : List (Event ι ε) → Config ι Res ε α S L
  | [] => c
  | e :: es => run (M.next c e) es

theorem run_append (c : Config ι Res ε α S L) (es es' : List (Event ι ε)) :
    M.run c (es ++ es') = M.run (M.run c es) es' := by
  induction es generalizing c with
  | nil => rfl
  | cons e es ih => exact ih _

/-- A thread that can perform its operation. -/
def Enabled (c : Config ι Res ε α S L) (i : ι) : Prop :=
  ∃ o k, (c.threads i).prog = .call o k ∧ ∀ j, M.blocks o (c.threads j).own = false

/-- What an event can do. -/
inductive Moves (c : Config ι Res ε α S L) : Event ι ε → Config ι Res ε α S L → Prop
  | stay (ev : Event ι ε) : Moves c ev c
  | step {i : ι} {o : Op} {k : Except ε (Res o) → Prog Res ε α} (here : (c.threads i).prog = .call o k)
      (free : ∀ j, M.blocks o (c.threads j).own = false) :
      Moves c (.step i) (c.put i (M.handle o (c.world i)).2 (k (M.handle o (c.world i)).1))
  | fail {i : ι} {e : ε} {o : Op} {k : Except ε (Res o) → Prog Res ε α} (here : (c.threads i).prog = .call o k)
      (may : M.fallible o = true) : Moves c (.fail i e) (c.put i (M.fail o (c.world i)) (k (.error e)))

theorem next_moves (c : Config ι Res ε α S L) (ev : Event ι ε) : M.Moves c ev (M.next c ev) := by
  cases ev with
  | step i =>
    simp only [next]
    split
    next o k here =>
      split
      next free => exact .step here free
      next => exact .stay _
    next => exact .stay _
  | fail i e =>
    simp only [next]
    split
    next o k here =>
      split
      next may => exact .fail here may
      next => exact .stay _
    next => exact .stay _

variable {M}

/-- What every event keeps holds after every schedule. -/
theorem run_induction {P : Config ι Res ε α S L → Prop} {c : Config ι Res ε α S L} (es : List (Event ι ε)) (h : P c)
    (step : ∀ c ev c', P c → M.Moves c ev c' → P c') : P (M.run c es) := by
  induction es generalizing c with
  | nil => exact h
  | cons e es ih => exact ih (step _ _ _ h (M.next_moves c e))

/-- Every event of a schedule meets a condition where it happens. -/
def Along (M : System Res ε S L) (P : Config ι Res ε α S L → Event ι ε → Prop) (c : Config ι Res ε α S L) :
    List (Event ι ε) → Prop
  | [] => True
  | ev :: es => P c ev ∧ Along M P (M.next c ev) es

instance decidableAlong (P : Config ι Res ε α S L → Event ι ε → Prop) [∀ c ev, Decidable (P c ev)]
    (c : Config ι Res ε α S L) : ∀ es : List (Event ι ε), Decidable (M.Along P c es)
  | [] => isTrue trivial
  | ev :: es =>
    have := decidableAlong P (M.next c ev) es
    inferInstanceAs (Decidable (_ ∧ _))

/-- What every event that meets the condition keeps. -/
theorem run_along {P : Config ι Res ε α S L → Event ι ε → Prop} {I : Config ι Res ε α S L → Prop}
    {c : Config ι Res ε α S L} {es : List (Event ι ε)} (along : M.Along P c es) (h : I c)
    (step : ∀ c ev c', I c → P c ev → M.Moves c ev c' → I c') : I (M.run c es) := by
  induction es generalizing c with
  | nil => exact h
  | cons ev es ih =>
    obtain ⟨here, rest⟩ := along
    exact ih rest (step _ _ _ h here (M.next_moves c ev))

/-- An enabled thread moves. -/
theorem next_of_enabled {c : Config ι Res ε α S L} {i : ι} (h : M.Enabled c i) : ∃ o k,
    (c.threads i).prog = .call o k ∧
      M.next c (.step i) = c.put i (M.handle o (c.world i)).2 (k (M.handle o (c.world i)).1) := by
  obtain ⟨o, k, here, free⟩ := h
  refine ⟨o, k, here, ?_⟩
  simp only [next, here]
  exact if_pos free

end System

end Programs
