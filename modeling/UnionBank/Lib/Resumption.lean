import Mathlib

/-!
# Resumption

A script of steps on a persistent state, one after another up to the first that raises. Where a step that has been
done has nothing more to do, and later steps leave it done, the script may be killed between steps, however often:
from what is left it does what it would have done from the start.

- `Step`: a step, and when it is done; `run`: the script;
- `Lasting`: later steps leave earlier ones done;
- `killed`: what runs that were killed leave; `run_killed`: the script from there.
-/

namespace Resumption

variable {S E : Type}

/-- A step, with the condition under which nothing is left to do. -/
structure Step (S E : Type) where
  act : S → Except E S
  Done : S → Prop
  settles : ∀ s s', act s = .ok s' → Done s'
  rests : ∀ s, Done s → act s = .ok s

/-- The steps up to the first that raises. -/
def run : List (Step S E) → S → Except E Unit × S
  | [], s => (.ok (), s)
  | step :: steps, s =>
    match step.act s with
    | .ok s' => run steps s'
    | .error e => (.error e, s)

/-- What runs leave that were killed, each when so many steps had been done. -/
def killed (steps : List (Step S E)) (kills : List ℕ) (s : S) : S :=
  kills.foldl (fun s k => (run (steps.take k) s).2) s

/-- What a step has done, later ones leave done. -/
def Lasting (steps : List (Step S E)) : Prop :=
  steps.Pairwise fun step later => ∀ s s', step.Done s → later.act s = .ok s' → step.Done s'

variable {steps : List (Step S E)} {step : Step S E} {s s' : S} {e : E}

theorem run_of_ok (steps : List (Step S E)) (acts : step.act s = .ok s') : run (step :: steps) s = run steps s' := by
  simp only [run, acts]

theorem run_of_error (steps : List (Step S E)) (acts : step.act s = .error e) :
    run (step :: steps) s = (.error e, s) := by
  simp only [run, acts]

/-- What every step keeps, the script keeps. -/
theorem run_induction {P : S → Prop} (keep : ∀ step ∈ steps, ∀ s s', P s → step.act s = .ok s' → P s') (h : P s) :
    P (run steps s).2 := by
  induction steps generalizing s with
  | nil => exact h
  | cons step steps ih =>
    cases acts : step.act s with
    | error e =>
      rw [run_of_error steps acts]
      exact h
    | ok s' =>
      rw [run_of_ok steps acts]
      have next := keep step List.mem_cons_self s s' h acts
      exact ih (fun later mem => keep later (List.mem_cons_of_mem step mem)) next

/-- The script from where a run was killed. -/
theorem run_take (lasting : Lasting steps) (k : ℕ) (s : S) : run steps (run (steps.take k) s).2 = run steps s := by
  induction steps generalizing k s with
  | nil =>
    rw [List.take_nil]
    rfl
  | cons step steps ih =>
    obtain ⟨lasts, rest⟩ := List.pairwise_cons.mp lasting
    cases k with
    | zero => rfl
    | succ k =>
      rw [List.take_succ_cons]
      cases acts : step.act s with
      | error e => rw [run_of_error _ acts]
      | ok s' =>
        have done : step.Done (run (steps.take k) s').2 :=
          run_induction (fun later mem => lasts later (List.mem_of_mem_take mem)) (step.settles s s' acts)
        calc run (step :: steps) (run (step :: steps.take k) s).2
          _ = run (step :: steps) (run (steps.take k) s').2 := by rw [run_of_ok _ acts]
          _ = run steps (run (steps.take k) s').2 := run_of_ok steps (step.rests _ done)
          _ = run steps s' := ih rest k s'
          _ = run (step :: steps) s := (run_of_ok steps acts).symm

/-- **Resumption.** After runs that were killed, the script does what it would have done without them. -/
theorem run_killed (lasting : Lasting steps) (kills : List ℕ) (s : S) :
    run steps (killed steps kills s) = run steps s := by
  induction kills generalizing s with
  | nil => rfl
  | cons k kills ih => exact (ih (run (steps.take k) s).2).trans (run_take lasting k s)

end Resumption
