import Mathlib

/-!
# Crashes

Steps on a persistent state, one after another, of which a crash may stop any: between two steps, or inside one that
leaves less than the whole of its effect.

- `Action`: a step and what a crash inside it may leave; `run`: all of them;
- `Crash`: what a crash may leave; `crash_append`, `Crash.induction`: its rules.
-/

namespace Crashes

variable {S : Type}

/-- A step: its effect, and the states a crash inside it may leave. -/
structure Action (S : Type) where
  effect : S → S
  torn : S → S → Prop

/-- An atomic step. -/
def Action.atomic (effect : S → S) : Action S := ⟨effect, fun _ _ => False⟩

def run (actions : List (Action S)) (s : S) : S := actions.foldl (fun s a => a.effect s) s

/-- The states that a crash at some point of the steps may leave. -/
inductive Crash : List (Action S) → S → S → Prop
  | between (actions : List (Action S)) (s : S) : Crash actions s s
  | inside {a : Action S} {actions : List (Action S)} {s s' : S} (h : a.torn s s') : Crash (a :: actions) s s'
  | later {a : Action S} {actions : List (Action S)} {s s' : S} (h : Crash actions (a.effect s) s') :
      Crash (a :: actions) s s'

variable {actions more : List (Action S)} {s s' : S}

theorem run_append (actions more : List (Action S)) (s : S) : run (actions ++ more) s = run more (run actions s) :=
  List.foldl_append

/-- A crash comes in the first steps, or after all of them. -/
theorem crash_append : Crash (actions ++ more) s s' ↔ Crash actions s s' ∨ Crash more (run actions s) s' := by
  induction actions generalizing s with
  | nil =>
    constructor
    · exact .inr
    · rintro (h | h)
      · cases h
        exact .between _ _
      · exact h
  | cons a actions ih =>
    constructor
    · intro h
      cases h with
      | between => exact .inl (.between _ _)
      | inside torn => exact .inl (.inside torn)
      | later rest => exact (ih.mp rest).imp .later id
    · rintro (h | h)
      · cases h with
        | between => exact .between _ _
        | inside torn => exact .inside torn
        | later rest => exact .later (ih.mpr (.inl rest))
      · exact .later (ih.mpr (.inr h))

/-- What every step and every crash inside one keeps is kept. -/
theorem Crash.induction {I : S → Prop} (crash : Crash actions s s') (start : I s)
    (effect : ∀ a ∈ actions, ∀ s, I s → I (a.effect s)) (torn : ∀ a ∈ actions, ∀ s s', I s → a.torn s s' → I s') : I s' := by
  induction crash with
  | between => exact start
  | inside h => exact torn _ List.mem_cons_self _ _ start h
  | later _ ih =>
    exact ih (effect _ List.mem_cons_self _ start) (fun a mem => effect a (List.mem_cons_of_mem _ mem))
      fun a mem => torn a (List.mem_cons_of_mem _ mem)

theorem run_induction {I : S → Prop} (start : I s) (effect : ∀ a ∈ actions, ∀ s, I s → I (a.effect s)) :
    I (run actions s) := by
  induction actions generalizing s with
  | nil => exact start
  | cons a actions ih =>
    exact ih (effect a List.mem_cons_self s start) fun a' mem => effect a' (List.mem_cons_of_mem a mem)

/-- A crash around an atomic step leaves all of it or nothing. -/
theorem crash_atomic {effect : S → S} : Crash [Action.atomic effect] s s' ↔ s' = s ∨ s' = effect s := by
  constructor
  · intro h
    cases h with
    | between => exact .inl rfl
    | inside torn => exact torn.elim
    | later rest =>
      cases rest
      exact .inr rfl
  · rintro (rfl | rfl)
    · exact .between _ _
    · exact .later (.between _ _)

end Crashes
