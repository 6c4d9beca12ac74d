import UnionBank.Lib.Faults
import UnionBank.Lib.Locks

/-!
# Two programs side by side

Two programs run from related worlds: what relates their outcomes, whichever of the operations both have raise.

- `struckBy`: a handler whose operations raise as a list tells, which is part of the world: one entry for each operation
  that counts;
- `Coupled`: the relation between the outcomes of two programs, with one rule for each way to compose them;
- `Coupled.refl`: a program beside itself, when each of its operations keeps the relation (`Paired`);
- `exec_of_wp_struckBy`: what a specification says of such a run.
-/

namespace Programs.Prog

variable {Op : Type} {Res : Op → Type} {ε α β W W' : Type}

/-- The operations that count raise as the list tells in turn, and `fail o` is what a failing `o` leaves. -/
def struckBy (h : Handler Res ε W) (fail : Op → W → W) (counts : Op → Bool) : Handler Res ε (W × List (Option ε))
  | o, (w, faults) =>
    if counts o then
      match faults with
      | some e :: faults => (.error e, (fail o w, faults))
      | faults => ((h o w).1, ((h o w).2, faults.tail))
    else ((h o w).1, ((h o w).2, faults))

/-- What happens after an outcome. -/
def andRun (h : Handler Res ε W) (f : α → Prog Res ε β) : Except ε α × W → Except ε β × W
  | (.ok a, w) => exec h (f a) w
  | (.error e, w) => (.error e, w)

theorem exec_bind_andRun (h : Handler Res ε W) (p : Prog Res ε α) (f : α → Prog Res ε β) (w : W) :
    exec h (p >>= f) w = andRun h f (exec h p w) := by
  rw [exec_bind]
  rcases exec h p w with ⟨_ | _, w'⟩ <;> rfl

theorem exec_tryCatch (h : Handler Res ε W) (p : Prog Res ε α) (f : ε → Prog Res ε α) (w : W) :
    exec h (tryCatch p f) w = match exec h p w with
      | (.ok a, w') => (.ok a, w')
      | (.error e, w') => exec h (f e) w' := by
  rw [tryCatch_eq, exec_bind, exec_attempt]
  rcases exec h p w with ⟨_ | _, w'⟩ <;> rfl

/-- Operations of a narrower kind. -/
theorem all_mono {P Q : Op → Prop} {p : Prog Res ε α} (wider : ∀ o, P o → Q o) (all : p.All P) : p.All Q := by
  induction p with
  | ret a => trivial
  | raise e => trivial
  | call o k ih => exact ⟨wider o all.1, fun r => ih r (all.2 r)⟩

/-! ## Coupling -/

section Coupling

variable {h : Handler Res ε W} {h' : Handler Res ε W'} {Φ : W → W' → Prop}

/-- From related worlds the two runs end in related outcomes. -/
def Coupled (h : Handler Res ε W) (h' : Handler Res ε W') (Φ : W → W' → Prop) (p : Prog Res ε α) (q : Prog Res ε β)
    (Ψ : Except ε α × W → Except ε β × W' → Prop) : Prop :=
  ∀ w w', Φ w w' → Ψ (exec h p w) (exec h' q w')

/-- Equal results in related worlds. -/
def Same (Φ : W → W' → Prop) (x : Except ε α × W) (y : Except ε α × W') : Prop := x.1 = y.1 ∧ Φ x.2 y.2

theorem Coupled.ret {a : α} : Coupled h h' Φ (ret a) (ret a) (Same Φ) := fun _ _ related => ⟨rfl, related⟩

/-- First parts with equal results, and then what goes on from the result. -/
theorem Coupled.bind {Φ' Φ'' : W → W' → Prop} {p q : Prog Res ε α} {f g : α → Prog Res ε β}
    (first : Coupled h h' Φ p q (Same Φ')) (weaker : ∀ w w', Φ' w w' → Φ'' w w')
    (rest : ∀ a, Coupled h h' Φ' (f a) (g a) (Same Φ'')) : Coupled h h' Φ (p >>= f) (q >>= g) (Same Φ'') := by
  intro w w' related
  obtain ⟨same, worlds⟩ := first w w' related
  rw [exec_bind_andRun, exec_bind_andRun]
  rcases run : exec h p w with ⟨r, v⟩
  rcases run' : exec h' q w' with ⟨r', v'⟩
  rw [run, run'] at same worlds
  dsimp only at same worlds
  subst same
  cases r with
  | ok a => exact rest a v v' worlds
  | error e => exact ⟨rfl, weaker v v' worlds⟩

/-- A caught exception is a result like any other. -/
theorem Coupled.tryCatch {p : Prog Res ε α} {q : Prog Res ε α} {f g : ε → Prog Res ε α}
    (first : Coupled h h' Φ p q (Same Φ)) (rest : ∀ e, Coupled h h' Φ (f e) (g e) (Same Φ)) :
    Coupled h h' Φ (tryCatch p f) (tryCatch q g) (Same Φ) := by
  rw [tryCatch_eq, tryCatch_eq]
  refine Coupled.bind (fun w w' related => ?_) (fun _ _ related => related) fun r => ?_
  · rw [exec_attempt, exec_attempt]
    obtain ⟨same, worlds⟩ := first w w' related
    exact ⟨congrArg Except.ok same, worlds⟩
  · cases r with
    | ok a => exact .ret
    | error e => exact rest e

/-- An operation answers both sides alike and keeps the relation. -/
def Paired (h : Handler Res ε W) (h' : Handler Res ε W') (Φ : W → W' → Prop) (o : Op) : Prop :=
  ∀ w w', Φ w w' → Same Φ (h o w) (h' o w')

/-- **A program beside itself.** -/
theorem Coupled.refl {p : Prog Res ε α} (paired : p.All (Paired h h' Φ)) : Coupled h h' Φ p p (Same Φ) := by
  induction p with
  | ret a => exact .ret
  | raise e => exact fun _ _ related => ⟨rfl, related⟩
  | call o k ih =>
    intro w w' related
    obtain ⟨here, later⟩ := paired
    obtain ⟨same, worlds⟩ := here w w' related
    rw [exec_call, exec_call, ← same]
    exact ih _ (later _) _ _ worlds

end Coupling

/-! ## Operations that raise as a list tells -/

section StruckBy

variable {h : Handler Res ε W} {h' : Handler Res ε W'} {fail : Op → W → W} {fail' : Op → W' → W'} {counts : Op → Bool}

/-- Two worlds with the same faults to come. -/
def SameFaults (Φ : W → W' → Prop) (x : W × List (Option ε)) (y : W' × List (Option ε)) : Prop :=
  x.2 = y.2 ∧ Φ x.1 y.1

/-- An operation that is paired, also where it fails. -/
theorem Paired.struckBy {Φ : W → W' → Prop} {o : Op} (paired : Paired h h' Φ o)
    (fails : counts o = true → ∀ w w', Φ w w' → Φ (fail o w) (fail' o w')) :
    Paired (struckBy h fail counts) (struckBy h' fail' counts) (SameFaults Φ) o := by
  rintro ⟨w, faults⟩ ⟨w', _⟩ ⟨rfl, related⟩
  obtain ⟨same, worlds⟩ := paired w w' related
  cases counted : counts o with
  | false =>
    simp only [Prog.struckBy, counted, Bool.false_eq_true, if_false]
    exact ⟨same, rfl, worlds⟩
  | true =>
    match faults with
    | some e :: faults =>
      simp only [Prog.struckBy, counted, if_true]
      exact ⟨rfl, rfl, fails counted w w' related⟩
    | [] | none :: faults =>
      simp only [Prog.struckBy, counted, if_true]
      exact ⟨same, rfl, worlds⟩

/-- An operation that does not count runs as it does without faults. -/
theorem exec_struckBy_uncounted {o : Op} (uncounted : counts o = false) (w : W) (faults : List (Option ε)) :
    exec (struckBy h fail counts) (perform o) (w, faults) = ((h o w).1, ((h o w).2, faults)) := by
  rw [exec_perform]
  simp only [Prog.struckBy, uncounted, Bool.false_eq_true, if_false]

/-- What the handler and every strike keep holds after such a run, which ends as the program promises. -/
theorem exec_of_wp_struckBy {σ : Type} {spec : Spec Res ε σ} {R : W → σ → Prop} (keeps : h.Keeps spec R)
    (strike : Strikes fail spec (fun o => counts o = true) R R) {p : Prog Res ε α} {Q : Except ε α → σ → Prop} {w : W}
    {s : σ} (related : R w s) (promise : wp spec p Q s) (faults : List (Option ε)) :
    ∃ s', R (exec (struckBy h fail counts) p (w, faults)).2.1 s' ∧
      Q (exec (struckBy h fail counts) p (w, faults)).1 s' := by
  refine exec_of_wp (h := struckBy h fail counts) (R := fun x s => R x.1 s) ?_ related promise
  rintro o ⟨w, faults⟩ s Q related obeys
  cases counted : counts o with
  | false =>
    simp only [Prog.struckBy, counted, Bool.false_eq_true, if_false]
    exact keeps o w s Q related obeys
  | true =>
    match faults with
    | some e :: faults =>
      simp only [Prog.struckBy, counted, if_true]
      exact strike o w s Q e counted related obeys
    | [] | none :: faults =>
      simp only [Prog.struckBy, counted, if_true]
      exact keeps o w s Q related obeys

end StruckBy

end Programs.Prog
