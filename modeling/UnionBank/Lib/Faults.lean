import UnionBank.Lib.Prog

/-!
# Runs with any number of faults

Operations that raise on their own, at any places of a run.

- `execFaults`: the run, with a list that tells of every operation in turn whether it raises;
- `execFaults_keeps`: what the handler and every strike keep holds after it, and it ends as the program promises;
- `Straight`: programs that catch nothing, and what a fault makes of them;
- `faulty`: the specification of a handler whose operations may raise, and `wp_faulty` from it to the runs.
-/

namespace Programs.Prog

variable {Op : Type} {Res : Op → Type} {ε α σ W : Type}

/-- The run in which the operations that `faults` names raise, where they may; `fail o` is what a failing `o` leaves. -/
def execFaults (h : Handler Res ε W) (fail : Op → W → W) (may : Op → Bool) :
    List (Option ε) → Prog Res ε α → W → Except ε α × W
  | _, ret a, w => (.ok a, w)
  | _, raise e, w => (.error e, w)
  | [], call o k, w => execFaults h fail may [] (k (h o w).1) (h o w).2
  | none :: faults, call o k, w => execFaults h fail may faults (k (h o w).1) (h o w).2
  | some e :: faults, call o k, w =>
    if may o then execFaults h fail may faults (k (.error e)) (fail o w)
    else execFaults h fail may faults (k (h o w).1) (h o w).2

variable {h : Handler Res ε W} {fail : Op → W → W} {may : Op → Bool}

/-- Without faults it is the run. -/
theorem execFaults_nil (p : Prog Res ε α) (w : W) : execFaults h fail may [] p w = exec h p w := by
  induction p generalizing w with
  | ret a => rfl
  | raise e => rfl
  | call o k ih =>
    rw [execFaults, exec_call]
    exact ih _ _

section Keeps

variable {spec : Spec Res ε σ} {R : W → σ → Prop}

/-- What the handler and every strike keep holds after a run with faults, which ends as the program promises. -/
theorem execFaults_keeps (hk : h.Keeps spec R) (strike : Strikes fail spec (fun o => may o = true) R R)
    (faults : List (Option ε)) {p : Prog Res ε α} {Q : Except ε α → σ → Prop} {w : W} {s : σ} (hR : R w s)
    (hp : wp spec p Q s) :
    ∃ s', R (execFaults h fail may faults p w).2 s' ∧ Q (execFaults h fail may faults p w).1 s' := by
  induction p generalizing faults w s with
  | ret a =>
    rw [execFaults]
    exact ⟨s, hR, hp⟩
  | raise e =>
    rw [execFaults]
    exact ⟨s, hR, hp⟩
  | call o k ih =>
    obtain ⟨s', hR', hQ'⟩ := hk o w s _ hR hp
    match faults with
    | [] =>
      rw [execFaults]
      exact ih _ [] hR' hQ'
    | none :: faults =>
      rw [execFaults]
      exact ih _ faults hR' hQ'
    | some e :: faults =>
      rw [execFaults]
      split
      · rename_i allowed
        obtain ⟨s'', hR'', hQ''⟩ := strike o w s _ e allowed hR hp
        exact ih _ faults hR'' hQ''
      · exact ih _ faults hR' hQ'

end Keeps

/-! ## Programs that catch nothing -/

/-- An exception of an operation is the exception of the program, whose operations are all as `ok` says. -/
def Straight (ok : Op → Prop) : Prog Res ε α → Prop
  | ret _ => True
  | raise _ => True
  | call o k => ok o ∧ (∀ e, k (.error e) = raise e) ∧ ∀ a, (k (.ok a)).Straight ok

section Straight

variable {ok : Op → Prop}

theorem Straight.perform {o : Op} (ho : ok o) : (Prog.perform o : Prog Res ε (Res o)).Straight ok :=
  ⟨ho, fun _ => rfl, fun _ => trivial⟩

theorem Straight.bind {β : Type} {p : Prog Res ε α} {f : α → Prog Res ε β} (hp : p.Straight ok)
    (hf : ∀ a, (f a).Straight ok) : (p >>= f).Straight ok := by
  show (p.bind f).Straight ok
  induction p with
  | ret a => exact hf a
  | raise e => trivial
  | call o k ih =>
    obtain ⟨ho, raises, answers⟩ := hp
    refine ⟨ho, fun e => ?_, fun a => ih (.ok a) (answers a)⟩
    show (k (.error e)).bind f = _
    rw [raises e]
    rfl

/-- Where a fault strikes, the world is one that the operations of the program lead to. -/
theorem Straight.struck {I : W → Prop} (keeps : ∀ o w, ok o → I w → I (h o w).2) {p : Prog Res ε α}
    (hp : p.Straight ok) {n : ℕ} {w w₁ : W} {o : Op} (hs : Prog.struck h n p w = some (o, w₁)) (hI : I w) : I w₁ := by
  induction p generalizing n w with
  | ret a => cases n <;> cases hs
  | raise e' => cases n <;> cases hs
  | call o' k ih =>
    obtain ⟨ho, raises, answers⟩ := hp
    cases n with
    | zero =>
      cases hs
      exact hI
    | succ n =>
      rw [Prog.struck] at hs
      cases hr : (h o' w).1 with
      | error e' =>
        rw [hr, raises e'] at hs
        cases n <;> cases hs
      | ok a =>
        rw [hr] at hs
        exact ih (.ok a) (answers a) hs (keeps o' w ho hI)

/-- A fault ends a program that catches nothing. -/
theorem Straight.execFault {p : Prog Res ε α} (hp : p.Straight ok) {n : ℕ} {w w₁ : W} {o : Op}
    (hs : Prog.struck h n p w = some (o, w₁)) (e : ε) :
    Prog.execFault h fail (.raise e) n p w = (.done (.error e), fail o w₁) := by
  induction p generalizing n w with
  | ret a => cases n <;> cases hs
  | raise e' => cases n <;> cases hs
  | call o' k ih =>
    obtain ⟨-, raises, answers⟩ := hp
    cases n with
    | zero =>
      cases hs
      rw [Prog.execFault, raises e]
      rfl
    | succ n =>
      rw [Prog.struck] at hs
      rw [Prog.execFault]
      cases hr : (h o' w).1 with
      | error e' =>
        rw [hr, raises e'] at hs
        cases n <;> cases hs
      | ok a =>
        rw [hr] at hs
        exact ih (.ok a) (answers a) hs

end Straight

/-- Where a process dies, the world is as the operation found it. -/
theorem execFault_die {p : Prog Res ε α} {n : ℕ} {w w₁ : W} {o : Op} (hs : struck h n p w = some (o, w₁)) :
    Prog.execFault h fail .die n p w = (.died, w₁) := by
  induction p generalizing n w with
  | ret a => cases n <;> cases hs
  | raise e' => cases n <;> cases hs
  | call o' k ih =>
    cases n with
    | zero =>
      cases hs
      rfl
    | succ n => exact ih _ hs

/-! ## The handler as a specification -/

variable (h fail may)

/-- An operation is answered by the handler, or it raises where it may. -/
def faulty : Spec Res ε W := fun o w Q => Q (h o w).1 (h o w).2 ∧ (may o = true → ∀ e, Q (.error e) (fail o w))

theorem faulty_mono : Spec.Mono (faulty h fail may) := by
  intro o w Q Q' hQ hw
  constructor
  · exact hQ _ _ hw.1
  · intro allowed e
    exact hQ _ _ (hw.2 allowed e)

variable {h fail may}

/-- What holds however operations raise holds of every run with faults. -/
theorem wp_faulty {p : Prog Res ε α} {Q : Except ε α → W → Prop} {w : W} (hp : wp (faulty h fail may) p Q w)
    (faults : List (Option ε)) :
    Q (execFaults h fail may faults p w).1 (execFaults h fail may faults p w).2 := by
  have keeps : h.Keeps (faulty h fail may) (fun w w' => w = w') := by
    rintro o w _ Q rfl hw
    exact ⟨_, rfl, hw.1⟩
  have strike : Strikes fail (faulty h fail may) (fun o => may o = true) (fun w w' => w = w') (fun w w' => w = w') := by
    rintro o w _ Q e allowed rfl hw
    exact ⟨_, rfl, hw.2 allowed e⟩
  obtain ⟨w', same, hQ⟩ := execFaults_keeps keeps strike faults rfl hp
  rw [same]
  exact hQ

end Programs.Prog
