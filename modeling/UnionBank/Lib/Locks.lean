import UnionBank.Lib.Machine

/-!
# Locks in one order

Programs that take their locks in ascending order and give all of them back, over threads that wait for one another's
locks.

- `LockUse`: what an operation does with the locks; `Locks`: the systems whose threads carry the locks they hold;
- `ascending`: the order, as a specification; `Prog.Trace`: the runs of a program alone, whatever it is answered;
- `Ordered.exists_enabled`: such threads are never all waiting; `trace_perm`: every lock taken is given back.
-/

namespace Programs

open Prog

set_option linter.unusedSectionVars false

variable {ι Op : Type} {Res : Op → Type} {ε α β S L K : Type}

/-! ## Programs whose operations are all of one kind -/

namespace Prog

/-- Every operation the program can come to, whatever it is answered. -/
def All (P : Op → Prop) : Prog Res ε α → Prop
  | ret _ => True
  | raise _ => True
  | call o k => P o ∧ ∀ r, (k r).All P

variable {P : Op → Prop}

@[simp] theorem all_ret (a : α) : (ret a : Prog Res ε α).All P := trivial
@[simp] theorem all_raise (e : ε) : (raise e : Prog Res ε α).All P := trivial

theorem all_perform {o : Op} (h : P o) : (perform o : Prog Res ε (Res o)).All P := by
  refine ⟨h, fun r => ?_⟩
  cases r <;> trivial

theorem all_bind {p : Prog Res ε α} {f : α → Prog Res ε β} (hp : p.All P) (hf : ∀ a, (f a).All P) :
    (p >>= f).All P := by
  show (p.bind f).All P
  induction p with
  | ret a => exact hf a
  | raise e => trivial
  | call o k ih => exact ⟨hp.1, fun r => ih r (hp.2 r)⟩

theorem all_attempt {p : Prog Res ε α} (hp : p.All P) : p.attempt.All P := by
  induction p with
  | ret a => trivial
  | raise e => trivial
  | call o k ih => exact ⟨hp.1, fun r => ih r (hp.2 r)⟩

theorem all_tryCatch {p : Prog Res ε α} {f : ε → Prog Res ε α} (hp : p.All P) (hf : ∀ e, (f e).All P) :
    (tryCatch p f).All P := by
  rw [tryCatch_eq]
  refine all_bind (all_attempt hp) fun r => ?_
  cases r with
  | ok a => trivial
  | error e => exact hf e

/-- A specification that asks nothing of the operations of a program, and keeps a state for them. -/
theorem wp_of_all {σ : Type} {spec : Spec Res ε σ} {p : Prog Res ε α} {Q : Except ε α → σ → Prop} {s : σ}
    (hp : p.All P) (keeps : ∀ o (Q : Except ε (Res o) → σ → Prop), P o → (∀ r, Q r s) → spec o s Q)
    (hQ : ∀ r, Q r s) : wp spec p Q s := by
  induction p with
  | ret a => exact hQ _
  | raise e => exact hQ _
  | call o k ih => exact keeps o _ hp.1 fun r => ih r (hp.2 r)

/-- A specification that knows less than another one. -/
theorem wp_project {σ τ : Type} {spec : Spec Res ε σ} {spec' : Spec Res ε τ} (hm : spec.Mono) (f : σ → τ)
    (less : ∀ o s (Q : Except ε (Res o) → τ → Prop), spec o s (fun r s' => Q r (f s')) → spec' o (f s) Q)
    {p : Prog Res ε α} {Q : Except ε α → τ → Prop} {s : σ} (hp : wp spec p (fun r s' => Q r (f s')) s) :
    wp spec' p Q (f s) := by
  induction p generalizing s with
  | ret a => exact hp
  | raise e => exact hp
  | call o k ih =>
    have rest : spec o s fun r s' => wp spec' (k r) Q (f s') := hm o s _ _ (fun r s' h => ih r h) hp
    exact less o s (fun r t => wp spec' (k r) Q t) rest

/-- A run of a program alone: the operations it performs and its end, where `answers o r` tells whether `o` can be
answered by `r`. -/
inductive Trace (answers : (o : Op) → Except ε (Res o) → Prop) : Prog Res ε α → List Op → Except ε α → Prop
  | ret (a : α) : Trace answers (ret a) [] (.ok a)
  | raise (e : ε) : Trace answers (raise e) [] (.error e)
  | call {o : Op} {k : Except ε (Res o) → Prog Res ε α} {r : Except ε (Res o)} {os : List Op} {x : Except ε α}
      (answer : answers o r) (rest : Trace answers (k r) os x) : Trace answers (call o k) (o :: os) x

end Prog

/-! ## Locks -/

/-- What an operation does with the locks. -/
inductive LockUse (K : Type) where
  | takes (k : K)
  | gives (k : K)
  | neither

/-- The lock that is taken. -/
def LockUse.taken? : LockUse K → Option K
  | takes k => some k
  | _ => none

/-- The lock that is given back. -/
def LockUse.given? : LockUse K → Option K
  | gives k => some k
  | _ => none

section Ascending

variable [LinearOrder K] (use : Op → LockUse K)

/-- An operation without locks. -/
def Lockless (o : Op) : Prop := use o = .neither

/-- Locks are taken in ascending order and given back by who holds them; any other operation may be answered in any
way. The state is the locks that are held. -/
def ascending : Spec Res ε (List K) := fun o held Q =>
  match use o with
  | .takes k => (∀ k' ∈ held, k' < k) ∧ ∀ a, Q (.ok a) (held ++ [k])
  | .gives k => k ∈ held ∧ ∀ a, Q (.ok a) (held.erase k)
  | .neither => ∀ r, Q r held

variable {use}

theorem ascending_takes {o : Op} {k : K} {held : List K} {Q : Except ε (Res o) → List K → Prop} (h : use o = .takes k) :
    ascending use o held Q ↔ (∀ k' ∈ held, k' < k) ∧ ∀ a, Q (.ok a) (held ++ [k]) := by
  simp only [ascending, h]

theorem ascending_gives {o : Op} {k : K} {held : List K} {Q : Except ε (Res o) → List K → Prop} (h : use o = .gives k) :
    ascending use o held Q ↔ k ∈ held ∧ ∀ a, Q (.ok a) (held.erase k) := by
  simp only [ascending, h]

theorem ascending_neither {o : Op} {held : List K} {Q : Except ε (Res o) → List K → Prop} (h : use o = .neither) :
    ascending use o held Q ↔ ∀ r, Q r held := by
  simp only [ascending, h]

theorem ascending_mono : Spec.Mono (ascending use : Spec Res ε (List K)) := by
  intro o held Q Q' hQ h
  cases hu : use o with
  | takes k =>
    rw [ascending_takes hu] at h ⊢
    exact ⟨h.1, fun a => hQ _ _ (h.2 a)⟩
  | gives k =>
    rw [ascending_gives hu] at h ⊢
    exact ⟨h.1, fun a => hQ _ _ (h.2 a)⟩
  | neither =>
    rw [ascending_neither hu] at h ⊢
    exact fun r => hQ _ _ (h r)

variable (use)

/-- A program that keeps to the order from here on, and holds nothing at its end. -/
def Disciplined (p : Prog Res ε α) (held : List K) : Prop := wp (ascending use) p (fun _ held => held = []) held

/-- An operation on a lock never raises. -/
def LockAnswers (o : Op) (r : Except ε (Res o)) : Prop := use o = .neither ∨ ∃ a, r = .ok a

variable {use}

/-- **Every lock that a run takes it gives back**, as often as it takes it. -/
theorem trace_perm {p : Prog Res ε α} {held : List K} {os : List Op} {x : Except ε α} (hp : Disciplined use p held)
    (t : Trace (LockAnswers use) p os x) :
    (held ++ os.filterMap fun o => (use o).taken?).Perm (os.filterMap fun o => (use o).given?) := by
  induction t generalizing held with
  | ret a =>
    have none : held = [] := hp
    simp [none]
  | raise e =>
    have none : held = [] := hp
    simp [none]
  | @call o k r os x answer rest ih =>
    have step : ascending use o held fun r held' => Disciplined use (k r) held' := hp
    cases hu : use o with
    | takes key =>
      rw [ascending_takes hu] at step
      obtain ⟨a, rfl⟩ := answer.resolve_left (by simp [hu])
      simpa [hu, LockUse.taken?, LockUse.given?] using ih (step.2 a)
    | gives key =>
      rw [ascending_gives hu] at step
      obtain ⟨a, rfl⟩ := answer.resolve_left (by simp [hu])
      have rest := (ih (step.2 a)).cons key
      simp only [List.filterMap_cons, hu, LockUse.taken?, LockUse.given?]
      exact ((List.perm_cons_erase step.1).append_right _).trans rest
    | neither =>
      rw [ascending_neither hu] at step
      simpa [hu, LockUse.taken?, LockUse.given?] using ih (step r)

/-! ## Sections that are entered once -/

variable (use)

/-- As `ascending`, above all locks that were taken before. The state is the locks held and the locks taken. -/
def ascendingOnce : Spec Res ε (List K × List K) := fun o s Q =>
  match use o with
  | .takes k => (∀ k' ∈ s.1 ++ s.2, k' < k) ∧ ∀ a, Q (.ok a) (s.1 ++ [k], s.2 ++ [k])
  | .gives k => k ∈ s.1 ∧ ∀ a, Q (.ok a) (s.1.erase k, s.2)
  | .neither => ∀ r, Q r s

variable {use}

theorem ascendingOnce_mono : Spec.Mono (ascendingOnce use : Spec Res ε (List K × List K)) := by
  intro o s Q Q' hQ h
  unfold ascendingOnce at h ⊢
  split at h
  next k hu => exact ⟨h.1, fun a => hQ _ _ (h.2 a)⟩
  next k hu => exact ⟨h.1, fun a => hQ _ _ (h.2 a)⟩
  next hu => exact fun r => hQ _ _ (h r)

/-- Operations without locks. -/
theorem wp_lockless {p : Prog Res ε α} {Q : Except ε α → List K × List K → Prop} {s : List K × List K}
    (hp : p.All (Lockless use)) (hQ : ∀ r, Q r s) : wp (ascendingOnce use) p Q s := by
  refine wp_of_all hp (fun o _ free h => ?_) hQ
  have hu : use o = .neither := free
  simp only [ascendingOnce, hu]
  exact h

theorem disciplined_of_once {p : Prog Res ε α} {s : List K × List K}
    (h : wp (ascendingOnce use) p (fun _ s' => s'.1 = []) s) : Disciplined use p s.1 := by
  refine wp_project ascendingOnce_mono Prod.fst (fun o s Q hs => ?_) h
  unfold ascendingOnce at hs
  unfold ascending
  split at hs
  next k hu => exact ⟨fun k' hk' => hs.1 k' (List.mem_append_left _ hk'), hs.2⟩
  next k hu => exact hs
  next hu => exact hs

/-- **No lock is taken twice.** -/
theorem trace_once {p : Prog Res ε α} {Q : Except ε α → List K × List K → Prop} {s : List K × List K} {os : List Op}
    {x : Except ε α} (hp : wp (ascendingOnce use) p Q s) (t : Trace (LockAnswers use) p os x)
    (sorted : s.2.Pairwise (· < ·)) : (s.2 ++ os.filterMap fun o => (use o).taken?).Pairwise (· < ·) := by
  induction t generalizing s with
  | ret a => simpa using sorted
  | raise e => simpa using sorted
  | @call o k r os x answer rest ih =>
    have step : ascendingOnce use o s fun r s' => wp (ascendingOnce use) (k r) Q s' := hp
    unfold ascendingOnce at step
    split at step
    next key hu =>
      obtain ⟨a, rfl⟩ := answer.resolve_left (by simp [hu])
      have longer : (s.2 ++ [key]).Pairwise (· < ·) := by
        rw [List.pairwise_append]
        refine ⟨sorted, List.pairwise_singleton _ _, fun k' hk' b hb => ?_⟩
        rw [List.mem_singleton.mp hb]
        exact step.1 k' (List.mem_append_right _ hk')
      simpa [hu, LockUse.taken?] using ih (step.2 a) longer
    next key hu =>
      obtain ⟨a, rfl⟩ := answer.resolve_left (by simp [hu])
      simpa [hu, LockUse.taken?] using ih (step.2 a) sorted
    next hu => simpa [hu, LockUse.taken?] using ih (step r) sorted

end Ascending

/-! ## Threads that wait for one another's locks -/

section Waiting

variable [LinearOrder K] {M : System Res ε S L} {use : Op → LockUse K} {held : L → List K}

/-- A system whose threads carry the locks they hold. -/
structure Locks (M : System Res ε S L) (use : Op → LockUse K) (held : L → List K) : Prop where
  takes : ∀ {o : Op} {k : K} (w : S × L), use o = .takes k →
    (∃ a, (M.handle o w).1 = .ok a) ∧ held (M.handle o w).2.2 = held w.2 ++ [k]
  gives : ∀ {o : Op} {k : K} (w : S × L), use o = .gives k →
    (∃ a, (M.handle o w).1 = .ok a) ∧ held (M.handle o w).2.2 = (held w.2).erase k
  neither : ∀ {o : Op} (w : S × L), use o = .neither → held (M.handle o w).2.2 = held w.2
  fails : ∀ {o : Op} (w : S × L), M.fallible o = true → use o = .neither ∧ held (M.fail o w).2 = held w.2
  blocks : ∀ {o : Op} {l : L}, M.blocks o l = true ↔ ∃ k ∈ held l, use o = .takes k

/-- No lock has two holders. -/
def Exclusive (held : L → List K) (c : Config ι Res ε α S L) : Prop :=
  ∀ i j, i ≠ j → (held (c.threads i).own).Disjoint (held (c.threads j).own)

/-- Every thread keeps to the order, and no lock has two holders. -/
structure Ordered (use : Op → LockUse K) (held : L → List K) (c : Config ι Res ε α S L) : Prop where
  disciplined : ∀ i, Disciplined use (c.threads i).prog (held (c.threads i).own)
  exclusive : Exclusive held c

variable [Fintype ι] [DecidableEq ι] {c : Config ι Res ε α S L}

/-- A thread whose locks stay apart from those of the others. -/
theorem Exclusive.put (h : Exclusive held c) (i : ι) (w : S × L) (p : Prog Res ε α)
    (apart : ∀ j, j ≠ i → (held w.2).Disjoint (held (c.threads j).own)) : Exclusive held (c.put i w p) := by
  intro j j' hne
  by_cases hj : j = i
  · subst hj
    rw [Config.put_threads_self, Config.put_threads_of_ne _ _ _ hne.symm]
    exact apart j' hne.symm
  · rw [Config.put_threads_of_ne _ _ _ hj]
    by_cases hj' : j' = i
    · subst hj'
      rw [Config.put_threads_self]
      exact (apart j hj).symm
    · rw [Config.put_threads_of_ne _ _ _ hj']
      exact h j j' hne

/-- A lock is taken when nobody holds it. -/
theorem Exclusive.moves (hM : Locks M use held) (h : Exclusive held c) {ev : Event ι ε} {c' : Config ι Res ε α S L}
    (move : M.Moves c ev c') : Exclusive held c' := by
  cases move with
  | stay => exact h
  | @step i o k here free =>
    refine h.put i _ _ fun j hj => ?_
    cases hu : use o with
    | takes key =>
      rw [(hM.takes (c.world i) hu).2, List.disjoint_append_left]
      refine ⟨h i j hj.symm, ?_⟩
      rw [List.singleton_disjoint]
      intro mem
      have blocked := hM.blocks.mpr ⟨key, mem, hu⟩
      rw [free j] at blocked
      cases blocked
    | gives key =>
      rw [(hM.gives (c.world i) hu).2]
      exact List.disjoint_of_subset_left List.erase_subset (h i j hj.symm)
    | neither =>
      rw [hM.neither (c.world i) hu]
      exact h i j hj.symm
  | @fail i e o k here may =>
    refine h.put i _ _ fun j hj => ?_
    rw [(hM.fails (c.world i) may).2]
    exact h i j hj.symm

/-- One event. -/
theorem Ordered.moves (hM : Locks M use held) (h : Ordered use held c) {ev : Event ι ε} {c' : Config ι Res ε α S L}
    (move : M.Moves c ev c') : Ordered use held c' := by
  refine ⟨?_, h.exclusive.moves hM move⟩
  cases move with
  | stay => exact h.disciplined
  | @step i o k here free =>
    have step := h.disciplined i
    rw [here] at step
    have step' : ascending use o (held (c.threads i).own) fun r held' => Disciplined use (k r) held' := step
    intro j
    by_cases hj : j = i
    · subst hj
      rw [Config.put_threads_self]
      cases hu : use o with
      | takes key =>
        obtain ⟨⟨a, ha⟩, hheld⟩ := hM.takes (c.world j) hu
        rw [ascending_takes hu] at step'
        rw [ha, hheld]
        exact step'.2 a
      | gives key =>
        obtain ⟨⟨a, ha⟩, hheld⟩ := hM.gives (c.world j) hu
        rw [ascending_gives hu] at step'
        rw [ha, hheld]
        exact step'.2 a
      | neither =>
        rw [ascending_neither hu] at step'
        rw [hM.neither (c.world j) hu]
        exact step' _
    · rw [Config.put_threads_of_ne _ _ _ hj]
      exact h.disciplined j
  | @fail i e o k here may =>
    have step := h.disciplined i
    rw [here] at step
    have step' : ascending use o (held (c.threads i).own) fun r held' => Disciplined use (k r) held' := step
    obtain ⟨hu, hheld⟩ := hM.fails (c.world i) may
    rw [ascending_neither hu] at step'
    intro j
    by_cases hj : j = i
    · subst hj
      rw [Config.put_threads_self, hheld]
      exact step' _
    · rw [Config.put_threads_of_ne _ _ _ hj]
      exact h.disciplined j

theorem Ordered.run (hM : Locks M use held) (h : Ordered use held c) (es : List (Event ι ε)) :
    Ordered use held (M.run c es) :=
  System.run_induction es h fun _ _ _ h move => h.moves hM move

/-- A thread that is not at its end and cannot step waits for a lock of another one, above all that it holds. -/
theorem Ordered.waits (hM : Locks M use held) (h : Ordered use held c) {i : ι} (running : (c.threads i).result = none)
    (stuck : ¬M.Enabled c i) : ∃ o k key j, (c.threads i).prog = .call o k ∧ use o = .takes key ∧
      key ∈ held (c.threads j).own ∧ (∀ key' ∈ held (c.threads i).own, key' < key) := by
  have step := h.disciplined i
  unfold Thread.result at running
  split at running
  · cases running
  · cases running
  next o k here =>
    rw [here] at step
    have step' : ascending use o (held (c.threads i).own) fun r held' => Disciplined use (k r) held' := step
    have blocked : ∃ j, M.blocks o (c.threads j).own = true := by
      by_contra free
      refine stuck ⟨o, k, here, fun j => ?_⟩
      rw [← Bool.not_eq_true]
      exact fun blocked => free ⟨j, blocked⟩
    obtain ⟨j, hj⟩ := blocked
    obtain ⟨key, mem, hu⟩ := hM.blocks.mp hj
    rw [ascending_takes hu] at step'
    exact ⟨o, k, key, j, here, hu, mem, step'.1⟩

/-- A thread at its end holds nothing. -/
theorem Ordered.held_nil (h : Ordered use held c) {i : ι} (done : (c.threads i).result ≠ none) :
    held (c.threads i).own = [] := by
  have step := h.disciplined i
  unfold Thread.result at done
  split at done
  next a here => rw [here] at step; exact step
  next e here => rw [here] at step; exact step
  next => exact absurd rfl done

/-- **Some thread can step** while any is not at its end. -/
theorem Ordered.exists_enabled (hM : Locks M use held) (h : Ordered use held c) {i : ι}
    (running : (c.threads i).result = none) : ∃ j, M.Enabled c j := by
  by_contra noone
  have stuck : ∀ j, ¬M.Enabled c j := fun j enabled => noone ⟨j, enabled⟩
  -- the lock that a thread waits for
  have waits : ∀ j, (c.threads j).result = none → ∃ key, (∃ o k, (c.threads j).prog = .call o k ∧ use o = .takes key) ∧
      ∃ j', (c.threads j').result = none ∧ key ∈ held (c.threads j').own := by
    intro j hj
    obtain ⟨o, k, key, j', here, hu, mem, -⟩ := h.waits hM hj (stuck j)
    refine ⟨key, ⟨o, k, here, hu⟩, j', ?_, mem⟩
    by_contra done
    rw [h.held_nil done] at mem
    cases mem
  have someKey : Nonempty K := let ⟨key, _⟩ := waits i running; ⟨key⟩
  have someThread : Nonempty ι := ⟨i⟩
  choose! wanted wants holder running' holds using waits
  -- the thread whose wanted lock is the greatest waits for a holder that wants a greater one
  obtain ⟨j, hj, most⟩ := Finset.exists_max_image (Finset.univ.filter fun j => (c.threads j).result = none) wanted
    ⟨i, by simp [running]⟩
  have hj : (c.threads j).result = none := by simpa using hj
  have hj' := running' j hj
  have greatest := most (holder j) (by simp [hj'])
  obtain ⟨o, k, key, -, here, hu, -, above⟩ := h.waits hM hj' (stuck _)
  obtain ⟨o', k', here', hu'⟩ := wants (holder j) hj'
  have same : key = wanted (holder j) := by
    rw [here] at here'
    cases here'
    rw [hu] at hu'
    cases hu'
    rfl
  have less : wanted j < key := above _ (holds j hj)
  rw [same] at less
  exact absurd less (not_lt.mpr greatest)

end Waiting

end Programs
