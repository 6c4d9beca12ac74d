import UnionBank.AccountLocks
import UnionBank.Lib.Commit

/-!
# Calls of many threads

Calls that take no lock, each on a session of its own, in any interleaving of their operations. When no call begins
between the first operation and the money commit of another one, they end as if they had been made one after another
(`one_at_a_time_serial`).

- `Db.unaudited`: the store without its audit log, which is only ever appended to;
- `Phase`: whether a call has begun, and whether it has committed or ended; `OneAtATime`: the condition on a schedule.
-/

namespace UnionBank

open Keyed Programs Prog

set_option linter.unusedSectionVars false

variable {D : Type} [Zero D] [Add D] [Sub D] [LE D] [LT D] [DecidableEq D] [DecidableLE D] [DecidableLT D]
variable {ι : Type} [Fintype ι] [DecidableEq ι]

/-! ## The audit log is not read -/

/-- The store without its audit log. -/
def Db.unaudited (db : Db D) : Db D := { db with auditLog := [] }

section Unaudited

variable {B : Backend D} {F : Set Unit} {s t : Db D} {l : Session D}

theorem apply_unaudited (c : Change D) (db : Db D) :
    Db.unaudited <$> c.apply B db = Db.unaudited <$> c.apply B db.unaudited := by
  cases c with
  | insert row => cases row <;> simp only [Change.apply, NewRow.insert, map_bind, map_pure] <;> rfl
  | tokenVersion => simp only [Change.apply, map_bind, map_pure]; rfl
  | _ => simp only [Change.apply, map_bind, map_pure]; rfl

theorem flush_unaudited (cs : List (Change D)) (db : Db D) :
    Db.unaudited <$> flush B cs db = Db.unaudited <$> flush B cs db.unaudited := by
  induction cs generalizing db with
  | nil => rfl
  | cons c cs ih =>
    have rest : ∀ x : Except Exn (Db D), Db.unaudited <$> (x >>= flush B cs) =
        (Db.unaudited <$> x) >>= fun db' => Db.unaudited <$> flush B cs db' := by
      intro x
      cases x with
      | ok db' => exact ih db'
      | error e => rfl
    calc Db.unaudited <$> flush B (c :: cs) db = Db.unaudited <$> (c.apply B db >>= flush B cs) := rfl
      _ = Db.unaudited <$> (c.apply B db.unaudited >>= flush B cs) := by rw [rest, rest, apply_unaudited]
      _ = Db.unaudited <$> flush B (c :: cs) db.unaudited := rfl

/-- The one key of the store: everything but the audit log. -/
def withoutAudit (_ : Unit) (db : Db D) : Db D := db.unaudited

theorem flush_agree (cs : List (Change D)) (h : s.unaudited = t.unaudited) :
    (∃ e, flush B cs s = .error e ∧ flush B cs t = .error e) ∨
      ∃ s' t', flush B cs s = .ok s' ∧ flush B cs t = .ok t' ∧ s'.unaudited = t'.unaudited := by
  have same : Db.unaudited <$> flush B cs s = Db.unaudited <$> flush B cs t := by
    rw [flush_unaudited, h, ← flush_unaudited]
  cases hs : flush B cs s with
  | error e =>
    cases ht : flush B cs t with
    | error e' =>
      rw [hs, ht] at same
      cases same
      exact .inl ⟨e, rfl, rfl⟩
    | ok t' => rw [hs, ht] at same; cases same
  | ok s' =>
    cases ht : flush B cs t with
    | error e' => rw [hs, ht] at same; cases same
    | ok t' =>
      rw [hs, ht] at same
      exact .inr ⟨s', t', rfl, rfl, Except.ok.inj same⟩

/-- Every operation depends on the store without its audit log. -/
theorem local_univ (o : Op D) (l : Session D) : Local (handle B) withoutAudit Set.univ o l := by
  have main : ∀ {s t : Db D}, s.unaudited = t.unaudited → (handle B o (s, l)).1 = (handle B o (t, l)).1 ∧
      (handle B o (s, l)).2.2 = (handle B o (t, l)).2.2 ∧
        (handle B o (s, l)).2.1.unaudited = (handle B o (t, l)).2.1.unaudited := by
    intro s t h
    cases o with
    | commit =>
      simp only [handle]
      split
      · exact ⟨rfl, rfl, h⟩
      · rcases flush_agree (B := B) l.pending h with ⟨e, hs, ht⟩ | ⟨s', t', hs, ht, same⟩
        · rw [hs, ht]
          exact ⟨rfl, rfl, h⟩
        · rw [hs, ht]
          exact ⟨rfl, rfl, same⟩
    | query q =>
      have answer : q.answer s l = q.answer t l := by
        have hs : q.answer s l = q.answer s.unaudited l := by cases q <;> rfl
        have ht : q.answer t l = q.answer t.unaudited l := by cases q <;> rfl
        rw [hs, h, ht]
      have staged : q.staged s l = q.staged t l := by
        have hs : q.staged s l = q.staged s.unaudited l := by cases q <;> rfl
        have ht : q.staged t l = q.staged t.unaudited l := by cases q <;> rfl
        rw [hs, h, ht]
      simp only [handle]
      split
      · exact ⟨rfl, rfl, h⟩
      · rw [answer, staged]
        exact ⟨rfl, rfl, h⟩
    | beginNested =>
      simp only [handle]
      split <;> exact ⟨rfl, rfl, h⟩
    | _ => exact ⟨rfl, rfl, h⟩
  have here : ∀ {s t : Db D}, Agree withoutAudit (Set.univ : Set Unit) s t → s.unaudited = t.unaudited :=
    fun a => a () (Set.mem_univ _)
  exact
    { answer := fun a => (main (here a)).1
      own := fun a => (main (here a)).2.1
      agree := fun a _ _ => (main (here a)).2.2
      frame := fun _ _ hk => absurd (Set.mem_univ _) hk }

theorem within_univ {α : Type} (p : Svc D α) (s : Db D) (l : Session D) :
    Within (handle B) withoutAudit Set.univ p s l := by
  induction p generalizing s l with
  | ret a => trivial
  | raise e => trivial
  | call o k ih => exact ⟨local_univ o l, ih _ _ _⟩

end Unaudited

/-! ## After the commit -/

section Settled

variable {α : Type} {B : Backend D}

/-- What is known of a session in the stages of its call: after the commit nothing is pending, or audit entries are. -/
def Standing : Stage → Session D → Prop
  | .before, s => s.inactive = false
  | .done, s => s.inactive = false ∧ s.pending = []
  | .audited, s => s.inactive = false ∧ ∀ c ∈ s.pending, ∃ e, c = .insert (.auditEntry e)
  | .quit, _ => True

theorem flush_audits {cs : List (Change D)} (audits : ∀ c ∈ cs, ∃ e, c = .insert (.auditEntry e)) (db : Db D) :
    ∃ db', flush B cs db = .ok db' ∧ db'.unaudited = db.unaudited := by
  induction cs generalizing db with
  | nil => exact ⟨db, rfl, rfl⟩
  | cons c cs ih =>
    obtain ⟨e, rfl⟩ := audits c List.mem_cons_self
    obtain ⟨db', flushed, same⟩ := ih (fun c hc => audits c (List.mem_cons_of_mem _ hc))
      { db with auditLog := db.auditLog ++ [e] }
    exact ⟨db', flushed, same⟩

/-- **After its commit a call without a key only appends to the audit log**; after a failure it does nothing more. -/
theorem blind_of_past {p : Svc D α} {Q : Except Exn α → Stage × List String → Prop} {g : Stage} {held : List String}
    {l : Session D} (hp : wp (stages false none) p Q (g, held)) (standing : Standing g l) (past : g ≠ .before) :
    Blind (handle B) Db.unaudited p l := by
  induction p generalizing g held l with
  | ret a => trivial
  | raise e => trivial
  | call o k ih =>
    have step : stages false none o (g, held) fun r s' => wp (stages false none) (k r) Q s' := hp
    cases o with
    | acquire accNo => exact ⟨_, _, fun _ => ⟨rfl, rfl, rfl⟩, ih _ step (by cases g <;> exact standing) past⟩
    | release accNo => exact ⟨_, _, fun _ => ⟨rfl, rfl, rfl⟩, ih _ step (by cases g <;> exact standing) past⟩
    | query q =>
      obtain ⟨rfl, -⟩ := step
      exact absurd rfl past
    | beginNested =>
      obtain ⟨rfl, -⟩ := step
      exact absurd rfl past
    | releaseNested =>
      obtain ⟨rfl, -⟩ := step
      exact absurd rfl past
    | create row =>
      refine ⟨_, _, fun _ => ⟨rfl, rfl, rfl⟩, ?_⟩
      rcases step with ⟨rfl, -⟩ | ⟨rfl, ⟨r, -, key⟩, -⟩ | ⟨rfl, ⟨e, rfl⟩, step, -⟩
      · exact absurd rfl past
      · cases key
      · refine ih _ step ⟨standing.1, ?_⟩ (by simp)
        simp [standing.2]
    | rollbackNested => exact ⟨_, _, fun _ => ⟨rfl, rfl, rfl⟩, ih _ step.2.1 trivial (by simp)⟩
    | commit =>
      have audits : l.inactive = false ∧ ∀ c ∈ l.pending, ∃ e, c = .insert (.auditEntry e) := by
        rcases step with ⟨rfl, -⟩ | ⟨rfl, -⟩ | ⟨rfl, -⟩
        · exact absurd rfl past
        · exact ⟨standing.1, by simp [standing.2]⟩
        · exact standing
      refine ⟨.ok (), l.clear, fun db => ?_, ?_⟩
      · obtain ⟨db', flushed, same⟩ := flush_audits (B := B) audits.2 db
        simp only [handle, audits.1, flushed]
        exact ⟨rfl, rfl, same⟩
      · rcases step with ⟨rfl, -⟩ | ⟨rfl, step, -⟩ | ⟨rfl, step, -⟩
        · exact absurd rfl past
        · exact ih _ step ⟨rfl, rfl⟩ (by simp)
        · exact ih _ step ⟨rfl, rfl⟩ (by simp)
    | rollback =>
      refine ⟨_, _, fun _ => ⟨rfl, rfl, rfl⟩, ?_⟩
      have next := step.2
      by_cases done : g = .done
      · rw [if_pos done] at next
        exact ih _ next ⟨rfl, rfl⟩ (by simp)
      · rw [if_neg done] at next
        exact ih _ next trivial (by simp)

/-- A thread whose call obeys the stages, in the stage it is in. -/
def Staged (Q : Except Exn α → Stage × List String → Prop) (g : Stage) (t : Thread (Op.Res (D := D)) Exn α (Session D)) :
    Prop :=
  ∃ held, wp (stages false none) t.prog Q (g, held) ∧ Standing g t.own

/-- Whether an operation is a commit. -/
def Op.isCommit : Op D → Bool
  | .commit => true
  | _ => false

/-- One operation: a commit, and every operation after one, leaves the call past its commit. -/
theorem Staged.step {Q : Except Exn α → Stage × List String → Prop} {g : Stage} {o : Op D}
    {k : Except Exn o.Res → Svc D α} {l : Session D} (h : Staged Q g ⟨.call o k, l⟩) (s : Db D) :
    ∃ g', Staged Q g' ⟨k (handle B o (s, l)).1, (handle B o (s, l)).2.2⟩ ∧
      (o.isCommit = true ∨ g ≠ .before → g' ≠ .before) := by
  obtain ⟨held, hp, standing⟩ := h
  have step : stages false none o (g, held) fun r s' => wp (stages false none) (k r) Q s' := hp
  simp only at standing
  cases o with
  | acquire accNo => exact ⟨g, ⟨_, step, by cases g <;> exact standing⟩, by simp [Op.isCommit]⟩
  | release accNo => exact ⟨g, ⟨_, step, by cases g <;> exact standing⟩, by simp [Op.isCommit]⟩
  | query q =>
    obtain ⟨rfl, -, ok, -⟩ := step
    have active : l.inactive = false := standing
    refine ⟨.before, ⟨held, ?_, ?_⟩, by simp [Op.isCommit]⟩
    · simp only [handle, active, Bool.false_eq_true, if_false]
      exact ok _
    · simp only [handle, active, Bool.false_eq_true, if_false]
      exact active
  | create row =>
    rcases step with ⟨rfl, ok, -⟩ | ⟨-, ⟨r, -, key⟩, -⟩ | ⟨rfl, ⟨e, rfl⟩, ok, -⟩
    · exact ⟨.before, ⟨held, ok, standing⟩, by simp [Op.isCommit]⟩
    · cases key
    · refine ⟨.audited, ⟨held, ok, standing.1, ?_⟩, by simp⟩
      simp [handle, Session.stage, standing.2]
  | beginNested =>
    obtain ⟨rfl, ok, -⟩ := step
    have active : l.inactive = false := standing
    refine ⟨.before, ⟨held, ?_, ?_⟩, by simp [Op.isCommit]⟩
    · simp only [handle, active, Bool.false_eq_true, if_false]
      exact ok
    · simp only [handle, active, Bool.false_eq_true, if_false]
      rfl
  | releaseNested =>
    obtain ⟨rfl, ok, -⟩ := step
    exact ⟨.before, ⟨held, ok, standing⟩, by simp [Op.isCommit]⟩
  | rollbackNested => exact ⟨.quit, ⟨held, step.2.1, trivial⟩, by simp⟩
  | commit =>
    by_cases active : l.inactive = false
    · cases flushed : flush B l.pending s with
      | ok s' =>
        have ran : handle B .commit (s, l) = (.ok (), (s', l.clear)) := by simp [handle, active, flushed]
        rw [ran]
        rcases step with ⟨rfl, ok, -⟩ | ⟨rfl, ok, -⟩ | ⟨rfl, ok, -⟩ <;> exact ⟨.done, ⟨held, ok, rfl, rfl⟩, by simp⟩
      | error e =>
        have ran : handle B .commit (s, l) = (.error e, (s, { l.clear with inactive := true })) := by
          simp [handle, active, flushed]
        rw [ran]
        rcases step with ⟨rfl, -, failed⟩ | ⟨rfl, -, -⟩ | ⟨rfl, -, -⟩
        · exact ⟨.quit, ⟨held, failed e, trivial⟩, by simp⟩
        · rw [standing.2] at flushed
          cases flushed
        · obtain ⟨_, ok, -⟩ := flush_audits (B := B) standing.2 s
          rw [ok] at flushed
          cases flushed
    · rcases step with ⟨rfl, -, failed⟩ | ⟨rfl, -, -⟩ | ⟨rfl, -, -⟩
      · exact absurd standing active
      · exact absurd standing.1 active
      · exact absurd standing.1 active
  | rollback =>
    have next := step.2
    by_cases done : g = .done
    · rw [if_pos done] at next
      exact ⟨.done, ⟨held, next, rfl, rfl⟩, by simp⟩
    · rw [if_neg done] at next
      exact ⟨.quit, ⟨held, next, trivial⟩, by simp⟩

end Settled

/-! ## One at a time -/

/-- Where a call is: not begun, before its money commit, or past it or at its end. -/
inductive Phase where
  | waiting
  | busy
  | settled
deriving DecidableEq

section OneAtATime

variable (env : Env D) (B : Backend D)

/-- The calls of the threads before their first step, each on a fresh session. -/
def desk (db : Db D) (calls : ι → Call D) : Config ι (Op.Res (D := D)) Exn (Reply D) (Db D) (Session D) where
  store := db
  threads i := ⟨(calls i).prog env, {}⟩

/-- The threads in the order in which they step. -/
def steps (schedule : List ι) : List (Event ι Exn) := schedule.map .step

variable {α : Type}

/-- The phases after a step of a thread. A thread that waits for a lock does not begin. -/
def phasesAfter (c : Config ι (Op.Res (D := D)) Exn α (Db D) (Session D)) (phase : ι → Phase) (i : ι) : ι → Phase :=
  match (c.threads i).prog with
  | .call o _ =>
    if phase i = .settled ∨ ¬∀ j, (threads B).blocks o (c.threads j).own = false then phase
    else Function.update phase i
      (if o.isCommit ∨ (((threads B).next c (.step i)).threads i).result ≠ none then .settled else .busy)
  | _ => phase

/-- No call begins while another one is between its first operation and its commit. -/
def OneAtATime (c : Config ι (Op.Res (D := D)) Exn α (Db D) (Session D)) (phase : ι → Phase) : List ι → Prop
  | [] => True
  | i :: schedule =>
    (phase i = .waiting → ∀ j, phase j ≠ .busy) ∧
      OneAtATime ((threads B).next c (.step i)) (phasesAfter B c phase i) schedule

instance decidableOneAtATime (c : Config ι (Op.Res (D := D)) Exn α (Db D) (Session D)) (phase : ι → Phase) :
    ∀ schedule : List ι, Decidable (OneAtATime B c phase schedule)
  | [] => isTrue trivial
  | i :: schedule =>
    have := decidableOneAtATime ((threads B).next c (.step i)) (phasesAfter B c phase i) schedule
    inferInstanceAs (Decidable (_ ∧ _))

end OneAtATime

section Simulation

variable {B : Backend D} {α : Type} {programs : ι → Svc D α} {db : Db D} {Q : ι → Except Exn α → Stage × List String → Prop}

/-- How the phases of the calls and the serial store hang together. -/
structure Phased (B : Backend D) (programs : ι → Svc D α) (db : Db D)
    (Q : ι → Except Exn α → Stage × List String → Prop) (c : Config ι (Op.Res (D := D)) Exn α (Db D) (Session D))
    (phase : ι → Phase) (order : List ι) (F : ι → Set Unit) : Prop where
  serial : Serial (handle B) withoutAudit programs (fun _ => {}) db order F c
  waiting : ∀ i, i ∉ order ↔ phase i = .waiting
  settled : ∀ i, phase i = .settled → F i = ∅
  staged : ∀ i, ∃ g, Staged (Q i) g (c.threads i) ∧
    (phase i = .settled → g ≠ .before ∨ (c.threads i).result ≠ none)

/-- Where a call stands before its first step. -/
theorem Phased.start (disciplined : ∀ i, wp (stages false none) (programs i) (Q i) (.before, [])) :
    Phased B programs db Q ⟨db, fun i => ⟨programs i, {}⟩⟩ (fun _ => .waiting) [] fun _ => ∅ where
  serial := .start
  waiting _ := by simp
  settled _ _ := rfl
  staged i := ⟨.before, ⟨[], disciplined i, rfl⟩, by simp⟩

/-- One step of a thread that can step. -/
theorem Phased.step {c : Config ι (Op.Res (D := D)) Exn α (Db D) (Session D)} {phase : ι → Phase} {order : List ι}
    {F : ι → Set Unit} (h : Phased B programs db Q c phase order F) {i : ι} {o : Op D} {k : Except Exn o.Res → Svc D α}
    (here : (c.threads i).prog = .call o k) (begins : phase i = .waiting → ∀ j, phase j ≠ .busy) :
    ∃ order' F', Phased B programs db Q (c.put i (handle B o (c.world i)).2 (k (handle B o (c.world i)).1))
      (if phase i = .settled then phase else Function.update phase i
        (if o.isCommit ∨
          ((c.put i (handle B o (c.world i)).2 (k (handle B o (c.world i)).1)).threads i).result ≠ none
          then .settled else .busy)) order' F' := by
  -- the stage after the operation
  obtain ⟨g, staged, past⟩ := h.staged i
  have thread : c.threads i = ⟨.call o k, (c.threads i).own⟩ := by rw [← here]
  rw [thread] at staged
  obtain ⟨g', staged', past'⟩ := staged.step (B := B) c.store
  generalize hc : c.put i (handle B o (c.world i)).2 (k (handle B o (c.world i)).1) = c'
  have self : c'.threads i = ⟨k (handle B o (c.world i)).1, (handle B o (c.world i)).2.2⟩ := by
    rw [← hc, Config.put_threads_self]
  have others : ∀ j, j ≠ i → c'.threads j = c.threads j := by
    intro j hj
    rw [← hc, Config.put_threads_of_ne _ _ _ hj]
  by_cases already : phase i = .settled
  · -- a call that is past its commit
    rw [if_pos already]
    have begun : i ∈ order := by
      by_contra new
      rw [(h.waiting i).mp new] at already
      cases already
    refine ⟨order, F, ?_, h.waiting, h.settled, ?_⟩
    · rw [← hc]
      exact h.serial.stepped begun here
    · intro j
      by_cases hj : j = i
      · subst hj
        rw [self]
        have before : g ≠ .before := by
          rcases past already with before | done
          · exact before
          · rw [thread] at done
            exact absurd rfl done
        exact ⟨g', staged', fun _ => .inl (past' (.inr before))⟩
      · rw [others j hj]
        exact h.staged j
  · rw [if_neg already]
    -- it has begun by now, with the whole store as its footprint
    obtain ⟨order₁, F₁, serial, begun, waiting, settled⟩ : ∃ order₁ F₁,
        Serial (handle B) withoutAudit programs (fun _ => {}) db order₁ F₁ c ∧ i ∈ order₁ ∧
          (∀ j, j ≠ i → (j ∉ order₁ ↔ phase j = .waiting)) ∧ ∀ j, j ≠ i → phase j = .settled → F₁ j = ∅ := by
      by_cases new : i ∈ order
      · exact ⟨order, F, h.serial, new, fun j _ => h.waiting j, fun j _ => h.settled j⟩
      · have alone := begins ((h.waiting i).mp new)
        refine ⟨order ++ [i], Function.update F i Set.univ, h.serial.opened new (within_univ _ _ _) ?_, by simp, ?_, ?_⟩
        · intro j hj
          have done : phase j = .settled := by
            cases hp : phase j with
            | waiting => exact absurd hj ((h.waiting j).mpr hp)
            | busy => exact absurd hp (alone j)
            | settled => rfl
          rw [h.settled j done]
          exact Set.empty_disjoint _
        · intro j hj
          simp only [List.mem_append, List.mem_singleton, hj, or_false]
          exact h.waiting j
        · intro j hj done
          rw [Function.update_of_ne hj]
          exact h.settled j done
    have stepped : Serial (handle B) withoutAudit programs (fun _ => {}) db order₁ F₁ c' := by
      rw [← hc]
      exact serial.stepped begun here
    have staged_all : ∀ phase' : ι → Phase, (∀ j, j ≠ i → phase' j = phase j) →
        (phase' i = .settled → g' ≠ .before ∨ (c'.threads i).result ≠ none) →
        ∀ j, ∃ g, Staged (Q j) g (c'.threads j) ∧ (phase' j = .settled → g ≠ .before ∨ (c'.threads j).result ≠ none) := by
      intro phase' same now j
      by_cases hj : j = i
      · subst hj
        refine ⟨g', ?_, now⟩
        rw [self]
        exact staged'
      · rw [others j hj, same j hj]
        exact h.staged j
    by_cases ends : o.isCommit ∨ (c'.threads i).result ≠ none
    · rw [if_pos ends]
      have narrow : Within (handle B) withoutAudit (∅ : Set Unit) (c'.threads i).prog c'.store (c'.threads i).own := by
        rcases ends with commit | done
        · obtain ⟨held, hp, standing⟩ := staged'
          rw [self]
          exact (blind_of_past hp standing (past' (.inl commit))).within (fun _ _ _ same => same) _
        · unfold Thread.result at done
          split at done
          next a ret => rw [ret]; trivial
          next e raised => rw [raised]; trivial
          next => exact absurd rfl done
      refine ⟨order₁, Function.update F₁ i ∅, stepped.narrowed begun (Set.empty_subset _) narrow, ?_, ?_, ?_⟩
      · intro j
        by_cases hj : j = i
        · subst hj
          simp [begun]
        · rw [Function.update_of_ne hj]
          exact waiting j hj
      · intro j done
        by_cases hj : j = i
        · subst hj
          rw [Function.update_self]
        · rw [Function.update_of_ne hj] at done ⊢
          exact settled j hj done
      · refine staged_all _ (fun j hj => Function.update_of_ne hj _ _) fun _ => ?_
        rcases ends with commit | done
        · exact .inl (past' (.inl commit))
        · exact .inr done
    · rw [if_neg ends]
      refine ⟨order₁, F₁, stepped, ?_, ?_, ?_⟩
      · intro j
        by_cases hj : j = i
        · subst hj
          simp [begun]
        · rw [Function.update_of_ne hj]
          exact waiting j hj
      · intro j done
        by_cases hj : j = i
        · subst hj
          rw [Function.update_self] at done
          cases done
        · rw [Function.update_of_ne hj] at done
          exact settled j hj done
      · refine staged_all _ (fun j hj => Function.update_of_ne hj _ _) fun done => ?_
        rw [Function.update_self] at done
        cases done

/-- One event of a schedule. -/
theorem Phased.next {c : Config ι (Op.Res (D := D)) Exn α (Db D) (Session D)} {phase : ι → Phase} {order : List ι}
    {F : ι → Set Unit} (h : Phased B programs db Q c phase order F) {i : ι}
    (begins : phase i = .waiting → ∀ j, phase j ≠ .busy) :
    ∃ order' F', Phased B programs db Q ((threads B).next c (.step i)) (phasesAfter B c phase i) order' F' := by
  unfold phasesAfter
  cases here : (c.threads i).prog with
  | ret a => exact ⟨order, F, by simpa only [System.next, here] using h⟩
  | raise e => exact ⟨order, F, by simpa only [System.next, here] using h⟩
  | call o k =>
    by_cases free : ∀ j, (threads B).blocks o (c.threads j).own = false
    · have moved : (threads B).next c (.step i) =
          c.put i (handle B o (c.world i)).2 (k (handle B o (c.world i)).1) := by
        simp only [System.next, here]
        exact if_pos free
      obtain ⟨order', F', next⟩ := h.step here begins
      simp only [free, implies_true, not_true_eq_false, or_false]
      rw [moved]
      exact ⟨order', F', next⟩
    · have stays : (threads B).next c (.step i) = c := by
        simp only [System.next, here]
        exact if_neg free
      simp only [free, not_false_eq_true, or_true, if_true]
      rw [stays]
      exact ⟨order, F, h⟩

theorem Phased.run {c : Config ι (Op.Res (D := D)) Exn α (Db D) (Session D)} {phase : ι → Phase} {order : List ι}
    {F : ι → Set Unit} (h : Phased B programs db Q c phase order F) {schedule : List ι}
    (alone : OneAtATime B c phase schedule) :
    ∃ phase' order' F', Phased B programs db Q ((threads B).run c (steps schedule)) phase' order' F' := by
  induction schedule generalizing c phase order F with
  | nil => exact ⟨phase, order, F, h⟩
  | cons i schedule ih =>
    obtain ⟨begins, rest⟩ := alone
    obtain ⟨order', F', next⟩ := h.next begins
    exact ih next rest

end Simulation

/-- **Calls one at a time**: when no call begins between the first operation and the commit of another one, they leave
what they would leave one after another, and return what they would return. -/
theorem one_at_a_time_serial (env : Env D) (B : Backend D) (db : Db D) (calls : ι → Call D)
    (keyless : ∀ i, (calls i).request.key = none) (schedule : List ι)
    (alone : OneAtATime B (desk env db calls) (fun _ => .waiting) schedule)
    (done : ∀ i, (((threads B).run (desk env db calls) (steps schedule)).threads i).result ≠ none) :
    ∃ order : List ι, order.Nodup ∧ (∀ i, i ∈ order) ∧
      ((threads B).run (desk env db calls) (steps schedule)).store.unaudited =
        (serial (handle B) (fun i => (calls i).prog env) (fun _ => {}) db order).unaudited ∧
      ∀ before i after, order = before ++ i :: after →
        (((threads B).run (desk env db calls) (steps schedule)).threads i).result =
          some (outcome (handle B) (fun i => (calls i).prog env) (fun _ => {})
            (serial (handle B) (fun i => (calls i).prog env) (fun _ => {}) db before) i) := by
  have start : Phased B (fun i => (calls i).prog env) db (fun i => Ends false (calls i).request) (desk env db calls)
      (fun _ => .waiting) [] fun _ => ∅ := by
    refine Phased.start fun i => ?_
    have obeys := disciplined env false (calls i)
    rw [keyless i] at obeys
    exact obeys
  obtain ⟨phase, order, F, reached⟩ := start.run alone
  obtain ⟨order', F', sim, -, all⟩ := reached.serial.completed done Finset.univ.toList
  obtain ⟨store, results⟩ := sim.ended done
  exact ⟨order', sim.nodup, fun i => all i (by simp), store (), results⟩

end UnionBank
