import UnionBank.Settles
import UnionBank.Stages

/-!
# Calls on idle sessions

A thread serves one call after another on one session. Between two calls the session holds no lock and is inactive or
has nothing pending (`Session.Idle`); an inactive session writes nothing (`exec_inactive`), and every call on an idle
session settles (`serve_settles`).

- `Bank.Along`: a property of every step of a run; `Bank.run_induction` and `Along.of_invariant`: what one call
  preserves holds along a run and after it.
-/

namespace UnionBank

open Keyed Programs Prog

set_option linter.unusedSectionVars false

variable {D : Type} [Zero D] [Add D] [Sub D] [LE D] [LT D] [DecidableEq D] [DecidableLE D] [DecidableLT D]
variable (env : Env D) (B : Backend D)

/-! ## Inactive sessions -/

section Inactive

variable (db₀ : Db D)

/-- A session that was inactive when its call began: it has become clean only by a rollback. -/
def StillInactive (w : Db D × Session D) (s : Stage × List String) : Prop :=
  w.1 = db₀ ∧ w.2.held = s.2 ∧ (s.1 = .before → w.2.inactive = true) ∧
    (s.1 = .quit → w.2.inactive = false → w.2.pending = [] ∧ w.2.savepoint = none) ∧ s.1 ≠ .done ∧ s.1 ≠ .audited

variable {db₀} in
theorem keeps_stillInactive {key : Option String} :
    Handler.Keeps (handle B) (stages true key) (StillInactive db₀) := by
  rintro o ⟨db, s⟩ ⟨g, held⟩ Q ⟨rfl, rfl, hbefore, hquit, hdone, haudit⟩ hQ
  cases o with
  | acquire accNo => exact ⟨(g, s.held ++ [accNo]), ⟨rfl, rfl, hbefore, hquit, hdone, haudit⟩, hQ⟩
  | release accNo => exact ⟨(g, s.held.erase accNo), ⟨rfl, rfl, hbefore, hquit, hdone, haudit⟩, hQ⟩
  | query q =>
    obtain ⟨rfl, -, -, herr⟩ := hQ
    have hi : s.inactive = true := hbefore rfl
    refine ⟨(.quit, s.held), ?_, ?_⟩ <;> simp only [handle, hi, if_true]
    · exact ⟨rfl, rfl, by simp, by simp [hi], by simp, by simp⟩
    · exact herr rfl _
  | create row =>
    rcases hQ with ⟨rfl, hok, -⟩ | ⟨rfl, -⟩ | ⟨rfl, -⟩
    · exact ⟨(.before, s.held), ⟨rfl, rfl, hbefore, by simp, by simp, by simp⟩, hok⟩
    · exact absurd rfl hdone
    · exact absurd rfl hdone
  | beginNested =>
    obtain ⟨rfl, -, herr⟩ := hQ
    have hi : s.inactive = true := hbefore rfl
    refine ⟨(.quit, s.held), ?_, ?_⟩ <;> simp only [handle, hi, if_true]
    · exact ⟨rfl, rfl, by simp, by simp [hi], by simp, by simp⟩
    · exact herr rfl _
  | releaseNested =>
    obtain ⟨rfl, hok, -⟩ := hQ
    exact ⟨(.before, s.held), ⟨rfl, rfl, hbefore, by simp, by simp, by simp⟩, hok⟩
  | rollbackNested =>
    obtain ⟨hg, hok, -⟩ := hQ
    refine ⟨(.quit, s.held), ⟨rfl, rfl, by simp, fun _ hi => ?_, by simp, by simp⟩, hok⟩
    rcases hg with rfl | rfl
    · exact absurd (hbefore rfl) (by simpa [handle] using hi)
    · have hp : s.pending = [] := (hquit rfl (by simpa [handle] using hi)).1
      simp [handle, hp]
  | commit =>
    rcases hQ with ⟨rfl, -, herr⟩ | ⟨rfl, -⟩ | ⟨rfl, -⟩
    · have hi : s.inactive = true := hbefore rfl
      refine ⟨(.quit, s.held), ?_, ?_⟩ <;> simp only [handle, hi, if_true]
      · exact ⟨rfl, rfl, by simp, by simp [hi], by simp, by simp⟩
      · exact herr _
    · exact absurd rfl hdone
    · exact absurd rfl haudit
  | rollback =>
    obtain ⟨-, hok⟩ := hQ
    rw [if_neg hdone] at hok
    exact ⟨(.quit, s.held), ⟨rfl, rfl, by simp, fun _ _ => ⟨rfl, rfl⟩, by simp, by simp⟩, hok⟩

/-- A call on an inactive session writes nothing. -/
theorem exec_inactive (c : Call D) {s : Session D} (hi : s.inactive = true) (hh : s.held = []) :
    (exec (handle B) (c.prog env) (db₀, s)).2.1 = db₀ ∧ (exec (handle B) (c.prog env) (db₀, s)).2.2.Idle := by
  obtain ⟨⟨g, held⟩, ⟨hdb, hheld, hbefore, hquit, hdone, haudit⟩, hend⟩ :=
    exec_of_wp (keeps_stillInactive B) (w := (db₀, s)) (s := (.before, []))
      ⟨rfl, hh, fun _ => hi, by simp, by simp, by simp⟩ (disciplined env true c)
  refine ⟨hdb, hheld.trans hend.1, fun hn => ?_⟩
  cases g with
  | before => rw [hbefore rfl] at hn; cases hn
  | quit => exact hquit rfl hn
  | done => exact absurd rfl hdone
  | audited => exact absurd rfl haudit

end Inactive

/-! ## Serving -/

/-- Every session is between two calls. -/
def Bank.Idle (bank : Bank D) : Prop := ∀ thread, (bank.sessions thread).Idle

/-- The end of a call: the ledger as found, or with the changes of its posting. -/
inductive Posted (c : Call D) (db db' : Db D) : Prop
  | unmoved (ledger : db'.toLedger = db.toLedger)
  | moved {db₁ : Db D} {cs : List (Change D)} (posts : Posts env c.draws db c.request cs)
      (flushed : flush B cs db = .ok db₁) (ledger : db'.toLedger = db₁.toLedger)

theorem serve_settles {bank : Bank D} (h : bank.Idle) (thread : ℕ) (c : Call D) :
    Posted env B c bank.db (bank.serve env B thread c).2.db ∧ (bank.serve env B thread c).2.Idle := by
  have main : Posted env B c bank.db (exec (handle B) (c.prog env) (bank.db, bank.sessions thread)).2.1 ∧
      (exec (handle B) (c.prog env) (bank.db, bank.sessions thread)).2.2.Idle := by
    have hidle := h thread
    rcases hs : bank.sessions thread with ⟨pending, inactive, savepoint, held⟩
    rw [hs] at hidle
    obtain rfl : held = [] := hidle.held
    cases inactive with
    | true =>
      obtain ⟨hdb, hi⟩ := exec_inactive env B bank.db c (s := ⟨pending, true, savepoint, []⟩) rfl rfl
      exact ⟨.unmoved (by rw [hdb]), hi⟩
    | false =>
      obtain ⟨rfl, rfl⟩ := hidle.clean rfl
      have := (wp_handler _ _ _ _).mp (settles env B bank.db c)
      rcases he : exec (handle B) (c.prog env) (bank.db, ({} : Session D)) with ⟨r, db', s'⟩
      rw [he] at this
      cases this with
      | unmoved ledger idle => exact ⟨.unmoved ledger, idle⟩
      | moved posts flushed ledger idle _ => exact ⟨.moved posts flushed ledger, idle⟩
  refine ⟨main.1, fun t => ?_⟩
  simp only [Bank.serve, Function.update_apply]
  split
  · exact main.2
  · exact h t

theorem run_idle {bank : Bank D} (h : bank.Idle) (calls : List (ℕ × Call D)) : (bank.run env B calls).Idle := by
  induction calls generalizing bank with
  | nil => exact h
  | cons tc calls ih => exact ih (serve_settles env B h tc.1 tc.2).2

/-! ## Runs -/

namespace Bank

/-- The rows of the log that the bank has after a call and had not before. -/
def added (bank bank' : Bank D) : List (Transaction D) := bank'.db.transactions.drop bank.db.transactions.length

/-- Every call of a run is made on a bank with `P`. -/
def Along (P : Bank D → ℕ × Call D → Prop) : Bank D → List (ℕ × Call D) → Prop
  | _, [] => True
  | bank, tc :: calls => P bank tc ∧ (bank.serve env B tc.1 tc.2).2.Along P calls

variable {env B} {P Q : Bank D → ℕ × Call D → Prop} {I : Bank D → Prop}

theorem run_append (bank : Bank D) (calls more : List (ℕ × Call D)) :
    bank.run env B (calls ++ more) = (bank.run env B calls).run env B more := by
  induction calls generalizing bank with
  | nil => rfl
  | cons tc calls ih => exact ih _

theorem along_append {bank : Bank D} {calls more : List (ℕ × Call D)} :
    bank.Along env B P (calls ++ more) ↔ bank.Along env B P calls ∧ (bank.run env B calls).Along env B P more := by
  induction calls generalizing bank with
  | nil => exact ⟨fun h => ⟨trivial, h⟩, fun h => h.2⟩
  | cons tc calls ih =>
    constructor
    · rintro ⟨now, rest⟩
      exact ⟨⟨now, (ih.mp rest).1⟩, (ih.mp rest).2⟩
    · rintro ⟨⟨now, rest⟩, after⟩
      exact ⟨now, ih.mpr ⟨rest, after⟩⟩

/-- What every call preserves holds after the run. -/
theorem run_induction {bank : Bank D} {calls : List (ℕ × Call D)} (along : bank.Along env B P calls) (h : I bank)
    (step : ∀ bank tc, I bank → P bank tc → I (bank.serve env B tc.1 tc.2).2) : I (bank.run env B calls) := by
  induction calls generalizing bank with
  | nil => exact h
  | cons tc calls ih => exact ih along.2 (step bank tc h along.1)

/-- What every call finds and does under an invariant holds along the run. -/
theorem Along.of_invariant {bank : Bank D} {calls : List (ℕ × Call D)} (along : bank.Along env B P calls) (h : I bank)
    (step : ∀ bank tc, I bank → P bank tc → Q bank tc ∧ I (bank.serve env B tc.1 tc.2).2) :
    bank.Along env B Q calls := by
  induction calls generalizing bank with
  | nil => trivial
  | cons tc calls ih =>
    obtain ⟨hq, hi⟩ := step bank tc h along.1
    exact ⟨hq, ih along.2 hi⟩

theorem along_of_forall {bank : Bank D} {calls : List (ℕ × Call D)} (h : ∀ bank tc, tc ∈ calls → P bank tc) :
    bank.Along env B P calls := by
  induction calls generalizing bank with
  | nil => trivial
  | cons tc calls ih =>
    exact ⟨h bank tc List.mem_cons_self, ih fun bank tc hm => h bank tc (List.mem_cons_of_mem _ hm)⟩

theorem Along.and {bank : Bank D} {calls : List (ℕ × Call D)} (hP : bank.Along env B P calls)
    (hQ : bank.Along env B Q calls) : bank.Along env B (fun bank tc => P bank tc ∧ Q bank tc) calls := by
  induction calls generalizing bank with
  | nil => trivial
  | cons tc calls ih => exact ⟨⟨hP.1, hQ.1⟩, ih hP.2 hQ.2⟩

theorem Along.take {bank : Bank D} {calls : List (ℕ × Call D)} (h : bank.Along env B P calls) (n : ℕ) :
    bank.Along env B P (calls.take n) := by
  induction calls generalizing bank n with
  | nil => cases n <;> trivial
  | cons tc calls ih =>
    cases n with
    | zero => trivial
    | succ n => exact ⟨h.1, ih h.2 n⟩

end Bank

end UnionBank
