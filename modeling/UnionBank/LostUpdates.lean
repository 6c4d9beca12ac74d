import UnionBank.StaleReads
import UnionBank.Decisions

/-!
# Lost updates

Calls of the services without keys, each on a session of its own, whose operations interleave in any way. All of them
write absolute amounts, and most of them without a lock. When none of them reads on or commits after a row that it has
read was changed, they leave what the calls that reported success leave one after another, in some order
(`no_lost_update`); a call that commits after such a change overwrites it.

- `Unwritten`: what is known of the store until a call commits; `exec_failed`: a call that fails has committed nothing;
- `serial_successes`: calls that fail can be left out of a serial order.
-/

namespace UnionBank

open Keyed Programs Prog

set_option linter.unusedSectionVars false

variable {D : Type} [Zero D] [Add D] [Sub D] [LE D] [LT D] [DecidableEq D] [DecidableLE D] [DecidableLT D]

/-! ## Calls that fail -/

section Failures

variable {B : Backend D} {db₀ : Db D} {env : Env D}

/-- The store is as it was until the call commits. -/
def Unwritten (db₀ : Db D) (w : Db D × Session D) (s : Stage × List String) : Prop :=
  Standing s.1 w.2 ∧ (s.1 = .before ∨ s.1 = .quit → w.1 = db₀)

theorem keeps_unwritten : Handler.Keeps (handle B) (stages false none) (Unwritten db₀) := by
  rintro o ⟨db, l⟩ ⟨g, held⟩ Q ⟨standing, same⟩ hQ
  simp only at standing same
  cases o with
  | acquire accNo => exact ⟨(g, held ++ [accNo]), ⟨by cases g <;> exact standing, same⟩, hQ⟩
  | release accNo => exact ⟨(g, held.erase accNo), ⟨by cases g <;> exact standing, same⟩, hQ⟩
  | query q =>
    obtain ⟨rfl, -, ok, -⟩ := hQ
    have active : l.inactive = false := standing
    simp only [handle, active, Bool.false_eq_true, if_false]
    exact ⟨(.before, held), ⟨active, same⟩, ok _⟩
  | create row =>
    rcases hQ with ⟨rfl, ok, -⟩ | ⟨-, ⟨r, -, key⟩, -⟩ | ⟨rfl, ⟨e, rfl⟩, ok, -⟩
    · exact ⟨(.before, held), ⟨standing, same⟩, ok⟩
    · cases key
    · refine ⟨(.audited, held), ⟨⟨standing.1, ?_⟩, by simp⟩, ok⟩
      simp [handle, Session.stage, standing.2]
  | beginNested =>
    obtain ⟨rfl, ok, -⟩ := hQ
    have active : l.inactive = false := standing
    simp only [handle, active, Bool.false_eq_true, if_false]
    exact ⟨(.before, held), ⟨rfl, same⟩, ok⟩
  | releaseNested =>
    obtain ⟨rfl, ok, -⟩ := hQ
    exact ⟨(.before, held), ⟨standing, same⟩, ok⟩
  | rollbackNested =>
    obtain ⟨before, ok, -⟩ := hQ
    exact ⟨(.quit, held), ⟨trivial, fun _ => same before⟩, ok⟩
  | commit =>
    by_cases active : l.inactive = false
    · cases flushed : flush B l.pending db with
      | ok db' =>
        have ran : handle B .commit (db, l) = (.ok (), (db', l.clear)) := by simp [handle, active, flushed]
        rw [ran]
        rcases hQ with ⟨rfl, ok, -⟩ | ⟨rfl, ok, -⟩ | ⟨rfl, ok, -⟩ <;>
          exact ⟨(.done, held), ⟨⟨rfl, rfl⟩, by simp⟩, ok⟩
      | error e =>
        have ran : handle B .commit (db, l) = (.error e, (db, { l.clear with inactive := true })) := by
          simp [handle, active, flushed]
        rw [ran]
        rcases hQ with ⟨rfl, -, failed⟩ | ⟨rfl, -, -⟩ | ⟨rfl, -, -⟩
        · exact ⟨(.quit, held), ⟨trivial, fun _ => same (.inl rfl)⟩, failed e⟩
        · rw [standing.2] at flushed
          cases flushed
        · obtain ⟨_, ok, -⟩ := flush_audits (B := B) standing.2 db
          rw [ok] at flushed
          cases flushed
    · rcases hQ with ⟨rfl, -⟩ | ⟨rfl, -⟩ | ⟨rfl, -⟩
      · exact absurd standing active
      · exact absurd standing.1 active
      · exact absurd standing.1 active
  | rollback =>
    obtain ⟨notAudited, ok⟩ := hQ
    by_cases done : g = .done
    · rw [if_pos done] at ok
      exact ⟨(.done, held), ⟨⟨rfl, rfl⟩, by simp⟩, ok⟩
    · rw [if_neg done] at ok
      refine ⟨(.quit, held), ⟨trivial, fun _ => same ?_⟩, ok⟩
      cases g with
      | before => exact .inl rfl
      | quit => exact .inr rfl
      | done => exact absurd rfl done
      | audited => exact absurd rfl notAudited

/-- **A call that fails has committed nothing.** -/
theorem exec_failed {c : Call D} (keyless : c.request.key = none) (db : Db D)
    (failure : succeeds (exec (handle B) (c.prog env) (db, {})).1 = false) :
    (exec (handle B) (c.prog env) (db, {})).2.1 = db := by
  have obeys := disciplined env false c
  rw [keyless] at obeys
  have start : Unwritten db (db, ({} : Session D)) (.before, []) := ⟨rfl, fun _ => rfl⟩
  obtain ⟨⟨g, held⟩, ⟨-, same⟩, -, success, -, notAudited⟩ := exec_of_wp (keeps_unwritten (B := B)) start obeys
  cases g with
  | before => exact same (.inl rfl)
  | quit => exact same (.inr rfl)
  | done =>
    rcases success rfl with faults | ⟨reply, answer, ok⟩
    · cases faults
    · rw [answer] at failure
      exact absurd (ok.symm.trans failure) (by simp)
  | audited => exact absurd rfl notAudited

end Failures

/-! ## Serial orders of the calls that succeed -/

section Serial

variable {ι : Type} {env : Env D} {B : Backend D} {calls : ι → Call D}

/-- Calls that fail in their place leave the others what they would have found without them. -/
theorem serial_successes (keyless : ∀ i, (calls i).request.key = none) (success : ι → Bool) (order : List ι) (db : Db D)
    (results : ∀ before i after, order = before ++ i :: after → success i =
      succeeds (outcome (handle B) (fun i => (calls i).prog env) (fun _ => {})
        (serial (handle B) (fun i => (calls i).prog env) (fun _ => {}) db before) i)) :
    serial (handle B) (fun i => (calls i).prog env) (fun _ => {}) db order =
      serial (handle B) (fun i => (calls i).prog env) (fun _ => {}) db (order.filter success) := by
  induction order generalizing db with
  | nil => rfl
  | cons i order ih =>
    have here := results [] i order rfl
    have rest := ih (exec (handle B) ((calls i).prog env) (db, {})).2.1
      fun before j after split => results (i :: before) j after (congrArg (i :: ·) split)
    cases ok : success i with
    | true =>
      rw [List.filter_cons_of_pos ok]
      exact rest
    | false =>
      rw [List.filter_cons_of_neg (by simp [ok])]
      have stays := exec_failed (keyless i) db (here.symm.trans ok)
      rw [stays] at rest
      calc serial (handle B) (fun i => (calls i).prog env) (fun _ => {}) db (i :: order)
          = serial (handle B) (fun i => (calls i).prog env) (fun _ => {})
              (exec (handle B) ((calls i).prog env) (db, {})).2.1 order := rfl
        _ = serial (handle B) (fun i => (calls i).prog env) (fun _ => {}) db order := by rw [stays]
        _ = _ := rest

end Serial

/-! ## Interleaved calls -/

section Threads

variable {ι : Type} [Fintype ι] [DecidableEq ι]

/-- **No update is lost** as long as no call reads on or commits after a row that it has read was changed: the calls leave
what those of them that report success leave one after another, in some order. -/
theorem no_lost_update (env : Env D) (B : Backend D) (db : Db D) (calls : ι → Call D)
    (keyless : ∀ i, (calls i).request.key = none) (schedule : List ι)
    (current : Throughout B UpToDate (desk env db calls) (fun _ => []) schedule)
    (done : ∀ i, (((threads B).run (desk env db calls) (steps schedule)).threads i).result ≠ none) :
    ∃ order : List ι, order.Nodup ∧
      (∀ i, i ∈ order ↔ reported (((threads B).run (desk env db calls) (steps schedule)).threads i) = true) ∧
      ((threads B).run (desk env db calls) (steps schedule)).store.unaudited =
        (serial (handle B) (fun i => (calls i).prog env) (fun _ => {}) db order).unaudited := by
  have obeys : ∀ i, wp (stages false none) ((calls i).prog env) (Ends false (calls i).request) (.before, []) := by
    intro i
    have obeys := disciplined env false (calls i)
    rwa [keyless i] at obeys
  obtain ⟨order, nodup, all, store, results⟩ := current_serial B (fun i => (calls i).prog env) db _ obeys schedule current done
  change ((threads B).run (desk env db calls) (steps schedule)).store.unaudited = _ at store
  change ∀ before i after, order = before ++ i :: after →
    (((threads B).run (desk env db calls) (steps schedule)).threads i).result = _ at results
  generalize (threads B).run (desk env db calls) (steps schedule) = c at store results
  refine ⟨order.filter fun i => reported (c.threads i), nodup.filter _, fun i => ?_, ?_⟩
  · simp [all i]
  · rw [store, serial_successes keyless (fun i => reported (c.threads i)) order db]
    intro before i after split
    rw [reported, results before i after split]
    rfl

end Threads

/-! ## A deposit and the interest -/

namespace Sample

local instance twoCalls : NeZero 2 := ⟨by decide⟩

/-- A deposit to the first account, and its interest. -/
def creditCalls (i : Fin 2) : Call ℤ :=
  ⟨if i = 0 then .deposit "1001" 500 "Salary" none else .applyInterest "1001", draws i⟩

/-- The threads before their first step. -/
def twoCredits : Desk ℤ (Fin 2) (Reply ℤ) := desk paiseEnv (store 10000 5000 0) creditCalls

/-- The deposit, and then the interest. -/
def depositBefore : List (Fin 2) := List.replicate 6 0 ++ List.replicate 4 1

theorem no_lost_update_credits : ∃ order : List (Fin 2), order.Nodup ∧
    (∀ i, i ∈ order ↔ reported (((threads paise).run twoCredits (steps depositBefore)).threads i) = true) ∧
    ((threads paise).run twoCredits (steps depositBefore)).store.unaudited =
      (serial (handle paise) (fun i => (creditCalls i).prog paiseEnv) (fun _ => {}) (store 10000 5000 0) order).unaudited :=
  no_lost_update paiseEnv paise (store 10000 5000 0) creditCalls (by decide) depositBefore (by decide) (by decide)

/-- The deposit falls between the read and the commit of the interest. -/
def depositAmid : List (Fin 2) := [1] ++ List.replicate 6 0 ++ List.replicate 3 1

/-- The balance of the first account. -/
def firstBalance (db : Db ℤ) : Option ℤ := (db.accounts.find? "1001").map Account.balance

/-- Both report success, and the deposit is overwritten: no order of the two leaves this balance. -/
theorem deposit_lost :
    (∀ i, reported (((threads paise).run twoCredits (steps depositAmid)).threads i) = true) ∧
      ∀ order : List (Fin 2), order.Nodup → (∀ i, i ∈ order) →
        firstBalance ((threads paise).run twoCredits (steps depositAmid)).store ≠
          firstBalance (serial (handle paise) (fun i => (creditCalls i).prog paiseEnv) (fun _ => {})
            (store 10000 5000 0) order) := by
  refine ⟨by decide, ?_⟩
  intro order nodup all
  have overwritten : firstBalance ((threads paise).run twoCredits (steps depositAmid)).store = some 10100 := by decide
  rw [overwritten]
  have perm : order.Perm [0, 1] := by
    rw [List.perm_ext_iff_of_nodup nodup (by decide)]
    intro i
    constructor
    · intro _
      fin_cases i <;> decide
    · intro _
      exact all i
  obtain ⟨i, j, rfl⟩ := List.length_eq_two.mp perm.length_eq
  fin_cases i <;> fin_cases j
  · simp at nodup
  · decide
  · decide
  · simp at nodup

end Sample

end UnionBank
