import UnionBank.Interleavings

/-!
# Calls that read no stale rows

Calls without keys on sessions of their own, whose operations interleave in any way. When no call reads on or commits
after a row that it has read was changed, they end as if they had been made one after another, in the order in which
they committed or, when they commit nothing, in the order of their last reads (`current_serial`).

- `Cell`, `Row`: the rows a repository looks up, and what is there;
- `journalsAfter`: what every call has read; `UpToDate`: the condition on a step, `Throughout`: on every step.
-/

namespace UnionBank

open Keyed Programs Prog

set_option linter.unusedSectionVars false

variable {D : Type}

/-! ## Rows -/

/-- Where a repository looks a row up. -/
inductive Cell where
  | account (accNo : String)
  | loan (loanId : String)
  | goal (goalId : String)
  | idempotencyKey (idempotencyKey : String)
  | tokenVersion (accNo : String)
deriving DecidableEq

/-- The row it finds, if any. -/
inductive Row (D : Type) where
  | account (row : Option (Account D))
  | loan (row : Option (Loan D))
  | goal (row : Option (SavingsGoal D))
  | idempotencyKey (row : Option (IdempotencyRecord D))
  | tokenVersion (row : Option TokenVersion)
deriving DecidableEq

/-- What a repository finds. -/
def Db.row (cell : Cell) (db : Db D) : Row D :=
  match cell with
  | .account accNo => .account (db.liveAccount? accNo)
  | .loan loanId => .loan (db.loans.find? loanId)
  | .goal goalId => .goal (db.goals.find? goalId)
  | .idempotencyKey key => .idempotencyKey (db.idempotencyKeys.find? key)
  | .tokenVersion accNo => .tokenVersion (db.tokenVersions.find? accNo)

/-- The row a method begins with. -/
def Query.cell : Query D → Cell
  | getAccount accNo | setActive accNo _ | setFrozen accNo _ | deleteAccount accNo _ => .account accNo
  | updateAccount account => .account account.accountNumber
  | getLoan loanId => .loan loanId
  | updateLoan loan => .loan loan.loanId
  | getGoal goalId | contributeGoal goalId _ | deleteGoal goalId => .goal goalId
  | updateGoal goal => .goal goal.goalId
  | getIdempotencyKey key => .idempotencyKey key
  | getTokenVersion accNo | incrementTokenVersion accNo => .tokenVersion accNo

/-- The rows an operation reads. -/
def Op.cells : Op D → List Cell
  | .query q => [q.cell]
  | _ => []

section Rows

variable [Zero D] [Add D] [Sub D] [LE D] [LT D] [DecidableEq D] [DecidableLE D] [DecidableLT D] {B : Backend D}

/-- A method depends on the row it begins with. -/
theorem query_of_row (q : Query D) (l : Session D) {s t : Db D} (same : Db.row q.cell t = Db.row q.cell s) :
    q.answer t l = q.answer s l ∧ q.staged t l = q.staged s l := by
  cases q <;> simp only [Query.cell, Db.row, Row.account.injEq, Row.loan.injEq, Row.goal.injEq,
    Row.idempotencyKey.injEq, Row.tokenVersion.injEq] at same <;>
    simp only [Query.answer, Query.staged, Session.account?, Session.loan?, Session.goal?, Session.tokenVersion?, same,
      and_self]

/-- Whatever is no commit only reads. -/
theorem quiet_of_not_commit {o : Op D} (notCommit : o.isCommit = false) (s : Db D) (l : Session D) :
    Quiet (handle B) Db.row o.cells o s l := by
  intro t same
  cases o with
  | query q =>
    obtain ⟨answer, staged⟩ := query_of_row q l (same q.cell (List.mem_singleton_self _))
    simp only [handle]
    split
    · rfl
    · rw [answer, staged]
  | commit => cases notCommit
  | beginNested =>
    simp only [handle]
    split <;> rfl
  | _ => rfl

/-- The store without its audit log decides what an operation does. -/
theorem handle_respects : Respects (handle B) Db.unaudited := by
  intro o l s t same
  have whole := local_univ (B := B) o l
  have agree : Agree withoutAudit Set.univ s t := fun _ _ => same
  exact ⟨whole.answer agree, whole.own agree, whole.agree agree () (Set.mem_univ ())⟩

end Rows

variable [Zero D] [Add D] [Sub D] [LE D] [LT D] [DecidableEq D] [DecidableLE D] [DecidableLT D]
variable {ι : Type} [Fintype ι] [DecidableEq ι] {α : Type}

/-! ## Stale reads -/

/-- The calls in progress. -/
abbrev Desk (D ι α : Type) := Config ι (Op.Res (D := D)) Exn α (Db D) (Session D)

/-- What the calls have read, since their last commit. -/
abbrev Journals (D ι : Type) := ι → List (Cell × Row D)

/-- The journals after a step of a call. -/
def journalsAfter (c : Desk D ι α) (journal : Journals D ι) (i : ι) : Journals D ι :=
  match (c.threads i).prog with
  | .call o _ =>
    Function.update journal i (if o.isCommit then [] else journal i ++ readings Db.row o.cells c.store)
  | _ => journal

/-- A call that reads or commits finds what it has read before as it read it. -/
def UpToDate (c : Desk D ι α) (journal : Journals D ι) (i : ι) : Prop :=
  match (c.threads i).prog with
  | .call o _ => o.isCommit = true ∨ o.cells ≠ [] → Meets Db.row (journal i) c.store
  | _ => True

instance decidableUpToDate (c : Desk D ι α) (journal : Journals D ι) (i : ι) : Decidable (UpToDate c journal i) := by
  unfold UpToDate
  split <;> infer_instance

/-- A condition on the calls before every step of a schedule. -/
def Throughout (B : Backend D) (P : Desk D ι α → Journals D ι → ι → Prop) (c : Desk D ι α) (journal : Journals D ι) :
    List ι → Prop
  | [] => True
  | i :: schedule =>
    P c journal i ∧ Throughout B P ((threads B).next c (.step i)) (journalsAfter c journal i) schedule

instance decidableThroughout (B : Backend D) (P : Desk D ι α → Journals D ι → ι → Prop)
    [∀ c journal i, Decidable (P c journal i)] (c : Desk D ι α) (journal : Journals D ι) :
    ∀ schedule : List ι, Decidable (Throughout B P c journal schedule)
  | [] => isTrue trivial
  | i :: schedule =>
    have := decidableThroughout B P ((threads B).next c (.step i)) (journalsAfter c journal i) schedule
    inferInstanceAs (Decidable (_ ∧ _))

section Simulation

variable {B : Backend D} {programs : ι → Svc D α} {db : Db D} {Q : ι → Except Exn α → Stage × List String → Prop}

/-- How the calls, their journals and the serial store hang together. -/
structure Reading (B : Backend D) (programs : ι → Svc D α) (db : Db D)
    (Q : ι → Except Exn α → Stage × List String → Prop) (c : Desk D ι α) (journal : Journals D ι) (order : List ι) :
    Prop where
  settled : Serialized (handle B) Db.row Db.unaudited programs (fun _ => {}) db order journal c
  staged : ∀ i, ∃ g, Staged (Q i) g (c.threads i)

/-- A call that is not past its commit, or not settled, is before it. -/
theorem Staged.before_of_not_blind {Q : Except Exn α → Stage × List String → Prop} {g : Stage}
    {t : Thread (Op.Res (D := D)) Exn α (Session D)} (staged : Staged Q g t)
    (open_ : ¬Blind (handle B) Db.unaudited t.prog t.own) : g = .before := by
  obtain ⟨held, hp, standing⟩ := staged
  by_contra past
  exact open_ (blind_of_past hp standing past)

/-- One step of a call that can step. -/
theorem Reading.step {c : Desk D ι α} {journal : Journals D ι} {order : List ι}
    (reading : Reading B programs db Q c journal order) {i : ι} {o : Op D} {k : Except Exn o.Res → Svc D α}
    (here : (c.threads i).prog = .call o k)
    (current : o.isCommit = true ∨ o.cells ≠ [] → Meets Db.row (journal i) c.store) :
    ∃ order', Reading B programs db Q (c.put i (handle B o (c.world i)).2 (k (handle B o (c.world i)).1))
      (Function.update journal i (if o.isCommit then [] else journal i ++ readings Db.row o.cells c.store)) order' := by
  obtain ⟨g, staged⟩ := reading.staged i
  have thread : c.threads i = ⟨.call o k, (c.threads i).own⟩ := by rw [← here]
  have staged' := staged
  rw [thread] at staged'
  obtain ⟨g', next, past⟩ := staged'.step (B := B) c.store
  have stages : ∀ j, ∃ g, Staged (Q j) g
      ((c.put i (handle B o (c.world i)).2 (k (handle B o (c.world i)).1)).threads j) := by
    intro j
    by_cases hj : j = i
    · subst hj
      rw [Config.put_threads_self]
      exact ⟨g', next⟩
    · rw [Config.put_threads_of_ne _ _ _ hj]
      exact reading.staged j
  by_cases begun : i ∈ order
  · -- its journal does not count any more
    refine ⟨order, (reading.settled.trails begun here).of_journal fun j hj => ?_, stages⟩
    refine Function.update_of_ne ?_ _ _
    rintro rfl
    exact hj begun
  · have before := staged.before_of_not_blind (reading.settled.unsettled i begun)
    by_cases commit : o.isCommit = true
    · obtain ⟨held, hp, standing⟩ := next
      have blind := blind_of_past (B := B) hp standing (past (.inl commit))
      have settled := reading.settled.commits handle_respects begun here (current (.inl commit)) blind
      refine ⟨order ++ [i], settled.of_journal fun j hj => ?_, stages⟩
      refine Function.update_of_ne ?_ _ _
      rintro rfl
      exact hj (List.mem_append_right _ (List.mem_singleton_self j))
    · rw [if_neg commit]
      have quiet := quiet_of_not_commit (B := B) (Bool.eq_false_iff.mpr commit) c.store (c.threads i).own
      obtain ⟨order', -, settled⟩ :=
        reading.settled.quiet handle_respects begun here quiet fun reads => current (.inr reads)
      exact ⟨order', settled, stages⟩

/-- One event of a schedule. -/
theorem Reading.next {c : Desk D ι α} {journal : Journals D ι} {order : List ι}
    (reading : Reading B programs db Q c journal order) {i : ι} (current : UpToDate c journal i) :
    ∃ order', Reading B programs db Q ((threads B).next c (.step i)) (journalsAfter c journal i) order' := by
  unfold journalsAfter
  unfold UpToDate at current
  cases here : (c.threads i).prog with
  | ret a => exact ⟨order, by simpa only [System.next, here] using reading⟩
  | raise e => exact ⟨order, by simpa only [System.next, here] using reading⟩
  | call o k =>
    rw [here] at current
    by_cases free : ∀ j, (threads B).blocks o (c.threads j).own = false
    · have moved : (threads B).next c (.step i) =
          c.put i (handle B o (c.world i)).2 (k (handle B o (c.world i)).1) := by
        simp only [System.next, here]
        exact if_pos free
      rw [moved]
      exact reading.step here current
    · -- it waits for a lock, and reads nothing
      have stays : (threads B).next c (.step i) = c := by
        simp only [System.next, here]
        exact if_neg free
      have nothing : (if o.isCommit then [] else journal i ++ readings Db.row o.cells c.store) = journal i := by
        cases o with
        | acquire accNo => simp [Op.isCommit, Op.cells, readings]
        | _ => exact absurd (fun j => rfl) free
      simp only [nothing, Function.update_eq_self]
      rw [stays]
      exact ⟨order, reading⟩

theorem Reading.run {c : Desk D ι α} {journal : Journals D ι} {order : List ι}
    (reading : Reading B programs db Q c journal order) {schedule : List ι} (current : Throughout B UpToDate c journal schedule) :
    ∃ journal' order', Reading B programs db Q ((threads B).run c (steps schedule)) journal' order' := by
  induction schedule generalizing c journal order with
  | nil => exact ⟨journal, order, reading⟩
  | cons i schedule ih =>
    obtain ⟨here, rest⟩ := current
    obtain ⟨order', next⟩ := reading.next here
    exact ih next rest

/-- **Calls that read no stale rows** leave what they would leave one after another, in some order, and return what
they would return. -/
theorem current_serial (B : Backend D) (programs : ι → Svc D α) (db : Db D)
    (Q : ι → Except Exn α → Stage × List String → Prop)
    (disciplined : ∀ i, wp (stages false none) (programs i) (Q i) (.before, [])) (schedule : List ι)
    (current : Throughout B UpToDate ⟨db, fun i => ⟨programs i, {}⟩⟩ (fun _ => []) schedule)
    (done : ∀ i, (((threads B).run ⟨db, fun i => ⟨programs i, {}⟩⟩ (steps schedule)).threads i).result ≠ none) :
    ∃ order : List ι, order.Nodup ∧ (∀ i, i ∈ order) ∧
      ((threads B).run ⟨db, fun i => ⟨programs i, {}⟩⟩ (steps schedule)).store.unaudited =
        (serial (handle B) programs (fun _ => {}) db order).unaudited ∧
      ∀ before i after, order = before ++ i :: after →
        (((threads B).run ⟨db, fun i => ⟨programs i, {}⟩⟩ (steps schedule)).threads i).result =
          some (outcome (handle B) programs (fun _ => {}) (serial (handle B) programs (fun _ => {}) db before) i) := by
  obtain ⟨order, first⟩ : ∃ order, Serialized (handle B) Db.row Db.unaudited programs (fun _ => {}) db order (fun _ => [])
      ⟨db, fun i => ⟨programs i, {}⟩⟩ := Serialized.start handle_respects
  have start : Reading B programs db Q ⟨db, fun i => ⟨programs i, {}⟩⟩ (fun _ => []) order :=
    ⟨first, fun i => ⟨.before, [], disciplined i, rfl⟩⟩
  obtain ⟨journal', order', reached⟩ := start.run current
  obtain ⟨all, store, results⟩ := reached.settled.ended done
  exact ⟨order', reached.settled.nodup, all, store, results⟩

end Simulation

end UnionBank
