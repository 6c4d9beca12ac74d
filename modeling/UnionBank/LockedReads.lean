import UnionBank.StaleReads

/-!
# Reads under locks

Calls that read and change rows of their own accounts only, and do so while they hold all of their locks. A commit makes
stale what another one has read only when that one, holding its locks too, has an account in common with it.

- `Change.On`: a change of rows of some accounts, which leaves all others (`flush_on`);
- `guarded`: how such a call uses its locks, `Sheltered`: what is known of it during a run;
- `Clear`: no commit hits what another call has read under its locks; `Locked.throughout`: no read is stale then.
-/

namespace UnionBank

open Keyed Programs Prog

set_option linter.unusedSectionVars false

variable {D : Type}

/-! ## Changes of some accounts -/

/-- A change of rows of these accounts, or a transaction. -/
def Change.On (accNos : List String) : Change D → Prop
  | .insert (.transaction _) => True
  | .insert (.account a) => a.accountNumber ∈ accNos
  | .account loaded _ => loaded.accountNumber ∈ accNos
  | _ => False

section Frame

variable [Zero D] [LT D] [DecidableEq D] [DecidableLT D] {B : Backend D} {db db' : Db D} {accNos : List String}

/-- Such a change leaves all other accounts. -/
theorem apply_on {c : Change D} (on : c.On accNos) (h : c.apply B db = .ok db') {accNo : String}
    (other : accNo ∉ accNos) : db'.liveAccount? accNo = db.liveAccount? accNo := by
  cases c with
  | insert row =>
    cases row with
    | transaction t =>
      obtain ⟨_, _, _, _, _, _, _, rfl⟩ := apply_insertTransaction_ok.mp h
      rfl
    | account a =>
      simp only [Change.apply, NewRow.insert, bind_eq_ok, require_eq_ok, found_eq_ok, pure_eq_ok] at h
      obtain ⟨balance, _, _, _, _, _, accounts, inserted, rfl⟩ := h
      obtain ⟨free, rfl⟩ := Table.insert?_eq_some.mp inserted
      have ne : accNo ≠ a.accountNumber := by
        rintro rfl
        exact other on
      have same : (db.accounts.insert { a with balance } free).find? accNo = db.accounts.find? accNo := by
        rw [Table.find?_insert, if_neg ne]
      exact congrArg (Option.filter _) same
    | _ => exact on.elim
  | account loaded current =>
    obtain ⟨stored, found, balance, _, _, _, rfl⟩ := apply_account_ok.mp h
    have ne : accNo ≠ stored.accountNumber := by
      rintro rfl
      rw [Table.key_of_find? found] at other
      exact other on
    exact congrArg (Option.filter _) (Table.find?_set_of_ne _ ne)
  | _ => exact on.elim

theorem flush_on {cs : List (Change D)} (on : ∀ c ∈ cs, c.On accNos) (h : flush B cs db = .ok db') {accNo : String}
    (other : accNo ∉ accNos) : db'.liveAccount? accNo = db.liveAccount? accNo := by
  induction cs generalizing db with
  | nil =>
    cases h
    rfl
  | cons c cs ih =>
    obtain ⟨db₁, first, rest⟩ := (flush_cons_ok B).mp h
    rw [ih (fun c hc => on c (List.mem_cons_of_mem _ hc)) rest, apply_on (on c List.mem_cons_self) first other]

end Frame

section Answers

variable [Add D] [LE D] [DecidableLE D]

/-- The session's version of a row has its number. -/
theorem Session.ownAccount_accountNumber (l : Session D) (row : Account D) :
    (l.ownAccount row).accountNumber = row.accountNumber := by
  unfold Session.ownAccount
  refine List.foldlRecOn (motive := fun own : Account D => own.accountNumber = row.accountNumber) l.pending _ rfl
    fun own h c _ => ?_
  cases c with
  | account loaded current =>
    simp only
    split
    · assumption
    · exact h
  | _ => exact h

theorem Session.account?_accountNumber {l : Session D} {db : Db D} {accNo : String} {a : Account D}
    (h : l.account? db accNo = some a) : a.accountNumber = accNo := by
  obtain ⟨row, live, rfl⟩ := Option.map_eq_some_iff.mp h
  rw [l.ownAccount_accountNumber, Ledger.accountNumber_of_live live]

/-- An account is found under its number. -/
def Query.Named : (q : Query D) → q.Res → Prop
  | getAccount accNo, account => ∀ a, account = some a → a.accountNumber = accNo
  | _, _ => True

theorem Query.answer_named (q : Query D) (db : Db D) (l : Session D) : q.Named (q.answer db l) := by
  cases q with
  | getAccount accNo => exact fun a h => Session.account?_accountNumber h
  | _ => trivial

/-- A method that begins with the row of an account changes that account. -/
theorem Query.staged_on {q : Query D} {accNos : List String} {accNo : String} (cell : q.cell = .account accNo)
    (mem : accNo ∈ accNos) (db : Db D) (l : Session D) : ∀ c ∈ q.staged db l, c.On accNos := by
  intro c hc
  cases q <;> simp only [Query.cell, Cell.account.injEq, reduceCtorEq] at cell <;> subst cell <;>
    simp only [Query.staged, List.not_mem_nil] at hc
  all_goals
    split at hc
    next missing =>
      first
        | exact absurd hc List.not_mem_nil
        | (rw [List.mem_singleton.mp hc]
           exact mem)
    next row found =>
      rw [List.mem_singleton.mp hc]
      show row.accountNumber ∈ accNos
      rw [Session.account?_accountNumber found]
      exact mem

end Answers

/-! ## Locked calls -/

section Guarded

/-- Reads and commits under all of the locks, before one of them is given back. The state is the locks held, and whether
one was given back. -/
def guarded (accNos locks : List String) : Spec (Op.Res (D := D)) Exn (List String × Bool)
  | .acquire name, (held, gone), Q => gone = false ∧ Q (.ok ()) (held ++ [name], false)
  | .release name, (held, _), Q => Q (.ok ()) (held.erase name, true)
  | .query q, (held, gone), Q =>
    gone = false ∧ locks ⊆ held ∧ (∃ accNo ∈ accNos, q.cell = .account accNo) ∧
      (∀ a, q.Named a → Q (.ok a) (held, false)) ∧ ∀ e, Q (.error e) (held, false)
  | .create row, s, Q => (∃ t, row = .transaction t) ∧ Q (.ok ()) s
  | .commit, (held, gone), Q => gone = false ∧ locks ⊆ held ∧ ∀ r, Q r (held, false)
  | .beginNested, s, Q => ∀ r, Q r s
  | .releaseNested, s, Q | .rollbackNested, s, Q | .rollback, s, Q => Q (.ok ()) s

variable {accNos locks : List String}

theorem guarded_mono : Spec.Mono (guarded (D := D) accNos locks) := by
  intro o s Q Q' hQ h
  obtain ⟨held, gone⟩ := s
  cases o <;> simp only [guarded] at h ⊢ <;> grind

/-! ### Movements -/

section Keyless

open TransactionService

variable {key : Option String} (keyless : givenKey key = none)
include keyless

theorem checkIdempotency_keyless : (checkIdempotency key : Svc D _) = .ret none := by
  rw [checkIdempotency, keyless]
  rfl

theorem cachedTransfer_keyless [Zero D] : (cachedTransfer key : Svc D _) = .ret none := by
  rw [cachedTransfer, keyless]
  rfl

theorem storeIdempotency_keyless (accNo operation : String) (amount : D) (result : ServiceResult D) (balance : D) :
    storeIdempotency key accNo operation amount result balance = .ret () := by
  rw [storeIdempotency, keyless]
  rfl

theorem storeTransferIdempotency_keyless (env : Env D) (senderAccNo : String) (amount : D) (result : TransferResult D) :
    storeTransferIdempotency env key senderAccNo amount result = .ret () := by
  rw [storeTransferIdempotency, keyless]
  rfl

end Keyless

section Rules

variable {held : List String}

theorem guarded_get (holds : locks ⊆ held) {accNo : String} (mem : accNo ∈ accNos)
    {Q : Except Exn (Option (Account D)) → List String × Bool → Prop}
    (found : ∀ account, (∀ a, account = some a → a.accountNumber = accNo) → Q (.ok account) (held, false))
    (failed : ∀ e, Q (.error e) (held, false)) :
    wp (guarded accNos locks) (accountRepo.get accNo) Q (held, false) := by
  rw [accountRepo.get, ask, wp_perform]
  exact ⟨rfl, holds, ⟨accNo, mem, rfl⟩, found, failed⟩

theorem guarded_update (holds : locks ⊆ held) {account : Account D} (mem : account.accountNumber ∈ accNos)
    {Q : Except Exn Unit → List String × Bool → Prop} (h : ∀ r, Q r (held, false)) :
    wp (guarded accNos locks) (accountRepo.update account) Q (held, false) := by
  rw [accountRepo.update, ask, wp_perform]
  exact ⟨rfl, holds, ⟨_, mem, rfl⟩, fun _ _ => h _, fun _ => h _⟩

theorem guarded_create {t : Transaction D} {Q : Except Exn Unit → List String × Bool → Prop} {s : List String × Bool}
    (h : Q (.ok ()) s) : wp (guarded accNos locks) (txnRepo.create t) Q s := by
  rw [txnRepo.create, add, wp_perform]
  exact ⟨⟨t, rfl⟩, h⟩

theorem guarded_commit (holds : locks ⊆ held) {Q : Except Exn Unit → List String × Bool → Prop} (h : ∀ r, Q r (held, false)) :
    wp (guarded (D := D) accNos locks) accountRepo.commit Q (held, false) := by
  rw [accountRepo.commit, wp_perform]
  exact ⟨rfl, holds, h⟩

end Rules

section Bodies

variable [Zero D] [Add D] [Sub D] [LE D] [LT D] [DecidableLE D] [DecidableLT D] (env : Env D) (draws : Draws)
variable {held : List String}

theorem depositLocked_guarded (holds : locks ⊆ held) {accNo : String} (mem : accNo ∈ accNos) (amount : D) (category : String) :
    wp (guarded accNos locks) (TransactionService.depositLocked draws accNo amount category)
      (fun _ s => s = (held, false)) (held, false) := by
  rw [TransactionService.depositLocked, wp_bind]
  refine guarded_get holds mem (fun account named => ?_) fun e => rfl
  rw [andThen_ok]
  cases account with
  | none => rfl
  | some account =>
    simp only
    split
    · rfl
    rw [wp_bind]
    refine guarded_update holds ((named account rfl).symm ▸ mem) fun r => ?_
    cases r with
    | error e => rfl
    | ok _ =>
      rw [andThen_ok, wp_bind]
      refine guarded_create ?_
      rw [andThen_ok, wp_bind]
      refine guarded_commit holds fun r => ?_
      cases r <;> rfl

theorem withdrawLocked_guarded (holds : locks ⊆ held) {accNo : String} (mem : accNo ∈ accNos) (amount : D) (category : String) :
    wp (guarded accNos locks) (TransactionService.withdrawLocked env draws accNo amount category)
      (fun _ s => s = (held, false)) (held, false) := by
  rw [TransactionService.withdrawLocked, wp_bind]
  refine guarded_get holds mem (fun account named => ?_) fun e => rfl
  rw [andThen_ok]
  cases account with
  | none => rfl
  | some account =>
    simp only
    split
    · rfl
    split
    · rfl
    rw [wp_bind, TransactionService.ensureNonNegativeBalance]
    split
    · rfl
    rw [pure_eq, wp_ret, andThen_ok, wp_bind]
    refine guarded_update holds ((named account rfl).symm ▸ mem) fun r => ?_
    cases r with
    | error e => rfl
    | ok _ =>
      rw [andThen_ok, wp_bind]
      refine guarded_create ?_
      rw [andThen_ok, wp_bind]
      refine guarded_commit holds fun r => ?_
      cases r <;> rfl

theorem moveMoney_guarded (holds : locks ⊆ held) {sender receiver : Account D} {senderAccNo receiverAccNo : String}
    (hs : sender.accountNumber ∈ accNos) (hr : receiver.accountNumber ∈ accNos) (amount : D) (cat : String) :
    wp (guarded accNos locks)
      (TransactionService.moveMoney draws sender receiver senderAccNo receiverAccNo amount cat)
      (fun _ s => s = (held, false)) (held, false) := by
  rw [TransactionService.moveMoney, wp_bind, TransactionService.ensureNonNegativeBalance]
  split
  · rfl
  rw [pure_eq, wp_ret, andThen_ok, wp_bind]
  refine guarded_update holds hs fun r => ?_
  cases r with
  | error e => rfl
  | ok _ =>
    rw [andThen_ok, wp_bind]
    refine guarded_update holds hr fun r => ?_
    cases r with
    | error e => rfl
    | ok _ =>
      rw [andThen_ok, wp_bind]
      refine guarded_create ?_
      rw [andThen_ok, wp_bind]
      exact guarded_create rfl

end Bodies

end Guarded

variable [Zero D] [Add D] [Sub D] [LE D] [LT D] [DecidableEq D] [DecidableLE D] [DecidableLT D]
variable {ι : Type} [Fintype ι] [DecidableEq ι] {α : Type} {B : Backend D}

/-- What is known of a call that reads under its locks: until it gives one of them back, what it has read is as it read
it. -/
structure Sheltered (accNos locks : List String) (Q : Except Exn α → List String × Bool → Prop) (gone : Bool)
    (journal : List (Cell × Row D)) (db : Db D) (t : Thread (Op.Res (D := D)) Exn α (Session D)) : Prop where
  guarded : wp (guarded accNos locks) t.prog Q (t.own.held, gone)
  own : ∀ c ∈ t.own.pending, c.On accNos
  locked : gone = false → journal ≠ [] → locks ⊆ t.own.held
  current : gone = false → Meets Db.row journal db
  cells : ∀ kv ∈ journal, ∃ accNo ∈ accNos, kv.1 = .account accNo

namespace Sheltered

variable {accNos locks : List String} {Q : Except Exn α → List String × Bool → Prop} {gone : Bool}
  {journal : List (Cell × Row D)} {db db' : Db D} {o : Op D} {k : Except Exn o.Res → Svc D α} {l : Session D}

/-- Where others have changed nothing that the call has read. -/
theorem of_rows {t : Thread (Op.Res (D := D)) Exn α (Session D)} (h : Sheltered accNos locks Q gone journal db t)
    (same : gone = false → ∀ kv ∈ journal, Db.row kv.1 db' = Db.row kv.1 db) :
    Sheltered accNos locks Q gone journal db' t where
  guarded := h.guarded
  own := h.own
  locked := h.locked
  current here kv hkv := (same here kv hkv).trans (h.current here kv hkv)
  cells := h.cells

/-- A call that reads or commits has its locks. -/
theorem holds (h : Sheltered accNos locks Q gone journal db ⟨.call o k, l⟩) (does : o.isCommit = true ∨ o.cells ≠ []) :
    gone = false ∧ locks ⊆ l.held := by
  have step : UnionBank.guarded accNos locks o (l.held, gone) fun r s => wp (UnionBank.guarded accNos locks) (k r) Q s :=
    h.guarded
  cases o with
  | query q => exact ⟨step.1, step.2.1⟩
  | commit => exact ⟨step.1, step.2.1⟩
  | _ => simp [Op.isCommit, Op.cells] at does

/-- An operation leaves the accounts of others. -/
theorem elsewhere (h : Sheltered accNos locks Q gone journal db ⟨.call o k, l⟩) {accNo : String}
    (other : accNo ∉ accNos) : Db.row (.account accNo) (handle B o (db, l)).2.1 = Db.row (.account accNo) db := by
  by_cases commit : o.isCommit = true
  · cases o with
    | commit =>
      simp only [handle]
      split
      · rfl
      · split
        next db' flushed => exact congrArg Row.account (flush_on h.own flushed other)
        next => rfl
    | _ => cases commit
  · have quiet := quiet_of_not_commit (B := B) (Bool.eq_false_iff.mpr commit) db l
    rw [congrArg (·.2.1) (quiet db fun _ _ => rfl)]

/-- One operation. -/
theorem step (h : Sheltered accNos locks Q gone journal db ⟨.call o k, l⟩) :
    ∃ gone', Sheltered accNos locks Q gone' (if o.isCommit then [] else journal ++ readings Db.row o.cells db)
      (handle B o (db, l)).2.1 ⟨k (handle B o (db, l)).1, (handle B o (db, l)).2.2⟩ := by
  obtain ⟨guarded, own, locked, current, cells⟩ := h
  have step : UnionBank.guarded accNos locks o (l.held, gone) fun r s => wp (UnionBank.guarded accNos locks) (k r) Q s :=
    guarded
  simp only at own locked
  cases o with
  | acquire name =>
    obtain ⟨rfl, next⟩ := step
    have journal' : journal ++ readings Db.row (Op.acquire (D := D) name).cells db = journal := List.append_nil _
    simp only [Op.isCommit, Bool.false_eq_true, if_false, journal']
    exact ⟨false, next, own, fun here read =>
      List.Subset.trans (locked here read) (List.subset_append_left _ _), current, cells⟩
  | release name =>
    have journal' : journal ++ readings Db.row (Op.release (D := D) name).cells db = journal := List.append_nil _
    simp only [Op.isCommit, Bool.false_eq_true, if_false, journal']
    exact ⟨true, step, own, fun gone => Bool.noConfusion gone, fun gone => Bool.noConfusion gone, cells⟩
  | query q =>
    obtain ⟨rfl, holds, ⟨accNo, mem, cell⟩, answers, fails⟩ := step
    have cells' : ∀ kv ∈ journal ++ readings Db.row (Op.query q).cells db, ∃ accNo ∈ accNos, kv.1 = .account accNo := by
      intro kv hkv
      rcases List.mem_append.mp hkv with hkv | hkv
      · exact cells kv hkv
      · rw [List.mem_singleton.mp hkv]
        exact ⟨accNo, mem, cell⟩
    have current' : Meets Db.row (journal ++ readings Db.row (Op.query q).cells db) db :=
      (current rfl).append (meets_readings _ _)
    simp only [Op.isCommit, Bool.false_eq_true, if_false, handle]
    split
    · exact ⟨false, fails _, own, fun _ _ => holds, fun _ => current', cells'⟩
    · refine ⟨false, answers _ (q.answer_named db l), ?_, fun _ _ => holds, fun _ => current', cells'⟩
      intro c hc
      rcases List.mem_append.mp hc with hc | hc
      · exact own c hc
      · exact Query.staged_on cell mem db l c hc
  | create row =>
    obtain ⟨⟨t, rfl⟩, next⟩ := step
    have journal' : journal ++ readings Db.row (Op.create (.transaction t)).cells db = journal := List.append_nil _
    simp only [Op.isCommit, Bool.false_eq_true, if_false, journal']
    refine ⟨gone, next, ?_, locked, current, cells⟩
    intro c hc
    rcases List.mem_append.mp hc with hc | hc
    · exact own c hc
    · rw [List.mem_singleton.mp hc]
      trivial
  | beginNested =>
    have journal' : journal ++ readings Db.row (Op.beginNested (D := D)).cells db = journal := List.append_nil _
    simp only [Op.isCommit, Bool.false_eq_true, if_false, journal', handle]
    split
    · exact ⟨gone, step _, own, locked, current, cells⟩
    · exact ⟨gone, step _, own, locked, current, cells⟩
  | releaseNested =>
    have journal' : journal ++ readings Db.row (Op.releaseNested (D := D)).cells db = journal := List.append_nil _
    simp only [Op.isCommit, Bool.false_eq_true, if_false, journal']
    exact ⟨gone, step, own, locked, current, cells⟩
  | rollbackNested =>
    have journal' : journal ++ readings Db.row (Op.rollbackNested (D := D)).cells db = journal := List.append_nil _
    simp only [Op.isCommit, Bool.false_eq_true, if_false, journal']
    exact ⟨gone, step, fun c hc => own c (List.mem_of_mem_take hc), locked, current, cells⟩
  | commit =>
    obtain ⟨rfl, holds, next⟩ := step
    simp only [Op.isCommit, if_true, handle]
    split
    · exact ⟨false, next _, own, by simp, by simp [Meets], by simp⟩
    · split
      · exact ⟨false, next _, by simp [Session.clear], by simp, by simp [Meets], by simp⟩
      · exact ⟨false, next _, by simp [Session.clear], by simp, by simp [Meets], by simp⟩
  | rollback =>
    have journal' : journal ++ readings Db.row (Op.rollback (D := D)).cells db = journal := List.append_nil _
    simp only [Op.isCommit, Bool.false_eq_true, if_false, journal']
    exact ⟨gone, step, by simp [handle, Session.clear], locked, current, cells⟩

end Sheltered

/-! ## Runs -/

/-- A commit hits no row that another call has read under all of its locks. -/
def Clear (accNos locks : ι → List String) (c : Desk D ι α) (journal : Journals D ι) (i : ι) : Prop :=
  match (c.threads i).prog with
  | .call o _ => o.isCommit = true → ∀ j, j ≠ i → locks j ⊆ (c.threads j).own.held →
    ∀ kv ∈ journal j, ∀ accNo ∈ accNos i, kv.1 ≠ .account accNo
  | _ => True

/-- Calls that read under their locks, in progress. -/
structure Locked (accNos locks : ι → List String) (Q : ι → Except Exn α → List String × Bool → Prop)
    (c : Desk D ι α) (journal : Journals D ι) : Prop where
  sheltered : ∀ i, ∃ gone, Sheltered (accNos i) (locks i) (Q i) gone (journal i) c.store (c.threads i)
  exclusive : Exclusive Session.held c

namespace Locked

variable {accNos locks : ι → List String} {Q : ι → Except Exn α → List String × Bool → Prop} {c : Desk D ι α}
  {journal : Journals D ι} {i : ι}

/-- What a call has read is as it read it whenever it reads on or commits. -/
theorem upToDate (h : Locked accNos locks Q c journal) (i : ι) : UpToDate c journal i := by
  unfold UpToDate
  split
  next o k here =>
    intro does
    obtain ⟨gone, sheltered⟩ := h.sheltered i
    have thread : c.threads i = ⟨.call o k, (c.threads i).own⟩ := by rw [← here]
    have sheltered' := sheltered
    rw [thread] at sheltered'
    exact sheltered.current (sheltered'.holds does).1
  next => trivial

/-- One step of a call that can step. -/
theorem step (h : Locked accNos locks Q c journal) {o : Op D} {k : Except Exn o.Res → Svc D α}
    (here : (c.threads i).prog = .call o k) (free : ∀ j, (threads B).blocks o (c.threads j).own = false)
    (clear : Clear accNos locks c journal i) :
    Locked accNos locks Q (c.put i (handle B o (c.world i)).2 (k (handle B o (c.world i)).1))
      (Function.update journal i (if o.isCommit then [] else journal i ++ readings Db.row o.cells c.store)) := by
  refine ⟨fun j => ?_, h.exclusive.moves (threads_locks B) (.step here free)⟩
  obtain ⟨gone, sheltered⟩ := h.sheltered i
  have thread : c.threads i = ⟨.call o k, (c.threads i).own⟩ := by rw [← here]
  rw [thread] at sheltered
  by_cases hj : j = i
  · subst hj
    rw [Config.put_threads_self, Function.update_self]
    exact sheltered.step
  · rw [Config.put_threads_of_ne _ _ _ hj, Function.update_of_ne hj]
    obtain ⟨gone', other⟩ := h.sheltered j
    refine ⟨gone', other.of_rows fun inside kv hkv => ?_⟩
    have held := other.locked inside (List.ne_nil_of_mem hkv)
    by_cases commit : o.isCommit = true
    · unfold Clear at clear
      rw [here] at clear
      obtain ⟨accNo, -, cell⟩ := other.cells kv hkv
      have elsewhere : accNo ∉ accNos i := fun mem => clear commit j hj held kv hkv accNo mem cell
      rw [cell]
      exact sheltered.elsewhere elsewhere
    · have quiet := quiet_of_not_commit (B := B) (Bool.eq_false_iff.mpr commit) c.store (c.threads i).own
      show Db.row kv.1 (handle B o (c.store, (c.threads i).own)).2.1 = _
      rw [congrArg (·.2.1) (quiet c.store fun _ _ => rfl)]

/-- One event of a schedule. -/
theorem next (h : Locked accNos locks Q c journal) (clear : Clear accNos locks c journal i) :
    Locked accNos locks Q ((threads B).next c (.step i)) (journalsAfter c journal i) := by
  unfold journalsAfter
  cases here : (c.threads i).prog with
  | ret a => simpa only [System.next, here] using h
  | raise e => simpa only [System.next, here] using h
  | call o k =>
    by_cases free : ∀ j, (threads B).blocks o (c.threads j).own = false
    · have moved : (threads B).next c (.step i) =
          c.put i (handle B o (c.world i)).2 (k (handle B o (c.world i)).1) := by
        simp only [System.next, here]
        exact if_pos free
      rw [moved]
      exact h.step here free clear
    · have stays : (threads B).next c (.step i) = c := by
        simp only [System.next, here]
        exact if_neg free
      have nothing : (if o.isCommit then [] else journal i ++ readings Db.row o.cells c.store) = journal i := by
        cases o with
        | acquire accNo => simp [Op.isCommit, Op.cells, readings]
        | _ => exact absurd (fun j => rfl) free
      simp only [nothing, Function.update_eq_self]
      rw [stays]
      exact h

/-- **No read is stale** when no commit hits what another call has read under its locks. -/
theorem throughout {P : Desk D ι α → Journals D ι → ι → Prop} (h : Locked accNos locks Q c journal)
    (clear : ∀ c journal i, Locked accNos locks Q c journal → P c journal i → Clear accNos locks c journal i)
    {schedule : List ι} (all : Throughout B P c journal schedule) : Throughout B UpToDate c journal schedule := by
  induction schedule generalizing c journal with
  | nil => trivial
  | cons i schedule ih =>
    obtain ⟨here, rest⟩ := all
    exact ⟨h.upToDate i, ih (h.next (clear c journal i h here)) rest⟩

end Locked

end UnionBank
