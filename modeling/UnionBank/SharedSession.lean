import UnionBank.Coroutines

/-!
# One session for all coroutines

The container of `get_async_container()` gives every service the same session: what one coroutine commits or rolls back
are the pending changes of all.

- `Shared`: the store and the session, with the history of what has become durable and of what was discarded; `share`
  answers the operations on it, `container` is the system;
- `Task`: a transfer, or any other operation of the services;
- `Atomic`: transfers are whole or not there, refused ones are not there, and nobody discards the changes of another;
- `container_atomic`: so it is in every state that is reached, as long as the session's transaction is ended only by
  the coroutine whose changes are pending (`EndsOwn`).
-/

namespace UnionBank

open Keyed Programs Prog TransactionService

set_option linter.unusedSectionVars false

variable {D : Type} {ι : Type}

/-! ## The session -/

/-- The store, and the one session with the changes of every coroutine. `durable` and `lost` are history, which no
operation reads: what commits have written, and what was discarded, with the coroutine that discarded it. -/
structure Shared (D ι : Type) where
  db : Db D
  pending : List (ι × Change D) := []
  inactive : Bool := false
  savepoint : Option ℕ := none
  durable : List (ι × Change D) := []
  lost : List (ι × ι × Change D) := []

/-- What is a coroutine's own: who it is, and the locks it holds. -/
structure Coroutine (ι : Type) where
  me : ι
  held : List String := []

namespace Shared

/-- The pending changes, whoever staged them. -/
def changes (s : Shared D ι) : List (Change D) := s.pending.map Prod.snd

def stage (s : Shared D ι) (me : ι) (cs : List (Change D)) : Shared D ι :=
  { s with pending := s.pending ++ cs.map fun c => (me, c) }

/-- The end of the transaction: its changes are in the store. -/
def persist (s : Shared D ι) (db : Db D) : Shared D ι :=
  { s with db, pending := [], savepoint := none, durable := s.durable ++ s.pending }

/-- The end of the transaction without its changes. -/
def discard (s : Shared D ι) (me : ι) (inactive : Bool) : Shared D ι :=
  { s with pending := [], inactive, savepoint := none, lost := s.lost ++ s.pending.map fun x => (x.1, me, x.2) }

/-- Back to the savepoint. -/
def rewind (s : Shared D ι) (me : ι) : Shared D ι :=
  let kept := s.savepoint.getD s.pending.length
  { s with
    pending := s.pending.take kept
    savepoint := none
    lost := s.lost ++ (s.pending.drop kept).map fun x => (x.1, me, x.2) }

end Shared

section System

variable [Zero D] [Add D] [LE D] [LT D] [DecidableEq D] [DecidableLE D] [DecidableLT D] (B : Backend D)

/-- The session's answer to an operation. Before a SELECT it flushes, and the SELECT finds what was flushed. -/
def share : Handler (Op.Res (D := D)) Exn (Shared D ι × Coroutine ι)
  | .acquire name, (s, l) => (.ok (), (s, { l with held := l.held ++ [name] }))
  | .release name, (s, l) => (.ok (), (s, { l with held := l.held.erase name }))
  | .query q, (s, l) =>
    if s.inactive then (.error .pendingRollbackError, (s, l))
    else match flush B s.changes s.db with
      | .ok seen => (.ok (q.answer seen {}), (s.stage l.me (q.staged seen {}), l))
      | .error e => (.error e, (s.discard l.me true, l))
  | .create row, (s, l) => (.ok (), (s.stage l.me [.insert row], l))
  | .beginNested, (s, l) =>
    if s.inactive then (.error .pendingRollbackError, (s, l))
    else match flush B s.changes s.db with
      | .ok _ => (.ok (), ({ s with savepoint := some s.pending.length }, l))
      | .error e => (.error e, (s.discard l.me true, l))
  | .releaseNested, (s, l) => (.ok (), ({ s with savepoint := none }, l))
  | .rollbackNested, (s, l) => (.ok (), (s.rewind l.me, l))
  | .commit, (s, l) =>
    if s.inactive then (.error .pendingRollbackError, (s, l))
    else match flush B s.changes s.db with
      | .ok db => (.ok (), (s.persist db, l))
      | .error e => (.error e, (s.discard l.me true, l))
  | .rollback, (s, l) => (.ok (), (s.discard l.me false, l))

/-- Whether an operation sends the pending changes to the database. -/
def Op.autoflushes : Op D → Bool
  | .query _ => true
  | o => o.flushes

/-- What a failing operation leaves: a failed flush takes the pending changes with it. -/
def shareFailed (o : Op D) : Shared D ι × Coroutine ι → Shared D ι × Coroutine ι
  | (s, l) => if o.autoflushes then (s.discard l.me true, l) else (s, l)

/-- The coroutines over the container's session; each may be suspended before every operation. -/
def container : System (Op.Res (D := D)) Exn (Shared D ι) (Coroutine ι) where
  handle := share B
  fail := shareFailed
  fallible := Op.fallible
  blocks
    | .acquire name, l => l.held.contains name
    | _, _ => false

/-- Whether an operation ends the transaction of the session, or takes it back to its savepoint. -/
def Shared.endedBy (s : Shared D ι) : Op D → Bool
  | .commit | .rollback | .rollbackNested => true
  | .query _ | .beginNested => match flush B s.changes s.db with
    | .ok _ => false
    | .error _ => true
  | _ => false

end System

/-! ## Coroutines -/

/-- What a coroutine runs: a transfer, or another operation of the services. -/
inductive Task (D : Type) where
  | transfer (senderAccNo receiverAccNo : String) (amount : D) (category : String) (key : Option String) (draws : Draws)
  | other (prog : Svc D (Reply D))

section Runs

variable [Zero D] [Add D] [Sub D] [LE D] [LT D] [DecidableEq D] [DecidableLE D] [DecidableLT D]
variable [Fintype ι] [DecidableEq ι]

def Task.prog (env : Env D) : Task D → Svc D (Reply D)
  | transfer sender receiver amount category key draws =>
    (Order.transfer sender receiver amount category).asyncProg env draws key
  | other prog => prog

/-- The coroutines and the session they share. -/
abbrev Hall (D ι : Type) := Config ι (Op.Res (D := D)) Exn (Reply D) (Shared D ι) (Coroutine ι)

/-- Before the first step. -/
def hall (env : Env D) (db : Db D) (tasks : ι → Task D) : Hall D ι :=
  ⟨{ db }, fun i => ⟨(tasks i).prog env, { me := i }⟩⟩

/-- An event that ends the transaction, or fails with it, is of the coroutine whose changes are pending. -/
def EndsOwn (B : Backend D) (c : Hall D ι) : Event ι Exn → Prop
  | .step i => match (c.threads i).prog with
    | .call o _ => c.store.endedBy B o = true → ∀ x ∈ c.store.pending, x.1 = i
    | _ => True
  | .fail i _ => match (c.threads i).prog with
    | .call o _ => o.autoflushes = true → ∀ x ∈ c.store.pending, x.1 = i
    | _ => True

instance decidableEndsOwn (B : Backend D) (c : Hall D ι) (ev : Event ι Exn) : Decidable (EndsOwn B c ev) := by
  unfold EndsOwn
  split <;> split <;> infer_instance

end Runs

/-! ## Transfers are whole -/

/-- The account whose row a change writes. -/
def Change.account? : Change D → Option String
  | .insert (.account a) => some a.accountNumber
  | .account loaded _ => some loaded.accountNumber
  | _ => none

/-- What a transfer writes: both balances, and both rows of the log. -/
def Whole (senderAccNo receiverAccNo : String) (cs : List (Change D)) : Prop :=
  ∃ debit credit sent received, cs = [debit, credit, .insert (.transaction sent), .insert (.transaction received)] ∧
    debit.account? = some senderAccNo ∧ credit.account? = some receiverAccNo ∧
    sent.accountNumber = senderAccNo ∧ sent.type = .transferOut ∧
    received.accountNumber = receiverAccNo ∧ received.type = .transferIn ∧ received.amount = sent.amount

/-- Nothing of a transfer, or all of it and perhaps its key. -/
def NoneOrWhole (senderAccNo receiverAccNo : String) (cs : List (Change D)) : Prop :=
  cs = [] ∨ ∃ whole keys, cs = whole ++ keys ∧ Whole senderAccNo receiverAccNo whole ∧
    ∀ c ∈ keys, ∃ r, c = .insert (.idempotencyKey r)

/-- The changes of one coroutine. -/
def changesOf [DecidableEq ι] (i : ι) (xs : List (ι × Change D)) : List (Change D) :=
  (xs.filter fun x => x.1 = i).map Prod.snd

section Atomic

variable [Zero D] [Add D] [Sub D] [LE D] [LT D] [DecidableEq D] [DecidableLE D] [DecidableLT D]
variable [Fintype ι] [DecidableEq ι]

/-- **Atomicity.** The committed store is what the durable changes make of the first one; of every transfer both halves
are there or neither, and neither when it was answered with a refusal; nobody has discarded the changes of another. -/
structure Atomic (B : Backend D) (db : Db D) (tasks : ι → Task D) (c : Hall D ι) : Prop where
  store : flush B (c.store.durable.map Prod.snd) db = .ok c.store.db
  whole : ∀ i sender receiver amount category key draws,
    tasks i = .transfer sender receiver amount category key draws → NoneOrWhole sender receiver (changesOf i c.store.durable)
  refused : ∀ i sender receiver amount category key draws reply,
    tasks i = .transfer sender receiver amount category key draws → (c.threads i).result = some (.ok reply) →
      reply.success = false → changesOf i c.store.durable = []
  kept : ∀ x ∈ c.store.lost, x.1 = x.2.1

end Atomic

/-! ## What a step does to the session -/

section Changes

variable [DecidableEq ι] {i j : ι} {xs ys : List (ι × Change D)} {cs : List (Change D)}

@[simp] theorem changesOf_nil : changesOf i ([] : List (ι × Change D)) = [] := rfl

@[simp] theorem changesOf_append : changesOf i (xs ++ ys) = changesOf i xs ++ changesOf i ys := by
  simp [changesOf]

@[simp] theorem changesOf_own : changesOf i (cs.map fun c => (i, c)) = cs := by
  simp [changesOf, List.filter_map, Function.comp_def]

theorem changesOf_other (h : i ≠ j) : changesOf i (cs.map fun c => (j, c)) = [] := by
  simp [changesOf, List.filter_map, Function.comp_def, h.symm]

/-- Where all changes are of one coroutine, the others have none. -/
theorem changesOf_of_all (h : i ≠ j) (all : ∀ x ∈ xs, x.1 = j) : changesOf i xs = [] := by
  have none : xs.filter (fun x => x.1 = i) = [] := by
    rw [List.filter_eq_nil_iff]
    intro x hx
    rw [all x hx]
    simpa using h.symm
  rw [changesOf, none]
  rfl

end Changes

section Steps

variable [Zero D] [LT D] [DecidableEq D] [DecidableLT D]

/-- What an operation of `me` can do to the session; `ends` tells whether the transaction ends or goes back. -/
inductive Shared.Moves (B : Backend D) (me : ι) (ends : Prop) (s : Shared D ι) : Shared D ι → Prop
  | rest (s' : Shared D ι) (db : s'.db = s.db) (pending : s'.pending = s.pending) (durable : s'.durable = s.durable)
      (lost : s'.lost = s.lost) : Shared.Moves B me ends s s'
  | stage (cs : List (Change D)) : Shared.Moves B me ends s (s.stage me cs)
  | persist (db : Db D) (flushed : flush B s.changes s.db = .ok db) (ended : ends) :
      Shared.Moves B me ends s (s.persist db)
  | discard (inactive : Bool) (ended : ends) : Shared.Moves B me ends s (s.discard me inactive)
  | rewind (ended : ends) : Shared.Moves B me ends s (s.rewind me)

end Steps

section Steps

variable [Zero D] [Add D] [LE D] [LT D] [DecidableEq D] [DecidableLE D] [DecidableLT D] {B : Backend D}

theorem share_moves (o : Op D) (s : Shared D ι) (l : Coroutine ι) :
    Shared.Moves B l.me (s.endedBy B o = true) s (share B o (s, l)).2.1 ∧ (share B o (s, l)).2.2.me = l.me := by
  cases o with
  | acquire name => exact ⟨.rest s rfl rfl rfl rfl, rfl⟩
  | release name => exact ⟨.rest s rfl rfl rfl rfl, rfl⟩
  | query q =>
    simp only [share]
    split
    · exact ⟨.rest s rfl rfl rfl rfl, rfl⟩
    · split
      next seen flushed => exact ⟨.stage _, rfl⟩
      next e failed => exact ⟨.discard true (by simp [Shared.endedBy, failed]), rfl⟩
  | create row => exact ⟨.stage _, rfl⟩
  | beginNested =>
    simp only [share]
    split
    · exact ⟨.rest s rfl rfl rfl rfl, rfl⟩
    · split
      next seen flushed => exact ⟨.rest _ rfl rfl rfl rfl, rfl⟩
      next e failed => exact ⟨.discard true (by simp [Shared.endedBy, failed]), rfl⟩
  | releaseNested => exact ⟨.rest _ rfl rfl rfl rfl, rfl⟩
  | rollbackNested => exact ⟨.rewind rfl, rfl⟩
  | commit =>
    simp only [share]
    split
    · exact ⟨.rest s rfl rfl rfl rfl, rfl⟩
    · split
      next db flushed => exact ⟨.persist db flushed rfl, rfl⟩
      next e failed => exact ⟨.discard true rfl, rfl⟩
  | rollback => exact ⟨.discard false rfl, rfl⟩

theorem shareFailed_moves (o : Op D) (s : Shared D ι) (l : Coroutine ι) :
    Shared.Moves B l.me (o.autoflushes = true) s (shareFailed o (s, l)).1 ∧ (shareFailed o (s, l)).2.me = l.me := by
  simp only [shareFailed]
  split
  next flushes => exact ⟨.discard true flushes, rfl⟩
  next => exact ⟨.rest s rfl rfl rfl rfl, rfl⟩

variable {me : ι} {ends : Prop} {s s' : Shared D ι}

/-- The durable changes make up the store. -/
theorem Shared.Moves.store (move : Shared.Moves B me ends s s') {db : Db D}
    (h : flush B (s.durable.map Prod.snd) db = .ok s.db) : flush B (s'.durable.map Prod.snd) db = .ok s'.db := by
  cases move with
  | rest s' hdb hp hd hl => rw [hd, hdb]; exact h
  | stage cs => exact h
  | persist db' flushed ended =>
    show flush B ((s.durable ++ s.pending).map Prod.snd) db = .ok db'
    rw [List.map_append]
    exact (flush_append_ok B).mpr ⟨s.db, h, flushed⟩
  | discard inactive ended => exact h
  | rewind ended => exact h

/-- A transaction that only its owner ends loses the changes of nobody else. -/
theorem Shared.Moves.kept (move : Shared.Moves B me ends s s') (own : ends → ∀ x ∈ s.pending, x.1 = me)
    (h : ∀ x ∈ s.lost, x.1 = x.2.1) : ∀ x ∈ s'.lost, x.1 = x.2.1 := by
  cases move with
  | rest s' hdb hp hd hl => rw [hl]; exact h
  | stage cs => exact h
  | persist db' flushed ended => exact h
  | discard inactive ended =>
    intro x hx
    rcases List.mem_append.mp hx with hx | hx
    · exact h x hx
    · obtain ⟨y, hy, rfl⟩ := List.mem_map.mp hx
      exact own ended y hy
  | rewind ended =>
    intro x hx
    rcases List.mem_append.mp hx with hx | hx
    · exact h x hx
    · obtain ⟨y, hy, rfl⟩ := List.mem_map.mp hx
      exact own ended y (List.mem_of_mem_drop hy)

/-- It leaves the changes of the others where they are. -/
theorem Shared.Moves.others [DecidableEq ι] (move : Shared.Moves B me ends s s')
    (own : ends → ∀ x ∈ s.pending, x.1 = me) {i : ι} (other : i ≠ me) :
    changesOf i s'.pending = changesOf i s.pending ∧ changesOf i s'.durable = changesOf i s.durable := by
  cases move with
  | rest s' hdb hp hd hl => rw [hp, hd]; exact ⟨rfl, rfl⟩
  | stage cs => exact ⟨by simp [Shared.stage, changesOf_other other], rfl⟩
  | persist db' flushed ended =>
    have none := changesOf_of_all other (own ended)
    exact ⟨by simp [Shared.persist, none], by simp [Shared.persist, none]⟩
  | discard inactive ended =>
    have none := changesOf_of_all other (own ended)
    exact ⟨by simp [Shared.discard, none], rfl⟩
  | rewind ended =>
    have none := changesOf_of_all other (own ended)
    have taken : changesOf i (s.pending.take (s.savepoint.getD s.pending.length)) = [] :=
      changesOf_of_all other fun x hx => own ended x (List.mem_of_mem_take hx)
    exact ⟨by rw [none]; exact taken, rfl⟩

end Steps

/-! ## What a transfer does -/

section Sides

/-- What a method of a transfer stages. -/
def Query.Stages : Query D → List (Change D) → Prop
  | updateAccount account, cs => ∃ c, cs = [c] ∧ c.account? = some account.accountNumber
  | getAccount _, cs | getIdempotencyKey _, cs => cs = []
  | _, _ => True

theorem Query.staged_stages [Add D] [LE D] [DecidableLE D] (q : Query D) (db : Db D) (l : Session D) :
    q.Stages (q.staged db l) := by
  cases q with
  | updateAccount account =>
    simp only [Query.Stages, Query.staged]
    split
    next missing => exact ⟨_, rfl, rfl⟩
    next row found =>
      refine ⟨_, rfl, ?_⟩
      show some row.accountNumber = _
      rw [Session.account?_accountNumber found]
  | getAccount accNo => rfl
  | getIdempotencyKey key => rfl
  | _ => trivial

/-- What a transfer stages and commits, whatever it is answered and whatever fails. The state is what it has pending,
and what is durable of it. -/
def sides (senderAccNo receiverAccNo : String) : Spec (Op.Res (D := D)) Exn (List (Change D) × List (Change D))
  | .acquire _, st, Q | .release _, st, Q => Q (.ok ()) st
  | .query q, (mine, out), Q =>
    (∀ a cs, q.Named a → q.Stages cs → Q (.ok a) (mine ++ cs, out)) ∧ (∀ e, Q (.error e) (mine, out)) ∧
      ∀ e, Q (.error e) ([], out)
  | .create row, (mine, out), Q => Q (.ok ()) (mine ++ [.insert row], out) ∧ ∀ e, Q (.error e) (mine, out)
  | .commit, (mine, out), Q =>
    NoneOrWhole senderAccNo receiverAccNo (out ++ mine) ∧ Q (.ok ()) ([], out ++ mine) ∧
      (∀ e, Q (.error e) (mine, out)) ∧ ∀ e, Q (.error e) ([], out)
  | .rollback, (_, out), Q => Q (.ok ()) ([], out)
  | .beginNested, _, _ | .releaseNested, _, _ | .rollbackNested, _, _ => False

variable {senderAccNo receiverAccNo : String}

theorem sides_mono : Spec.Mono (sides (D := D) senderAccNo receiverAccNo) := by
  intro o st Q Q' hQ h
  obtain ⟨mine, out⟩ := st
  cases o <;> simp only [sides] at h ⊢ <;> grind

/-- A read of a transfer. -/
theorem sides_get {accNo : String} {mine out : List (Change D)}
    {Q : Except Exn (Option (Account D)) → List (Change D) × List (Change D) → Prop}
    (found : ∀ account, (∀ a, account = some a → a.accountNumber = accNo) → Q (.ok account) (mine, out))
    (failed : ∀ e mine', Q (.error e) (mine', out)) :
    wp (sides senderAccNo receiverAccNo) (accountRepo.get accNo) Q (mine, out) := by
  rw [accountRepo.get, ask, wp_perform]
  refine ⟨fun a cs named stages => ?_, fun e => failed e _, fun e => failed e _⟩
  obtain rfl : cs = [] := stages
  rw [List.append_nil]
  exact found a named

theorem sides_update {account : Account D} {mine out : List (Change D)}
    {Q : Except Exn Unit → List (Change D) × List (Change D) → Prop}
    (staged : ∀ c, c.account? = some account.accountNumber → Q (.ok ()) (mine ++ [c], out))
    (failed : ∀ e mine', Q (.error e) (mine', out)) :
    wp (sides senderAccNo receiverAccNo) (accountRepo.update account) Q (mine, out) := by
  rw [accountRepo.update, ask, wp_perform]
  refine ⟨fun a cs named stages => ?_, fun e => failed e _, fun e => failed e _⟩
  obtain ⟨c, rfl, writes⟩ := stages
  exact staged c writes

theorem sides_create {t : Transaction D} {mine out : List (Change D)}
    {Q : Except Exn Unit → List (Change D) × List (Change D) → Prop}
    (staged : Q (.ok ()) (mine ++ [.insert (.transaction t)], out)) (failed : ∀ e mine', Q (.error e) (mine', out)) :
    wp (sides senderAccNo receiverAccNo) (txnRepo.create t) Q (mine, out) := by
  rw [txnRepo.create, add, wp_perform]
  exact ⟨staged, fun e => failed e _⟩

theorem sides_commit {mine out : List (Change D)} {Q : Except Exn Unit → List (Change D) × List (Change D) → Prop}
    (whole : NoneOrWhole senderAccNo receiverAccNo (out ++ mine)) (done : Q (.ok ()) ([], out ++ mine))
    (failed : ∀ e mine', Q (.error e) (mine', out)) :
    wp (sides (D := D) senderAccNo receiverAccNo) (perform Op.commit) Q (mine, out) := by
  rw [wp_perform]
  exact ⟨whole, done, fun e => failed e _, fun e => failed e _⟩

variable [Zero D] [Add D] [Sub D] [LE D] [LT D] [DecidableLE D] [DecidableLT D] (env : Env D) (draws : Draws)

/-- The writes of a transfer are whole when none of them fails. -/
theorem moveMoney_sides {sender receiver : Account D} (hs : sender.accountNumber = senderAccNo)
    (hr : receiver.accountNumber = receiverAccNo) (amount : D) (cat : String) :
    wp (sides senderAccNo receiverAccNo) (moveMoney draws sender receiver senderAccNo receiverAccNo amount cat) (fun
      | .ok _, st => Whole senderAccNo receiverAccNo st.1 ∧ st.2 = []
      | .error _, st => st.2 = []) ([], []) := by
  rw [moveMoney, wp_bind, ensureNonNegativeBalance]
  split
  · rfl
  rw [pure_eq, wp_ret, andThen_ok, wp_bind]
  refine sides_update (fun debit hdebit => ?_) fun e mine => rfl
  rw [andThen_ok, wp_bind]
  refine sides_update (fun credit hcredit => ?_) fun e mine => rfl
  rw [andThen_ok, wp_bind]
  refine sides_create ?_ fun e mine => rfl
  rw [andThen_ok, wp_bind]
  refine sides_create ?_ fun e mine => rfl
  exact ⟨⟨debit, credit, _, _, rfl, hdebit.trans (congrArg some hs), hcredit.trans (congrArg some hr), rfl, rfl, rfl, rfl,
    rfl⟩, rfl⟩

/-- How the locked section of a transfer ends: with both sides durable, or with none. -/
def EndsWhole (senderAccNo receiverAccNo : String) :
    Except Exn (Except (TransferResult D) (D × D)) → List (Change D) × List (Change D) → Prop
  | .ok (.ok _), st => Whole senderAccNo receiverAccNo st.2 ∧ st.1 = []
  | _, st => st.2 = []

theorem transferLocked_sides (amount : D) (cat : String) :
    wp (sides senderAccNo receiverAccNo)
      (AsyncTransactionService.transferLocked env draws senderAccNo receiverAccNo amount cat)
      (EndsWhole senderAccNo receiverAccNo) ([], []) := by
  rw [AsyncTransactionService.transferLocked, wp_bind]
  refine sides_get (fun sender named => ?_) fun e mine => rfl
  rw [andThen_ok, wp_bind]
  refine sides_get (fun receiver named' => ?_) fun e mine => rfl
  rw [andThen_ok]
  cases sender with
  | none => rfl
  | some sender =>
  cases receiver with
  | none => rfl
  | some receiver =>
    simp only
    split
    · rfl
    split
    · rfl
    split
    · rfl
    rw [AsyncTransactionService.commitTransfer, wp_tryCatch, wp_bind]
    refine wp_mono sides_mono ?_ (moveMoney_sides draws (named sender rfl) (named' receiver rfl) amount cat)
    rintro (e | balances) ⟨mine, out⟩ hr
    · obtain rfl : out = [] := hr
      rfl
    · obtain ⟨whole, rfl⟩ := hr
      rw [andThen_ok, wp_bind]
      refine sides_commit (.inr ⟨mine, [], by simp, whole, by simp⟩) ⟨whole, rfl⟩ fun e mine' => ?_
      rfl

/-- The locked section gives back the lock, and changes nothing by that. -/
theorem withAccountLock_sides {α : Type} {accNos : List String} {body : Svc D α}
    {Q : Except Exn α → List (Change D) × List (Change D) → Prop} {st : List (Change D) × List (Change D)}
    (h : wp (sides senderAccNo receiverAccNo) body Q st) :
    wp (sides senderAccNo receiverAccNo) (AsyncTransactionService.withAccountLock accNos body) Q st := by
  rw [AsyncTransactionService.withAccountLock, wp_bind, wp_perform]
  show wp _ (ensuring _ _) _ st
  rw [wp_ensuring]
  refine wp_mono sides_mono ?_ h
  intro r st' hr
  rw [wp_perform]
  show wp _ (Prog.ofExcept r) _ st'
  rw [wp_ofExcept]
  exact hr

/-- What comes after the lookup of the key. -/
theorem transfer_rest (amount : D) (category : String) (key : Option String) :
    wp (sides senderAccNo receiverAccNo) (do
      match ← AsyncTransactionService.withAccountLock [senderAccNo, receiverAccNo]
        (AsyncTransactionService.transferLocked env draws senderAccNo receiverAccNo amount (knownCategory category)) with
      | .error refusal => return refusal
      | .ok (senderBalance, receiverBalance) =>
        let result : TransferResult D := { success := true, senderBalance, receiverBalance }
        storeTransferIdempotency env key senderAccNo amount result
        return result)
      (fun r st => ∀ result, r = .ok result → result.success = false → st.2 = []) ([], []) := by
  rw [wp_bind]
  refine withAccountLock_sides (wp_mono sides_mono ?_ (transferLocked_sides env draws amount (knownCategory category)))
  rintro (e | refusal | balances) ⟨mine, out⟩ hr
  · intro _ h
    cases h
  · exact fun _ _ _ => hr
  · obtain ⟨whole, rfl⟩ : Whole senderAccNo receiverAccNo out ∧ mine = [] := hr
    rw [andThen_ok]
    simp only
    rw [wp_bind, storeTransferIdempotency]
    have success : ∀ st : List (Change D) × List (Change D), wp (sides (D := D) senderAccNo receiverAccNo)
        (.ret ⟨true, balances.1, balances.2, ""⟩ : Svc D (TransferResult D))
        (fun r st => ∀ result, r = .ok result → result.success = false → st.2 = []) st := by
      rintro st _ ⟨⟩ failed
      cases failed
    split
    next given =>
      rw [wp_tryCatch, wp_bind, idempotencyRepo.create, add, wp_perform]
      refine ⟨?_, fun e => success _⟩
      rw [andThen_ok, idempotencyRepo.commit]
      exact sides_commit (.inr ⟨out, _, rfl, whole, by simp⟩) (success _) fun e mine => success _
    next => exact success _

/-- **A transfer commits both sides or none**, and none when it is refused. -/
theorem transfer_sides (amount : D) (category : String) (key : Option String) :
    wp (sides senderAccNo receiverAccNo)
      (AsyncTransactionService.transfer env draws senderAccNo receiverAccNo amount category key)
      (fun r st => ∀ result, r = .ok result → result.success = false → st.2 = []) ([], []) := by
  rw [AsyncTransactionService.transfer]
  split
  · exact fun _ _ _ => rfl
  split
  · exact fun _ _ _ => rfl
  rw [wp_bind, cachedTransfer]
  split
  next given =>
    rw [wp_bind, idempotencyRepo.get, ask, wp_perform]
    refine ⟨fun existing cs named stages => ?_, ?_, ?_⟩
    · obtain rfl : cs = [] := stages
      rw [andThen_ok]
      split
      next existing =>
        split
        · exact fun _ _ _ => rfl
        · exact transfer_rest env draws amount category key
      next => exact transfer_rest env draws amount category key
    · intro e _ h
      cases h
    · intro e _ h
      cases h
  next => exact transfer_rest env draws amount category key

end Sides

/-! ## Runs -/

section Invariant

variable [Zero D] [Add D] [Sub D] [LE D] [LT D] [DecidableEq D] [DecidableLE D] [DecidableLT D]
variable [Fintype ι] [DecidableEq ι] {B : Backend D} {env : Env D} {db : Db D} {tasks : ι → Task D} {c c' : Hall D ι}

/-- What a coroutine that runs a transfer has still to keep to. -/
def Bound (senderAccNo receiverAccNo : String) (p : Svc D (Reply D)) (mine out : List (Change D)) : Prop :=
  NoneOrWhole senderAccNo receiverAccNo out ∧
    wp (sides senderAccNo receiverAccNo) p (fun r st => ∀ reply, r = .ok reply → reply.success = false → st.2 = [])
      (mine, out)

/-- One operation of a transfer. -/
theorem Bound.step {senderAccNo receiverAccNo : String} {o : Op D} {k : Except Exn o.Res → Svc D (Reply D)}
    {s : Shared D ι} {l : Coroutine ι}
    (h : Bound senderAccNo receiverAccNo (.call o k) (changesOf l.me s.pending) (changesOf l.me s.durable)) :
    Bound senderAccNo receiverAccNo (k (share B o (s, l)).1) (changesOf l.me (share B o (s, l)).2.1.pending)
      (changesOf l.me (share B o (s, l)).2.1.durable) := by
  obtain ⟨whole, hp⟩ := h
  have step : sides senderAccNo receiverAccNo o (changesOf l.me s.pending, changesOf l.me s.durable) fun r st =>
      wp (sides senderAccNo receiverAccNo) (k r) _ st := hp
  cases o with
  | acquire name => exact ⟨whole, step⟩
  | release name => exact ⟨whole, step⟩
  | query q =>
    obtain ⟨answered, refused, failed⟩ := step
    simp only [share]
    split
    · exact ⟨whole, refused _⟩
    · split
      next seen flushed =>
        refine ⟨whole, ?_⟩
        have next := answered _ _ (q.answer_named seen {}) (q.staged_stages seen {})
        simpa [Shared.stage] using next
      next e flushed => exact ⟨whole, failed e⟩
  | create row =>
    refine ⟨whole, ?_⟩
    have staged : changesOf l.me (share B (.create row) (s, l)).2.1.pending =
        changesOf l.me s.pending ++ [.insert row] := by
      show changesOf l.me (s.pending ++ [Change.insert row].map fun c => (l.me, c)) = _
      rw [changesOf_append, changesOf_own]
    rw [staged]
    exact step.1
  | beginNested => exact step.elim
  | releaseNested => exact step.elim
  | rollbackNested => exact step.elim
  | commit =>
    obtain ⟨all, done, refused, failed⟩ := step
    simp only [share]
    split
    · exact ⟨whole, refused _⟩
    · split
      next db' flushed =>
        have durable : changesOf l.me (s.persist db').durable = changesOf l.me s.durable ++ changesOf l.me s.pending :=
          changesOf_append
        rw [durable]
        exact ⟨all, done⟩
      next e flushed => exact ⟨whole, failed e⟩
  | rollback => exact ⟨whole, step⟩

/-- A failing operation of a transfer. -/
theorem Bound.fails {senderAccNo receiverAccNo : String} {o : Op D} {k : Except Exn o.Res → Svc D (Reply D)}
    {s : Shared D ι} {l : Coroutine ι} (e : Exn) (may : o.fallible = true)
    (h : Bound senderAccNo receiverAccNo (.call o k) (changesOf l.me s.pending) (changesOf l.me s.durable)) :
    Bound senderAccNo receiverAccNo (k (.error e)) (changesOf l.me (shareFailed o (s, l)).1.pending)
      (changesOf l.me (shareFailed o (s, l)).1.durable) := by
  obtain ⟨whole, hp⟩ := h
  have step : sides senderAccNo receiverAccNo o (changesOf l.me s.pending, changesOf l.me s.durable) fun r st =>
      wp (sides senderAccNo receiverAccNo) (k r) _ st := hp
  cases o with
  | acquire name => cases may
  | release name => cases may
  | rollback => cases may
  | query q => exact ⟨whole, step.2.2 e⟩
  | create row => exact ⟨whole, step.2 e⟩
  | commit => exact ⟨whole, step.2.2.2 e⟩
  | beginNested => exact step.elim
  | releaseNested => exact step.elim
  | rollbackNested => exact step.elim

/-- What holds in every state of a run: the coroutines know who they are, and the transfers keep to their sides. -/
structure Kept (B : Backend D) (db : Db D) (tasks : ι → Task D) (c : Hall D ι) : Prop where
  me : ∀ i, (c.threads i).own.me = i
  store : flush B (c.store.durable.map Prod.snd) db = .ok c.store.db
  bound : ∀ i sender receiver amount category key draws,
    tasks i = .transfer sender receiver amount category key draws →
      Bound sender receiver (c.threads i).prog (changesOf i c.store.pending) (changesOf i c.store.durable)
  own : ∀ x ∈ c.store.lost, x.1 = x.2.1

theorem Kept.start : Kept B db tasks (hall env db tasks) where
  me _ := rfl
  store := rfl
  bound i sender receiver amount category key draws task := by
    refine ⟨.inl rfl, ?_⟩
    show wp _ ((tasks i).prog env) _ ([], [])
    rw [task, Task.prog, Order.asyncProg, wp_bind]
    refine wp_mono sides_mono ?_ (transfer_sides env draws amount category key)
    rintro (e | result) st hr
    · intro _ h
      cases h
    · rintro _ ⟨⟩ failed
      exact hr result rfl failed
  own x hx := by cases hx

/-- A step of coroutine `i`, or a failure of it, that does to the session what its operation can do. -/
theorem Kept.put (h : Kept B db tasks c) {i : ι} {ends : Prop} {w : Shared D ι × Coroutine ι} {p : Svc D (Reply D)}
    (move : Shared.Moves B i ends c.store w.1) (me : w.2.me = i) (own : ends → ∀ x ∈ c.store.pending, x.1 = i)
    (bound : ∀ sender receiver amount category key draws,
      tasks i = .transfer sender receiver amount category key draws →
        Bound sender receiver p (changesOf i w.1.pending) (changesOf i w.1.durable)) :
    Kept B db tasks (c.put i w p) := by
  constructor
  · intro j
    by_cases hj : j = i
    · subst hj
      rw [Config.put_threads_self]
      exact me
    · rw [Config.put_threads_of_ne _ _ _ hj]
      exact h.me j
  · exact move.store h.store
  · intro j sender receiver amount category key draws task
    by_cases hj : j = i
    · subst hj
      rw [Config.put_threads_self]
      exact bound sender receiver amount category key draws task
    · obtain ⟨pending, durable⟩ := move.others own hj
      rw [Config.put_threads_of_ne _ _ _ hj, Config.put_store, pending, durable]
      exact h.bound j sender receiver amount category key draws task
  · exact move.kept own h.own

/-- One event. -/
theorem Kept.moves (h : Kept B db tasks c) {ev : Event ι Exn} (own : EndsOwn B c ev)
    (move : (container B).Moves c ev c') : Kept B db tasks c' := by
  cases move with
  | stay => exact h
  | @step i o k here free =>
    unfold EndsOwn at own
    simp only [here] at own
    obtain ⟨moves, me⟩ := share_moves (B := B) o c.store (c.threads i).own
    rw [h.me i] at moves me
    refine h.put moves me own fun sender receiver amount category key draws task => ?_
    have bound := h.bound i sender receiver amount category key draws task
    rw [here] at bound
    have next := Bound.step (B := B) (s := c.store) (l := (c.threads i).own) (by rw [h.me i]; exact bound)
    rw [h.me i] at next
    exact next
  | @fail i e o k here may =>
    unfold EndsOwn at own
    simp only [here] at own
    obtain ⟨moves, me⟩ := shareFailed_moves (B := B) o c.store (c.threads i).own
    rw [h.me i] at moves me
    refine h.put moves me own fun sender receiver amount category key draws task => ?_
    have bound := h.bound i sender receiver amount category key draws task
    rw [here] at bound
    have next := Bound.fails (s := c.store) (l := (c.threads i).own) e may (by rw [h.me i]; exact bound)
    rw [h.me i] at next
    exact next

theorem Kept.atomic (h : Kept B db tasks c) : Atomic B db tasks c where
  store := h.store
  whole i sender receiver amount category key draws task := (h.bound i _ _ _ _ _ _ task).1
  refused i sender receiver amount category key draws reply task result failed := by
    have post := (h.bound i _ _ _ _ _ _ task).2
    unfold Thread.result at result
    split at result
    next a here =>
      obtain rfl : a = reply := by simpa using result
      rw [here] at post
      exact post a rfl failed
    next => simp at result
    next => cases result
  kept := h.own

end Invariant

section Main

variable [Zero D] [Add D] [Sub D] [LE D] [LT D] [DecidableEq D] [DecidableLE D] [DecidableLT D]
variable [Fintype ι] [DecidableEq ι]

/-- **The async services are atomic over the container's session** as long as only the coroutine whose changes are
pending ends the session's transaction: in every state that is reached, whatever operations fail, transfers are whole
or not there, refused ones are not there, and no coroutine has discarded the changes of another. -/
theorem container_atomic (env : Env D) (B : Backend D) (db : Db D) (tasks : ι → Task D) (events : List (Event ι Exn))
    (own : (container B).Along (EndsOwn B) (hall env db tasks) events) :
    Atomic B db tasks ((container B).run (hall env db tasks) events) :=
  Kept.atomic (System.run_along own Kept.start fun _ _ _ h here move => h.moves here move)

end Main

/-! ## A half of a transfer -/

namespace Sample

local instance twoCustomers : NeZero 2 := ⟨by decide⟩

/-- A transfer between the two accounts, and a deposit to the second. -/
def requests (i : Fin 2) : Task ℤ :=
  if i = 0 then .transfer "1001" "1002" 3000 "Rent" none (draws 0)
  else .other ((Order.deposit "1002" 500 "Salary").asyncProg paiseEnv (draws 1) none)

/-- The coroutines before their first step. -/
def lobby : Hall ℤ (Fin 2) := hall paiseEnv (store 10000 5000 0) requests

/-- The deposit after the commit of the transfer, up to its own commit, which fails. -/
def oneByOne : List (Event (Fin 2) Exn) :=
  List.replicate 8 (.step 0) ++ List.replicate 4 (.step 1) ++ [.fail 1 .operationalError, .step 0, .step 1]

theorem container_atomic_lobby :
    Atomic paise (store 10000 5000 0) requests ((container paise).run lobby oneByOne) :=
  container_atomic paiseEnv paise (store 10000 5000 0) requests oneByOne (by decide)

/-- The deposit commits when the transfer has staged its debit, and then the transfer fails. -/
def debitOnly : List (Event (Fin 2) Exn) :=
  List.replicate 4 (.step 0) ++ List.replicate 6 (.step 1) ++ [.fail 0 .operationalError, .step 0, .step 0]

/-- The transfer is refused, its debit is in the store, and its credit is not. -/
theorem half_a_transfer :
    ((((container paise).run lobby debitOnly).threads 0).result.map succeeds = some false ∧
      first ((container paise).run lobby debitOnly).store.db = some 7000 ∧
      (((container paise).run lobby debitOnly).store.db.accounts.find? "1002").map Account.balance = some 5500) ∧
      ¬Atomic paise (store 10000 5000 0) requests ((container paise).run lobby debitOnly) := by
  refine ⟨⟨by decide, by decide, by decide⟩, ?_⟩
  intro atomic
  have one : (changesOf 0 ((container paise).run lobby debitOnly).store.durable).length = 1 := by decide
  rcases atomic.whole 0 "1001" "1002" 3000 "Rent" none (draws 0) rfl with none | ⟨whole, keys, split, sides, -⟩
  · rw [none] at one
    cases one
  · obtain ⟨_, _, _, _, rfl, -⟩ := sides
    rw [split] at one
    simp at one

end Sample

end UnionBank
