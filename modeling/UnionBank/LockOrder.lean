import UnionBank.Coroutines

/-!
# Movements in the order of their locks

Deposits, withdrawals and transfers of `TransactionService` without keys, each in a thread with a session of its own,
whose operations interleave in any way. A movement reads and changes its accounts while it holds the locks of all of
them, so that the threads end as if they had run one after another, in the order in which they finished acquiring their
locks.

- `Part`: what a store is seen through; `Change.Inside`: a change of these parts, `flush_inside`;
- `Keeping`: what is known of a movement on its way; `Queue`: how the threads and the serial store hang together;
- `lockOrder`: the order of the locks in a run; `locked_serial`: the threads end as in this order.
-/

namespace UnionBank

open Keyed Programs Prog TransactionService

set_option linter.unusedSectionVars false

variable {D : Type}

/-! ## Parts of a store -/

/-- Where a store is looked at. -/
inductive Part where
  | account (accNo : String)
  | transactions (txnId : String)

/-- What is there. -/
inductive Content (D : Type) where
  | account (row : Option (Account D))
  | transactions (rows : List (Transaction D))

def Db.part (p : Part) (db : Db D) : Content D :=
  match p with
  | .account accNo => .account (db.accounts.find? accNo)
  | .transactions txnId => .transactions (db.transactions.filter fun t => t.txnId = txnId)

/-- The parts of some accounts and some transactions. -/
def parts (accNos txnIds : List String) : Set Part := fun p =>
  match p with
  | .account accNo => accNo ∈ accNos
  | .transactions txnId => txnId ∈ txnIds

/-- A change of these parts. -/
def Change.Inside (accNos txnIds : List String) : Change D → Prop
  | .insert (.transaction t) => t.accountNumber ∈ accNos ∧ t.txnId ∈ txnIds
  | .insert (.account a) => a.accountNumber ∈ accNos
  | .account loaded _ => loaded.accountNumber ∈ accNos
  | _ => False

section Agreement

variable {F : Set Part} {s t : Db D}

theorem agree_log (same : Agree Db.part F s t) (row : Transaction D) : Agree Db.part F (s.log row) (t.log row) := by
  intro p hp
  have here := same p hp
  cases p with
  | account accNo => exact here
  | transactions txnId =>
    have rows := Content.transactions.inj here
    simp only [Db.part, Db.log, List.filter_append, rows]

theorem agree_set (same : Agree Db.part F s t) (row : Account D) :
    Agree Db.part F (s.withAccounts (s.accounts.set row)) (t.withAccounts (t.accounts.set row)) := by
  intro p hp
  have here := same p hp
  cases p with
  | account accNo =>
    have found := Content.account.inj here
    simp only [Db.part, Db.withAccounts, Table.find?_set, found]
  | transactions txnId => exact here

theorem agree_insert (same : Agree Db.part F s t) (row : Account D)
    (new : s.accounts.find? row.accountNumber = none) (new' : t.accounts.find? row.accountNumber = none) :
    Agree Db.part F (s.withAccounts (s.accounts.insert row new)) (t.withAccounts (t.accounts.insert row new')) := by
  intro p hp
  have here := same p hp
  cases p with
  | account accNo =>
    have found := Content.account.inj here
    simp only [Db.part, Db.withAccounts, Table.find?_insert, found]
  | transactions txnId => exact here

/-- Both statements fail alike, or leave stores that agree. -/
def SameEnd (F : Set Part) (x y : Except Exn (Db D)) : Prop :=
  (∃ e, x = .error e ∧ y = .error e) ∨ ∃ s' t', x = .ok s' ∧ y = .ok t' ∧ Agree Db.part F s' t'

theorem SameEnd.error (e : Exn) : SameEnd (D := D) F (.error e) (.error e) := .inl ⟨e, rfl, rfl⟩

theorem SameEnd.ok (same : Agree Db.part F s t) : SameEnd F (.ok s) (.ok t) := .inr ⟨s, t, rfl, rfl, same⟩

theorem SameEnd.bind {β : Type} {x : Except Exn β} {f g : β → Except Exn (Db D)} (h : ∀ b, SameEnd F (f b) (g b)) :
    SameEnd F (x >>= f) (x >>= g) := by
  cases x with
  | error e => exact .error e
  | ok b => exact h b

theorem require_congr {p q : Prop} [Decidable p] [Decidable q] (same : p ↔ q) (e : Exn) :
    require p e = require q e := by
  simp only [require, same]

end Agreement

section Statements

variable [Zero D] [LT D] [DecidableEq D] [DecidableLT D] {B : Backend D} {s t db db' : Db D}
  {accNos txnIds : List String}

/-- A change of these parts depends on them only. -/
theorem apply_inside {c : Change D} (inside : c.Inside accNos txnIds) (same : Agree Db.part (parts accNos txnIds) s t) :
    SameEnd (parts accNos txnIds) (c.apply B s) (c.apply B t) := by
  have found : ∀ accNo ∈ accNos, s.accounts.find? accNo = t.accounts.find? accNo :=
    fun accNo mem => Content.account.inj (same (.account accNo) mem)
  cases c with
  | insert row =>
    cases row with
    | transaction row =>
      obtain ⟨own, id⟩ := inside
      have rows := Content.transactions.inj (same (.transactions row.txnId) id)
      have taken : row.txnId ∉ s.transactions.map Transaction.txnId ↔
          row.txnId ∉ t.transactions.map Transaction.txnId := by
        have empty : ∀ rows : List (Transaction D), row.txnId ∉ rows.map Transaction.txnId ↔
            rows.filter (fun r => r.txnId = row.txnId) = [] := by
          intro rows
          simp [List.filter_eq_nil_iff]
        rw [empty, empty, rows]
      simp only [Change.apply, NewRow.insert, found _ own, require_congr taken]
      exact .bind fun _ => .bind fun _ => .bind fun _ => .bind fun _ => .bind fun _ => .ok (agree_log same _)
    | account row =>
      have own : row.accountNumber ∈ accNos := inside
      simp only [Change.apply, NewRow.insert]
      refine .bind fun balance => .bind fun _ => .bind fun _ => ?_
      by_cases new : s.accounts.find? row.accountNumber = none
      · have new' : t.accounts.find? row.accountNumber = none := (found _ own).symm.trans new
        simp only [Table.insert?, new, new', dif_pos]
        exact .ok (agree_insert same { row with balance } new new')
      · have taken : ¬t.accounts.find? row.accountNumber = none := fun none => new ((found _ own).trans none)
        simp only [Table.insert?, new, taken, dif_neg, not_false_eq_true]
        exact .error _
    | _ => exact inside.elim
  | account loaded current =>
    have own : loaded.accountNumber ∈ accNos := inside
    simp only [Change.apply, found _ own]
    exact .bind fun stored => .bind fun _ => .bind fun _ => .bind fun _ => .ok (agree_set same _)
  | _ => exact inside.elim

theorem flush_inside {cs : List (Change D)} (inside : ∀ c ∈ cs, c.Inside accNos txnIds)
    (same : Agree Db.part (parts accNos txnIds) s t) : SameEnd (parts accNos txnIds) (flush B cs s) (flush B cs t) := by
  induction cs generalizing s t with
  | nil => exact .ok same
  | cons c cs ih =>
    obtain ⟨first, rest⟩ := List.forall_mem_cons.mp inside
    rw [flush, flush]
    rcases apply_inside (B := B) first same with ⟨e, hs, ht⟩ | ⟨s', t', hs, ht, same'⟩
    · rw [hs, ht]
      exact .error e
    · rw [hs, ht]
      exact ih rest same'

/-- It leaves all other parts. -/
theorem apply_outside {c : Change D} (inside : c.Inside accNos txnIds) (h : c.apply B db = .ok db') {p : Part}
    (other : p ∉ parts accNos txnIds) : Db.part p db' = Db.part p db := by
  cases c with
  | insert row =>
    cases row with
    | transaction row =>
      obtain ⟨_, _, _, _, _, _, _, rfl⟩ := apply_insertTransaction_ok.mp h
      cases p with
      | account accNo => rfl
      | transactions txnId =>
        have ne : row.txnId ≠ txnId := by
          rintro rfl
          exact other inside.2
        simp [Db.part, Db.log, List.filter_append, ne]
    | account row =>
      simp only [Change.apply, NewRow.insert, bind_eq_ok, require_eq_ok, found_eq_ok, pure_eq_ok] at h
      obtain ⟨balance, _, _, _, _, _, accounts, inserted, rfl⟩ := h
      cases p with
      | account accNo =>
        have ne : accNo ≠ row.accountNumber := by
          rintro rfl
          exact other inside
        exact congrArg Content.account ((Table.find?_insert? inserted accNo).trans (if_neg ne))
      | transactions txnId => rfl
    | _ => exact inside.elim
  | account loaded current =>
    obtain ⟨stored, found, balance, _, _, _, rfl⟩ := apply_account_ok.mp h
    cases p with
    | account accNo =>
      have ne : accNo ≠ stored.accountNumber := by
        rintro rfl
        rw [Table.key_of_find? found] at other
        exact other inside
      exact congrArg Content.account (Table.find?_set_of_ne _ ne)
    | transactions txnId => rfl
  | _ => exact inside.elim

theorem flush_outside {cs : List (Change D)} (inside : ∀ c ∈ cs, c.Inside accNos txnIds) (h : flush B cs db = .ok db')
    {p : Part} (other : p ∉ parts accNos txnIds) : Db.part p db' = Db.part p db := by
  induction cs generalizing db with
  | nil =>
    cases h
    rfl
  | cons c cs ih =>
    obtain ⟨first, rest⟩ := List.forall_mem_cons.mp inside
    obtain ⟨db₁, applied, flushed⟩ := bind_eq_ok.mp h
    exact (ih rest flushed).trans (apply_outside first applied other)

end Statements

/-! ## Operations -/

variable [Zero D] [Add D] [Sub D] [LE D] [LT D] [DecidableEq D] [DecidableLE D] [DecidableLT D]
variable {B : Backend D} {α : Type} {accNos txnIds locks : List String}

/-- An operation that creates transactions of these parts only. -/
def Op.Inside (accNos txnIds : List String) : Op D → Prop
  | .create row => (Change.insert row).Inside accNos txnIds
  | _ => True

theorem Query.not_recorded (q : Query D) (db : Db D) (l : Session D) (row : Transaction D) :
    Change.insert (.transaction row) ∉ q.staged db l := by
  cases q <;> simp only [Query.staged, List.not_mem_nil, not_false_eq_true] <;> split <;> simp

theorem Query.staged_inside {q : Query D} {accNo : String} (cell : q.cell = .account accNo) (mem : accNo ∈ accNos)
    (db : Db D) (l : Session D) : ∀ c ∈ q.staged db l, c.Inside accNos txnIds := by
  intro c hc
  have on := Query.staged_on cell mem db l c hc
  cases c with
  | insert row =>
    cases row with
    | transaction row => exact absurd hc (q.not_recorded db l row)
    | account row => exact on
    | _ => exact on.elim
  | account => exact on
  | _ => exact on.elim

/-- An operation that neither reads nor commits is the same on every store. -/
theorem still {o : Op D} (notCommit : o.isCommit = false) (cells : o.cells = []) (s t : Db D) (l : Session D) :
    handle B o (t, l) = ((handle B o (s, l)).1, t, (handle B o (s, l)).2.2) := by
  refine quiet_of_not_commit notCommit s l t ?_
  rw [cells]
  exact fun _ hk => absurd hk List.not_mem_nil

theorem local_still {F : Set Part} {o : Op D} (notCommit : o.isCommit = false) (cells : o.cells = []) (l : Session D) :
    Local (handle B) Db.part F o l where
  answer {s t} _ := by rw [still notCommit cells s t]
  own {s t} _ := by rw [still notCommit cells s t]
  agree {s t} same := by
    rw [still notCommit cells s t, still notCommit cells s s]
    exact same
  frame s _ _ := by rw [still notCommit cells s s]

theorem local_query {q : Query D} {accNo : String} (cell : q.cell = .account accNo) (mem : accNo ∈ accNos)
    (l : Session D) : Local (handle B) Db.part (parts accNos txnIds) (.query q) l := by
  have reads : ∀ {s t : Db D}, Agree Db.part (parts accNos txnIds) s t →
      handle B (.query q) (t, l) = ((handle B (.query q) (s, l)).1, t, (handle B (.query q) (s, l)).2.2) := by
    intro s t same
    refine quiet_of_not_commit rfl s l t fun key hkey => ?_
    rw [List.mem_singleton.mp hkey, cell]
    have found := Content.account.inj (same (.account accNo) mem)
    simp only [Db.row, Ledger.liveAccount?, found]
  have stays : ∀ s : Db D, (handle B (.query q) (s, l)).2.1 = s := by
    intro s
    rw [reads fun _ _ => rfl]
  exact
    { answer := fun same => by rw [reads same]
      own := fun same => by rw [reads same]
      agree := fun same => by
        rw [stays, stays]
        exact same
      frame := fun s _ _ => by rw [stays] }

theorem local_commit {l : Session D} (own : ∀ c ∈ l.pending, c.Inside accNos txnIds) :
    Local (handle B) Db.part (parts accNos txnIds) .commit l := by
  have main : ∀ {s t : Db D}, Agree Db.part (parts accNos txnIds) s t →
      (handle B .commit (s, l)).1 = (handle B .commit (t, l)).1 ∧
        (handle B .commit (s, l)).2.2 = (handle B .commit (t, l)).2.2 ∧
          Agree Db.part (parts accNos txnIds) (handle B .commit (s, l)).2.1 (handle B .commit (t, l)).2.1 := by
    intro s t same
    simp only [handle]
    split
    · exact ⟨rfl, rfl, same⟩
    · rcases flush_inside (B := B) own same with ⟨e, hs, ht⟩ | ⟨s', t', hs, ht, same'⟩
      · rw [hs, ht]
        exact ⟨rfl, rfl, same⟩
      · rw [hs, ht]
        exact ⟨rfl, rfl, same'⟩
  refine ⟨fun same => (main same).1, fun same => (main same).2.1, fun same => (main same).2.2, fun s p other => ?_⟩
  simp only [handle]
  split
  · rfl
  · split
    next db' flushed => exact flush_outside own flushed other
    next => rfl

/-! ## Movements on their way -/

/-- What is known of a movement on its way. -/
structure Keeping (accNos txnIds locks : List String) (Q : Except Exn α → List String × Bool → Prop) (gone : Bool)
    (t : Thread (Op.Res (D := D)) Exn α (Session D)) : Prop where
  guarded : wp (guarded accNos locks) t.prog Q (t.own.held, gone)
  inside : t.prog.All (Op.Inside accNos txnIds)
  own : ∀ c ∈ t.own.pending, c.Inside accNos txnIds

namespace Keeping

variable {Q : Except Exn α → List String × Bool → Prop} {gone : Bool} {o : Op D} {k : Except Exn o.Res → Svc D α}
  {l : Session D}

/-- Before it has all of its locks, and after it has given one back, it neither reads nor commits. -/
theorem still (h : Keeping accNos txnIds locks Q gone ⟨.call o k, l⟩) (outside : gone = false → ¬locks ⊆ l.held) :
    o.isCommit = false ∧ o.cells = [] := by
  have step : UnionBank.guarded accNos locks o (l.held, gone) fun r s => wp (UnionBank.guarded accNos locks) (k r) Q s :=
    h.guarded
  cases o with
  | query q => exact absurd step.2.1 (outside step.1)
  | commit => exact absurd step.2.1 (outside step.1)
  | _ => exact ⟨rfl, rfl⟩

/-- One operation: locks are taken until one is given back, and none after that. -/
theorem step (h : Keeping accNos txnIds locks Q gone ⟨.call o k, l⟩) (s : Db D) :
    ∃ gone', Keeping accNos txnIds locks Q gone' ⟨k (handle B o (s, l)).1, (handle B o (s, l)).2.2⟩ ∧
      (gone' = false → gone = false ∧ l.held ⊆ (handle B o (s, l)).2.2.held) ∧
      (gone' = true → (handle B o (s, l)).2.2.held ⊆ l.held) := by
  obtain ⟨guarded, inside, own⟩ := h
  have step : UnionBank.guarded accNos locks o (l.held, gone) fun r s => wp (UnionBank.guarded accNos locks) (k r) Q s :=
    guarded
  have next := inside.2
  simp only at own
  cases o with
  | acquire name =>
    obtain ⟨rfl, step⟩ := step
    exact ⟨false, ⟨step, next _, own⟩, fun _ => ⟨rfl, List.subset_append_left _ _⟩, by simp⟩
  | release name => exact ⟨true, ⟨step, next _, own⟩, by simp, fun _ => List.erase_subset⟩
  | query q =>
    obtain ⟨rfl, holds, ⟨accNo, mem, cell⟩, answers, fails⟩ := step
    simp only [handle]
    split
    · exact ⟨false, ⟨fails _, next _, own⟩, fun _ => ⟨trivial, List.Subset.refl _⟩, by simp⟩
    · refine ⟨false, ⟨answers _ (q.answer_named s l), next _, ?_⟩, fun _ => ⟨trivial, List.Subset.refl _⟩, by simp⟩
      intro c hc
      rcases List.mem_append.mp hc with hc | hc
      · exact own c hc
      · exact Query.staged_inside cell mem s l c hc
  | create row =>
    refine ⟨gone, ⟨step.2, next _, ?_⟩, fun open_ => ⟨open_, List.Subset.refl _⟩, fun _ => List.Subset.refl _⟩
    intro c hc
    rcases List.mem_append.mp hc with hc | hc
    · exact own c hc
    · rw [List.mem_singleton.mp hc]
      exact inside.1
  | beginNested =>
    simp only [handle]
    split
    · exact ⟨gone, ⟨step _, next _, own⟩, fun open_ => ⟨open_, List.Subset.refl _⟩, fun _ => List.Subset.refl _⟩
    · exact ⟨gone, ⟨step _, next _, own⟩, fun open_ => ⟨open_, List.Subset.refl _⟩, fun _ => List.Subset.refl _⟩
  | releaseNested =>
    exact ⟨gone, ⟨step, next _, own⟩, fun open_ => ⟨open_, List.Subset.refl _⟩, fun _ => List.Subset.refl _⟩
  | rollbackNested =>
    exact ⟨gone, ⟨step, next _, fun c hc => own c (List.mem_of_mem_take hc)⟩,
      fun open_ => ⟨open_, List.Subset.refl _⟩, fun _ => List.Subset.refl _⟩
  | commit =>
    obtain ⟨rfl, holds, step⟩ := step
    simp only [handle]
    split
    · exact ⟨false, ⟨step _, next _, own⟩, fun _ => ⟨trivial, List.Subset.refl _⟩, by simp⟩
    · split
      · exact ⟨false, ⟨step _, next _, by simp [Session.clear]⟩, fun _ => ⟨trivial, List.Subset.refl _⟩, by simp⟩
      · exact ⟨false, ⟨step _, next _, by simp [Session.clear]⟩, fun _ => ⟨trivial, List.Subset.refl _⟩, by simp⟩
  | rollback =>
    exact ⟨gone, ⟨step, next _, by simp [handle, Session.clear]⟩, fun open_ => ⟨open_, List.Subset.refl _⟩,
      fun _ => List.Subset.refl _⟩

/-- It keeps to its accounts and its transactions. -/
theorem within {p : Svc D α} {l : Session D} (h : Keeping accNos txnIds locks Q gone ⟨p, l⟩) (s : Db D) :
    Within (handle B) Db.part (parts accNos txnIds) p s l := by
  induction p generalizing gone l s with
  | ret a => trivial
  | raise e => trivial
  | call o k ih =>
    obtain ⟨gone', next, -⟩ := h.step (B := B) s
    refine ⟨?_, ih _ next _⟩
    have step : UnionBank.guarded accNos locks o (l.held, gone) fun r s => wp (UnionBank.guarded accNos locks) (k r) Q s :=
      h.guarded
    cases o with
    | query q =>
      obtain ⟨-, -, ⟨accNo, mem, cell⟩, -⟩ := step
      exact local_query cell mem l
    | commit => exact local_commit h.own
    | _ => exact local_still rfl rfl l

/-- Once it has given a lock back, it has nothing to do with the store. -/
theorem within_gone {p : Svc D α} {l : Session D} (h : Keeping accNos txnIds locks Q true ⟨p, l⟩) (s : Db D) :
    Within (handle B) Db.part ∅ p s l := by
  induction p generalizing l s with
  | ret a => trivial
  | raise e => trivial
  | call o k ih =>
    obtain ⟨gone', next, open_, -⟩ := h.step (B := B) s
    obtain ⟨notCommit, cells⟩ := h.still fun open_ => Bool.noConfusion open_
    cases gone' with
    | false => exact absurd (open_ rfl).1 (by simp)
    | true => exact ⟨local_still notCommit cells l, ih _ next _⟩

end Keeping

/-! ## The movements of the service -/

/-- The transactions that a movement may make. -/
def Errand.ids (e : Errand D) : List String :=
  match e.order with
  | .transfer .. => [e.draws.txnId, e.draws.txnId']
  | _ => [e.draws.txnId]

section Locks

variable {held : List String} (env : Env D) (draws : Draws)

theorem guarded_acquireAll {names : List String} {Q : Except Exn Unit → List String × Bool → Prop}
    (h : Q (.ok ()) (held ++ names, false)) : wp (guarded (D := D) accNos locks) (acquireAll names) Q (held, false) := by
  induction names generalizing held with
  | nil => simpa [acquireAll] using h
  | cons name names ih =>
    rw [acquireAll, wp_bind, wp_perform]
    refine ⟨rfl, ?_⟩
    rw [andThen_ok]
    exact ih (by simpa using h)

theorem guarded_releaseAll {names : List String} {Q : Except Exn Unit → List String × Bool → Prop}
    {s : List String × Bool} (h : ∀ s, Q (.ok ()) s) : wp (guarded (D := D) accNos locks) (releaseAll names) Q s := by
  induction names generalizing s with
  | nil => exact h s
  | cons name names ih =>
    rw [releaseAll, wp_bind, wp_perform]
    simp only [guarded, andThen_ok]
    exact ih

/-- A section under the locks of its accounts. -/
theorem guarded_accountLock {body : Svc D α} {Q : Except Exn α → List String × Bool → Prop}
    (hbody : ∀ held, accNos ⊆ held → wp (guarded accNos accNos) body (fun _ s => s = (held, false)) (held, false))
    (h : ∀ r s, Q r s) : wp (guarded accNos accNos) (accountLock accNos body) Q ([], false) := by
  rw [accountLock, wp_bind]
  refine guarded_acquireAll ?_
  rw [andThen_ok, wp_ensuring, List.nil_append]
  have sorted : accNos ⊆ accNos.insertionSort (· ≤ ·) := (List.perm_insertionSort (· ≤ ·) accNos).symm.subset
  refine wp_mono guarded_mono ?_ (hbody _ sorted)
  rintro r s rfl
  refine guarded_releaseAll fun s => ?_
  rw [andThen_ok, wp_ofExcept]
  exact h r s

theorem guarded_beginNested {body : Svc D α}
    (hbody : wp (guarded accNos locks) body (fun _ s => s = (held, false)) (held, false)) :
    wp (guarded accNos locks) (beginNested body) (fun _ s => s = (held, false)) (held, false) := by
  rw [beginNested, wp_bind, wp_perform]
  intro r
  cases r with
  | error e => rfl
  | ok _ =>
    rw [andThen_ok, wp_bind, wp_attempt]
    refine wp_mono guarded_mono ?_ hbody
    rintro (e | a) s rfl
    · rw [andThen_ok, wp_bind, wp_perform]
      rfl
    · rw [andThen_ok, wp_bind, wp_perform]
      rfl

theorem transferLocked_guarded (holds : locks ⊆ held) {senderAccNo receiverAccNo : String} (hs : senderAccNo ∈ accNos)
    (hr : receiverAccNo ∈ accNos) (amount : D) (cat : String) :
    wp (guarded accNos locks) (transferLocked env draws senderAccNo receiverAccNo amount cat)
      (fun _ s => s = (held, false)) (held, false) := by
  rw [transferLocked, wp_bind]
  refine guarded_get holds hs (fun sender named => ?_) fun e => rfl
  rw [andThen_ok, wp_bind]
  refine guarded_get holds hr (fun receiver named' => ?_) fun e => rfl
  rw [andThen_ok]
  cases sender with
  | none => rfl
  | some sender =>
  cases receiver with
  | none => rfl
  | some receiver =>
    simp only
    split
    · rfl
    split
    · rfl
    split
    · rfl
    have own : sender.accountNumber ∈ accNos := (named sender rfl).symm ▸ hs
    have own' : receiver.accountNumber ∈ accNos := (named' receiver rfl).symm ▸ hr
    rw [wp_bind]
    refine wp_mono guarded_mono ?_ (guarded_beginNested (moveMoney_guarded draws holds own own' amount cat))
    rintro (e | balances) s rfl
    · rfl
    · rw [andThen_ok, wp_bind]
      refine guarded_commit holds fun r => ?_
      cases r <;> rfl

/-- **A movement without a key** reads and commits under the locks of its accounts. -/
theorem errand_guarded (e : Errand D) (keyless : givenKey e.key = none) :
    wp (guarded e.order.accNos e.order.accNos) (e.call.prog env) (fun _ _ => True) ([], false) := by
  obtain ⟨order, key, draws⟩ := e
  cases order with
  | deposit accNo amount category =>
    simp only [Errand.call, Order.request, Call.prog, Request.prog, deposit, wp_bind]
    split
    · trivial
    rw [checkIdempotency_keyless keyless, bind_ret, wp_bind]
    refine guarded_accountLock (fun held holds => depositLocked_guarded draws holds (List.mem_singleton_self _) ..) ?_
    rintro (e | refusal | account) s
    · trivial
    · trivial
    · rw [andThen_ok]
      simp only [storeIdempotency_keyless keyless]
      trivial
  | withdraw accNo amount category =>
    simp only [Errand.call, Order.request, Call.prog, Request.prog, withdraw, wp_bind]
    split
    · trivial
    rw [checkIdempotency_keyless keyless, bind_ret, wp_bind]
    refine guarded_accountLock
      (fun held holds => withdrawLocked_guarded env draws holds (List.mem_singleton_self _) ..) ?_
    rintro (e | refusal | account) s
    · trivial
    · trivial
    · rw [andThen_ok]
      simp only [storeIdempotency_keyless keyless]
      trivial
  | transfer senderAccNo receiverAccNo amount category =>
    simp only [Errand.call, Order.request, Call.prog, Request.prog, transfer, wp_bind]
    split
    · trivial
    split
    · trivial
    rw [cachedTransfer_keyless keyless, bind_ret, wp_bind, wp_tryCatch]
    refine guarded_accountLock
      (fun held holds => transferLocked_guarded env draws holds List.mem_cons_self (by simp) ..) ?_
    rintro (e | refusal | balances) s
    · -- the exception is answered after the locks are given back
      simp only [wp_bind]
      rw [accountRepo.rollback, wp_perform]
      trivial
    · trivial
    · simp only [andThen_ok, storeTransferIdempotency_keyless keyless]
      trivial

end Locks

section Created

variable (env : Env D) (draws : Draws)

theorem ask_inside (q : Query D) : (ask q).All (Op.Inside accNos txnIds) := all_perform trivial
theorem commit_inside : (perform Op.commit : Svc D Unit).All (Op.Inside accNos txnIds) := all_perform trivial

theorem locks_inside (names : List String) : (acquireAll (D := D) names).All (Op.Inside accNos txnIds) ∧
    (releaseAll (D := D) names).All (Op.Inside accNos txnIds) := by
  induction names with
  | nil => exact ⟨trivial, trivial⟩
  | cons name names ih =>
    exact ⟨all_bind (all_perform trivial) fun _ => ih.1, all_bind (all_perform trivial) fun _ => ih.2⟩

theorem accountLock_inside {names : List String} {body : Svc D α} (h : body.All (Op.Inside accNos txnIds)) :
    (accountLock names body).All (Op.Inside accNos txnIds) := by
  unfold accountLock ensuring
  refine all_bind (locks_inside _).1 fun _ => all_bind (all_attempt h) fun r => ?_
  exact all_bind (locks_inside _).2 fun _ => by cases r <;> trivial

theorem beginNested_inside {body : Svc D α} (h : body.All (Op.Inside accNos txnIds)) :
    (beginNested body).All (Op.Inside accNos txnIds) := by
  unfold beginNested
  refine all_bind (all_perform trivial) fun _ => all_bind (all_attempt h) fun r => ?_
  cases r with
  | ok a => exact all_bind (all_perform trivial) fun _ => trivial
  | error e => exact all_bind (all_perform trivial) fun _ => trivial

theorem ensureNonNegativeBalance_inside (balance : D) (operation : String) :
    (ensureNonNegativeBalance balance operation : Svc D Unit).All (Op.Inside accNos txnIds) := by
  unfold ensureNonNegativeBalance
  split <;> trivial

theorem record_inside {row : Transaction D} (own : row.accountNumber ∈ accNos) (id : row.txnId ∈ txnIds) :
    (txnRepo.create row).All (Op.Inside accNos txnIds) := all_perform ⟨own, id⟩

theorem depositLocked_inside {accNo : String} (mem : accNo ∈ accNos) (id : draws.txnId ∈ txnIds) (amount : D)
    (category : String) : (depositLocked draws accNo amount category).All (Op.Inside accNos txnIds) := by
  unfold depositLocked
  refine all_bind (ask_inside _) fun account => ?_
  split
  · split
    · trivial
    · exact all_bind (ask_inside _) fun _ => all_bind (record_inside mem id) fun _ =>
        all_bind commit_inside fun _ => trivial
  · trivial

theorem withdrawLocked_inside {accNo : String} (mem : accNo ∈ accNos) (id : draws.txnId ∈ txnIds) (amount : D)
    (category : String) : (withdrawLocked env draws accNo amount category).All (Op.Inside accNos txnIds) := by
  unfold withdrawLocked
  refine all_bind (ask_inside _) fun account => ?_
  split
  · split
    · trivial
    split
    · trivial
    · exact all_bind (ensureNonNegativeBalance_inside _ _) fun _ => all_bind (ask_inside _) fun _ =>
        all_bind (record_inside mem id) fun _ => all_bind commit_inside fun _ => trivial
  · trivial

theorem transferLocked_inside {senderAccNo receiverAccNo : String} (hs : senderAccNo ∈ accNos)
    (hr : receiverAccNo ∈ accNos) (id : draws.txnId ∈ txnIds) (id' : draws.txnId' ∈ txnIds) (amount : D) (cat : String) :
    (transferLocked env draws senderAccNo receiverAccNo amount cat).All (Op.Inside accNos txnIds) := by
  unfold transferLocked
  refine all_bind (ask_inside _) fun sender => all_bind (ask_inside _) fun receiver => ?_
  split
  · split
    · split
      · trivial
      split
      · trivial
      split
      · trivial
      refine all_bind (beginNested_inside ?_) fun _ => all_bind commit_inside fun _ => trivial
      unfold moveMoney
      exact all_bind (ensureNonNegativeBalance_inside _ _) fun _ => all_bind (ask_inside _) fun _ =>
        all_bind (ask_inside _) fun _ => all_bind (record_inside hs id) fun _ =>
          all_bind (record_inside hr id') fun _ => trivial
    · trivial
  · trivial

/-- A movement without a key creates its own transactions only. -/
theorem errand_inside (e : Errand D) (keyless : givenKey e.key = none) :
    (e.call.prog env).All (Op.Inside e.order.accNos e.ids) := by
  obtain ⟨order, key, draws⟩ := e
  cases order with
  | deposit accNo amount category =>
    refine all_bind ?_ fun _ => trivial
    unfold deposit
    split
    · trivial
    rw [checkIdempotency_keyless keyless, bind_ret]
    refine all_bind (accountLock_inside (depositLocked_inside draws (List.mem_singleton_self _)
      (List.mem_singleton_self _) ..)) fun outcome => ?_
    split
    · trivial
    · simp only [storeIdempotency_keyless keyless]
      trivial
  | withdraw accNo amount category =>
    refine all_bind ?_ fun _ => trivial
    unfold withdraw
    split
    · trivial
    rw [checkIdempotency_keyless keyless, bind_ret]
    refine all_bind (accountLock_inside (withdrawLocked_inside env draws (List.mem_singleton_self _)
      (List.mem_singleton_self _) ..)) fun outcome => ?_
    split
    · trivial
    · simp only [storeIdempotency_keyless keyless]
      trivial
  | transfer senderAccNo receiverAccNo amount category =>
    refine all_bind ?_ fun _ => trivial
    unfold transfer
    split
    · trivial
    split
    · trivial
    rw [cachedTransfer_keyless keyless, bind_ret]
    refine all_bind (all_tryCatch (accountLock_inside (transferLocked_inside env draws List.mem_cons_self (by simp)
      List.mem_cons_self (by simp) ..)) fun _ => all_bind (all_perform trivial) fun _ => trivial)
      fun outcome => ?_
    split
    · trivial
    · simp only [storeTransferIdempotency_keyless keyless]
      trivial

end Created

/-! ## One thread -/

section Threads

/-- A session that holds the locks of all accounts of a movement. -/
def Holds (e : Errand D) (l : Session D) : Prop := ∀ accNo ∈ e.order.accNos, accNo ∈ l.held

instance decidableHolds (e : Errand D) (l : Session D) : Decidable (Holds e l) :=
  inferInstanceAs (Decidable (∀ accNo ∈ e.order.accNos, accNo ∈ l.held))

theorem Order.exists_accNo (o : Order D) : ∃ accNo, accNo ∈ o.accNos := by
  cases o <;> exact ⟨_, List.mem_cons_self⟩

/-- A movement that has not had all of its locks yet. -/
def Waiting (e : Errand D) (Q : Except Exn α → List String × Bool → Prop)
    (t : Thread (Op.Res (D := D)) Exn α (Session D)) : Prop :=
  ∃ gone, Keeping e.order.accNos e.ids e.order.accNos Q gone t ∧ (gone = false → ¬Holds e t.own)

/-- A movement that has had them: its accounts and transactions are its own until it gives a lock back. -/
def Begun (e : Errand D) (Q : Except Exn α → List String × Bool → Prop) (F : Set Part)
    (t : Thread (Op.Res (D := D)) Exn α (Session D)) : Prop :=
  (Keeping e.order.accNos e.ids e.order.accNos Q false t ∧ Holds e t.own ∧ F = parts e.order.accNos e.ids) ∨
    Keeping e.order.accNos e.ids e.order.accNos Q true t ∧ F = ∅

variable {e e' : Errand D} {Q : Except Exn α → List String × Bool → Prop} {F : Set Part} {o : Op D}
  {k : Except Exn o.Res → Svc D α} {l : Session D} {t : Thread (Op.Res (D := D)) Exn α (Session D)}

theorem Begun.within (h : Begun e Q F t) (s : Db D) : Within (handle B) Db.part F t.prog s t.own := by
  rcases h with ⟨keeping, -, rfl⟩ | ⟨keeping, rfl⟩
  · exact keeping.within s
  · exact keeping.within_gone s

/-- What it has is nobody else's who holds all of his locks. -/
theorem Begun.disjoint (h : Begun e Q F t) (holds : Holds e' l) (ids : e.ids.Disjoint e'.ids)
    (exclusive : t.own.held.Disjoint l.held) : Disjoint F (parts e'.order.accNos e'.ids) := by
  rcases h with ⟨-, own, rfl⟩ | ⟨-, rfl⟩
  · rw [Set.disjoint_left]
    intro p mine others
    cases p with
    | account accNo => exact exclusive (own accNo mine) (holds accNo others)
    | transactions txnId => exact ids mine others
  · exact Set.empty_disjoint _

/-- One operation of a movement that has had its locks: it does not acquire them again. -/
theorem Begun.step (h : Begun e Q F ⟨.call o k, l⟩) (s : Db D) :
    ¬(¬Holds e l ∧ Holds e (handle B o (s, l)).2.2) ∧
      ∃ G, G ⊆ F ∧ Begun e Q G ⟨k (handle B o (s, l)).1, (handle B o (s, l)).2.2⟩ := by
  rcases h with ⟨keeping, own, rfl⟩ | ⟨keeping, rfl⟩
  · refine ⟨fun acquires => acquires.1 own, ?_⟩
    obtain ⟨gone, next, more, -⟩ := keeping.step (B := B) s
    cases gone with
    | false => exact ⟨_, subset_rfl, .inl ⟨next, fun accNo mem => (more rfl).2 (own accNo mem), rfl⟩⟩
    | true => exact ⟨∅, Set.empty_subset _, .inr ⟨next, rfl⟩⟩
  · obtain ⟨gone, next, more, fewer⟩ := keeping.step (B := B) s
    cases gone with
    | false => exact absurd (more rfl).1 (by simp)
    | true => exact ⟨fun acquires => acquires.1 fun accNo mem => fewer rfl (acquires.2 accNo mem),
        ∅, subset_rfl, .inr ⟨next, rfl⟩⟩

/-- One operation of a movement that has not had its locks: it does nothing to the store, and may be the last lock. -/
theorem Waiting.step (h : Waiting e Q ⟨.call o k, l⟩) (s : Db D) :
    (o.isCommit = false ∧ o.cells = []) ∧
      if ¬Holds e l ∧ Holds e (handle B o (s, l)).2.2 then
        Begun e Q (parts e.order.accNos e.ids) ⟨k (handle B o (s, l)).1, (handle B o (s, l)).2.2⟩
      else Waiting e Q ⟨k (handle B o (s, l)).1, (handle B o (s, l)).2.2⟩ := by
  obtain ⟨gone, keeping, outside⟩ := h
  refine ⟨keeping.still fun open_ all => outside open_ fun accNo mem => all mem, ?_⟩
  obtain ⟨gone', next, more, fewer⟩ := keeping.step (B := B) s
  split
  next acquires =>
    cases gone' with
    | false => exact .inl ⟨next, acquires.2, rfl⟩
    | true => exact absurd (fun accNo mem => fewer rfl (acquires.2 accNo mem)) acquires.1
  next stays => exact ⟨gone', next, fun open_ now => stays ⟨outside (more open_).1, now⟩⟩

end Threads

/-! ## Runs -/

section Runs

variable {ι : Type} [Fintype ι] [DecidableEq ι]

/-- The threads in the order in which they finish acquiring their locks. -/
def lockOrder (B : Backend D) (errands : ι → Errand D) : Desk D ι α → List ι → List ι
  | _, [] => []
  | c, i :: schedule =>
    let c' := (threads B).next c (.step i)
    (if ¬Holds (errands i) (c.threads i).own ∧ Holds (errands i) (c'.threads i).own then [i] else []) ++
      lockOrder B errands c' schedule

/-- How the threads and the serial store hang together: those of `order` have had their locks. -/
structure Queue (B : Backend D) (errands : ι → Errand D) (programs : ι → Svc D α) (db : Db D)
    (Q : Except Exn α → List String × Bool → Prop) (order : List ι) (F : ι → Set Part) (c : Desk D ι α) : Prop where
  serial : Serial (handle B) Db.part programs (fun _ => {}) db order F c
  exclusive : Exclusive Session.held c
  begun : ∀ i, i ∈ order → Begun (errands i) Q (F i) (c.threads i)
  waiting : ∀ i, i ∉ order → Waiting (errands i) Q (c.threads i)

namespace Queue

variable {errands : ι → Errand D} {programs : ι → Svc D α} {db : Db D} {Q : Except Exn α → List String × Bool → Prop}
  {order : List ι} {F : ι → Set Part} {c : Desk D ι α} {i : ι}

/-- One step of a thread that can step. -/
theorem step (h : Queue B errands programs db Q order F c)
    (ids : ∀ i j, i ≠ j → (errands i).ids.Disjoint (errands j).ids) {o : Op D} {k : Except Exn o.Res → Svc D α}
    (here : (c.threads i).prog = .call o k) (free : ∀ j, (threads B).blocks o (c.threads j).own = false) :
    ∃ F', Queue B errands programs db Q
      (order ++ if ¬Holds (errands i) (c.threads i).own ∧ Holds (errands i) (handle B o (c.world i)).2.2 then [i] else [])
      F' (c.put i (handle B o (c.world i)).2 (k (handle B o (c.world i)).1)) := by
  have exclusive := h.exclusive.moves (threads_locks B) (.step here free)
  have thread : c.threads i = ⟨.call o k, (c.threads i).own⟩ := by rw [← here]
  have stepped : i ∈ order → Serial (handle B) Db.part programs (fun _ => {}) db order F
      (c.put i (handle B o (c.world i)).2 (k (handle B o (c.world i)).1)) := fun begun => h.serial.stepped begun here
  have waited : i ∉ order → o.isCommit = false ∧ o.cells = [] →
      Serial (handle B) Db.part programs (fun _ => {}) db order F
      (c.put i (handle B o (c.world i)).2 (k (handle B o (c.world i)).1)) :=
    fun new off => h.serial.waited new here fun s => still off.1 off.2 c.store s _
  have self : (c.put i (handle B o (c.world i)).2 (k (handle B o (c.world i)).1)).threads i =
      ⟨k (handle B o (c.world i)).1, (handle B o (c.world i)).2.2⟩ := Config.put_threads_self ..
  have others : ∀ j, j ≠ i → (c.put i (handle B o (c.world i)).2 (k (handle B o (c.world i)).1)).threads j = c.threads j :=
    fun j hj => Config.put_threads_of_ne _ _ _ hj
  change Exclusive Session.held (c.put i (handle B o (c.world i)).2 (k (handle B o (c.world i)).1)) at exclusive
  generalize c.put i (handle B o (c.world i)).2 (k (handle B o (c.world i)).1) = c' at *
  by_cases begun : i ∈ order
  · -- it goes on with what it has, or gives a lock back
    have mine := h.begun i begun
    rw [thread] at mine
    obtain ⟨stays, G, sub, next⟩ := mine.step (B := B) c.store
    have same : ¬(¬Holds (errands i) (c.threads i).own ∧ Holds (errands i) (handle B o (c.world i)).2.2) := stays
    rw [if_neg same, List.append_nil]
    have now : Begun (errands i) Q G (c'.threads i) := by
      rw [self]
      exact next
    refine ⟨Function.update F i G, (stepped begun).narrowed begun sub (now.within _), exclusive, fun j hj => ?_,
      fun j hj => ?_⟩
    · by_cases hj' : j = i
      · subst hj'
        rw [Function.update_self]
        exact now
      · rw [Function.update_of_ne hj', others j hj']
        exact h.begun j hj
    · have ne : j ≠ i := by
        rintro rfl
        exact hj begun
      rw [others j ne]
      exact h.waiting j hj
  · have outside := h.waiting i begun
    rw [thread] at outside
    obtain ⟨off, next⟩ := outside.step (B := B) c.store
    have serial := waited begun off
    split at next
    next acquires =>
      -- the last of its locks
      have last : ¬Holds (errands i) (c.threads i).own ∧ Holds (errands i) (handle B o (c.world i)).2.2 := acquires
      rw [if_pos last]
      have now : Begun (errands i) Q (parts (errands i).order.accNos (errands i).ids) (c'.threads i) := by
        rw [self]
        exact next
      have older : ∀ j, j ∈ order → j ≠ i := by
        rintro j hj rfl
        exact begun hj
      have clear : ∀ j, j ∈ order → Disjoint (F j) (parts (errands i).order.accNos (errands i).ids) := by
        intro j hj
        have apart := exclusive j i (older j hj)
        rw [others j (older j hj), self] at apart
        exact (h.begun j hj).disjoint acquires.2 (ids j i (older j hj)) apart
      refine ⟨_, serial.opened begun (now.within _) clear, exclusive, fun j hj => ?_, fun j hj => ?_⟩
      · rcases List.mem_append.mp hj with hj | hj
        · rw [Function.update_of_ne (older j hj), others j (older j hj)]
          exact h.begun j hj
        · obtain rfl := List.mem_singleton.mp hj
          rw [Function.update_self]
          exact now
      · have outside : j ∉ order := fun mem => hj (List.mem_append_left _ mem)
        have ne : j ≠ i := by
          rintro rfl
          exact hj (List.mem_append_right _ (List.mem_singleton_self j))
        rw [others j ne]
        exact h.waiting j outside
    next stays =>
      have same : ¬(¬Holds (errands i) (c.threads i).own ∧ Holds (errands i) (handle B o (c.world i)).2.2) := stays
      rw [if_neg same, List.append_nil]
      refine ⟨F, serial, exclusive, fun j hj => ?_, fun j hj => ?_⟩
      · have ne : j ≠ i := by
          rintro rfl
          exact begun hj
        rw [others j ne]
        exact h.begun j hj
      · by_cases hj' : j = i
        · subst hj'
          rw [self]
          exact next
        · rw [others j hj']
          exact h.waiting j hj

/-- A schedule. -/
theorem run (h : Queue B errands programs db Q order F c)
    (ids : ∀ i j, i ≠ j → (errands i).ids.Disjoint (errands j).ids) (schedule : List ι) :
    ∃ F', Queue B errands programs db Q (order ++ lockOrder B errands c schedule) F'
      ((threads B).run c (steps schedule)) := by
  induction schedule generalizing c order F with
  | nil =>
    rw [lockOrder, List.append_nil]
    exact ⟨F, h⟩
  | cons i schedule ih =>
    have rest : ∃ F', Queue B errands programs db Q
        (order ++ if ¬Holds (errands i) (c.threads i).own ∧
          Holds (errands i) (((threads B).next c (.step i)).threads i).own then [i] else []) F'
        ((threads B).next c (.step i)) := by
      have unmoved : (threads B).next c (.step i) = c → ∃ F', Queue B errands programs db Q
          (order ++ if ¬Holds (errands i) (c.threads i).own ∧
            Holds (errands i) (((threads B).next c (.step i)).threads i).own then [i] else []) F'
          ((threads B).next c (.step i)) := by
        intro stays
        rw [stays, if_neg fun acquires => acquires.1 acquires.2, List.append_nil]
        exact ⟨F, h⟩
      cases here : (c.threads i).prog with
      | ret a => exact unmoved (by simp only [System.next, here])
      | raise e => exact unmoved (by simp only [System.next, here])
      | call o k =>
        by_cases free : ∀ j, (threads B).blocks o (c.threads j).own = false
        · have moved : (threads B).next c (.step i) =
              c.put i (handle B o (c.world i)).2 (k (handle B o (c.world i)).1) := by
            simp only [System.next, here]
            exact if_pos free
          have next := h.step ids here free
          rw [moved, Config.put_threads_self]
          exact next
        · refine unmoved ?_
          simp only [System.next, here]
          exact if_neg free
    obtain ⟨F', next⟩ := rest
    obtain ⟨F'', last⟩ := ih next
    refine ⟨F'', ?_⟩
    rw [List.append_assoc] at last
    exact last

end Queue

/-- **The movements are serializable in the order of their locks**: whatever threads make them and however their
operations interleave, they leave the accounts and the transactions that they would leave one after another in the order
in which they finished acquiring their locks, and return what they would return. Those that are refused before they need
any lock come last. No two of them draw the same id, with which one of their commits would fail. -/
theorem locked_serial (env : Env D) (B : Backend D) (db : Db D) (errands : ι → Errand D)
    (keyless : ∀ i, givenKey (errands i).key = none)
    (ids : ∀ i j, i ≠ j → (errands i).ids.Disjoint (errands j).ids) (schedule : List ι)
    (done : ∀ i, (((threads B).run (desk env db fun i => (errands i).call) (steps schedule)).threads i).result ≠ none) :
    ∃ order : List ι, lockOrder B errands (desk env db fun i => (errands i).call) schedule <+: order ∧ order.Nodup ∧
      (∀ i, i ∈ order) ∧
      (∀ accNo, ((threads B).run (desk env db fun i => (errands i).call) (steps schedule)).store.accounts.find? accNo =
        (serial (handle B) (fun i => (errands i).call.prog env) (fun _ => {}) db order).accounts.find? accNo) ∧
      ((threads B).run (desk env db fun i => (errands i).call) (steps schedule)).store.transactions.Perm
        (serial (handle B) (fun i => (errands i).call.prog env) (fun _ => {}) db order).transactions ∧
      ∀ before i after, order = before ++ i :: after →
        (((threads B).run (desk env db fun i => (errands i).call) (steps schedule)).threads i).result =
          some (outcome (handle B) (fun i => (errands i).call.prog env) (fun _ => {})
            (serial (handle B) (fun i => (errands i).call.prog env) (fun _ => {}) db before) i) := by
  have start : Queue B errands (fun i => (errands i).call.prog env) db (fun _ _ => True) [] (fun _ => ∅)
      (desk env db fun i => (errands i).call) := by
    refine ⟨.start, by simp [Exclusive, desk], fun i hi => absurd hi List.not_mem_nil, fun i _ => ?_⟩
    refine ⟨false, ⟨errand_guarded env (errands i) (keyless i), errand_inside env (errands i) (keyless i), ?_⟩,
      fun _ => ?_⟩
    · intro c hc
      cases hc
    · -- there is an account whose lock it does not hold yet
      intro holds
      obtain ⟨accNo, mem⟩ := (errands i).order.exists_accNo
      exact absurd (holds accNo mem) List.not_mem_nil
  obtain ⟨F, reached⟩ := start.run ids schedule
  obtain ⟨order, F', sim, first, all⟩ := reached.serial.completed done Finset.univ.toList
  obtain ⟨store, results⟩ := sim.ended done
  refine ⟨order, first, sim.nodup, fun i => all i (by simp),
    fun accNo => Content.account.inj (store (.account accNo)), ?_, results⟩
  rw [List.perm_iff_count]
  intro t
  have rows := Content.transactions.inj (store (.transactions t.txnId))
  have same := congrArg (List.count t) rows
  rwa [List.count_filter (by simp), List.count_filter (by simp)] at same

end Runs

/-! ## A transfer and a deposit -/

namespace Sample

local instance twoTellers : NeZero 2 := ⟨by decide⟩

/-- The deposit takes the lock first, and the transfer has to wait for it. -/
def depositFirst : List (Fin 2) := (List.replicate 6 [1, 0]).flatten ++ List.replicate 13 0

theorem crossing_apart : ∀ i j : Fin 2, i ≠ j → ∀ id ∈ (crossing i).ids, id ∉ (crossing j).ids := by decide

theorem locked_serial_pair : ∃ order : List (Fin 2),
    lockOrder paise crossing (desk paiseEnv (store 10000 5000 0) fun i => (crossing i).call) depositFirst <+: order ∧
      order.Nodup ∧ (∀ i, i ∈ order) ∧
      (∀ accNo, ((threads paise).run (desk paiseEnv (store 10000 5000 0) fun i => (crossing i).call)
          (steps depositFirst)).store.accounts.find? accNo =
        (serial (handle paise) (fun i => (crossing i).call.prog paiseEnv) (fun _ => {}) (store 10000 5000 0)
          order).accounts.find? accNo) ∧
      ((threads paise).run (desk paiseEnv (store 10000 5000 0) fun i => (crossing i).call)
          (steps depositFirst)).store.transactions.Perm
        (serial (handle paise) (fun i => (crossing i).call.prog paiseEnv) (fun _ => {}) (store 10000 5000 0)
          order).transactions ∧
      ∀ before i after, order = before ++ i :: after →
        (((threads paise).run (desk paiseEnv (store 10000 5000 0) fun i => (crossing i).call)
            (steps depositFirst)).threads i).result =
          some (outcome (handle paise) (fun i => (crossing i).call.prog paiseEnv) (fun _ => {})
            (serial (handle paise) (fun i => (crossing i).call.prog paiseEnv) (fun _ => {}) (store 10000 5000 0)
              before) i) :=
  locked_serial paiseEnv paise (store 10000 5000 0) crossing (by decide)
    (fun i j ne id mine others => crossing_apart i j ne id mine others) depositFirst (by decide)

end Sample

end UnionBank
