import UnionBank.Lib.Faults
import UnionBank.AccountLocks
import UnionBank.Amortisation

/-!
# Double entry

A transfer stages its outgoing and its incoming row one after the other and commits them together; no other call writes
a row of either kind, or one with a target.

- `Mirrors`, `Ledger.Paired`: the two sides of a transfer, and a log whose sides come in pairs;
- `sided`: what an operation does to the sides that a session has staged, whether it answers or raises;
- `plain_request`: the calls that stage no side, and `transfer_sided`: a transfer stages both or none;
- `sides_paired`: every run of calls leaves a paired log, whatever operations fail in it.
-/

namespace UnionBank

open Keyed Programs Prog

set_option linter.unusedSectionVars false

variable {D : Type}

/-! ## Sides -/

namespace Transaction

/-- An outgoing row that names its target. -/
def isOutgoing (t : Transaction D) : Bool := t.type = .transferOut && t.targetAccount.isSome

def isIncoming (t : Transaction D) : Bool := t.type = .transferIn

/-- A row that needs a counterpart: an incoming one, or any with a target. -/
def isSide (t : Transaction D) : Bool := t.isIncoming || t.targetAccount.isSome

end Transaction

/-- The two sides of a transfer. -/
structure Mirrors [Zero D] [LT D] (sent received : Transaction D) : Prop where
  outgoing : sent.type = .transferOut
  incoming : received.type = .transferIn
  amount : received.amount = sent.amount
  timestamp : received.timestamp = sent.timestamp
  category : received.category = sent.category
  target : sent.targetAccount = some received.accountNumber
  source : received.targetAccount = some sent.accountNumber
  distinct : sent.accountNumber ≠ received.accountNumber
  positive : 0 < sent.amount

/-- The outgoing and the incoming rows of the log correspond one to one, and no other row names a target. -/
structure Ledger.Paired [Zero D] [LT D] (l : Ledger D) : Prop where
  pairs : ∃ pairs : List (Transaction D × Transaction D),
    l.transactions.filter Transaction.isOutgoing = pairs.map Prod.fst ∧
      l.transactions.filter Transaction.isIncoming = pairs.map Prod.snd ∧ ∀ p ∈ pairs, Mirrors p.1 p.2
  others : ∀ t ∈ l.transactions, t.targetAccount ≠ none → t.type = .transferOut ∨ t.type = .transferIn

section Doubled

variable [Zero D] [LT D]

/-- Sides one pair after another. -/
inductive Doubled : List (Transaction D) → Prop
  | nil : Doubled []
  | pair {ts : List (Transaction D)} {sent received : Transaction D} (before : Doubled ts)
      (mirrors : Mirrors sent received) : Doubled (ts ++ [sent, received])

theorem Mirrors.isOutgoing {sent received : Transaction D} (h : Mirrors sent received) :
    sent.isOutgoing = true ∧ received.isOutgoing = false := by
  constructor
  · simp [Transaction.isOutgoing, h.outgoing, h.target]
  · simp [Transaction.isOutgoing, h.incoming]

theorem Mirrors.isIncoming {sent received : Transaction D} (h : Mirrors sent received) :
    sent.isIncoming = false ∧ received.isIncoming = true := by
  constructor
  · simp [Transaction.isIncoming, h.outgoing]
  · simp [Transaction.isIncoming, h.incoming]

/-- The correspondence that pairs one after another give. -/
theorem Doubled.split {ts : List (Transaction D)} (h : Doubled ts) :
    (∃ pairs : List (Transaction D × Transaction D), ts.filter Transaction.isOutgoing = pairs.map Prod.fst ∧
      ts.filter Transaction.isIncoming = pairs.map Prod.snd ∧ ∀ p ∈ pairs, Mirrors p.1 p.2) ∧
    ∀ t ∈ ts, t.type = .transferOut ∨ t.type = .transferIn := by
  induction h with
  | nil => exact ⟨⟨[], rfl, rfl, by simp⟩, by simp⟩
  | @pair ts sent received before mirrors ih =>
    obtain ⟨⟨pairs, outs, ins, all⟩, types⟩ := ih
    constructor
    · refine ⟨pairs ++ [(sent, received)], ?_, ?_, ?_⟩
      · simp [List.filter_append, outs, mirrors.isOutgoing]
      · simp [List.filter_append, ins, mirrors.isIncoming]
      · intro p hp
        rcases List.mem_append.mp hp with hp | hp
        · exact all p hp
        · rw [List.mem_singleton.mp hp]
          exact mirrors
    · intro t ht
      rcases List.mem_append.mp ht with ht | ht
      · exact types t ht
      · rcases List.mem_cons.mp ht with rfl | ht
        · exact .inl mirrors.outgoing
        · rw [List.mem_singleton.mp ht]
          exact .inr mirrors.incoming

/-- A log whose sides come in pairs is paired. -/
theorem Ledger.paired_of_doubled {l : Ledger D} (h : Doubled (l.transactions.filter Transaction.isSide)) : l.Paired := by
  obtain ⟨⟨pairs, outs, ins, all⟩, types⟩ := h.split
  have out : ∀ t : Transaction D, (t.isSide && t.isOutgoing) = t.isOutgoing := by
    intro t
    unfold Transaction.isSide Transaction.isOutgoing
    cases t.targetAccount <;> simp
  have in_ : ∀ t : Transaction D, (t.isSide && t.isIncoming) = t.isIncoming := by
    intro t
    unfold Transaction.isSide
    cases t.isIncoming <;> simp
  constructor
  · refine ⟨pairs, ?_, ?_, all⟩
    · rw [← outs, List.filter_filter]
      exact List.filter_congr fun t _ => by rw [Bool.and_comm, out]
    · rw [← ins, List.filter_filter]
      exact List.filter_congr fun t _ => by rw [Bool.and_comm, in_]
  · intro t ht target
    refine types t (List.mem_filter.mpr ⟨ht, ?_⟩)
    cases h : t.targetAccount with
    | none => exact absurd h target
    | some accNo => simp [Transaction.isSide, h]

end Doubled

/-! ## Staged sides -/

/-- The sides among pending changes. -/
def Change.side? : Change D → Option (Transaction D)
  | .insert (.transaction t) => if t.isSide then some t else none
  | _ => none

/-- The row of the log that a pending change inserts. -/
def Change.row? : Change D → Option (Transaction D)
  | .insert (.transaction t) => some t
  | _ => none

/-- The rows a session has staged. -/
def rowsOf (cs : List (Change D)) : List (Transaction D) := cs.filterMap Change.row?

theorem rowsOf_append (cs ds : List (Change D)) : rowsOf (cs ++ ds) = rowsOf cs ++ rowsOf ds := List.filterMap_append

/-- The sides a session has staged. -/
def sidesOf (cs : List (Change D)) : List (Transaction D) := cs.filterMap Change.side?

@[simp] theorem sidesOf_nil : sidesOf ([] : List (Change D)) = [] := rfl

@[simp] theorem sidesOf_append (cs ds : List (Change D)) : sidesOf (cs ++ ds) = sidesOf cs ++ sidesOf ds :=
  List.filterMap_append

section Staging

variable [Zero D] [Add D] [LE D] [LT D] [DecidableEq D] [DecidableLE D] [DecidableLT D]

/-- A repository method stages no side. -/
theorem sidesOf_staged (q : Query D) (db : Db D) (s : Session D) : sidesOf (q.staged db s) = [] := by
  cases q <;> simp only [Query.staged] <;> first
    | rfl
    | split <;> rfl

theorem rowsOf_staged (q : Query D) (db : Db D) (s : Session D) : rowsOf (q.staged db s) = [] := by
  cases q <;> simp only [Query.staged] <;> first
    | rfl
    | split <;> rfl

/-- The row as its columns keep it. -/
def Keeps (B : Backend D) (t stored : Transaction D) : Prop :=
  ∃ amount balance, B.money t.amount = .ok amount ∧ stored = { t with amount, balance }

theorem Keeps.isSide {B : Backend D} {t stored : Transaction D} (h : Keeps B t stored) : stored.isSide = t.isSide := by
  obtain ⟨amount, balance, -, rfl⟩ := h
  rfl

variable {B : Backend D} {db db' : Db D}

/-- What a statement does to the log. -/
theorem apply_rows {c : Change D} (h : c.apply B db = .ok db') :
    ∃ stored, db'.transactions = db.transactions ++ stored ∧ List.Forall₂ (Keeps B) (rowsOf [c]) stored := by
  have same : db'.transactions = db.transactions → rowsOf [c] = [] →
      ∃ stored, db'.transactions = db.transactions ++ stored ∧ List.Forall₂ (Keeps B) (rowsOf [c]) stored := by
    intro log none
    refine ⟨[], ?_, ?_⟩
    · rw [log, List.append_nil]
    · rw [none]
      exact .nil
  have support : c.isSupport = true → db'.transactions = db.transactions := by
    intro hs
    exact congrArg Ledger.transactions (apply_support hs h)
  cases c with
  | insert row =>
    cases row with
    | transaction t =>
      obtain ⟨amount, ha, balance, -, -, -, -, rfl⟩ := apply_insertTransaction_ok.mp h
      exact ⟨[{ t with amount, balance }], rfl, .cons ⟨amount, balance, ha, rfl⟩ .nil⟩
    | account account =>
      simp only [Change.apply, NewRow.insert, bind_eq_ok, require_eq_ok, found_eq_ok, pure_eq_ok] at h
      obtain ⟨balance, -, -, -, -, -, accounts, -, rfl⟩ := h
      exact same rfl rfl
    | loan loan =>
      obtain ⟨_, -, _, -, _, -, _, -, _, -, -, -, loans, -, rfl⟩ := apply_insertLoan_ok.mp h
      exact same rfl rfl
    | goal goal =>
      obtain ⟨_, -, _, -, -, -, goals, -, rfl⟩ := apply_insertGoal_ok.mp h
      exact same rfl rfl
    | _ => exact same (support rfl) rfl
  | account loaded current =>
    obtain ⟨stored, -, balance, -, -, -, rfl⟩ := apply_account_ok.mp h
    exact same rfl rfl
  | loan loaded current =>
    obtain ⟨stored, -, _, -, _, -, _, -, _, -, _, -, -, rfl⟩ := apply_loan_ok.mp h
    exact same rfl rfl
  | goal loaded current =>
    obtain ⟨stored, -, _, -, _, -, -, rfl⟩ := apply_goal_ok.mp h
    exact same rfl rfl
  | deleteGoal goalId =>
    obtain rfl := apply_deleteGoal_ok.mp h
    exact same rfl rfl
  | tokenVersion => exact same (support rfl) rfl

/-- A flush logs the staged rows, as the columns keep them. -/
theorem flush_rows {cs : List (Change D)} (h : flush B cs db = .ok db') :
    ∃ stored, db'.transactions = db.transactions ++ stored ∧ List.Forall₂ (Keeps B) (rowsOf cs) stored := by
  induction cs generalizing db with
  | nil =>
    cases h
    exact ⟨[], by simp, .nil⟩
  | cons c cs ih =>
    obtain ⟨db₁, h₁, h₂⟩ := (flush_cons_ok B).mp h
    obtain ⟨first, log₁, kept₁⟩ := apply_rows h₁
    obtain ⟨rest, log₂, kept₂⟩ := ih h₂
    refine ⟨first ++ rest, ?_, ?_⟩
    · rw [log₂, log₁, List.append_assoc]
    · have split : rowsOf (c :: cs) = rowsOf [c] ++ rowsOf cs := rowsOf_append [c] cs
      rw [split]
      exact List.rel_append kept₁ kept₂

/-- The sides are among the rows. -/
theorem sidesOf_eq_filter (cs : List (Change D)) : sidesOf cs = (rowsOf cs).filter Transaction.isSide := by
  induction cs with
  | nil => rfl
  | cons c cs ih =>
    have split : sidesOf (c :: cs) = sidesOf [c] ++ sidesOf cs := sidesOf_append [c] cs
    have split' : rowsOf (c :: cs) = rowsOf [c] ++ rowsOf cs := rowsOf_append [c] cs
    rw [split, split', List.filter_append, ← ih]
    congr 1
    cases c with
    | insert row =>
      cases row with
      | transaction t =>
        by_cases side : t.isSide = true
        · simp [sidesOf, Change.side?, rowsOf, Change.row?, side]
        · simp [sidesOf, Change.side?, rowsOf, Change.row?, side]
      | _ => rfl
    | _ => rfl

/-- A flush logs the staged sides, as the columns keep them. -/
theorem flush_sides {cs : List (Change D)} (h : flush B cs db = .ok db') :
    ∃ stored, db'.transactions.filter Transaction.isSide = db.transactions.filter Transaction.isSide ++ stored ∧
      List.Forall₂ (Keeps B) (sidesOf cs) stored := by
  obtain ⟨stored, log, kept⟩ := flush_rows h
  refine ⟨stored.filter Transaction.isSide, ?_, ?_⟩
  · rw [log, List.filter_append]
  · rw [sidesOf_eq_filter]
    clear log h
    generalize rowsOf cs = rows at kept
    induction kept with
    | nil => exact .nil
    | @cons t stored ts rest kept _ ih =>
      by_cases side : t.isSide = true
      · have side' : stored.isSide = true := kept.isSide.trans side
        rw [List.filter_cons_of_pos side, List.filter_cons_of_pos side']
        exact .cons kept ih
      · have side' : ¬stored.isSide = true := by rwa [kept.isSide]
        rw [List.filter_cons_of_neg side, List.filter_cons_of_neg side']
        exact ih

end Staging

/-! ## What an operation does to the staged sides -/

/-- What is known of a session: the sides it has staged, and whether a savepoint that began without any is open. -/
structure Sides (D : Type) where
  staged : List (Transaction D) := []
  nested : Bool := false

section Sided

variable [Zero D] [Add D] [LE D] [LT D] [DecidableEq D] [DecidableLE D] [DecidableLT D] (B : Backend D)

/-- Both sides of one transfer, of which the columns keep a positive amount. -/
def Twins (ts : List (Transaction D)) : Prop :=
  ∃ sent received, ts = [sent, received] ∧ Mirrors sent received ∧ ∀ y, B.numeric 14 sent.amount = some y → 0 < y

/-- A commit finds no side or both sides of a transfer; an operation may raise, and a failed flush forgets the sides. -/
def sided : Spec (Op.Res (D := D)) Exn (Sides D) := fun o s Q =>
  match o with
  | .acquire _ | .release _ => Q (.ok ()) s
  | .query _ => (∀ a, Q (.ok a) s) ∧ ∀ e, Q (.error e) s
  | .create row => Q (.ok ()) { s with staged := s.staged ++ sidesOf [.insert row] } ∧ ∀ e, Q (.error e) s
  | .beginNested => s.staged = [] ∧ Q (.ok ()) ⟨[], true⟩ ∧ ∀ e, Q (.error e) ⟨[], false⟩
  | .releaseNested => Q (.ok ()) { s with nested := false } ∧ ∀ e, Q (.error e) ⟨[], false⟩
  | .rollbackNested => s.nested = true ∧ Q (.ok ()) ⟨[], false⟩ ∧ ∀ e, Q (.error e) s
  | .commit => (s.staged = [] ∨ Twins B s.staged) ∧ Q (.ok ()) ⟨[], false⟩ ∧
      ∀ e, Q (.error e) ⟨[], false⟩ ∧ Q (.error e) s
  | .rollback => Q (.ok ()) ⟨[], false⟩

/-- The session as the specification knows it, over a log whose sides come in pairs. -/
def Even (w : Db D × Session D) (s : Sides D) : Prop :=
  sidesOf w.2.pending = s.staged ∧
    (s.nested = true → ∃ n, w.2.savepoint = some n ∧ n ≤ w.2.pending.length ∧ sidesOf (w.2.pending.take n) = []) ∧
    Doubled (w.1.transactions.filter Transaction.isSide)

variable {B}

/-- What the columns keep of both sides of a transfer. -/
theorem Twins.kept {ts stored : List (Transaction D)} (h : Twins B ts) (kept : List.Forall₂ (Keeps B) ts stored) :
    ∃ sent received, stored = [sent, received] ∧ Mirrors sent received := by
  obtain ⟨sent, received, rfl, mirrors, positive⟩ := h
  cases kept with
  | cons first rest =>
    cases rest with
    | cons second none =>
      cases none
      obtain ⟨amount, balance, ha, rfl⟩ := first
      obtain ⟨amount', balance', ha', rfl⟩ := second
      have same : amount' = amount := by
        rw [mirrors.amount, ha] at ha'
        exact (Except.ok.inj ha').symm
      have above : 0 < amount := by
        unfold Backend.money Backend.number at ha
        split at ha
        · rename_i y hy
          cases ha
          exact positive _ hy
        · cases ha
      refine ⟨_, _, rfl, ?_⟩
      exact { mirrors with amount := same, positive := above }

theorem sided_mono : Spec.Mono (sided B) := by
  intro o s Q Q' hQ h
  cases o <;> simp only [sided] at h ⊢ <;> grind

/-- Pending changes without a side, in a session of which the specification knows something. -/
theorem Even.more {db : Db D} {p : List (Change D)} {i : Bool} {sp : Option ℕ} {held : List String} {s : Sides D}
    (h : Even (db, ⟨p, i, sp, held⟩) s) (cs : List (Change D)) :
    Even (db, ⟨p ++ cs, i, sp, held⟩) { s with staged := s.staged ++ sidesOf cs } := by
  obtain ⟨staged, nested, log⟩ := h
  refine ⟨?_, ?_, log⟩
  · show sidesOf (p ++ cs) = s.staged ++ sidesOf cs
    rw [sidesOf_append]
    exact congrArg (· ++ sidesOf cs) staged
  · intro open_
    obtain ⟨n, savepoint, within, none⟩ := nested open_
    have within : n ≤ p.length := within
    refine ⟨n, savepoint, ?_, ?_⟩
    · show n ≤ (p ++ cs).length
      rw [List.length_append]
      omega
    · show sidesOf ((p ++ cs).take n) = []
      rw [List.take_append_of_le_length within]
      exact none

theorem keeps_even : Handler.Keeps (handle B) (sided B) Even := by
  rintro o ⟨db, ⟨p, inactive, sp, held⟩⟩ s Q even hQ
  have log := even.2.2
  cases o with
  | acquire accNo => exact ⟨s, even, hQ⟩
  | release accNo => exact ⟨s, even, hQ⟩
  | query q =>
    obtain ⟨answers, raises⟩ := hQ
    simp only [handle]
    split
    · exact ⟨s, even, raises _⟩
    · have more := even.more (q.staged db ⟨p, inactive, sp, held⟩)
      rw [sidesOf_staged, List.append_nil] at more
      exact ⟨s, more, answers _⟩
  | create row => exact ⟨_, even.more [.insert row], hQ.1⟩
  | beginNested =>
    obtain ⟨none, opens, raises⟩ := hQ
    have clean : sidesOf p = [] := even.1.trans none
    simp only [handle]
    split
    · exact ⟨⟨[], false⟩, ⟨clean, by simp, log⟩, raises _⟩
    · refine ⟨⟨[], true⟩, ⟨clean, ?_, log⟩, opens⟩
      intro _
      exact ⟨p.length, rfl, le_rfl, by rw [List.take_length]; exact clean⟩
  | releaseNested => exact ⟨{ s with nested := false }, ⟨even.1, by simp, log⟩, hQ.1⟩
  | rollbackNested =>
    obtain ⟨open_, closes, raises⟩ := hQ
    obtain ⟨n, savepoint, within, none⟩ := even.2.1 open_
    have savepoint : sp = some n := savepoint
    refine ⟨⟨[], false⟩, ⟨?_, by simp, log⟩, closes⟩
    show sidesOf (p.take (sp.getD p.length)) = []
    rw [savepoint]
    exact none
  | commit =>
    obtain ⟨complete, writes, raises⟩ := hQ
    simp only [handle]
    split
    · exact ⟨s, even, (raises _).2⟩
    · cases flushed : flush B p db with
      | error e => exact ⟨⟨[], false⟩, ⟨rfl, by simp, log⟩, (raises e).1⟩
      | ok db' =>
        refine ⟨⟨[], false⟩, ⟨rfl, by simp, ?_⟩, writes⟩
        obtain ⟨stored, after, kept⟩ := flush_sides flushed
        have staged : sidesOf p = s.staged := even.1
        rw [staged] at kept
        show Doubled (db'.transactions.filter Transaction.isSide)
        rw [after]
        rcases complete with none | twins
        · rw [none] at kept
          cases kept
          rw [List.append_nil]
          exact log
        · obtain ⟨sent, received, rfl, mirrors⟩ := twins.kept kept
          exact .pair log mirrors
  | rollback => exact ⟨⟨[], false⟩, ⟨rfl, by simp, log⟩, hQ⟩

theorem strikes_even : Strikes failed (sided B) (fun o => o.fallible = true) Even Even := by
  rintro o ⟨db, ⟨p, inactive, sp, held⟩⟩ s Q e fallible even hQ
  have log := even.2.2
  cases o with
  | acquire | release | rollback => cases fallible
  | query q => exact ⟨s, even, hQ.2 e⟩
  | create row => exact ⟨s, even, hQ.2 e⟩
  | beginNested => exact ⟨⟨[], false⟩, ⟨rfl, by simp, log⟩, hQ.2.2 e⟩
  | releaseNested => exact ⟨⟨[], false⟩, ⟨rfl, by simp, log⟩, hQ.2 e⟩
  | rollbackNested => exact ⟨s, even, hQ.2.2 e⟩
  | commit => exact ⟨⟨[], false⟩, ⟨rfl, by simp, log⟩, (hQ.2.2 e).1⟩

end Sided

/-! ## Calls that stage no side -/

/-- An operation that neither stages a side nor touches a savepoint. -/
def Op.Plain : Op D → Prop
  | .create row => sidesOf [.insert row] = []
  | .beginNested | .releaseNested | .rollbackNested => False
  | _ => True

section Plain

variable {α : Type} [Zero D] [Add D] [LE D] [LT D] [DecidableEq D] [DecidableLE D] [DecidableLT D] {B : Backend D}

/-- A plain program, on a session without sides. -/
theorem wp_plain {p : Svc D α} {Q : Except Exn α → Sides D → Prop} (hp : p.All Op.Plain) (hQ : ∀ r, Q r ⟨[], false⟩) :
    wp (sided B) p Q ⟨[], false⟩ := by
  refine wp_of_all hp (fun o Q plain h => ?_) hQ
  cases o with
  | acquire | release | rollback => exact h _
  | query q => exact ⟨fun a => h _, fun e => h _⟩
  | create row =>
    have none : sidesOf [Change.insert row] = [] := plain
    refine ⟨?_, fun e => h _⟩
    rw [none]
    exact h _
  | commit => exact ⟨.inl rfl, h _, fun e => ⟨h _, h _⟩⟩
  | beginNested | releaseNested | rollbackNested => exact plain.elim

end Plain

section Parts

variable {α : Type}

theorem ask_plain (q : Query D) : (ask q).All Op.Plain := all_perform trivial
theorem commit_plain : (perform Op.commit : Svc D Unit).All Op.Plain := all_perform trivial
theorem rollback_plain : (perform Op.rollback : Svc D Unit).All Op.Plain := all_perform trivial
theorem add_plain {row : NewRow D} (h : sidesOf [.insert row] = []) : (add row).All Op.Plain := all_perform h

/-- A row of any table but the log. -/
theorem other_plain {row : NewRow D} (h : ∀ t, row ≠ .transaction t) : (add row).All Op.Plain := by
  refine add_plain ?_
  cases row with
  | transaction t => exact absurd rfl (h t)
  | _ => rfl

/-- A row without a target that is not incoming. -/
theorem row_plain {t : Transaction D} (type : t.type ≠ .transferIn) (target : t.targetAccount = none) :
    (txnRepo.create t).All Op.Plain := by
  refine add_plain ?_
  have single : t.isSide = false := by simp [Transaction.isSide, Transaction.isIncoming, type, target]
  simp [sidesOf, Change.side?, single]

theorem locks_plain (accNos : List String) :
    (acquireAll accNos : Svc D Unit).All Op.Plain ∧ (releaseAll accNos : Svc D Unit).All Op.Plain := by
  induction accNos with
  | nil => exact ⟨trivial, trivial⟩
  | cons accNo accNos ih =>
    exact ⟨all_bind (all_perform trivial) fun _ => ih.1, all_bind (all_perform trivial) fun _ => ih.2⟩

theorem all_ofExcept {P : Op D → Prop} (r : Except Exn α) : (Prog.ofExcept r : Svc D α).All P := by
  cases r <;> trivial

theorem accountLock_plain {accNos : List String} {body : Svc D α} (h : body.All Op.Plain) :
    (accountLock accNos body).All Op.Plain := by
  unfold accountLock ensuring
  refine all_bind (locks_plain _).1 fun _ => all_bind (all_attempt h) fun r => ?_
  exact all_bind (locks_plain _).2 fun _ => all_ofExcept r

theorem storeKey_plain (record : IdempotencyRecord D) :
    (tryCatch (do idempotencyRepo.create record; idempotencyRepo.commit) fun _ => idempotencyRepo.rollback :
      Svc D Unit).All Op.Plain :=
  all_tryCatch (all_bind (other_plain (by simp)) fun _ => commit_plain) fun _ => rollback_plain

theorem auditLog_plain {actor action : String} {target details reason : Option String} {now : Time} :
    (do auditLogRepo.log actor action target details reason now; auditLogRepo.commit : Svc D Unit).All Op.Plain :=
  all_bind (other_plain (by simp)) fun _ => commit_plain

end Parts

section Calls

variable [Zero D] [Add D] [Sub D] [LE D] [LT D] [DecidableLE D] [DecidableLT D] (env : Env D) (draws : Draws)

open TransactionService

theorem checkIdempotency_plain (key : Option String) : (checkIdempotency key : Svc D _).All Op.Plain := by
  unfold checkIdempotency
  split
  · refine all_bind (ask_plain _) fun existing => ?_
    split
    · split <;> trivial
    · trivial
  · trivial

theorem cachedTransfer_plain (key : Option String) : (cachedTransfer key : Svc D _).All Op.Plain := by
  unfold cachedTransfer
  split
  · refine all_bind (ask_plain _) fun existing => ?_
    split
    · split <;> trivial
    · trivial
  · trivial

theorem storeIdempotency_plain (key : Option String) (accNo operation : String) (amount : D) (result : ServiceResult D)
    (balance : D) : (storeIdempotency key accNo operation amount result balance).All Op.Plain := by
  unfold storeIdempotency
  split
  · exact storeKey_plain _
  · trivial

theorem storeTransferIdempotency_plain (key : Option String) (senderAccNo : String) (amount : D)
    (result : TransferResult D) : (storeTransferIdempotency env key senderAccNo amount result).All Op.Plain := by
  unfold storeTransferIdempotency
  split
  · exact storeKey_plain _
  · trivial

theorem ensureNonNegativeBalance_plain (balance : D) (operation : String) :
    (ensureNonNegativeBalance balance operation).All Op.Plain := by
  unfold ensureNonNegativeBalance
  split <;> trivial

theorem deposit_plain (accNo : String) (amount : D) (category : String) (key : Option String) :
    (deposit env draws accNo amount category key).All Op.Plain := by
  have locked : (depositLocked draws accNo amount category).All Op.Plain := by
    unfold depositLocked
    refine all_bind (ask_plain _) fun account => ?_
    split
    · split
      · trivial
      · exact all_bind (ask_plain _) fun _ => all_bind (row_plain (by simp) rfl) fun _ =>
          all_bind commit_plain fun _ => trivial
    · trivial
  unfold deposit
  split
  · trivial
  refine all_bind (checkIdempotency_plain key) fun cached => ?_
  split
  · trivial
  refine all_bind (accountLock_plain locked) fun r => ?_
  split
  · trivial
  · exact all_bind (storeIdempotency_plain ..) fun _ => trivial

theorem withdraw_plain (accNo : String) (amount : D) (category : String) (key : Option String) :
    (withdraw env draws accNo amount category key).All Op.Plain := by
  have locked : (withdrawLocked env draws accNo amount category).All Op.Plain := by
    unfold withdrawLocked
    refine all_bind (ask_plain _) fun account => ?_
    split
    · split
      · trivial
      · split
        · trivial
        · exact all_bind (ensureNonNegativeBalance_plain _ _) fun _ => all_bind (ask_plain _) fun _ =>
            all_bind (row_plain (by simp) rfl) fun _ => all_bind commit_plain fun _ => trivial
    · trivial
  unfold withdraw
  split
  · trivial
  refine all_bind (checkIdempotency_plain key) fun cached => ?_
  split
  · trivial
  refine all_bind (accountLock_plain locked) fun r => ?_
  split
  · trivial
  · exact all_bind (storeIdempotency_plain ..) fun _ => trivial

theorem applyInterest_plain (accNo : String) : (applyInterest env draws accNo).All Op.Plain := by
  unfold applyInterest
  refine all_bind (ask_plain _) fun account => ?_
  split
  · split
    · trivial
    · simp only
      split
      · trivial
      · exact all_bind (ask_plain _) fun _ => all_bind (row_plain (by simp) rfl) fun _ =>
          all_bind commit_plain fun _ => trivial
  · trivial

theorem applyLoan_plain (accNo loanType : String) (principal rate : D) (tenure : Int) (purpose : String) :
    (LoanService.applyLoan env draws accNo loanType principal rate tenure purpose).All Op.Plain := by
  unfold LoanService.applyLoan
  refine all_bind (ask_plain _) fun account => ?_
  split
  · split
    · trivial
    split
    · trivial
    simp only
    split
    · trivial
    split
    · trivial
    split
    · trivial
    split
    · trivial
    exact all_bind (other_plain (by simp)) fun _ => all_bind commit_plain fun _ =>
      all_bind auditLog_plain fun _ => trivial
  · trivial

theorem approveLoan_plain (loanId adminUser : String) :
    (LoanService.approveLoan env draws loanId adminUser).All Op.Plain := by
  unfold LoanService.approveLoan
  refine all_bind (ask_plain _) fun loan => ?_
  split
  · split
    · trivial
    refine all_bind (ask_plain _) fun account => ?_
    split
    · split
      · trivial
      exact all_bind (ask_plain _) fun _ => all_bind (ask_plain _) fun _ => all_bind (row_plain (by simp) rfl) fun _ =>
        all_bind commit_plain fun _ => all_bind auditLog_plain fun _ => trivial
    · trivial
  · trivial

theorem rejectLoan_plain (loanId reason adminUser : String) :
    (LoanService.rejectLoan (D := D) draws loanId reason adminUser).All Op.Plain := by
  unfold LoanService.rejectLoan
  refine all_bind (ask_plain _) fun loan => ?_
  split
  · split
    · trivial
    exact all_bind (ask_plain _) fun _ => all_bind commit_plain fun _ => all_bind auditLog_plain fun _ => trivial
  · trivial

theorem payEmi_plain (accNo loanId : String) (amount : Option D) :
    (LoanService.payEmi env draws accNo loanId amount).All Op.Plain := by
  unfold LoanService.payEmi
  refine all_bind (ask_plain _) fun loan => ?_
  split
  · split
    · trivial
    split
    · trivial
    refine all_bind (ask_plain _) fun account => ?_
    split
    · split
      · trivial
      simp only
      split
      · trivial
      split
      · trivial
      exact all_bind (ask_plain _) fun _ => all_bind (ask_plain _) fun _ => all_bind (row_plain (by simp) rfl) fun _ =>
        all_bind commit_plain fun _ => trivial
    · trivial
  · trivial

theorem createGoal_plain (accNo name : String) (target : D) (targetDate : Option String) :
    (SavingsGoalService.createGoal draws accNo name target targetDate).All Op.Plain := by
  unfold SavingsGoalService.createGoal
  split
  · trivial
  split
  · trivial
  exact all_bind (other_plain (by simp)) fun _ => all_bind commit_plain fun _ => trivial

/-- A contribution logs an outgoing row, which names no target. -/
theorem contribute_plain (accNo goalId : String) (amount : D) :
    (SavingsGoalService.contribute env draws accNo goalId amount).All Op.Plain := by
  unfold SavingsGoalService.contribute
  split
  · trivial
  refine all_bind (ask_plain _) fun account => ?_
  split
  · split
    · trivial
    refine all_bind (ask_plain _) fun goal => ?_
    split
    · exact all_bind (ask_plain _) fun _ => all_bind (row_plain (by simp) rfl) fun _ =>
        all_bind (ask_plain _) fun _ => all_bind commit_plain fun _ => trivial
    · trivial
  · trivial

theorem deleteGoal_plain (accNo goalId : String) :
    (SavingsGoalService.deleteGoal (D := D) accNo goalId).All Op.Plain := by
  unfold SavingsGoalService.deleteGoal
  refine all_bind (ask_plain _) fun goal => ?_
  split
  · refine all_bind (ask_plain _) fun _ => ?_
    split
    · refine all_bind (ask_plain _) fun account => ?_
      split
      · exact all_bind (ask_plain _) fun _ => all_bind commit_plain fun _ => trivial
      · exact all_bind commit_plain fun _ => trivial
    · exact all_bind commit_plain fun _ => trivial
  · trivial

theorem freezeAccount_plain (accNo actor : String) (reason : Option String) :
    (AdminService.freezeAccount (D := D) draws accNo actor reason).All Op.Plain := by
  unfold AdminService.freezeAccount
  refine all_bind (ask_plain _) fun account => ?_
  split
  · split
    · trivial
    split
    · trivial
    exact all_bind (ask_plain _) fun _ => all_bind (ask_plain _) fun _ => all_bind commit_plain fun _ =>
      all_bind auditLog_plain fun _ => trivial
  · trivial

theorem unfreezeAccount_plain (accNo actor : String) (reason : Option String) :
    (AdminService.unfreezeAccount (D := D) draws accNo actor reason).All Op.Plain := by
  unfold AdminService.unfreezeAccount
  refine all_bind (ask_plain _) fun account => ?_
  split
  · split
    · trivial
    exact all_bind (ask_plain _) fun _ => all_bind commit_plain fun _ => all_bind auditLog_plain fun _ => trivial
  · trivial

theorem deleteAccount_plain (accNo actor : String) (reason : Option String) :
    (AdminService.deleteAccount (D := D) draws accNo actor reason).All Op.Plain := by
  unfold AdminService.deleteAccount
  refine all_bind (ask_plain _) fun account => ?_
  split
  · exact all_bind (ask_plain _) fun _ => all_bind commit_plain fun _ => all_bind auditLog_plain fun _ => trivial
  · trivial

theorem updateProfile_plain (accNo : String) (kwargs : List (AccountService.AccountField D)) :
    (AccountService.updateProfile accNo kwargs).All Op.Plain := by
  unfold AccountService.updateProfile
  refine all_bind (ask_plain _) fun account => ?_
  split
  · exact all_bind (all_ofExcept _) fun _ => all_bind (ask_plain _) fun _ => all_bind commit_plain fun _ => trivial
  · trivial

theorem changePassword_plain (accNo currentPwd newPwd : String) :
    (AccountService.changePassword env accNo currentPwd newPwd).All Op.Plain := by
  unfold AccountService.changePassword
  refine all_bind (ask_plain _) fun account => ?_
  split
  · split
    · trivial
    exact all_bind (ask_plain _) fun _ => all_bind (ask_plain _) fun _ => all_bind commit_plain fun _ => trivial
  · trivial

theorem closeAccount_plain (accNo password : String) :
    (AccountService.closeAccount env accNo password).All Op.Plain := by
  unfold AccountService.closeAccount
  refine all_bind (ask_plain _) fun account => ?_
  split
  · split
    · trivial
    exact all_bind (ask_plain _) fun _ => all_bind commit_plain fun _ => trivial
  · trivial

/-- Whether a request is a transfer. -/
def Request.isTransfer : Request D → Bool
  | .transfer .. => true
  | _ => false

/-- **Every other call is plain.** -/
theorem plain_request {request : Request D} (h : request.isTransfer = false) :
    (request.prog env draws).All Op.Plain := by
  have answer : ∀ {p : Svc D (ServiceResult D)}, p.All Op.Plain →
      (p >>= fun r => (return .service r : Svc D (Reply D))).All Op.Plain := by
    intro p hp
    exact all_bind hp fun _ => trivial
  cases request with
  | transfer => cases h
  | deposit => exact answer (deposit_plain ..)
  | withdraw => exact answer (withdraw_plain ..)
  | applyInterest => exact answer (applyInterest_plain ..)
  | applyLoan => exact answer (applyLoan_plain ..)
  | approveLoan => exact answer (approveLoan_plain ..)
  | rejectLoan => exact answer (rejectLoan_plain ..)
  | payEmi => exact answer (payEmi_plain ..)
  | createGoal => exact answer (createGoal_plain ..)
  | contribute => exact answer (contribute_plain ..)
  | deleteGoal => exact answer (deleteGoal_plain ..)
  | freezeAccount => exact answer (freezeAccount_plain ..)
  | unfreezeAccount => exact answer (unfreezeAccount_plain ..)
  | deleteAccount => exact answer (deleteAccount_plain ..)
  | updateProfile => exact answer (updateProfile_plain ..)
  | changePassword => exact answer (changePassword_plain ..)
  | closeAccount => exact answer (closeAccount_plain ..)

end Calls

/-! ## Transfers -/

section Transfers

variable {α : Type} [AddCommGroup D] [LinearOrder D] {B : Backend D} (env : Env D) (draws : Draws)

open TransactionService

/-- One operation. -/
theorem perform_sided {o : Op D} {Q : Except Exn o.Res → Sides D → Prop} {s : Sides D} (h : sided B o s Q) :
    wp (sided B) (perform o) Q s := by
  rw [wp_perform]
  exact h

/-- Locks are taken and given back without a side being staged. -/
theorem acquireAll_sided {accNos : List String} {Q : Except Exn Unit → Sides D → Prop} {s : Sides D}
    (h : Q (.ok ()) s) : wp (sided B) (acquireAll accNos) Q s := by
  induction accNos with
  | nil => exact h
  | cons accNo accNos ih =>
    rw [acquireAll, wp_bind, wp_perform]
    exact ih

theorem releaseAll_sided {accNos : List String} {Q : Except Exn Unit → Sides D → Prop} {s : Sides D}
    (h : Q (.ok ()) s) : wp (sided B) (releaseAll accNos) Q s := by
  induction accNos with
  | nil => exact h
  | cons accNo accNos ih =>
    rw [releaseAll, wp_bind, wp_perform]
    exact ih

theorem accountLock_sided {accNos : List String} {body : Svc D α} {Q : Except Exn α → Sides D → Prop} {s : Sides D}
    (h : wp (sided B) body Q s) : wp (sided B) (accountLock accNos body) Q s := by
  unfold accountLock
  rw [wp_bind]
  refine acquireAll_sided ?_
  rw [andThen_ok, wp_ensuring]
  refine wp_mono sided_mono (fun r s' hr => releaseAll_sided ?_) h
  rw [andThen_ok, wp_ofExcept]
  exact hr

variable {env draws}

/-- The writes of a transfer: its two rows, or an exception after some of them. -/
theorem moveMoney_sided {a b : Account D} {sender receiver : String} {amount : D} {cat : String}
    {Q : Except Exn (D × D) → Sides D → Prop} (distinct : sender ≠ receiver) (positive : 0 < amount)
    (moves : ∀ x sent received, Mirrors sent received → sent.amount = amount → Q (.ok x) ⟨[sent, received], true⟩)
    (raises : ∀ e ts, Q (.error e) ⟨ts, true⟩) :
    wp (sided B) (moveMoney draws a b sender receiver amount cat) Q ⟨[], true⟩ := by
  unfold moveMoney ensureNonNegativeBalance
  simp only [wp_bind]
  split
  · exact raises _ _
  refine ⟨fun _ => ?_, fun e => raises e _⟩
  refine ⟨fun _ => ?_, fun e => raises e _⟩
  refine ⟨?_, fun e => raises e _⟩
  refine ⟨?_, fun e => raises e _⟩
  refine moves _ _ _ ?_ ?_
  · exact ⟨rfl, rfl, rfl, rfl, rfl, rfl, rfl, distinct, positive⟩
  · rfl

/-- A transfer leaves no side behind: it commits both, or rolls back what it staged. -/
theorem transfer_sided {sender receiver : String} {amount : D} {category : String} {key : Option String}
    (kept : ∀ y, 0 < amount → B.numeric 14 amount = some y → 0 < y) :
    wp (sided B) (transfer env draws sender receiver amount category key) (fun _ s => s = ⟨[], false⟩) ⟨[], false⟩ := by
  unfold transfer
  split
  · rfl
  rename_i above
  have positive : 0 < amount := not_le.mp above
  split
  · rfl
  rename_i distinct
  rw [wp_bind]
  have cached : ∀ Q : Except Exn (Option (TransferResult D)) → Sides D → Prop, (∀ r, Q r ⟨[], false⟩) →
      wp (sided B) (cachedTransfer key) Q ⟨[], false⟩ := fun Q hQ => wp_plain (cachedTransfer_plain key) hQ
  refine cached _ ?_
  rintro (e | _ | result)
  · rfl
  · have locked : wp (sided B) (transferLocked env draws sender receiver amount (knownCategory category))
        (fun r s => ∀ x, r = .ok x → s = ⟨[], false⟩) ⟨[], false⟩ := by
      unfold transferLocked
      have refuses : ∀ r : Except Exn (Except (TransferResult D) (D × D)), ∀ x, r = .ok x →
          (⟨[], false⟩ : Sides D) = ⟨[], false⟩ := fun _ _ _ => rfl
      have raises : ∀ (e : Exn) (s : Sides D) (x : Except (TransferResult D) (D × D)), Except.error e = .ok x →
          s = ⟨[], false⟩ := fun e s x h => by cases h
      rw [wp_bind]
      refine perform_sided ⟨fun sender? => ?_, fun e => raises e _⟩
      rw [andThen_ok, wp_bind]
      refine perform_sided ⟨fun receiver? => ?_, fun e => raises e _⟩
      rw [andThen_ok]
      cases sender? with
      | none => exact refuses _
      | some sender =>
        cases receiver? with
        | none => exact refuses _
        | some receiver =>
          simp only
          split
          · exact refuses _
          split
          · exact refuses _
          split
          · exact refuses _
          rw [wp_bind]
          unfold beginNested
          rw [wp_bind]
          refine perform_sided ⟨rfl, ?_, fun e => raises e _⟩
          rw [andThen_ok, wp_bind, wp_attempt]
          refine moveMoney_sided distinct positive ?_ ?_
          · intro x sent received mirrors same
            rw [andThen_ok]
            simp only
            rw [wp_bind]
            refine perform_sided ⟨?_, fun e => raises e _⟩
            rw [andThen_ok, pure_eq, wp_ret, andThen_ok, wp_bind]
            refine perform_sided ⟨.inr ⟨sent, received, rfl, mirrors, ?_⟩, ?_, ?_⟩
            · rw [same]
              exact fun y => kept y positive
            · exact refuses _
            · exact fun e => ⟨raises e _, raises e _⟩
          · intro e ts
            rw [andThen_ok]
            simp only
            rw [wp_bind]
            exact perform_sided ⟨rfl, raises e _, fun e => raises e _⟩
    rw [andThen_ok]
    simp only
    rw [wp_bind, wp_tryCatch]
    refine accountLock_sided (wp_mono sided_mono ?_ locked)
    rintro (e | outcome) s hs
    · exact rfl
    · obtain rfl := hs _ rfl
      cases outcome with
      | error refusal => rfl
      | ok balances =>
        simp only [andThen_ok]
        rw [wp_bind]
        refine wp_plain (storeTransferIdempotency_plain ..) ?_
        rintro (e | _) <;> rfl
  · rfl

/-! ## Transfers that end before they write -/

variable {db : Db D} {s : Session D}

/-- The handler, when operations may raise. -/
abbrev mayRaise (B : Backend D) : Spec (Op.Res (D := D)) Exn (Db D × Session D) :=
  faulty (handle B) failed fun o => o.fallible

/-- A query that only reads. -/
theorem ask_mayRaise {q : Query D} {Q : Except Exn q.Res → Db D × Session D → Prop} (reads : q.staged db s = [])
    (raises : ∀ e, Q (.error e) (db, s)) (answers : s.inactive = false → Q (.ok (q.answer db s)) (db, s)) :
    wp (mayRaise B) (ask q) Q (db, s) := by
  have h : mayRaise B (Op.query q) (db, s) Q := by
    constructor
    · simp only [handle]
      split
      · exact raises _
      · rename_i active
        rw [reads]
        have same : s.stage [] = s := by simp [Session.stage]
        rw [same]
        exact answers (by simpa using active)
    · intro _ e
      exact raises e
  rw [ask, wp_perform]
  exact h

theorem acquireAll_mayRaise {accNos : List String} {Q : Except Exn Unit → Db D × Session D → Prop}
    (h : ∀ held, Q (.ok ()) (db, { s with held })) : wp (mayRaise B) (acquireAll accNos) Q (db, s) := by
  induction accNos generalizing s with
  | nil => exact h s.held
  | cons accNo accNos ih =>
    rw [acquireAll, wp_bind, wp_perform]
    exact ⟨ih h, fun fallible => by cases fallible⟩

theorem releaseAll_mayRaise {accNos : List String} {Q : Except Exn Unit → Db D × Session D → Prop}
    (h : ∀ held, Q (.ok ()) (db, { s with held })) : wp (mayRaise B) (releaseAll accNos) Q (db, s) := by
  induction accNos generalizing s with
  | nil => exact h s.held
  | cons accNo accNos ih =>
    rw [releaseAll, wp_bind, wp_perform]
    exact ⟨ih h, fun fallible => by cases fallible⟩

/-- A transfer that writes: its key has no stored result, both accounts transact, and the sender has the amount. -/
structure Proceeds (db : Db D) (s : Session D) (sender receiver : String) (amount : D) (key : Option String) :
    Prop where
  active : s.inactive = false
  unseen : ∀ k, givenKey key = some k → (db.idempotencyKeys.find? k).bind IdempotencyRecord.resultJson = none
  distinct : sender ≠ receiver
  sends : ∃ a, s.account? db sender = some a ∧ a.canTransact = true ∧ amount ≤ a.balance
  receives : ∃ b, s.account? db receiver = some b ∧ b.canTransact = true

/-- Every other transfer stages nothing. -/
theorem transfer_stays {sender receiver : String} {amount : D} {category : String} {key : Option String}
    (clean : sidesOf s.pending = []) (ends : ¬Proceeds db s sender receiver amount key) :
    wp (mayRaise B) (transfer env draws sender receiver amount category key)
      (fun _ w => w.1 = db ∧ sidesOf w.2.pending = []) (db, s) := by
  have done : ∀ held, (db, ({ s with held } : Session D)).1 = db ∧ sidesOf ({ s with held } : Session D).pending = [] :=
    fun _ => ⟨rfl, clean⟩
  unfold transfer
  split
  · exact done s.held
  split
  · exact done s.held
  rename_i distinct
  rw [wp_bind]
  have cached : ∀ Q : Except Exn (Option (TransferResult D)) → Db D × Session D → Prop,
      (∀ e, Q (.error e) (db, s)) → (∀ result, Q (.ok (some result)) (db, s)) →
      ((∀ k, givenKey key = some k → (db.idempotencyKeys.find? k).bind IdempotencyRecord.resultJson = none) →
        Q (.ok none) (db, s)) → wp (mayRaise B) (cachedTransfer key) Q (db, s) := by
    intro Q raises found unseen
    unfold cachedTransfer
    cases hk : givenKey key with
    | none => exact unseen (by simp [hk])
    | some k =>
      simp only
      rw [wp_bind]
      refine ask_mayRaise rfl raises fun _ => ?_
      rw [andThen_ok]
      have answer : Query.answer db s (.getIdempotencyKey k) = db.idempotencyKeys.find? k := rfl
      rw [answer]
      cases hr : db.idempotencyKeys.find? k with
      | none => exact unseen (by intro k' h; rw [hk] at h; cases h; simp [hr])
      | some existing =>
        simp only
        cases hj : existing.resultJson with
        | none => exact unseen (by intro k' h; rw [hk] at h; cases h; simp [hr, hj])
        | some data => exact found _
  refine cached _ (fun _ => done s.held) (fun _ => done s.held) fun unseen => ?_
  have locked : ∀ held, wp (mayRaise B) (transferLocked env draws sender receiver amount (knownCategory category))
      (fun r w => w = (db, { s with held }) ∧ ∀ x, r ≠ .ok (.ok x)) (db, { s with held }) := by
    intro held
    unfold transferLocked
    rw [wp_bind]
    refine ask_mayRaise rfl (fun e => ⟨rfl, by simp⟩) fun active => ?_
    rw [andThen_ok, wp_bind]
    refine ask_mayRaise rfl (fun e => ⟨rfl, by simp⟩) fun _ => ?_
    rw [andThen_ok]
    have answer (accNo : String) : Query.answer db { s with held } (.getAccount accNo) = s.account? db accNo := rfl
    rw [answer sender]
    cases hs : s.account? db sender with
    | none => exact ⟨rfl, by simp⟩
    | some a =>
      simp only
      rw [answer receiver]
      cases hr : s.account? db receiver with
      | none => exact ⟨rfl, by simp⟩
      | some b =>
        simp only
        split
        · exact ⟨rfl, by simp⟩
        split
        · exact ⟨rfl, by simp⟩
        split
        · exact ⟨rfl, by simp⟩
        rename_i sends receives covers
        refine absurd ⟨active, unseen, distinct, ⟨a, hs, by simpa using sends, not_lt.mp covers⟩, b, hr, ?_⟩ ends
        simpa using receives
  rw [andThen_ok]
  simp only
  rw [wp_bind, wp_tryCatch]
  unfold accountLock
  rw [wp_bind]
  refine acquireAll_mayRaise fun held => ?_
  rw [andThen_ok, wp_ensuring]
  refine wp_mono (faulty_mono _ _ _) ?_ (locked held)
  rintro r w ⟨rfl, refused⟩
  refine releaseAll_mayRaise fun held' => ?_
  rw [andThen_ok, wp_ofExcept]
  cases r with
  | error e => exact ⟨⟨rfl, rfl⟩, fun fallible => by cases fallible⟩
  | ok outcome =>
    cases outcome with
    | error refusal => exact done held'
    | ok x => exact absurd rfl (refused x)

end Transfers

/-! ## Runs -/

/-- A call served by a thread, with the operations that raise in it. -/
structure Trial (D : Type) where
  thread : ℕ
  call : Call D
  faults : List (Option Exn) := []

section Runs

variable [AddCommGroup D] [LinearOrder D] (env : Env D) (B : Backend D)

/-- The bank after a call, whatever fails in it. -/
def Bank.tried (bank : Bank D) (t : Trial D) : Bank D :=
  let (_, db, s) := execFaults (handle B) failed (fun o => o.fallible) t.faults (t.call.prog env)
    (bank.db, bank.sessions t.thread)
  { db, sessions := Function.update bank.sessions t.thread s }

def Bank.trials (bank : Bank D) (ts : List (Trial D)) : Bank D := ts.foldl (Bank.tried env B) bank

/-- A transfer that writes, of a positive amount of which its column keeps nothing. -/
def Trial.Vanishes (bank : Bank D) (t : Trial D) : Prop :=
  ∃ sender receiver amount category key y, t.call.request = .transfer sender receiver amount category key ∧
    Proceeds bank.db (bank.sessions t.thread) sender receiver amount key ∧
    0 < amount ∧ B.numeric 14 amount = some y ∧ y ≤ 0

/-- No transfer of the run vanishes. -/
def Bank.Tangible (bank : Bank D) : List (Trial D) → Prop
  | [] => True
  | t :: ts => ¬t.Vanishes B bank ∧ (bank.tried env B t).Tangible ts

/-- The log has its sides in pairs, and no session has one in hand. -/
def Bank.Matched (bank : Bank D) : Prop :=
  Doubled (bank.db.transactions.filter Transaction.isSide) ∧ ∀ thread, sidesOf (bank.sessions thread).pending = []

variable {env B} {bank : Bank D}

theorem tried_matched (matched : bank.Matched) {t : Trial D} (tangible : ¬t.Vanishes B bank) : (bank.tried env B t).Matched := by
  obtain ⟨log, none⟩ := matched
  have main : ∀ w, w = (execFaults (handle B) failed (fun o => o.fallible) t.faults (t.call.prog env)
      (bank.db, bank.sessions t.thread)).2 →
      Doubled (w.1.transactions.filter Transaction.isSide) ∧ sidesOf w.2.pending = [] := by
    rintro w rfl
    have before : Even (bank.db, bank.sessions t.thread) ⟨[], false⟩ := ⟨none _, by simp, log⟩
    have sided_ : wp (sided B) (t.call.prog env) (fun _ s => s = ⟨[], false⟩) ⟨[], false⟩ → Doubled
        ((execFaults (handle B) failed (fun o => o.fallible) t.faults (t.call.prog env)
          (bank.db, bank.sessions t.thread)).2.1.transactions.filter Transaction.isSide) ∧
        sidesOf (execFaults (handle B) failed (fun o => o.fallible) t.faults (t.call.prog env)
          (bank.db, bank.sessions t.thread)).2.2.pending = [] := by
      intro hp
      obtain ⟨s', ⟨staged, -, log'⟩, rfl⟩ := execFaults_keeps keeps_even strikes_even t.faults before hp
      exact ⟨log', staged⟩
    by_cases plain : t.call.request.isTransfer = false
    · exact sided_ (wp_plain (plain_request env t.call.draws plain) fun _ => rfl)
    · cases hr : t.call.request with
      | transfer sender receiver amount category key =>
        by_cases proceeds : Proceeds bank.db (bank.sessions t.thread) sender receiver amount key
        · refine sided_ ?_
          unfold Call.prog
          rw [hr]
          show wp (sided B) (TransactionService.transfer env t.call.draws sender receiver amount category key >>= _) _ _
          rw [wp_bind]
          refine wp_mono sided_mono ?_ (transfer_sided fun y positive kept => ?_)
          · rintro (e | result) s rfl <;> rfl
          · by_contra nothing
            exact tangible ⟨sender, receiver, amount, category, key, y, hr, proceeds, positive, kept, not_lt.mp nothing⟩
        · have stays : wp (mayRaise B) (TransactionService.transfer env t.call.draws sender receiver amount category key)
              (fun _ w => w.1 = bank.db ∧ sidesOf w.2.pending = []) (bank.db, bank.sessions t.thread) :=
            transfer_stays (none t.thread) proceeds
          have same : wp (mayRaise B) (t.call.prog env) (fun _ w => w.1 = bank.db ∧ sidesOf w.2.pending = [])
              (bank.db, bank.sessions t.thread) := by
            unfold Call.prog
            rw [hr]
            show wp _ (TransactionService.transfer env t.call.draws sender receiver amount category key >>= _) _ _
            rw [wp_bind]
            refine wp_mono (faulty_mono _ _ _) ?_ stays
            rintro (e | result) w hw <;> exact hw
          obtain ⟨unmoved, clean⟩ := wp_faulty same t.faults
          rw [unmoved]
          exact ⟨log, clean⟩
      | _ => exact absurd (by rw [hr]; rfl) plain
  constructor
  · exact (main _ rfl).1
  · intro thread
    show sidesOf (Function.update bank.sessions t.thread _ thread).pending = []
    rw [Function.update_apply]
    split
    · exact (main _ rfl).2
    · exact none thread

theorem trials_matched {ts : List (Trial D)} (matched : bank.Matched) (tangible : bank.Tangible env B ts) :
    (bank.trials env B ts).Matched := by
  induction ts generalizing bank with
  | nil => exact matched
  | cons t ts ih => exact ih (tried_matched matched tangible.1) tangible.2

/-- **The sides of the transfers come in pairs.** From an empty log, after any calls in which any operations fail, unless
a transfer of a positive amount wrote rows of which the column keeps nothing. -/
theorem sides_paired {ts : List (Trial D)} (empty : bank.db.transactions = [])
    (fresh : ∀ thread, (bank.sessions thread).pending = []) (tangible : bank.Tangible env B ts) :
    (bank.trials env B ts).db.Paired := by
  have matched : bank.Matched := by
    constructor
    · rw [empty]
      exact .nil
    · intro thread
      rw [fresh thread]
      rfl
  exact Ledger.paired_of_doubled (trials_matched matched tangible).1

end Runs

/-! ## Transfers of paise, and of less -/

namespace Sample

/-- A transfer whose second row fails, one that is refused, the transfer again, and a contribution. -/
def attempts : List (Trial ℤ) :=
  [⟨0, ⟨.transfer "1001" "1002" 4000 "Rent" (some "k"), draws 0⟩,
      List.replicate 9 none ++ [some .operationalError]⟩,
    ⟨1, ⟨.transfer "1001" "1001" 4000 "Rent" none, draws 1⟩, []⟩,
    ⟨0, ⟨.transfer "1001" "1002" 4000 "Rent" (some "k"), draws 2⟩, []⟩,
    ⟨1, ⟨.contribute "1002" "G1" 1500, draws 3⟩, []⟩]

/-- Whole paise are kept. -/
theorem attempts_tangible : (bank 10000 5000 0).Tangible paiseEnv paise attempts := by
  have kept : ∀ (bank : Bank ℤ) (t : Trial ℤ), ¬t.Vanishes paise bank := by
    rintro bank t ⟨-, -, amount, -, -, y, -, -, positive, stored, nothing⟩
    have same : y = amount := paise_exact 14 amount y trivial stored
    omega
  exact ⟨kept _ _, kept _ _, kept _ _, kept _ _, trivial⟩

theorem sides_paired_attempts : ((bank 10000 5000 0).trials paiseEnv paise attempts).db.Paired :=
  sides_paired rfl (fun _ => rfl) attempts_tangible

example : ((bank 10000 5000 0).trials paiseEnv paise attempts).db.transactions.map Transaction.type =
    [.transferOut, .transferIn, .transferOut] := by decide

/-- The branch with a second account. -/
def branches : Bank ℚ where
  db := { branch.db with accounts := ⟨branch.db.accounts.rows ++
    [⟨"1002", "Ravi", 31, "M", "9000000001", "ravi@bank.example", "secret", 0, true, false, 0, none⟩], by decide⟩ }
  sessions _ := {}

/-- Four tenths of a paisa. -/
def pinch : List (Trial ℚ) := [⟨0, ⟨.transfer "1001" "1002" 0.004 "Rent" none, draws 0⟩, []⟩]

/-- A transfer of less than half a paisa succeeds, and its sides are rows of nothing. -/
theorem pinch_unpaired : branches.db.transactions = [] ∧ (∀ thread, (branches.sessions thread).pending = []) ∧
    ¬(branches.trials rupeeEnv rupees pinch).db.Paired := by
  refine ⟨rfl, fun _ => rfl, ?_⟩
  rintro ⟨⟨pairs, outs, -, mirrors⟩, -⟩
  have nothing : ((branches.trials rupeeEnv rupees pinch).db.transactions.filter Transaction.isOutgoing).map
      Transaction.amount = [0] := by decide +kernel
  rw [outs] at nothing
  cases pairs with
  | nil => cases nothing
  | cons p pairs =>
    have positive := (mirrors p List.mem_cons_self).positive
    have zero : p.1.amount = 0 := (List.cons.inj nothing).1
    rw [zero] at positive
    exact absurd positive (lt_irrefl _)

end Sample

end UnionBank
