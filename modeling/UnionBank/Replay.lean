import UnionBank.Exactness
import UnionBank.Teller

/-!
# Replays

A key that has a record answers every later request under it without moving money, and answers a repeated order as it
answered the first (`idempotent_replay`). The record outlives every errand (`tell_kept`), and what it answers is what
was answered when it was made, once the balances of a transfer have been through `float` and back
(`replay_result`).
-/

namespace UnionBank

open Keyed TransactionService

set_option linter.unusedSectionVars false

variable {D : Type}

/-- Every record has a result that parses. -/
def Db.Readable (db : Db D) : Prop := ∀ k r, db.idempotencyKeys.find? k = some r → r.resultJson ≠ none

section Keys

variable [Zero D] [Add D] [Sub D] [LE D] [LT D] [DecidableEq D] [DecidableLE D] [DecidableLT D]
variable {env : Env D} {B : Backend D} {draws : Draws} {db db' : Db D} {key : Option String} {o : Order D}

/-! ## Keeping a record -/

/-- A record is inserted as it is, its amount apart, where its key is new. -/
theorem apply_insertKey {r : IdempotencyRecord D} (h : (Change.insert (.idempotencyKey r)).apply B db = .ok db') :
    ∃ amount, db.idempotencyKeys.insert? { r with amount } = some db'.idempotencyKeys ∧ db'.toLedger = db.toLedger := by
  simp only [Change.apply, NewRow.insert, bind_eq_ok, require_eq_ok, found_eq_ok, pure_eq_ok] at h
  obtain ⟨amount, -, -, -, keys, inserted, rfl⟩ := h
  exact ⟨amount, inserted, rfl⟩

/-- The store with a record: it was taken under a new key, or nothing happened. -/
theorem keep_cases (db : Db D) (r : IdempotencyRecord D) :
    (∃ amount, db.idempotencyKeys.insert? { r with amount } = some (db.keep B r).idempotencyKeys ∧
      (db.keep B r).toLedger = db.toLedger) ∨ db.keep B r = db := by
  unfold Db.keep
  cases flushed : flush B [.insert (.idempotencyKey r)] db with
  | error => exact .inr rfl
  | ok db' => exact .inl (apply_insertKey ((flush_one _).mp flushed))

theorem keep_ledger (db : Db D) (r : IdempotencyRecord D) : (db.keep B r).toLedger = db.toLedger := by
  rcases keep_cases (B := B) db r with ⟨amount, -, same⟩ | same
  · exact same
  · rw [same]

/-- What a key answers after a record was kept under another one, or under it. -/
theorem keep_find? {r : IdempotencyRecord D} {k : String} {x : IdempotencyRecord D}
    (h : (db.keep B r).idempotencyKeys.find? k = some x) :
    db.idempotencyKeys.find? k = some x ∨ k = r.idempotencyKey ∧ x.resultJson = r.resultJson := by
  rcases keep_cases (B := B) db r with ⟨amount, inserted, -⟩ | same
  · obtain ⟨new, table⟩ := Table.insert?_eq_some.mp inserted
    rw [← table, Table.find?_insert] at h
    split at h
    · rename_i e
      cases h
      exact .inr ⟨e, rfl⟩
    · exact .inl h
  · rw [same] at h
    exact .inl h

theorem keep_kept {r : IdempotencyRecord D} {k : String} {x : IdempotencyRecord D}
    (h : db.idempotencyKeys.find? k = some x) : (db.keep B r).idempotencyKeys.find? k = some x := by
  rcases keep_cases (B := B) db r with ⟨amount, inserted, -⟩ | same
  · obtain ⟨new, table⟩ := Table.insert?_eq_some.mp inserted
    have other : k ≠ r.idempotencyKey := by
      rintro rfl
      have taken := new.symm.trans h
      cases taken
    rw [← table, Table.find?_insert, if_neg other]
    exact h
  · rw [same]
    exact h

/-! ## Postings and keys -/

/-- A statement about accounts or the log. -/
def Change.isBooking : Change D → Bool
  | .account .. | .insert (.transaction _) => true
  | _ => false

theorem apply_booking {c : Change D} (hc : c.isBooking = true) (h : c.apply B db = .ok db') :
    db'.idempotencyKeys = db.idempotencyKeys := by
  rcases c with (_ | _ | _ | _ | _ | _ | _) | _ | _ | _ | _ | _
  all_goals first
    | exact Bool.noConfusion hc
    | skip
  · obtain ⟨amount, -, balance, -, -, -, -, rfl⟩ := apply_insertTransaction_ok.mp h
    rfl
  · obtain ⟨stored, -, balance, -, -, -, rfl⟩ := apply_account_ok.mp h
    rfl

theorem flush_booking {cs : List (Change D)} (hc : ∀ c ∈ cs, c.isBooking = true) (h : flush B cs db = .ok db') :
    db'.idempotencyKeys = db.idempotencyKeys := by
  induction cs generalizing db with
  | nil => cases h; rfl
  | cons c cs ih =>
    obtain ⟨db₁, h₁, h₂⟩ := (flush_cons_ok B).mp h
    rw [ih (fun c hm => hc c (List.mem_cons_of_mem _ hm)) h₂, apply_booking (hc c List.mem_cons_self) h₁]

/-- What a movement posts, and from which accounts. -/
inductive Books (env : Env D) (draws : Draws) (db : Db D) : Order D → Posting D → Prop
  | deposit {accNo category : String} {amount : D} {account : Account D} (live : db.liveAccount? accNo = some account) :
      Books env draws db (.deposit accNo amount category) (depositPosting env draws account accNo amount category)
  | withdraw {accNo category : String} {amount : D} {account : Account D} (live : db.liveAccount? accNo = some account) :
      Books env draws db (.withdraw accNo amount category) (withdrawPosting env draws account accNo amount category)
  | transfer {senderAccNo receiverAccNo category : String} {amount : D} {sender receiver : Account D}
      (liveSender : db.liveAccount? senderAccNo = some sender)
      (liveReceiver : db.liveAccount? receiverAccNo = some receiver) :
      Books env draws db (.transfer senderAccNo receiverAccNo amount category)
        (transferPosting env draws sender receiver senderAccNo receiverAccNo amount category)

theorem books_of_post {posting : Posting D} (h : o.post env draws db = .ok posting) : Books env draws db o posting := by
  cases o with
  | deposit accNo amount category =>
    cases live : db.liveAccount? accNo with
    | none => simp [Order.post, live] at h
    | some account =>
      simp only [Order.post, live] at h
      split at h
      · cases h
      · cases h
        exact .deposit live
  | withdraw accNo amount category =>
    cases live : db.liveAccount? accNo with
    | none => simp [Order.post, live] at h
    | some account =>
      simp only [Order.post, live] at h
      split at h
      · cases h
      split at h
      · cases h
      split at h
      · cases h
      · cases h
        exact .withdraw live
  | transfer senderAccNo receiverAccNo amount category =>
    cases liveSender : db.liveAccount? senderAccNo with
    | none => simp [Order.post, liveSender] at h
    | some sender =>
    cases liveReceiver : db.liveAccount? receiverAccNo with
    | none => simp [Order.post, liveSender, liveReceiver] at h
    | some receiver =>
      simp only [Order.post, liveSender, liveReceiver] at h
      split at h
      · cases h
      split at h
      · cases h
      split at h
      · cases h
      split at h
      · cases h
      · cases h
        exact .transfer liveSender liveReceiver

theorem Books.booking {posting : Posting D} (books : Books env draws db o posting) :
    ∀ c ∈ posting.changes, c.isBooking = true := by
  cases books <;>
    simp [depositPosting, withdrawPosting, transferPosting, Change.isBooking]

theorem Books.success {posting : Posting D} (books : Books env draws db o posting) : posting.reply.success = true := by
  cases books <;> rfl

/-- A refusal is no success. -/
theorem refusal_fails {reply : Reply D} (refusal : o.refusal = some reply) : reply.success = false := by
  cases o with
  | deposit | withdraw =>
    simp only [Order.refusal] at refusal
    split at refusal
    · cases refusal; rfl
    · cases refusal
  | transfer =>
    simp only [Order.refusal] at refusal
    split at refusal
    · cases refusal; rfl
    split at refusal
    · cases refusal; rfl
    · cases refusal

/-- A movement that ends without a commit is no success. -/
theorem post_stopped {o : Order D} {r : Except Exn (Reply D)} (stopped : o.post env draws db = .error r) :
    succeeds r = false := by
  cases o with
  | deposit accNo amount category =>
    simp only [Order.post] at stopped
    split at stopped
    · cases stopped; rfl
    split at stopped
    · cases stopped; rfl
    · cases stopped
  | withdraw accNo amount category =>
    simp only [Order.post] at stopped
    split at stopped
    · cases stopped; rfl
    split at stopped
    · cases stopped; rfl
    split at stopped
    · cases stopped; rfl
    split at stopped
    · cases stopped; rfl
    · cases stopped
  | transfer senderAccNo receiverAccNo amount category =>
    simp only [Order.post] at stopped
    split at stopped
    · cases stopped; rfl
    · cases stopped; rfl
    split at stopped
    · cases stopped; rfl
    split at stopped
    · cases stopped; rfl
    split at stopped
    · cases stopped; rfl
    split at stopped
    · cases stopped; rfl
    · cases stopped

/-! ## What an errand does to the keys -/

/-- The ways an errand can end on an active session whose records parse. -/
inductive Went (env : Env D) (B : Backend D) (draws : Draws) (db : Db D) (key : Option String) (o : Order D) :
    Told D → Prop
  | answered (r : Except Exn (Reply D)) (inactive : Bool) : Went env B draws db key o ⟨r, db, inactive⟩
  | posted {posting : Posting D} {db₁ : Db D} (asked : o.refusal = none) (new : db.kept key = none)
      (books : Books env draws db o posting) (flushed : flush B posting.changes db = .ok db₁) :
      Went env B draws db key o ⟨.ok posting.reply,
        ((givenKey key).map fun k => db₁.keep B (o.record k posting.result)).getD db₁, false⟩

/-- A readable record answers every order. -/
theorem replay_isSome {r : IdempotencyRecord D} (h : r.resultJson ≠ none) : (o.replay r).isSome = true := by
  cases o with
  | deposit | withdraw => rfl
  | transfer => rw [Order.replay, Option.isSome_map]; exact Option.isSome_iff_ne_none.mpr h

theorem went_failure (e : Exn) : Went env B draws db key o (o.failure db e) := by
  cases o <;> exact .answered _ _

theorem tell_went (readable : db.Readable) (inactive : Bool) : Went env B draws db key o (tell env B draws db inactive key o) := by
  cases asked : o.refusal with
  | some reply => rw [tell_refused asked]; exact .answered _ _
  | none =>
    cases inactive with
    | true =>
      cases given : (givenKey key).isSome with
      | true => rw [tell_pending asked given]; exact .answered _ _
      | false => rw [tell_inactive asked given]; exact went_failure _
    | false =>
      cases known : (db.kept key).bind fun record => o.replay record with
      | some reply => rw [tell_replayed asked known]; exact .answered _ _
      | none =>
        have new : db.kept key = none := by
          cases kept : db.kept key with
          | none => rfl
          | some record =>
            obtain ⟨k, -, found⟩ := Option.bind_eq_some_iff.mp kept
            have answers := replay_isSome (o := o) (readable k record found)
            rw [kept, Option.bind_some] at known
            rw [known] at answers
            cases answers
        rw [tell_executed asked known]
        cases post : o.post env draws db with
        | error r => rw [execute_stopped post]; exact .answered _ _
        | ok posting =>
          cases flushed : flush B posting.changes db with
          | error e => rw [execute_failed post flushed]; exact went_failure _
          | ok db₁ => rw [execute_posted post flushed]; exact .posted asked new (books_of_post post) flushed

/-- **A record outlives every errand.** -/
theorem Went.kept {t : Told D} (went : Went env B draws db key o t) {k : String} {x : IdempotencyRecord D}
    (h : db.idempotencyKeys.find? k = some x) : t.db.idempotencyKeys.find? k = some x := by
  cases went with
  | answered => exact h
  | @posted posting db₁ asked new books flushed =>
    have booked : db₁.idempotencyKeys.find? k = some x := flush_booking books.booking flushed ▸ h
    show (((givenKey key).map fun k => db₁.keep B (o.record k posting.result)).getD db₁).idempotencyKeys.find? k = some x
    cases givenKey key with
    | none => exact booked
    | some k' => exact keep_kept booked

/-- Records stay readable. -/
theorem Went.readable {t : Told D} (went : Went env B draws db key o t) (readable : db.Readable) : t.db.Readable := by
  cases went with
  | answered => exact readable
  | @posted posting db₁ asked new books flushed =>
    have booked : db₁.Readable := by
      intro k r h
      rw [flush_booking books.booking flushed] at h
      exact readable k r h
    show Db.Readable (((givenKey key).map fun k => db₁.keep B (o.record k posting.result)).getD db₁)
    cases givenKey key with
    | none => exact booked
    | some k' =>
      intro k r h
      rcases keep_find? h with h | ⟨-, same⟩
      · exact booked k r h
      · rw [same]
        exact Option.some_ne_none _

/-- On a session that stays active, a fault-free errand leaves it active. -/
theorem tell_active {reply : Reply D} (h : (tell env B draws db false key o).reply = .ok reply) :
    (tell env B draws db false key o).inactive = false := by
  have failure : ∀ e, (o.failure db e).reply = .ok reply → (o.failure db e).inactive = false := by
    intro e he
    cases o with
    | deposit | withdraw => cases he
    | transfer => rfl
  cases asked : o.refusal with
  | some reply => rw [tell_refused asked]
  | none =>
    cases known : (db.kept key).bind fun record => o.replay record with
    | some reply => rw [tell_replayed asked known]
    | none =>
      rw [tell_executed asked known] at h ⊢
      cases post : o.post env draws db with
      | error r => rw [execute_stopped post]
      | ok posting =>
        cases flushed : flush B posting.changes db with
        | error e =>
          rw [execute_failed post flushed] at h ⊢
          exact failure e h
        | ok db₁ => rw [execute_posted post flushed]

end Keys

/-! ## What a record answers -/

section Answers

variable [AddCommGroup D] [LinearOrder D]
variable {env : Env D} {B : Backend D} {cents : AddSubgroup D} {draws : Draws} {db db' : Db D} {key : Option String}
  {o : Order D}

/-- The float of an exact amount that its column takes is that amount. -/
def Env.FloatExact (env : Env D) (B : Backend D) (cents : AddSubgroup D) : Prop :=
  ∀ x ∈ cents, B.numeric 14 x ≠ none → env.float x = x

theorem Backend.numeric_of_money {x y : D} (h : B.money x = .ok y) : B.numeric 14 x ≠ none := by
  intro none
  rw [Backend.money, Backend.number, none] at h
  cases h

theorem Books.exact {posting : Posting D} (books : Books env draws db o posting) (amount : o.amount ∈ cents)
    (hl : db.toLedger.Exact cents) : ∀ c ∈ posting.changes, c.Exact cents := by
  have money : ∀ {accNo : String} {account : Account D}, db.liveAccount? accNo = some account →
      account.balance ∈ cents := fun live => hl.balance _ (Table.mem_of_find? (Ledger.liveAccount?_eq_some.mp live).1)
  cases books with
  | deposit live =>
    have after := cents.add_mem (money live) amount
    simp only [depositPosting, List.forall_mem_cons, Change.Exact, Account.withBalance]
    exact ⟨after, ⟨amount, after⟩, by simp⟩
  | withdraw live =>
    have after := cents.sub_mem (money live) amount
    simp only [withdrawPosting, List.forall_mem_cons, Change.Exact, Account.withBalance]
    exact ⟨after, ⟨amount, after⟩, by simp⟩
  | transfer liveSender liveReceiver =>
    have out := cents.sub_mem (money liveSender) amount
    have in_ := cents.add_mem (money liveReceiver) amount
    simp only [transferPosting, List.forall_mem_cons, Change.Exact, Account.withBalance]
    exact ⟨out, in_, ⟨amount, out⟩, ⟨amount, in_⟩, by simp⟩

theorem Went.exact {t : Told D} (went : Went env B draws db key o t) (hB : B.Exact cents) (amount : o.amount ∈ cents)
    (hl : db.toLedger.Exact cents) : t.db.toLedger.Exact cents := by
  cases went with
  | answered => exact hl
  | @posted posting db₁ asked new books flushed =>
    have booked := flush_exact hB (books.exact amount hl) hl flushed
    show Ledger.Exact cents
      (((givenKey key).map fun k => db₁.keep B (o.record k posting.result)).getD db₁).toLedger
    cases givenKey key with
    | none => exact booked
    | some k =>
      show Ledger.Exact cents (db₁.keep B (o.record k posting.result)).toLedger
      rw [keep_ledger]
      exact booked

/-- **A record answers as the request did that made it.** -/
theorem replay_result {posting : Posting D} (books : Books env draws db o posting) (hc : o.amount ∈ cents)
    (hfloat : env.FloatExact B cents) (hl : db.toLedger.Exact cents) (flushed : flush B posting.changes db = .ok db')
    {r : IdempotencyRecord D} (result : r.resultJson = some posting.result) : o.replay r = some posting.reply := by
  have exact := books.exact hc hl
  cases books with
  | deposit live | withdraw live =>
    simp only [Order.replay, result]
    rfl
  | @transfer _ _ _ amount sender receiver liveSender liveReceiver =>
    obtain ⟨db₁, -, db₂, -, db₃, out, in_⟩ := (flush_four _).mp flushed
    obtain ⟨-, -, balanceOut, fitsOut, -⟩ := apply_insertTransaction_ok.mp out
    obtain ⟨-, -, balanceIn, fitsIn, -⟩ := apply_insertTransaction_ok.mp in_
    simp only [transferPosting, List.forall_mem_cons, Change.Exact] at exact
    obtain ⟨-, -, ⟨-, centsOut⟩, ⟨-, centsIn⟩, -⟩ := exact
    have floatOut := hfloat _ centsOut (Backend.numeric_of_money fitsOut)
    have floatIn := hfloat _ centsIn (Backend.numeric_of_money fitsIn)
    simp only [Order.replay, result]
    show some (Reply.transfer ⟨true, env.float (sender.balance - amount), env.float (receiver.balance + amount), ""⟩) = _
    rw [floatOut, floatIn]
    rfl

end Answers

/-! ## Runs -/

section Run

variable [AddCommGroup D] [LinearOrder D]
variable {env : Env D} {B : Backend D} {cents : AddSubgroup D}

/-- A call in which no exception reaches the caller. -/
def Bank.FaultFree (env : Env D) (B : Backend D) (bank : Bank D) (tc : ℕ × Call D) : Prop :=
  ∃ reply, (bank.serve env B tc.1 tc.2).1 = .ok reply

/-- Two-decimal amounts, in columns that keep them and floats that give them back. -/
structure Bank.TwoDecimals (env : Env D) (B : Backend D) (cents : AddSubgroup D) (bank : Bank D)
    (errands : List (ℕ × Errand D)) : Prop where
  columns : B.Exact cents
  floats : env.FloatExact B cents
  store : bank.db.toLedger.Exact cents
  amounts : ∀ te ∈ errands, te.2.order.amount ∈ cents

/-- Clean sessions and readable records. -/
structure Bank.Ready (bank : Bank D) : Prop where
  clean : ∀ t, bank.sessions t = {}
  readable : bank.db.Readable

theorem Bank.Ready.rested {bank : Bank D} (ready : bank.Ready) : bank.Rested := by
  intro t
  rw [ready.clean t]

variable (env B) in
/-- How an errand ends on a ready bank. -/
theorem Bank.Ready.serve {bank : Bank D} (ready : bank.Ready) (te : ℕ × Errand D) :
    (bank.serve env B te.1 te.2.call).1 = (tell env B te.2.draws bank.db false te.2.key te.2.order).reply ∧
      (bank.serve env B te.1 te.2.call).2.db = (tell env B te.2.draws bank.db false te.2.key te.2.order).db := by
  rw [serve_errand env B ready.rested, Bank.told, ready.clean te.1]
  exact ⟨rfl, rfl⟩

variable (env B) in
theorem Bank.Ready.went {bank : Bank D} (ready : bank.Ready) (te : ℕ × Errand D) :
    Went env B te.2.draws bank.db te.2.key te.2.order (tell env B te.2.draws bank.db false te.2.key te.2.order) :=
  tell_went ready.readable false

/-- A fault-free errand leaves a ready bank ready. -/
theorem Bank.Ready.step {bank : Bank D} (ready : bank.Ready) {te : ℕ × Errand D}
    (free : bank.FaultFree env B (te.1, te.2.call)) : (bank.serve env B te.1 te.2.call).2.Ready := by
  obtain ⟨reply, answered⟩ := free
  obtain ⟨replied, store⟩ := ready.serve env B te
  constructor
  · intro t
    have active : (tell env B te.2.draws bank.db false te.2.key te.2.order).inactive = false :=
      tell_active (replied.symm.trans answered)
    rw [serve_errand env B ready.rested, Bank.told, ready.clean te.1]
    by_cases h : t = te.1
    · subst h
      simp only [Function.update_self]
      rw [active]
    · simp only [Function.update_of_ne h]
      exact ready.clean t
  · rw [store]
    exact (ready.went env B te).readable ready.readable

/-- What every errand preserves holds after the errands. -/
theorem errands_induction {P : Bank D → ℕ × Call D → Prop} {I : Bank D → Prop} {bank : Bank D}
    {errands : List (ℕ × Errand D)} (along : bank.Along env B P (calls errands)) (start : I bank)
    (step : ∀ bank, ∀ te ∈ errands, I bank → P bank (te.1, te.2.call) → I (bank.serve env B te.1 te.2.call).2) :
    I (bank.run env B (calls errands)) := by
  induction errands generalizing bank with
  | nil => exact start
  | cons te errands ih =>
    have next := step bank te List.mem_cons_self start along.1
    exact ih along.2 next fun bank te' hm => step bank te' (List.mem_cons_of_mem _ hm)

/-- The first errand under a key that moves money leaves a record of its answer. -/
theorem first_record {bank : Bank D} (ready : bank.Ready) {first : ℕ × Errand D} {k : String}
    (hk : givenKey first.2.key = some k)
    (moved : (bank.serve env B first.1 first.2.call).2.db.toLedger ≠ bank.db.toLedger)
    (stored : (bank.serve env B first.1 first.2.call).2.db.idempotencyKeys.find? k ≠ none) :
    ∃ posting db₁ r, first.2.order.refusal = none ∧ Books env first.2.draws bank.db first.2.order posting ∧
      flush B posting.changes bank.db = .ok db₁ ∧
      (bank.serve env B first.1 first.2.call).1 = .ok posting.reply ∧
      (bank.serve env B first.1 first.2.call).2.db.idempotencyKeys.find? k = some r ∧
      r.resultJson = some posting.result := by
  obtain ⟨replied, store⟩ := ready.serve env B first
  have went := ready.went env B first
  rw [store] at moved stored ⊢
  rw [replied]
  generalize tell env B first.2.draws bank.db false first.2.key first.2.order = t at moved stored went ⊢
  cases went with
  | answered => exact absurd rfl moved
  | @posted posting db₁ asked new books flushed =>
    simp only [hk, Option.map_some, Option.getD_some] at stored ⊢
    obtain ⟨r, found⟩ := Option.ne_none_iff_exists'.mp stored
    refine ⟨posting, db₁, r, asked, books, flushed, rfl, found, ?_⟩
    rcases keep_find? found with old | ⟨-, same⟩
    · rw [flush_booking books.booking flushed] at old
      rw [Db.kept, hk, Option.bind_some, old] at new
      cases new
    · exact same

/-- **Idempotent replay**: after an errand under `k` that moved money and left its record, and any errands in between,
an errand under `k` changes no table, and the same order is answered as it was the first time. -/
theorem idempotent_replay {bank : Bank D} (clean : ∀ t, bank.sessions t = {})
    (noKeys : bank.db.idempotencyKeys.rows = []) {before between : List (ℕ × Errand D)} {first again : ℕ × Errand D}
    {k : String} (hk : givenKey first.2.key = some k) (hk' : givenKey again.2.key = some k)
    (free : bank.Along env B (Bank.FaultFree env B) (calls (before ++ first :: between)))
    (moved : (bank.run env B (calls (before ++ [first]))).db.toLedger ≠ (bank.run env B (calls before)).db.toLedger)
    (stored : (bank.run env B (calls (before ++ [first]))).db.idempotencyKeys.find? k ≠ none) :
    ((bank.run env B (calls (before ++ first :: between))).serve env B again.1 again.2.call).2.db =
        (bank.run env B (calls (before ++ first :: between))).db ∧
      (again.2.order = first.2.order → bank.TwoDecimals env B cents (before ++ [first]) →
        ((bank.run env B (calls (before ++ first :: between))).serve env B again.1 again.2.call).1 =
          ((bank.run env B (calls before)).serve env B first.1 first.2.call).1) := by
  have split : calls (before ++ first :: between) = calls before ++ (first.1, first.2.call) :: calls between := by
    simp [calls]
  have split' : calls (before ++ [first]) = calls before ++ [(first.1, first.2.call)] := by simp [calls]
  rw [split', Bank.run_append] at moved stored
  rw [split, Bank.along_append] at free
  rw [split, Bank.run_append]
  obtain ⟨freeBefore, freeFirst, freeBetween⟩ := free
  have ready₀ : bank.Ready := ⟨clean, fun k r h => by
    have none : bank.db.idempotencyKeys.find? k = none := by rw [Table.find?, noKeys]; rfl
    rw [none] at h
    cases h⟩
  have ready₁ : (bank.run env B (calls before)).Ready :=
    errands_induction freeBefore ready₀ fun bank te _ ready free => ready.step free
  obtain ⟨posting, db₁, r, asked, books, flushed, replied, found, result⟩ := first_record ready₁ hk moved stored
  -- the record stays, and the bank stays ready, whatever happens in between
  have after : ((bank.run env B (calls before)).run env B ((first.1, first.2.call) :: calls between)).Ready ∧
      ((bank.run env B (calls before)).run env B ((first.1, first.2.call) :: calls between)).db.idempotencyKeys.find? k =
        some r := by
    refine errands_induction (I := fun bank => bank.Ready ∧ bank.db.idempotencyKeys.find? k = some r) freeBetween
      ⟨ready₁.step freeFirst, found⟩ ?_
    rintro bank te - ⟨ready, found⟩ free
    refine ⟨ready.step free, ?_⟩
    rw [(ready.serve env B te).2]
    exact (ready.went env B te).kept found
  generalize (bank.run env B (calls before)).run env B ((first.1, first.2.call) :: calls between) = bank₂ at after ⊢
  obtain ⟨ready₂, found₂⟩ := after
  obtain ⟨replied₂, store₂⟩ := ready₂.serve env B again
  have kept : bank₂.db.kept again.2.key = some r := by rw [Db.kept, hk', Option.bind_some, found₂]
  constructor
  · rw [store₂]
    have went := ready₂.went env B again
    generalize tell env B again.2.draws bank₂.db false again.2.key again.2.order = t at went
    cases went with
    | answered => rfl
    | posted asked new =>
      rw [kept] at new
      cases new
  · rintro same ⟨columns, floats, store, amounts⟩
    have exact₁ : (bank.run env B (calls before)).db.toLedger.Exact cents := by
      refine (errands_induction (I := fun bank => bank.Ready ∧ bank.db.toLedger.Exact cents) freeBefore
        ⟨ready₀, store⟩ ?_).2
      rintro bank te hm ⟨ready, exact⟩ free
      refine ⟨ready.step free, ?_⟩
      rw [(ready.serve env B te).2]
      exact (ready.went env B te).exact columns (amounts te (List.mem_append_left _ hm)) exact
    have amount := amounts first (List.mem_append_right _ List.mem_cons_self)
    have answers := replay_result books amount floats exact₁ flushed result
    rw [replied₂, same, replied, tell_replayed asked (by rw [kept, Option.bind_some, answers])]

end Run

/-! ## Examples -/

namespace Sample

theorem paise_floats : paiseEnv.FloatExact paise ⊤ := fun _ _ _ => rfl

/-- A wage, and a transfer under a key that is asked for twice with a withdrawal in between. -/
def wage : ℕ × Errand ℤ := (0, ⟨.deposit "1001" 5000 "Salary", none, draws 0⟩)

def rent (n : ℕ) : ℕ × Errand ℤ := (1, ⟨.transfer "1001" "1002" 2000 "Rent", some "rent-may", draws n⟩)

def shopping : ℕ × Errand ℤ := (0, ⟨.withdraw "1001" 100 "Shopping", none, draws 2⟩)

/-- The second transfer moves nothing and is answered with the balances of the first. -/
theorem idempotent_replay_rent :
    (((bank 0 0 0).run paiseEnv paise (calls ([wage] ++ rent 1 :: [shopping]))).serve paiseEnv paise (rent 3).1
        (rent 3).2.call).2.db = ((bank 0 0 0).run paiseEnv paise (calls ([wage] ++ rent 1 :: [shopping]))).db ∧
      (((bank 0 0 0).run paiseEnv paise (calls ([wage] ++ rent 1 :: [shopping]))).serve paiseEnv paise (rent 3).1
          (rent 3).2.call).1 =
        (((bank 0 0 0).run paiseEnv paise (calls [wage])).serve paiseEnv paise (rent 1).1 (rent 1).2.call).1 := by
  have moved : ((bank 0 0 0).run paiseEnv paise (calls ([wage] ++ [rent 1]))).db.toLedger ≠
      ((bank 0 0 0).run paiseEnv paise (calls [wage])).db.toLedger := by
    intro same
    have rows := congrArg (fun l : Ledger ℤ => l.transactions.length) same
    revert rows
    decide
  have twoDecimals : (bank 0 0 0).TwoDecimals paiseEnv paise ⊤ ([wage] ++ [rent 1]) :=
    ⟨paise_exact, paise_floats, Ledger.exact_top _, fun _ _ => trivial⟩
  have free : (bank 0 0 0).Along paiseEnv paise (Bank.FaultFree paiseEnv paise)
      (calls ([wage] ++ rent 1 :: [shopping])) := ⟨⟨_, rfl⟩, ⟨_, rfl⟩, ⟨_, rfl⟩, trivial⟩
  have first : givenKey (rent 1).2.key = some "rent-may" := rfl
  have again : givenKey (rent 3).2.key = some "rent-may" := rfl
  obtain ⟨same, answered⟩ := idempotent_replay (fun _ => rfl) rfl first again free moved (by decide)
  exact ⟨same, answered rfl twoDecimals⟩

end Sample

end UnionBank
