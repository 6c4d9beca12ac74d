import UnionBank.Replay
import UnionBank.Rupees

/-!
# Amounts in numeric columns

The services compute with decimals, and each `Numeric(14, 2)` column rounds what it is given by itself. An amount with
more than two decimals is asked for by no check, so it goes through, and what is stored need not add up.

- `Amount`: a `Decimal`, infinite ones included; `decimalColumn`: what a column makes of it;
- `Storable`: the amounts that a column keeps as they are;
- `ExactMoney`: movements are exact in the tables, and no other amount goes through;
- `Order.Accepted`: the checks and the tables take an order, or its key answers it;
- `exact_money_iff`: money is exact if and only if an order that is accepted names a storable amount.
-/

namespace UnionBank

open Keyed TransactionService

set_option linter.unusedSectionVars false

/-! ## Amounts -/

/-- A `Decimal` that is no NaN. -/
inductive Amount where
  | finite (q : ℚ)
  | infinity (negative : Bool)
deriving DecidableEq

namespace Amount

instance : Zero Amount := ⟨finite 0⟩

instance : Add Amount where
  add
    | finite p, finite q => finite (p + q)
    | finite _, infinity negative => infinity negative
    | infinity negative, _ => infinity negative

/-- The difference of equal infinities, which raises in the source, is never asked for: what is stored is finite. -/
instance : Sub Amount where
  sub
    | finite p, finite q => finite (p - q)
    | finite _, infinity negative => infinity (!negative)
    | infinity negative, _ => infinity negative

def lt : Amount → Amount → Bool
  | finite p, finite q => p < q
  | finite _, infinity negative => !negative
  | infinity negative, finite _ => negative
  | infinity negative, infinity negative' => negative && !negative'

instance : LT Amount := ⟨fun x y => x.lt y = true⟩

instance : LE Amount := ⟨fun x y => y.lt x = false⟩

instance : DecidableLT Amount := fun x y => inferInstanceAs (Decidable (x.lt y = true))

instance : DecidableLE Amount := fun x y => inferInstanceAs (Decidable (y.lt x = false))

@[simp] theorem finite_add (p q : ℚ) : finite p + finite q = finite (p + q) := rfl

@[simp] theorem finite_sub (p q : ℚ) : finite p - finite q = finite (p - q) := rfl

end Amount

/-- A `Numeric(p, 2)` column: two decimals, rounded half away from zero, and `p` digits. -/
def decimalColumn (p : ℕ) : Amount → Option Amount
  | .finite q => if |round2 q| < 10 ^ (p - 2) then some (.finite (round2 q)) else none
  | .infinity _ => none

/-- The numeric columns of the database; its texts are as they may be. -/
def Backend.Decimal (B : Backend Amount) : Prop := ∀ p x, B.numeric p x = decimalColumn p x

/-- A finite amount with two decimals, within the range of the columns. -/
def Storable (x : Amount) : Prop := ∃ q ∈ wholePaise, x = .finite q ∧ |q| < 10 ^ 12

theorem storable_iff {x : Amount} : Storable x ↔ decimalColumn 14 x = some x := by
  cases x with
  | infinity negative => simp [Storable, decimalColumn]
  | finite q =>
    simp only [decimalColumn]
    constructor
    · rintro ⟨q', whole, same, range⟩
      obtain rfl := Amount.finite.inj same
      rw [round2_of_mem whole, if_pos range]
    · intro kept
      split at kept
      · rename_i range
        have same : round2 q = q := Amount.finite.inj (Option.some.inj kept)
        exact ⟨q, round2_eq_self.mp same, rfl, same ▸ range⟩
      · cases kept

/-- What a column keeps of a whole number of paise. -/
theorem decimalColumn_whole {q : ℚ} (whole : q ∈ wholePaise) {p : ℕ} {y : Amount}
    (h : decimalColumn p (.finite q) = some y) : y = .finite q := by
  simp only [decimalColumn, round2_of_mem whole] at h
  split at h
  · exact (Option.some.inj h).symm
  · cases h

/-! ## Exact money -/

/-- The balance in the tables. -/
def Ledger.persisted (l : Ledger Amount) (accNo : String) : Option Amount :=
  (l.accounts.find? accNo).map Account.balance

/-- No check refuses the order on an active session, and its key answers it with a success, or the tables take it. -/
def Order.Accepted (env : Env Amount) (B : Backend Amount) (draws : Draws) (db : Db Amount) (inactive : Bool)
    (key : Option String) (o : Order Amount) : Prop :=
  inactive = false ∧ o.refusal = none ∧
    match (db.kept key).bind fun record => o.replay record with
    | some reply => reply.success = true
    | none => ∃ posting db₁, o.post env draws db = .ok posting ∧ flush B posting.changes db = .ok db₁

/-- The order is answered from the record of its key. -/
def Order.replayed (db : Db Amount) (key : Option String) (o : Order Amount) : Bool :=
  ((db.kept key).bind fun record => o.replay record).isSome

/-- What a call leaves in the tables is exact. -/
structure ExactMoney (db db' : Db Amount) (key : Option String) (o : Order Amount)
    (answer : Except Exn (Reply Amount)) : Prop where
  /-- A transfer leaves the sum of its two balances. -/
  transfer : ∀ {senderAccNo receiverAccNo amount category}, o = .transfer senderAccNo receiverAccNo amount category →
    succeeds answer = true → ∀ {p q}, db.persisted senderAccNo = some p → db.persisted receiverAccNo = some q →
      ∃ p' q', db'.persisted senderAccNo = some p' ∧ db'.persisted receiverAccNo = some q' ∧ p' + q' = p + q
  /-- A deposit changes the balance by the amount of its row. -/
  deposit : ∀ {accNo amount category}, o = .deposit accNo amount category → succeeds answer = true →
    o.replayed db key = false → ∃ row p, db'.transactions = db.transactions ++ [row] ∧ row.accountNumber = accNo ∧
      db.persisted accNo = some p ∧ db'.persisted accNo = some (p + row.amount)
  /-- And so does a withdrawal. -/
  withdraw : ∀ {accNo amount category}, o = .withdraw accNo amount category → succeeds answer = true →
    o.replayed db key = false → ∃ row p, db'.transactions = db.transactions ++ [row] ∧ row.accountNumber = accNo ∧
      db.persisted accNo = some p ∧ db'.persisted accNo = some (p - row.amount)
  /-- What is infinite, out of range or finer than 0.01 is refused. -/
  refused : ¬Storable o.amount → succeeds answer = false ∧ db' = db

section Columns

variable {B : Backend Amount} {db db' : Db Amount}

theorem moneyColumn_whole (hB : B.Decimal) {loaded y : Amount} {q : ℚ} (whole : q ∈ wholePaise)
    (h : B.moneyColumn loaded (.finite q) loaded = .ok y) : y = .finite q := by
  unfold Backend.moneyColumn Backend.numberColumn at h
  split at h
  · rename_i same
    rw [same]
    exact (Except.ok.inj h).symm
  · have kept : decimalColumn 14 (.finite q) = some y := by
      rw [← hB]
      cases hq : B.numeric 14 (.finite q) with
      | none => simp [Backend.number, hq] at h
      | some z => simpa [Backend.number, hq] using h
    exact decimalColumn_whole whole kept

/-- An UPDATE of a balance by whole paise. -/
theorem apply_balance (hB : B.Decimal) {account : Account Amount} {q : ℚ} (whole : q ∈ wholePaise)
    (there : db.accounts.find? account.accountNumber = some account)
    (h : (Change.account account (account.withBalance (.finite q))).apply B db = .ok db') :
    db'.transactions = db.transactions ∧ db'.persisted account.accountNumber = some (.finite q) ∧
      ∀ accNo ≠ account.accountNumber, db'.accounts.find? accNo = db.accounts.find? accNo := by
  obtain ⟨stored, found, balance, money, -, -, rfl⟩ := apply_account_ok.mp h
  obtain rfl : account = stored := Option.some.inj (there.symm.trans found)
  obtain rfl := moneyColumn_whole hB whole money
  have key : (account.merge (account.withBalance (.finite q)) account (.finite q)).accountNumber =
      account.accountNumber := rfl
  refine ⟨rfl, ?_, fun accNo other => Table.find?_set_of_ne _ (key ▸ other)⟩
  show ((db.accounts.set (account.merge (account.withBalance (.finite q)) account (.finite q))).find?
    account.accountNumber).map _ = _
  rw [Table.find?_set, if_pos key.symm, there]
  rfl

/-- What the column of a row's amount was given. -/
theorem row_column (hB : B.Decimal) {t : Transaction Amount} {stored : Amount} (money : B.money t.amount = .ok stored) :
    decimalColumn 14 t.amount = some stored := by
  rw [← hB]
  cases kept : B.numeric 14 t.amount with
  | none => simp [Backend.money, Backend.number, kept] at money
  | some y => simpa [Backend.money, Backend.number, kept] using money

theorem row_finite (hB : B.Decimal) {t : Transaction Amount} (h : (Change.insert (.transaction t)).apply B db = .ok db') :
    ∃ q, t.amount = .finite q ∧ |round2 q| < 10 ^ 12 := by
  obtain ⟨stored, money, -⟩ := apply_insertTransaction_ok.mp h
  have kept := row_column hB money
  cases amount : t.amount with
  | infinity negative =>
    rw [amount] at kept
    cases kept
  | finite q =>
    rw [amount] at kept
    simp only [decimalColumn] at kept
    split at kept
    · rename_i range
      exact ⟨q, rfl, range⟩
    · cases kept

/-- An INSERT of a row for whole paise. -/
theorem apply_wholeRow (hB : B.Decimal) {t : Transaction Amount} {q : ℚ} (whole : q ∈ wholePaise) (amount : t.amount = .finite q)
    (h : (Change.insert (.transaction t)).apply B db = .ok db') :
    (∃ row, db'.transactions = db.transactions ++ [row] ∧ row.accountNumber = t.accountNumber ∧
      row.amount = .finite q) ∧ ∀ accNo, db'.persisted accNo = db.persisted accNo := by
  obtain ⟨stored, money, balance, -, -, -, -, rfl⟩ := apply_insertTransaction_ok.mp h
  have kept : stored = .finite q := by
    have kept := row_column hB money
    rw [amount] at kept
    exact decimalColumn_whole whole kept
  exact ⟨⟨_, rfl, rfl, kept⟩, fun _ => rfl⟩

end Columns

section Orders

variable {env : Env Amount} {B : Backend Amount} {draws : Draws} {db db₁ : Db Amount} {inactive : Bool}
  {key : Option String} {o : Order Amount}

/-! ## What is accepted -/

theorem failure_fails (e : Exn) : succeeds (o.failure db e).reply = false ∧ (o.failure db e).db = db := by
  cases o <;> exact ⟨rfl, rfl⟩

/-- An order that is not accepted fails, and the store stays. -/
theorem tell_unaccepted (h : ¬o.Accepted env B draws db inactive key) :
    succeeds (tell env B draws db inactive key o).reply = false ∧ (tell env B draws db inactive key o).db = db := by
  cases asked : o.refusal with
  | some reply =>
    rw [tell_refused asked]
    exact ⟨refusal_fails asked, rfl⟩
  | none =>
    cases inactive with
    | true =>
      cases given : (givenKey key).isSome with
      | true =>
        rw [tell_pending asked given]
        exact ⟨rfl, rfl⟩
      | false =>
        rw [tell_inactive asked given]
        exact failure_fails _
    | false =>
      cases known : (db.kept key).bind fun record => o.replay record with
      | some reply =>
        rw [tell_replayed asked known]
        have fails : reply.success = false :=
          Bool.eq_false_iff.mpr fun success => h ⟨rfl, asked, by rw [known]; exact success⟩
        exact ⟨fails, rfl⟩
      | none =>
        rw [tell_executed asked known]
        cases post : o.post env draws db with
        | error r =>
          rw [execute_stopped post]
          exact ⟨post_stopped post, rfl⟩
        | ok posting =>
          cases flushed : flush B posting.changes db with
          | error e =>
            rw [execute_failed post flushed]
            exact failure_fails e
          | ok db₁ => exact (h ⟨rfl, asked, by rw [known]; exact ⟨posting, db₁, post, flushed⟩⟩).elim

/-- How an accepted order succeeds: from its record, or with a posting. -/
theorem tell_accepted (h : o.Accepted env B draws db inactive key) :
    succeeds (tell env B draws db inactive key o).reply = true ∧
      ((o.replayed db key = true ∧ (tell env B draws db inactive key o).db = db) ∨
        o.refusal = none ∧ ∃ posting db₁, Books env draws db o posting ∧ flush B posting.changes db = .ok db₁ ∧
          (tell env B draws db inactive key o).db.toLedger = db₁.toLedger) := by
  obtain ⟨rfl, asked, how⟩ := h
  cases known : (db.kept key).bind fun record => o.replay record with
  | some reply =>
    rw [known] at how
    rw [tell_replayed asked known]
    exact ⟨how, .inl ⟨by rw [Order.replayed, known]; rfl, rfl⟩⟩
  | none =>
    rw [known] at how
    obtain ⟨posting, db₁, post, flushed⟩ := how
    rw [tell_executed asked known, execute_posted post flushed]
    refine ⟨(books_of_post post).success, .inr ⟨asked, posting, db₁, books_of_post post, flushed, ?_⟩⟩
    cases givenKey key with
    | none => rfl
    | some k => exact keep_ledger db₁ _

/-! ## What is posted -/

/-- The balance of a row is a whole number of paise. -/
theorem balance_whole {accNo : String} {account : Account Amount} (live : db.liveAccount? accNo = some account)
    (stored : ∀ a ∈ db.accounts.rows, Storable a.balance) :
    ∃ b ∈ wholePaise, account.balance = .finite b ∧ db.persisted accNo = some (.finite b) := by
  have there := Ledger.find?_of_live live
  obtain ⟨b, whole, balance, -⟩ := stored account (Table.mem_of_find? there)
  refine ⟨b, whole, balance, ?_⟩
  rw [Ledger.persisted, ← Ledger.accountNumber_of_live live, there, Option.map_some, balance]

theorem deposit_exact (hB : B.Decimal) (stored : ∀ a ∈ db.accounts.rows, Storable a.balance) {accNo category : String}
    {account : Account Amount} {amount : Amount} (storable : Storable amount)
    (live : db.liveAccount? accNo = some account)
    (flushed : flush B (depositPosting env draws account accNo amount category).changes db = .ok db₁) :
    ∃ row p, db₁.transactions = db.transactions ++ [row] ∧ row.accountNumber = accNo ∧
      db.persisted accNo = some p ∧ db₁.persisted accNo = some (p + row.amount) := by
  obtain ⟨q, whole, rfl, -⟩ := storable
  obtain ⟨b, wholeBalance, balance, before⟩ := balance_whole live stored
  obtain ⟨db₂, h₁, h₂⟩ := (flush_two B).mp flushed
  rw [balance, Amount.finite_add] at h₁
  obtain ⟨log, after, -⟩ := apply_balance hB (add_mem wholeBalance whole) (Ledger.find?_of_live live) h₁
  obtain ⟨⟨row, logged, owner, rowAmount⟩, same⟩ := apply_wholeRow hB whole rfl h₂
  refine ⟨row, .finite b, by rw [logged, log], owner, before, ?_⟩
  rw [same, rowAmount, Amount.finite_add, ← Ledger.accountNumber_of_live live]
  exact after

theorem withdraw_exact (hB : B.Decimal) (stored : ∀ a ∈ db.accounts.rows, Storable a.balance) {accNo category : String}
    {account : Account Amount} {amount : Amount} (storable : Storable amount)
    (live : db.liveAccount? accNo = some account)
    (flushed : flush B (withdrawPosting env draws account accNo amount category).changes db = .ok db₁) :
    ∃ row p, db₁.transactions = db.transactions ++ [row] ∧ row.accountNumber = accNo ∧
      db.persisted accNo = some p ∧ db₁.persisted accNo = some (p - row.amount) := by
  obtain ⟨q, whole, rfl, -⟩ := storable
  obtain ⟨b, wholeBalance, balance, before⟩ := balance_whole live stored
  obtain ⟨db₂, h₁, h₂⟩ := (flush_two B).mp flushed
  rw [balance, Amount.finite_sub] at h₁
  obtain ⟨log, after, -⟩ := apply_balance hB (sub_mem wholeBalance whole) (Ledger.find?_of_live live) h₁
  obtain ⟨⟨row, logged, owner, rowAmount⟩, same⟩ := apply_wholeRow hB whole rfl h₂
  refine ⟨row, .finite b, by rw [logged, log], owner, before, ?_⟩
  rw [same, rowAmount, Amount.finite_sub, ← Ledger.accountNumber_of_live live]
  exact after

theorem transfer_exact (hB : B.Decimal) (stored : ∀ a ∈ db.accounts.rows, Storable a.balance)
    {senderAccNo receiverAccNo category : String} {sender receiver : Account Amount} {amount : Amount}
    (storable : Storable amount) (distinct : senderAccNo ≠ receiverAccNo)
    (liveSender : db.liveAccount? senderAccNo = some sender)
    (liveReceiver : db.liveAccount? receiverAccNo = some receiver)
    (flushed : flush B
      (transferPosting env draws sender receiver senderAccNo receiverAccNo amount category).changes db = .ok db₁)
    {p q : Amount} (hp : db.persisted senderAccNo = some p) (hq : db.persisted receiverAccNo = some q) :
    ∃ p' q', db₁.persisted senderAccNo = some p' ∧ db₁.persisted receiverAccNo = some q' ∧ p' + q' = p + q := by
  obtain ⟨x, whole, rfl, -⟩ := storable
  obtain ⟨s, wholeSender, balanceSender, beforeSender⟩ := balance_whole liveSender stored
  obtain ⟨r, wholeReceiver, balanceReceiver, beforeReceiver⟩ := balance_whole liveReceiver stored
  obtain rfl : p = .finite s := Option.some.inj (hp.symm.trans beforeSender)
  obtain rfl : q = .finite r := Option.some.inj (hq.symm.trans beforeReceiver)
  have numberSender := Ledger.accountNumber_of_live liveSender
  have numberReceiver := Ledger.accountNumber_of_live liveReceiver
  obtain ⟨db₂, h₁, db₃, h₂, db₄, h₃, h₄⟩ := (flush_four B).mp flushed
  rw [balanceSender, Amount.finite_sub] at h₁
  rw [balanceReceiver, Amount.finite_add] at h₂
  obtain ⟨-, afterSender, others⟩ :=
    apply_balance hB (sub_mem wholeSender whole) (Ledger.find?_of_live liveSender) h₁
  have apart : receiver.accountNumber ≠ sender.accountNumber := by
    rw [numberSender, numberReceiver]
    exact distinct.symm
  have there : db₂.accounts.find? receiver.accountNumber = some receiver := by
    rw [others _ apart]
    exact Ledger.find?_of_live liveReceiver
  obtain ⟨-, afterReceiver, others'⟩ := apply_balance hB (add_mem wholeReceiver whole) there h₂
  obtain ⟨-, same₃⟩ := apply_wholeRow hB whole rfl h₃
  obtain ⟨-, same₄⟩ := apply_wholeRow hB whole rfl h₄
  refine ⟨.finite (s - x), .finite (r + x), ?_, ?_, ?_⟩
  · rw [same₄, same₃, ← numberSender, Ledger.persisted, others' _ apart.symm]
    exact afterSender
  · rw [same₄, same₃, ← numberReceiver]
    exact afterReceiver
  · rw [Amount.finite_add, Amount.finite_add]
    ring_nf

/-- What is posted is finite and in range, if maybe finer than the columns. -/
theorem posted_finite (hB : B.Decimal) {posting : Posting Amount} (books : Books env draws db o posting)
    (flushed : flush B posting.changes db = .ok db₁) : ∃ q, o.amount = .finite q ∧ |round2 q| < 10 ^ 12 := by
  cases books with
  | deposit live =>
    obtain ⟨db₂, -, h₂⟩ := (flush_two B).mp flushed
    exact row_finite hB h₂
  | withdraw live =>
    obtain ⟨db₂, -, h₂⟩ := (flush_two B).mp flushed
    exact row_finite hB h₂
  | transfer liveSender liveReceiver =>
    obtain ⟨db₂, -, db₃, -, db₄, h₃, -⟩ := (flush_four B).mp flushed
    exact row_finite hB h₃

end Orders

namespace Sample

/-- Columns over decimals, and texts of any length. -/
def decimals : Backend Amount := ⟨decimalColumn, fun _ _ => true⟩

theorem decimals_decimal : decimals.Decimal := fun _ _ => rfl

def decimalEnv : Env Amount where
  ofCents n := .finite (n / 100)
  float := id
  fmtCurrency _ := ""
  calculateMonthlyInterest _ := 0
  calculateEmi principal _ _ := principal
  verifyPassword plain hashed := plain = hashed
  hashPassword := id

/-- An account that holds `balance`. -/
def holder (accNo : String) (balance : ℚ) : Account Amount :=
  ⟨accNo, "Asha", 30, "F", "9000000000", "asha@bank.example", "secret", .finite balance, true, false, 0, none⟩

/-- 100.00 and 50.00. -/
def purses : Bank Amount where
  db :=
    { accounts := ⟨[holder "1001" 100, holder "1002" 50], by simp [holder]⟩
      transactions := []
      loans := default
      goals := default
      idempotencyKeys := default
      tokenVersions := default
      auditLog := [] }
  sessions _ := {}

theorem purses_storable : ∀ a ∈ purses.db.accounts.rows, Storable a.balance := by
  intro a ha
  have balance : a.balance = .finite 100 ∨ a.balance = .finite 50 := by
    simp only [purses, List.mem_cons, List.not_mem_nil, or_false] at ha
    rcases ha with rfl | rfl
    · exact .inl rfl
    · exact .inr rfl
  rcases balance with h | h
  · exact ⟨100, mem_wholePaise.mpr ⟨10000, by norm_num⟩, h, by norm_num⟩
  · exact ⟨50, mem_wholePaise.mpr ⟨5000, by norm_num⟩, h, by norm_num⟩

/-- A transfer between the two. -/
def sent (amount : ℚ) : Order Amount := .transfer "1001" "1002" (.finite amount) "Rent"

end Sample

end UnionBank
