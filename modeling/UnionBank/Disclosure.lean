import UnionBank.Amortisation
import UnionBank.Services.Analyzr

/-!
# What the transaction search discloses

The search answers anybody about any account. Two stores that differ in one account only get the same answer as long
as the request does not name that account, or no row that the columns can hold passes its filters.

- `examine_all`, `qualify_eq`: the rest of the statement has no part in whether a row is a result, since the threshold
  of an intent only decides whether the next intent is looked at;
- `AgreeBut`: two stores that differ in one account only;
- `search_secluded_iff`: the requests whose answer does not depend on that account.
-/

namespace UnionBank

namespace Analyzr

set_option linter.unusedSectionVars false

variable {D : Type} [Field D] [LinearOrder D]

/-! ## One row -/

/-- The thresholds drop no row; they raise where an intent asks for small amounts. -/
theorem qualify_eq (avg : D) (txn : Transaction D) (intents : List Intent) :
    qualify avg txn intents =
      if (∃ intent ∈ intents, intent.amountQualifier = some .small) then .error .typeError else .ok () := by
  unfold qualify
  induction intents with
  | nil => rfl
  | cons intent intents ih =>
    rw [List.forIn_cons]
    cases h : intent.amountQualifier with
    | none => simpa [h] using ih
    | some qualifier =>
      cases qualifier with
      | small => simp [h]; rfl
      | large =>
        have rest := ih
        simp only [ite_self, List.mem_cons, exists_eq_or_imp, h, Option.some.injEq, reduceCtorEq, false_or] at rest ⊢
        exact rest

/-- Whether a row is a result does not depend on the rest of the statement. -/
theorem examine_all (u : Unicode) (f : Filters) (allTxns others : List (Transaction D)) (txn : Transaction D) :
    examine u f allTxns txn = examine u f others txn := by
  unfold examine
  simp only [qualify_eq]

/-- Rows that are no results. -/
theorem resultsOf_eq_nil {u : Unicode} {f : Filters} {allTxns txns : List (Transaction D)}
    (none : ∀ t ∈ txns, examine u f [t] t = .ok false) : resultsOf u f allTxns txns = .ok [] := by
  induction txns with
  | nil => rfl
  | cons t txns ih =>
    have here := none t List.mem_cons_self
    rw [examine_all u f [t] allTxns] at here
    rw [resultsOf, here, ih fun t ht => none t (List.mem_cons_of_mem _ ht)]
    rfl

/-! ## Stores -/

/-- A row as the columns keep it. -/
structure Kept (B : Backend D) (t : Transaction D) : Prop where
  amount : B.numeric 14 t.amount = some t.amount
  balance : B.numeric 14 t.balance = some t.balance
  texts : B.fits t.texts = true

/-- A log whose rows the columns hold, belong to accounts and have different ids. -/
structure Logged (B : Backend D) (db : Db D) : Prop where
  kept : ∀ t ∈ db.transactions, Kept B t
  owned : ∀ t ∈ db.transactions, db.accounts.find? t.accountNumber ≠ none
  distinct : (db.transactions.map Transaction.txnId).Nodup

/-- Two stores that differ in the row and the log of one account only. -/
structure AgreeBut (a : String) (db₁ db₂ : Db D) : Prop where
  accounts : ∀ accNo, accNo ≠ a → db₁.accounts.find? accNo = db₂.accounts.find? accNo
  transactions : db₁.transactions.filter (fun t => t.accountNumber ≠ a) =
    db₂.transactions.filter fun t => t.accountNumber ≠ a
  loans : db₁.loans = db₂.loans
  goals : db₁.goals = db₂.goals
  idempotencyKeys : db₁.idempotencyKeys = db₂.idempotencyKeys
  tokenVersions : db₁.tokenVersions = db₂.tokenVersions
  auditLog : db₁.auditLog = db₂.auditLog

/-- The statement of another account is the same. -/
theorem AgreeBut.getStatement {a accNo : String} {db₁ db₂ : Db D} (h : AgreeBut a db₁ db₂) (other : accNo ≠ a) :
    Analyzr.getStatement db₁ accNo = Analyzr.getStatement db₂ accNo := by
  have own : ∀ db : Db D, db.transactions.filter (fun t => t.accountNumber = accNo) =
      (db.transactions.filter fun t => t.accountNumber ≠ a).filter fun t => t.accountNumber = accNo := by
    intro db
    rw [List.filter_filter]
    refine List.filter_congr fun t _ => ?_
    by_cases same : t.accountNumber = accNo
    · simp [same, other]
    · simp [same]
  unfold Analyzr.getStatement
  rw [own db₁, own db₂, h.transactions]

/-! ## Requests -/

variable (env : Env D) (u : Unicode) (now : Instant) (B : Backend D)

/-- The answer to the request is the same for stores that differ in the account only, unless it carries a token of the
account or of an admin. -/
def Secluded (req : AnalyzrQueryRequest) (a : String) : Prop :=
  ∀ credential, credential ≠ .customer a → credential ≠ .admin →
    ∀ db₁ db₂ : Db D, Logged B db₁ → Logged B db₂ → AgreeBut a db₁ db₂ →
      v2AnalyzrQuery env u now credential db₁ req = v2AnalyzrQuery env u now credential db₂ req

/-- The request is about another account or none, has an amount that is no decimal, or has filters that no row of the
account passes. -/
def Blind (req : AnalyzrQueryRequest) (a : String) : Prop :=
  req.accountNumber ≠ some a ∨ a = "" ∨
    match filtersOf u now req.query with
    | .error _ => True
    | .ok f => ∀ t : Transaction D, Kept B t → t.accountNumber = a → examine u f [t] t = .ok false

variable {env u now B}

/-- A query whose filters are known. -/
theorem executeQuery_eq {db : Db D} {query : String} {f : Filters} {accountNumber : Option String} {maxResults : ℕ}
    (readable : filtersOf u now query = .ok f) :
    executeQuery env u now db query accountNumber maxResults =
      (resultsOf u f (statementOf db accountNumber) (statementOf db accountNumber)).map
        (answerOf env query f maxResults) := by
  unfold executeQuery
  rw [readable]
  cases h : resultsOf u f (statementOf db accountNumber) (statementOf db accountNumber) with
  | error e =>
    show (do let results ← resultsOf u f (statementOf db accountNumber) (statementOf db accountNumber); _) = _
    rw [h]
    rfl
  | ok results =>
    show (do let results ← resultsOf u f (statementOf db accountNumber) (statementOf db accountNumber); _) = _
    rw [h]
    rfl

/-- A query with an amount that is no decimal. -/
theorem executeQuery_error {db : Db D} {query : String} {e : QueryError} {accountNumber : Option String}
    {maxResults : ℕ} (unreadable : filtersOf u now query = .error e) :
    executeQuery env u now db query accountNumber maxResults = .error e := by
  unfold executeQuery
  rw [unreadable]
  rfl

/-- An account that the answer does not depend on. -/
theorem secluded_of_blind {req : AnalyzrQueryRequest} {a : String} (blind : Blind u now B req a) :
    Secluded env u now B req a := by
  intro credential _ _ db₁ db₂ logged₁ logged₂ agree
  unfold v2AnalyzrQuery
  cases hf : filtersOf u now req.query with
  | error e => rw [executeQuery_error hf, executeQuery_error hf]
  | ok f =>
    rw [executeQuery_eq hf, executeQuery_eq hf]
    congr 1
    cases named : req.accountNumber with
    | none => rfl
    | some accNo =>
      by_cases empty : accNo = ""
      · simp only [statementOf, if_pos empty]
      simp only [statementOf, if_neg empty]
      by_cases own : accNo = a
      · subst own
        have unseen : ∀ db, Logged B db → resultsOf u f (getStatement db accNo) (getStatement db accNo) = .ok [] := by
          intro db logged
          refine resultsOf_eq_nil fun t ht => ?_
          have mem := List.mem_filter.mp (List.mem_mergeSort.mp ht)
          rcases blind with other | empty' | filtered
          · exact absurd named other
          · exact absurd empty' empty
          · rw [hf] at filtered
            exact filtered t (logged.kept t mem.1) (by simpa using mem.2)
        rw [unseen db₁ logged₁, unseen db₂ logged₂]
      · rw [agree.getStatement own]

/-- An account with one row, or with none. -/
def lone (a : String) (rows : List (Transaction D)) : Db D where
  accounts := ⟨[⟨a, "", 0, "", "", "", "", 0, true, false, 0, none⟩], by simp⟩
  transactions := rows
  loans := ⟨[], List.nodup_nil⟩
  goals := ⟨[], List.nodup_nil⟩
  idempotencyKeys := ⟨[], List.nodup_nil⟩
  tokenVersions := ⟨[], List.nodup_nil⟩
  auditLog := []

theorem lone_agree {a : String} {t : Transaction D} (own : t.accountNumber = a) : AgreeBut a (lone a []) (lone a [t]) := by
  refine ⟨fun _ _ => rfl, ?_, rfl, rfl, rfl, rfl, rfl⟩
  simp [lone, own]

theorem lone_logged {a : String} {t : Transaction D} (own : t.accountNumber = a) (kept : Kept B t) :
    Logged B (lone a []) ∧ Logged B (lone a [t]) := by
  constructor
  · exact ⟨by simp [lone], by simp [lone], by simp [lone]⟩
  · refine ⟨?_, ?_, by simp [lone]⟩
    · simpa [lone] using kept
    · simp [lone, Keyed.Table.find?, own]

/-- The answers with and without a row that is examined. -/
theorem executeQuery_lone_ne {query : String} {a : String} {f : Filters} {t : Transaction D} {maxResults : ℕ}
    (readable : filtersOf u now query = .ok f) (given : a ≠ "") (own : t.accountNumber = a) (atLeast : 1 ≤ maxResults)
    (examined : examine u f [t] t ≠ .ok false) :
    executeQuery env u now (lone a []) query (some a) maxResults ≠
      executeQuery env u now (lone a [t]) query (some a) maxResults := by
  have nothing : statementOf (lone a ([] : List (Transaction D))) (some a) = [] := by
    simp [statementOf, given, getStatement, lone]
  have single : statementOf (lone a [t]) (some a) = [t] := by simp [statementOf, given, getStatement, lone, own]
  rw [executeQuery_eq readable, executeQuery_eq readable, nothing, single]
  unfold resultsOf
  cases h : examine u f [t] t with
  | error e =>
    intro same
    cases same
  | ok passes =>
    cases passes with
    | false => exact absurd h examined
    | true =>
      intro same
      have totals : (answerOf env query f maxResults []).total = (answerOf env query f maxResults [t]).total :=
        congrArg QueryResult.total (Except.ok.inj same)
      have one : min maxResults 1 = 1 := by omega
      simp [answerOf, one] at totals

/-- **Whose requests do not disclose an account.** The answer to a request is the same for any two stores that differ in
the account only, for all who hold no token of it or of an admin, if and only if the request is blind to the account. -/
theorem search_secluded_iff (env : Env D) (u : Unicode) (now : Instant) (B : Backend D) (req : AnalyzrQueryRequest)
    (a : String) : Secluded env u now B req a ↔ Blind u now B req a := by
  constructor
  · intro secluded
    by_contra seen
    unfold Blind at seen
    rw [not_or, not_or, not_not] at seen
    obtain ⟨named, given, passes⟩ := seen
    cases hf : filtersOf u now req.query with
    | error e =>
      rw [hf] at passes
      exact passes trivial
    | ok f =>
      rw [hf] at passes
      simp only [not_forall] at passes
      obtain ⟨t, kept, own, examined⟩ := passes
      have logged := lone_logged own kept
      have same := secluded .anonymous (by simp) (by simp) _ _ logged.1 logged.2 (lone_agree own)
      unfold v2AnalyzrQuery at same
      rw [named] at same
      exact executeQuery_lone_ne hf given own req.atLeast examined same
  · exact secluded_of_blind

end Analyzr

/-! ## A search without a token -/

namespace Sample

open Analyzr

/-- The characters of ASCII. -/
def ascii : Unicode where
  lower s := String.ofList (s.toList.map Char.toLower)
  isSpace c := c ∈ [' ', '\t', '\n', '\r']
  digit c := if c.isDigit then some (c.toNat - '0'.toNat) else none

/-- The patterns are all well formed. -/
example : intentPatterns.all (fun intent => intent.patterns.all fun pattern =>
    (Regex.compile ascii.classes pattern).isSome) = true := by decide +kernel

def salary : Transaction ℚ := ⟨"T1", "1001", .deposit, 2500, 3000, "Deposit", "Salary", none, 1709164800000000⟩

def snoop : AnalyzrQueryRequest where
  query := "large deposits over 1,000"
  accountNumber := some "1001"
  nonempty := by decide
  atLeast := by decide
  atMost := by decide

/-- Without any token the amount and the balance of a deposit are read. -/
theorem snoop_discloses : AgreeBut "1001" (lone "1001" []) (lone "1001" [salary]) ∧
    v2AnalyzrQuery rupeeEnv ascii 1709200000000000 .anonymous (lone "1001" []) snoop ≠
      v2AnalyzrQuery rupeeEnv ascii 1709200000000000 .anonymous (lone "1001" [salary]) snoop := by
  refine ⟨lone_agree rfl, ?_⟩
  have seen : (v2AnalyzrQuery rupeeEnv ascii 1709200000000000 .anonymous (lone "1001" [salary]) snoop).toOption.map
      (fun r => (r.total, r.results.map ResultRow.balance)) = some (1, [3000]) := by decide +kernel
  have nothing : (v2AnalyzrQuery rupeeEnv ascii 1709200000000000 .anonymous (lone "1001" []) snoop).toOption.map
      (fun r => (r.total, r.results.map ResultRow.balance)) = some (0, []) := by decide +kernel
  intro same
  rw [same, seen] at nothing
  cases nothing

end Sample

end UnionBank
