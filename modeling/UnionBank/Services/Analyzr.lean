import UnionBank.Lib.Calendar
import UnionBank.Lib.Regex
import UnionBank.Session

/-!
# Transaction search

`utils/analyzr_core.py` and the endpoint `POST /api/v2/analyzr/query`: a query in plain words is turned into filters by
pattern matching, and the filters run over the statement of the account that the request names. The endpoint has no
dependency on a token.

- `Decimal`, `Instant.text`: the numbers and the dates of the answer;
- `intentPatterns`, `classifyIntent`, `extractAmountRange`, `computeTimeWindow`;
- `examine`: one row against the filters; `executeQuery`, `v2AnalyzrQuery`.
-/

namespace UnionBank

/-! ## Decimals and dates -/

/-- `Decimal` of a text without sign and exponent: `coefficient / 10 ^ scale`. -/
structure Decimal where
  coefficient : ℕ
  scale : ℕ
deriving DecidableEq

namespace Decimal

def value {D : Type} [DivisionRing D] (d : Decimal) : D := (d.coefficient : D) / 10 ^ d.scale

/-- `Decimal(text)`, for a text of digits and points; `none` is `InvalidOperation`. -/
def parse (digit : Char → Option ℕ) (text : List Char) : Option Decimal :=
  let read : List Char → Option ℕ := List.foldlM (fun n c => (digit c).map fun d => 10 * n + d) 0
  match text.splitOn '.' with
  | [whole] => (read whole).map fun n => ⟨n, 0⟩
  | [whole, fraction] => (read (whole ++ fraction)).map fun n => ⟨n, fraction.length⟩
  | _ => none

/-- `str(d)`: with an exponent from seven places behind the point on. -/
def text (d : Decimal) : String :=
  let digits := toString d.coefficient
  if d.scale = 0 then digits
  else if d.scale < digits.length + 6 then
    let padded := "".pushn '0' (d.scale + 1 - digits.length) ++ digits
    (padded.dropEnd d.scale).toString ++ "." ++ (padded.takeEnd d.scale).toString
  else
    let exponent := d.scale + 1 - digits.length
    (if digits.length = 1 then digits else (digits.take 1).toString ++ "." ++ (digits.drop 1).toString) ++
      s!"E-{exponent}"

end Decimal

/-- A `datetime` in UTC: microseconds since the start of 1970, less than none before it. -/
abbrev Instant := ℤ

namespace Instant

/-- `timedelta(days=1)`. -/
def day : Instant := 24 * 60 * 60 * 1000000

def date (t : Instant) : Calendar.Date := Calendar.ofDay (t / day)

/-- Monday is 0. -/
def weekday (t : Instant) : ℤ := (t / day + 3) % 7

/-- `t.replace(hour=0, minute=0, second=0, microsecond=0)`. -/
def midnight (t : Instant) : Instant := t - t % day

/-- `t.replace(day=1, hour=0, minute=0, second=0, microsecond=0)`. -/
def firstOfMonth (t : Instant) : Instant := midnight t - (t.date.day - 1) * day

/-- The digits of a number, at least `n` of them. -/
def padded (n : ℕ) (k : ℤ) : String := "".pushn '0' (n - (toString k).length) ++ toString k

/-- `str(t)[:19]`. -/
def text (t : Instant) : String :=
  let second := t % day / 1000000
  s!"{padded 4 t.date.year}-{padded 2 t.date.month}-{padded 2 t.date.day} " ++
    s!"{padded 2 (second / 3600)}:{padded 2 (second / 60 % 60)}:{padded 2 (second % 60)}"

/-- `str(t)` of an instant in UTC; microseconds are only written where there are any. -/
def utcText (t : Instant) : String :=
  text t ++ (if t % 1000000 = 0 then "" else s!".{padded 6 (t % 1000000)}") ++ "+00:00"

example : utcText 1709164800000000 = "2024-02-29 00:00:00+00:00" := by decide +kernel

end Instant

/-- The value of a transaction type. -/
def TransactionType.value : TransactionType → String
  | .deposit => "DEPOSIT"
  | .withdraw => "WITHDRAW"
  | .transferOut => "TRANSFER_OUT"
  | .transferIn => "TRANSFER_IN"
  | .interest => "INTEREST"
  | .loanDisbursement => "LOAN_DISBURSEMENT"
  | .loanRepayment => "LOAN_REPAYMENT"

namespace Analyzr

/-! ## Intents -/

inductive AmountQualifier where
  | large
  | small
deriving DecidableEq

inductive TimeWindow where
  | thisMonth
  | lastMonth
  | thisWeek
  | lastWeek
  | today
  | yesterday
  | last90Days
deriving DecidableEq

structure Intent where
  name : String
  patterns : List String
  typeFilter : List String := []
  categoryFilter : List String := []
  amountQualifier : Option AmountQualifier := none
  timeWindow : Option TimeWindow := none

/-- `INTENT_PATTERNS`. -/
def intentPatterns : List Intent := [
  { name := "large_deposits"
    patterns := ["large\\s+deposits?", "big\\s+deposits?", "deposits?\\s+over", "high\\s+deposits?",
      "significant\\s+deposits?"]
    typeFilter := ["DEPOSIT"]
    amountQualifier := some .large },
  { name := "large_withdrawals"
    patterns := ["large\\s+withdrawals?", "big\\s+withdrawals?", "withdrawals?\\s+over", "high\\s+withdrawals?",
      "significant\\s+withdrawals?"]
    typeFilter := ["WITHDRAW"]
    amountQualifier := some .large },
  { name := "small_deposits"
    patterns := ["small\\s+deposits?", "tiny\\s+deposits?", "deposits?\\s+under"]
    typeFilter := ["DEPOSIT"]
    amountQualifier := some .small },
  { name := "food_spending"
    patterns := ["spen[dts].*food", "food.*spen[dt]", "food.*dining", "restaurant", "eating\\s+out", "grocer",
      "what.*(spend|spent).*food"]
    typeFilter := ["WITHDRAW", "TRANSFER_OUT"]
    categoryFilter := ["Food & Dining", "Groceries"] },
  { name := "salary_deposits"
    patterns := ["salary", "payroll", "pay\\s+deposit", "income", "wage", "paycheck"]
    typeFilter := ["DEPOSIT"]
    categoryFilter := ["Salary"] },
  { name := "bills"
    patterns := ["bills?", "utility", "electricity", "water.*bill", "phone.*bill", "internet.*bill", "rent", "emi",
      "loan.*payment"]
    typeFilter := ["WITHDRAW", "TRANSFER_OUT"]
    categoryFilter := ["Bills & Utilities", "Rent", "Loan"] },
  { name := "entertainment"
    patterns := ["entertainment", "movies?", "streaming", "netflix", "spotify", "games?", "gaming", "recreation"]
    typeFilter := ["WITHDRAW", "TRANSFER_OUT"]
    categoryFilter := ["Entertainment"] },
  { name := "shopping"
    patterns := ["shopp", "purchase", "online.*buy", "amazon", "flipkart", "retail", "cloth"]
    typeFilter := ["WITHDRAW", "TRANSFER_OUT"]
    categoryFilter := ["Shopping"] },
  { name := "this_month"
    patterns := ["this\\s+month", "current\\s+month", "this\\s+month['\u2019]s"]
    timeWindow := some .thisMonth },
  { name := "last_month"
    patterns := ["last\\s+month", "previous\\s+month"]
    timeWindow := some .lastMonth },
  { name := "this_week"
    patterns := ["this\\s+week", "current\\s+week", "past\\s+7\\s+days?", "last\\s+7\\s+days?"]
    timeWindow := some .thisWeek },
  { name := "last_week"
    patterns := ["last\\s+week", "previous\\s+week"]
    timeWindow := some .lastWeek },
  { name := "today"
    patterns := ["todays?", "today['\u2019]s", "today"]
    timeWindow := some .today },
  { name := "yesterday"
    patterns := ["yesterday['\u2019]s?", "yesterday"]
    timeWindow := some .yesterday },
  { name := "suspicious"
    patterns := ["suspicious", "unusual", "anomal", "fraud", "unauthorized", "unknown.*transact", "unrecognized"]
    amountQualifier := some .large
    timeWindow := some .last90Days },
  { name := "transfers_sent"
    patterns := ["transfers?\\s+sent", "sent\\s+transfers?", "outgoing\\s+transfers?", "money\\s+sent",
      "sent\\s+money"]
    typeFilter := ["TRANSFER_OUT"] },
  { name := "transfers_received"
    patterns := ["transfers?\\s+received", "received\\s+transfers?", "incoming\\s+transfers?", "money\\s+received",
      "received\\s+money"]
    typeFilter := ["TRANSFER_IN"] },
  { name := "all_deposits"
    patterns := ["all\\s+deposits?", "show\\s+deposits?", "list\\s+deposits?", "deposits?\\s+only"]
    typeFilter := ["DEPOSIT"] },
  { name := "all_withdrawals"
    patterns := ["all\\s+withdrawals?", "show\\s+withdrawals?", "list\\s+withdrawals?", "withdrawals?\\s+only"]
    typeFilter := ["WITHDRAW"] },
  { name := "general_search"
    patterns := [".*"] }]

/-- What `str` and `re` know of characters. -/
structure Unicode where
  lower : String → String
  isSpace : Char → Bool
  digit : Char → Option ℕ

/-- The classes of patterns. -/
def Unicode.classes (u : Unicode) : Regex.Classes := ⟨u.isSpace, fun c => (u.digit c).isSome⟩

section Parsing

variable (u : Unicode)

/-- `re.search`: the groups of the match. -/
def search (pattern : String) (text : List Char) : Option (List (List Char)) :=
  (Regex.compile u.classes pattern).bind fun r => r.search text

/-- `query.lower().strip()`. -/
def stripped (query : String) : List Char :=
  ((u.lower query).toList.dropWhile u.isSpace).reverse.dropWhile u.isSpace |>.reverse

def classifyIntent (query : String) : List Intent :=
  intentPatterns.filter fun intent => intent.patterns.any fun pattern => (search u pattern (stripped u query)).isSome

/-- `Decimal(match.group(i).replace(",", ""))`. -/
def amountOf (group : List Char) : Option Decimal := Decimal.parse u.digit (group.filter fun c => c ≠ ',')

/-- The smallest and the largest amount that the query names; `none` where one of its numbers is no decimal. -/
def extractAmountRange (query : String) : Option (Option Decimal × Option Decimal) := do
  let text := (u.lower query).toList
  let minAmt ← match search u "(?:over|more\\s+than|above|greater\\s+than|exceeding|>)\\s*[₹$]?\\s*(\\d[\\d,.]*)" text with
    | some [amount] => some <$> amountOf u amount
    | _ => pure none
  let maxAmt ← match search u "(?:under|less\\s+than|below|up\\s+to|<)\\s*[₹$]?\\s*(\\d[\\d,.]*)" text with
    | some [amount] => some <$> amountOf u amount
    | _ => pure none
  let (minAmt, maxAmt) ← match search u
      "(?:between)\\s*[₹$]?\\s*(\\d[\\d,.]*)\\s*(?:and|-|to)\\s*[₹$]?\\s*(\\d[\\d,.]*)" text with
    | some [least, most] => do
      let least ← amountOf u least
      let most ← amountOf u most
      pure (some least, some most)
    | _ => pure (minAmt, maxAmt)
  match minAmt, maxAmt, search u "[₹$]\\s?(\\d[\\d,.]*)" text with
  | none, none, some [amount] => do
    let val ← amountOf u amount
    pure (some val, some val)
  | _, _, _ => pure (minAmt, maxAmt)

end Parsing

/-- What one intent makes of the dates so far. -/
def TimeWindow.dates (now : Instant) (toDate : Option Instant) : TimeWindow → Option Instant × Option Instant
  | .today => (some now.midnight, toDate)
  | .yesterday => (some (now - Instant.day).midnight, some now.midnight)
  | .thisWeek => (some (now - now.weekday * Instant.day).midnight, toDate)
  | .lastWeek =>
    let lastMonday := now - (now.weekday + 7) * Instant.day
    (some lastMonday.midnight, some (lastMonday + 7 * Instant.day).midnight)
  | .thisMonth => (some now.firstOfMonth, toDate)
  | .lastMonth => (some (now.firstOfMonth - Instant.day).firstOfMonth, some now.firstOfMonth)
  | .last90Days => (some (now - 90 * Instant.day), toDate)

def computeTimeWindow (now : Instant) (intents : List Intent) : Option Instant × Option Instant :=
  intents.foldl (fun (fromDate, toDate) intent => match intent.timeWindow with
    | none => (fromDate, toDate)
    | some window => window.dates now toDate) (none, none)

/-! ## Queries -/

/-- The exceptions of a query. -/
inductive QueryError where
  | invalidOperation
  | typeError
deriving DecidableEq

/-- What a query comes down to. An empty set is no filter. -/
structure Filters where
  intents : List Intent
  typeFilter : Finset String
  categoryFilter : Finset String
  fromDate : Option Instant
  toDate : Option Instant
  minAmount : Option Decimal
  maxAmount : Option Decimal

namespace Filters

/-- Whether an amount that is not zero is given. -/
def givenAmount (amount : Option Decimal) : Bool := amount.any fun d => d.coefficient ≠ 0

/-- `has_amount_qualifier`, and no amount is given. -/
def qualified (f : Filters) : Bool :=
  f.intents.any (fun intent => intent.amountQualifier.isSome) && !givenAmount f.minAmount && !givenAmount f.maxAmount

end Filters

/-- The filters of a query. -/
def filtersOf (u : Unicode) (now : Instant) (query : String) : Except QueryError Filters :=
  let intents := classifyIntent u query
  match extractAmountRange u query with
  | none => .error .invalidOperation
  | some (minAmount, maxAmount) =>
    let (fromDate, toDate) := computeTimeWindow now intents
    .ok {
      intents, fromDate, toDate, minAmount, maxAmount,
      typeFilter := (intents.flatMap Intent.typeFilter).toFinset,
      categoryFilter := (intents.flatMap Intent.categoryFilter).toFinset }

section Rows

variable {D : Type} [Field D] [LinearOrder D]

/-- `_compute_average_txn_amount`. -/
def computeAverageTxnAmount (txns : List (Transaction D)) : D :=
  if txns = [] then 500 else (txns.map Transaction.amount).sum / txns.length

/-- The thresholds of the intents: `continue` goes on with the next intent, and half of a decimal is a `TypeError`. -/
def qualify (avg : D) (txn : Transaction D) (intents : List Intent) : Except QueryError Unit := do
  for intent in intents do
    match intent.amountQualifier with
    | some .large =>
      let threshold := avg * 5
      if txn.amount < threshold then continue
    | some .small => throw .typeError
    | none => pure ()

/-- `any(cf.lower() in txn_cat for cf in category_filter)`. -/
def inCategory (u : Unicode) (categories : Finset String) (category : String) : Bool :=
  let txnCat := u.lower (if category = "" then "General" else category)
  decide (∃ cf ∈ categories, (u.lower cf).toList <:+: txnCat.toList)

/-- Whether a row of the statement is a result. -/
def examine (u : Unicode) (f : Filters) (allTxns : List (Transaction D)) (txn : Transaction D) :
    Except QueryError Bool := do
  if f.typeFilter ≠ ∅ ∧ txn.type.value ∉ f.typeFilter then return false
  if f.categoryFilter ≠ ∅ ∧ inCategory u f.categoryFilter txn.category = false then return false
  if f.fromDate.any fun fromDate => decide ((txn.timestamp : Instant) < fromDate) then return false
  if f.toDate.any fun toDate => decide (toDate < (txn.timestamp : Instant)) then return false
  if f.qualified then
    qualify (computeAverageTxnAmount allTxns) txn f.intents
  if f.minAmount.any fun minAmount => decide (txn.amount < minAmount.value) then return false
  if f.maxAmount.any fun maxAmount => decide (maxAmount.value < txn.amount) then return false
  return true

/-- A row of the answer. -/
structure ResultRow (D : Type) where
  txnId : String
  date : String
  type : String
  amount : D
  balance : D
  description : String
  category : String
deriving DecidableEq

/-- The answer to a query. -/
structure QueryResult (D : Type) where
  query : String
  intent : List String
  typeFilter : Option (Finset String)
  categoryFilter : Option (Finset String)
  fromDate : Option String
  toDate : Option String
  minAmount : Option String
  maxAmount : Option String
  total : ℕ
  results : List (ResultRow D)
deriving DecidableEq

/-- `get_statement`: the newest rows first. -/
def getStatement (db : Db D) (accNo : String) : List (Transaction D) :=
  (db.transactions.filter fun t => t.accountNumber = accNo).mergeSort fun t t' => t'.timestamp ≤ t.timestamp

/-- The loop over the statement: the rows that are results, in its order. -/
def resultsOf (u : Unicode) (f : Filters) (allTxns : List (Transaction D)) :
    List (Transaction D) → Except QueryError (List (Transaction D))
  | [] => return []
  | txn :: txns => do
    let isResult ← examine u f allTxns txn
    let results ← resultsOf u f allTxns txns
    return if isResult then txn :: results else results

variable (env : Env D)

def resultRow (t : Transaction D) : ResultRow D where
  txnId := t.txnId
  date := Instant.text t.timestamp
  type := t.type.value
  amount := env.float t.amount
  balance := env.float t.balance
  description := t.description
  category := if t.category = "" then "General" else t.category

/-- The rows a query looks at: none without an account number. -/
def statementOf (db : Db D) (accountNumber : Option String) : List (Transaction D) :=
  match accountNumber with
  | some accNo => if accNo = "" then [] else getStatement db accNo
  | none => []

/-- The answer, of the newest results. -/
def answerOf (query : String) (f : Filters) (maxResults : ℕ) (results : List (Transaction D)) : QueryResult D :=
  let results := (results.mergeSort fun t t' => t'.timestamp ≤ t.timestamp).take maxResults
  { query, intent := f.intents.map Intent.name,
    typeFilter := if f.typeFilter = ∅ then none else some f.typeFilter,
    categoryFilter := if f.categoryFilter = ∅ then none else some f.categoryFilter,
    fromDate := f.fromDate.map Instant.utcText, toDate := f.toDate.map Instant.utcText,
    minAmount := (f.minAmount.filter fun d => d.coefficient ≠ 0).map Decimal.text,
    maxAmount := (f.maxAmount.filter fun d => d.coefficient ≠ 0).map Decimal.text,
    total := results.length, results := results.map (resultRow env) }

def executeQuery (u : Unicode) (now : Instant) (db : Db D) (query : String) (accountNumber : Option String)
    (maxResults : ℕ) : Except QueryError (QueryResult D) := do
  let f ← filtersOf u now query
  let allTxns := statementOf db accountNumber
  let results ← resultsOf u f allTxns allTxns
  return answerOf env query f maxResults results

end Rows

/-! ## The endpoint -/

/-- The body of a request, as validated. -/
structure AnalyzrQueryRequest where
  query : String
  accountNumber : Option String := none
  maxResults : ℕ := 50
  nonempty : query ≠ ""
  atLeast : 1 ≤ maxResults
  atMost : maxResults ≤ 200

/-- Whose valid token a request carries. -/
inductive Credential where
  | anonymous
  | customer (accNo : String)
  | admin
deriving DecidableEq

/-- `POST /api/v2/analyzr/query`: the endpoint asks for no token. -/
def v2AnalyzrQuery {D : Type} [Field D] [LinearOrder D] (env : Env D) (u : Unicode) (now : Instant) (_ : Credential)
    (db : Db D) (req : AnalyzrQueryRequest) : Except QueryError (QueryResult D) :=
  executeQuery env u now db req.query req.accountNumber req.maxResults

end Analyzr

end UnionBank
