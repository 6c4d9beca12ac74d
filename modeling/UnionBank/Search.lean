import UnionBank.Disclosure

/-!
# What the transaction search finds

The search as a filter: a row is wanted where it meets every condition that the query states. The loop of
`execute_query` finds the wanted rows except where a qualifier counts: `continue` in the loop over the intents goes on
with the next intent instead of the next row, and half of the average is a float that no `Decimal` multiplies with.

- `Passing`, `InBounds`, `Sized`, `Wanted`: the conditions of a query;
- `examine_eq`, `resultsOf_eq`: what the loop makes of one row and of a statement;
- `search_answers_iff`: the searches whose answer is the wanted rows, newest first and cut.
-/

namespace UnionBank

namespace Analyzr

set_option linter.unusedSectionVars false

/-- Filtering does not change the first rows of a list that all pass. -/
theorem take_filter {α : Type} {p : α → Bool} {l : List α} {k : ℕ} (pass : ∀ x ∈ l.take k, p x = true) :
    (l.filter p).take k = l.take k := by
  induction l generalizing k with
  | nil => rfl
  | cons x l ih =>
    cases k with
    | zero => simp
    | succ k =>
      have first : p x = true := pass x (by simp)
      have rest : ∀ y ∈ l.take k, p y = true := fun y hy => pass y (by simp [hy])
      rw [List.filter_cons_of_pos first, List.take_succ_cons, List.take_succ_cons, ih rest]

variable {D : Type} [Field D] [LinearOrder D]

/-! ## The conditions of a query -/

variable (u : Unicode) (f : Filters)

/-- A row of one of the types, in one of the categories, inside the window. -/
structure Passing (t : Transaction D) : Prop where
  typed : f.typeFilter = ∅ ∨ t.type.value ∈ f.typeFilter
  categorised : f.categoryFilter = ∅ ∨ inCategory u f.categoryFilter t.category = true
  since : ∀ fromDate ∈ f.fromDate, fromDate ≤ (t.timestamp : Instant)
  before : ∀ toDate ∈ f.toDate, (t.timestamp : Instant) ≤ toDate

/-- A row between the amounts that the query names. -/
structure InBounds (t : Transaction D) : Prop where
  atLeast : ∀ minAmount ∈ f.minAmount, minAmount.value ≤ t.amount
  atMost : ∀ maxAmount ∈ f.maxAmount, t.amount ≤ maxAmount.value

/-- Whether an intent asks for such amounts. -/
def Filters.asks (qualifier : AmountQualifier) : Prop :=
  ∃ intent ∈ f.intents, intent.amountQualifier = some qualifier

instance (qualifier : AmountQualifier) : Decidable (f.asks qualifier) :=
  inferInstanceAs (Decidable (∃ intent ∈ f.intents, intent.amountQualifier = some qualifier))

/-- A large amount is five times the average or more, a small one half of it or less. -/
structure Sized (avg : D) (t : Transaction D) : Prop where
  large : f.asks .large → avg * 5 ≤ t.amount
  small : f.asks .small → t.amount ≤ avg / 2

/-- A row that meets all conditions. The qualifiers count where the query names no amount. -/
structure Wanted (avg : D) (t : Transaction D) : Prop where
  passing : Passing u f t
  inBounds : InBounds f t
  sized : f.minAmount = none → f.maxAmount = none → Sized f avg t

open Classical in
/-- The answer shows the wanted rows of the account, newest first and cut to the number asked for. -/
def Answers (env : Env D) (now : Instant) (db : Db D) (query accNo : String) (maxResults : ℕ) : Prop :=
  let own := db.transactions.filter fun t => t.accountNumber = accNo
  ∃ (answer : QueryResult D) (rows : List (Transaction D)),
    executeQuery env u now db query (some accNo) maxResults = .ok answer ∧
    rows.Perm (own.filter fun t => decide (Wanted u f (computeAverageTxnAmount own) t)) ∧
    rows.Pairwise (fun t t' => t'.timestamp ≤ t.timestamp) ∧
    answer.results = (rows.take maxResults).map (resultRow env)

open Classical in
/-- The rows of the account inside the types, categories and window, newest first. -/
noncomputable def passingRows (db : Db D) (accNo : String) : List (Transaction D) :=
  (getStatement db accNo).filter fun t => decide (Passing u f t)

/-- No row gets to a question for small amounts, and where the query asks for large amounts and names none, all rows of
the answer are large. -/
structure Answerable (db : Db D) (accNo : String) (maxResults : ℕ) : Prop where
  small : f.qualified = true → f.asks .small → passingRows u f db accNo = []
  large : f.minAmount = none → f.maxAmount = none → f.asks .large →
    ∀ t ∈ (passingRows u f db accNo).take maxResults,
      computeAverageTxnAmount (db.transactions.filter fun t => t.accountNumber = accNo) * 5 ≤ t.amount

/-! ## The loop -/

variable {u f}

/-- A query without amounts is qualified where it asks for large or small ones. -/
theorem Filters.qualified_of_none {qualifier : AmountQualifier} (asks : f.asks qualifier) (least : f.minAmount = none)
    (most : f.maxAmount = none) : f.qualified = true := by
  obtain ⟨intent, mem, is⟩ := asks
  have qualifies : f.intents.any (fun intent => intent.amountQualifier.isSome) = true :=
    List.any_eq_true.mpr ⟨intent, mem, by rw [is]; rfl⟩
  simp [Filters.qualified, qualifies, Filters.givenAmount, least, most]

/-- The first four filters, as the loop tests them. -/
theorem passing_iff {t : Transaction D} : Passing u f t ↔
    ¬ (f.typeFilter ≠ ∅ ∧ t.type.value ∉ f.typeFilter) ∧
    ¬ (f.categoryFilter ≠ ∅ ∧ inCategory u f.categoryFilter t.category = false) ∧
    ¬ (f.fromDate.any fun fromDate => decide ((t.timestamp : Instant) < fromDate)) = true ∧
    ¬ (f.toDate.any fun toDate => decide (toDate < (t.timestamp : Instant))) = true := by
  have types : (f.typeFilter = ∅ ∨ t.type.value ∈ f.typeFilter) ↔
      ¬ (f.typeFilter ≠ ∅ ∧ t.type.value ∉ f.typeFilter) := by tauto
  have categories : (f.categoryFilter = ∅ ∨ inCategory u f.categoryFilter t.category = true) ↔
      ¬ (f.categoryFilter ≠ ∅ ∧ inCategory u f.categoryFilter t.category = false) := by
    rw [← Bool.not_eq_true]
    tauto
  have since : (∀ fromDate ∈ f.fromDate, fromDate ≤ (t.timestamp : Instant)) ↔
      ¬ (f.fromDate.any fun fromDate => decide ((t.timestamp : Instant) < fromDate)) = true := by
    simp [Option.any_eq_true]
  have before : (∀ toDate ∈ f.toDate, (t.timestamp : Instant) ≤ toDate) ↔
      ¬ (f.toDate.any fun toDate => decide (toDate < (t.timestamp : Instant))) = true := by
    simp [Option.any_eq_true]
  constructor
  · intro pass
    exact ⟨types.mp pass.typed, categories.mp pass.categorised, since.mp pass.since, before.mp pass.before⟩
  · intro ⟨typed, categorised, early, late⟩
    exact ⟨types.mpr typed, categories.mpr categorised, since.mpr early, before.mpr late⟩

/-- The amounts, as the loop tests them. -/
theorem inBounds_iff {t : Transaction D} : InBounds f t ↔
    ¬ (f.minAmount.any fun minAmount => decide (t.amount < minAmount.value)) = true ∧
    ¬ (f.maxAmount.any fun maxAmount => decide (maxAmount.value < t.amount)) = true := by
  have atLeast : (∀ minAmount ∈ f.minAmount, minAmount.value ≤ t.amount) ↔
      ¬ (f.minAmount.any fun minAmount => decide (t.amount < minAmount.value)) = true := by
    simp [Option.any_eq_true]
  have atMost : (∀ maxAmount ∈ f.maxAmount, t.amount ≤ maxAmount.value) ↔
      ¬ (f.maxAmount.any fun maxAmount => decide (maxAmount.value < t.amount)) = true := by
    simp [Option.any_eq_true]
  constructor
  · intro bounded
    exact ⟨atLeast.mp bounded.atLeast, atMost.mp bounded.atMost⟩
  · intro ⟨least, most⟩
    exact ⟨atLeast.mpr least, atMost.mpr most⟩

open Classical in
/-- The amounts are the last filter. -/
theorem examine_amounts (t : Transaction D) :
    (if (f.minAmount.any fun minAmount => decide (t.amount < minAmount.value)) = true then pure false
      else if (f.maxAmount.any fun maxAmount => decide (maxAmount.value < t.amount)) = true then pure false
      else pure true : Except QueryError Bool) = .ok (decide (InBounds f t)) := by
  by_cases bounded : InBounds f t
  · obtain ⟨least, most⟩ := inBounds_iff.mp bounded
    rw [if_neg least, if_neg most, decide_eq_true bounded]
    rfl
  · rw [decide_eq_false bounded]
    rw [inBounds_iff] at bounded
    split_ifs with least most
    · rfl
    · rfl
    · exact absurd ⟨least, most⟩ bounded

open Classical in
/-- One row: the first four filters come first, then the qualifiers, then the amounts. -/
theorem examine_eq (allTxns : List (Transaction D)) (t : Transaction D) :
    examine u f allTxns t =
      if Passing u f t then
        if f.qualified = true ∧ f.asks .small then .error .typeError else .ok (decide (InBounds f t))
      else .ok false := by
  unfold examine
  simp only [qualify_eq]
  by_cases pass : Passing u f t
  · rw [if_pos pass]
    obtain ⟨typed, categorised, since, before⟩ := passing_iff.mp pass
    rw [if_neg typed, if_neg categorised, if_neg since, if_neg before]
    by_cases raises : f.qualified = true ∧ f.asks .small
    · have small : ∃ intent ∈ f.intents, intent.amountQualifier = some .small := raises.2
      rw [if_pos raises, if_pos raises.1, if_pos small]
      rfl
    · rw [if_neg raises, ← examine_amounts t]
      by_cases qualified : f.qualified = true
      · have silent : ¬ ∃ intent ∈ f.intents, intent.amountQualifier = some .small :=
          fun small => raises ⟨qualified, small⟩
        rw [if_pos qualified, if_neg silent]
        rfl
      · rw [if_neg qualified]
  · rw [if_neg pass]
    rw [passing_iff] at pass
    split_ifs with typed categorised since before
    · rfl
    · rfl
    · rfl
    · rfl
    all_goals exact absurd ⟨typed, categorised, since, before⟩ pass

open Classical in
/-- A statement: the loop raises at the first row that gets to a question for small amounts. -/
theorem resultsOf_eq (allTxns txns : List (Transaction D)) :
    resultsOf u f allTxns txns =
      if f.qualified = true ∧ f.asks .small ∧ ∃ t ∈ txns, Passing u f t then .error .typeError
      else .ok (txns.filter fun t => decide (Passing u f t ∧ InBounds f t)) := by
  induction txns with
  | nil => simp [resultsOf]; rfl
  | cons t txns ih =>
    rw [resultsOf, examine_eq, ih]
    by_cases pass : Passing u f t
    · by_cases raises : f.qualified = true ∧ f.asks .small
      · have raised : f.qualified = true ∧ f.asks .small ∧ ∃ t' ∈ t :: txns, Passing u f t' :=
          ⟨raises.1, raises.2, t, List.mem_cons_self, pass⟩
        rw [if_pos pass, if_pos raises, if_pos raised]
        rfl
      · rw [if_pos pass, if_neg raises, if_neg (by tauto), if_neg (by tauto)]
        by_cases bounded : InBounds f t
        · rw [List.filter_cons_of_pos (by simp [pass, bounded]), decide_eq_true bounded]
          rfl
        · rw [List.filter_cons_of_neg (by simp [bounded]), decide_eq_false bounded]
          rfl
    · rw [if_neg pass, List.filter_cons_of_neg (by simp [pass])]
      by_cases raises : f.qualified = true ∧ f.asks .small ∧ ∃ t ∈ txns, Passing u f t
      · obtain ⟨qualified, small, t', mem, pass'⟩ := raises
        rw [if_pos ⟨qualified, small, t', mem, pass'⟩, if_pos ⟨qualified, small, t', List.mem_cons_of_mem t mem, pass'⟩]
        rfl
      · have still : ¬ (f.qualified = true ∧ f.asks .small ∧ ∃ t' ∈ t :: txns, Passing u f t') := by
          rintro ⟨qualified, small, t', mem, pass'⟩
          rcases List.mem_cons.mp mem with rfl | mem
          · exact pass pass'
          · exact raises ⟨qualified, small, t', mem, pass'⟩
        rw [if_neg raises, if_neg still]
        rfl

/-! ## Statements -/

/-- A statement runs from the newest row to the oldest. -/
theorem getStatement_newest (db : Db D) (accNo : String) :
    (getStatement db accNo).Pairwise fun t t' => t'.timestamp ≤ t.timestamp := by
  have sorted := @List.pairwise_mergeSort (Transaction D) (fun t t' => decide (t'.timestamp ≤ t.timestamp))
    (by simp only [decide_eq_true_eq]; exact fun _ _ _ h h' => le_trans h' h)
    (by simp only [Bool.or_eq_true, decide_eq_true_eq]; exact fun _ _ => le_total _ _)
    (db.transactions.filter fun t => t.accountNumber = accNo)
  exact sorted.imp of_decide_eq_true

/-- Sorting rows that run from the newest to the oldest. -/
theorem mergeSort_newest {rows : List (Transaction D)}
    (newest : rows.Pairwise fun t t' => t'.timestamp ≤ t.timestamp) :
    rows.mergeSort (fun t t' => t'.timestamp ≤ t.timestamp) = rows :=
  List.mergeSort_of_pairwise (newest.imp decide_eq_true)

section Answer

variable {env : Env D} {now : Instant} {db : Db D} {query accNo : String} {maxResults : ℕ}

open Classical in
/-- The search raises where a row gets to a question for small amounts. -/
theorem executeQuery_raises (readable : filtersOf u now query = .ok f) (given : accNo ≠ "")
    (raises : f.qualified = true ∧ f.asks .small ∧ ∃ t ∈ getStatement db accNo, Passing u f t) :
    executeQuery env u now db query (some accNo) maxResults = .error .typeError := by
  rw [executeQuery_eq readable]
  simp only [statementOf, if_neg given]
  rw [resultsOf_eq, if_pos raises]
  rfl

variable (env maxResults) in
open Classical in
/-- Elsewhere it answers with the rows that pass and are in the bounds. -/
theorem executeQuery_answers (readable : filtersOf u now query = .ok f) (given : accNo ≠ "")
    (silent : ¬ (f.qualified = true ∧ f.asks .small ∧ ∃ t ∈ getStatement db accNo, Passing u f t)) :
    ∃ answer, executeQuery env u now db query (some accNo) maxResults = .ok answer ∧
      answer.results = (((getStatement db accNo).filter fun t => decide (Passing u f t ∧ InBounds f t)).take
        maxResults).map (resultRow env) := by
  have newest := (getStatement_newest db accNo).filter fun t => decide (Passing u f t ∧ InBounds f t)
  rw [executeQuery_eq readable]
  simp only [statementOf, if_neg given]
  rw [resultsOf_eq, if_neg silent]
  refine ⟨_, rfl, ?_⟩
  simp only [answerOf, mergeSort_newest newest]

open Classical in
/-- Without amounts in the query all rows that pass are in the bounds. -/
theorem passingRows_eq (least : f.minAmount = none) (most : f.maxAmount = none) :
    ((getStatement db accNo).filter fun t => decide (Passing u f t ∧ InBounds f t)) = passingRows u f db accNo := by
  refine List.filter_congr fun t _ => ?_
  have bounded : InBounds f t := ⟨by simp [least], by simp [most]⟩
  simp [bounded]

open Classical in
/-- The wanted rows are those of the rows that pass and are in the bounds that have the sizes asked for. -/
theorem wanted_rows (avg : D) (txns : List (Transaction D)) :
    (txns.filter fun t => decide (Wanted u f avg t)) =
      (txns.filter fun t => decide (Passing u f t ∧ InBounds f t)).filter fun t =>
        decide (f.minAmount = none → f.maxAmount = none → Sized f avg t) := by
  rw [List.filter_filter]
  refine List.filter_congr fun t _ => ?_
  rw [← Bool.decide_and]
  refine decide_eq_decide.mpr ⟨?_, ?_⟩
  · intro wanted
    exact ⟨wanted.sized, wanted.passing, wanted.inBounds⟩
  · intro ⟨sized, passing, inBounds⟩
    exact ⟨passing, inBounds, sized⟩

open Classical in
/-- **Which searches are answered.** For a query whose amounts parse, the answer is the wanted rows of the account,
newest first and cut, if and only if no row gets to a question for small amounts, and the rows of the answer are large
where the query asks for large ones and names no amount. -/
theorem search_answers_iff (env : Env D) (u : Unicode) (now : Instant) (db : Db D) (query accNo : String)
    (maxResults : ℕ) (f : Filters) (readable : filtersOf u now query = .ok f) (given : accNo ≠ "")
    (distinct : (db.transactions.map Transaction.txnId).Nodup) :
    Answers u f env now db query accNo maxResults ↔ Answerable u f db accNo maxResults := by
  have perm := List.mergeSort_perm (db.transactions.filter fun t => t.accountNumber = accNo)
    fun t t' => decide (t'.timestamp ≤ t.timestamp)
  constructor
  · intro ⟨answer, rows, answered, same, _, shown⟩
    have silent : ¬ (f.qualified = true ∧ f.asks .small ∧ ∃ t ∈ getStatement db accNo, Passing u f t) := by
      intro raises
      rw [executeQuery_raises readable given raises] at answered
      cases answered
    constructor
    · intro qualified small
      refine List.filter_eq_nil_iff.mpr fun t mem => ?_
      intro pass
      exact silent ⟨qualified, small, t, mem, of_decide_eq_true pass⟩
    · intro least most large t first
      obtain ⟨answer', answered', shown'⟩ := executeQuery_answers env maxResults
        readable given silent
      rw [passingRows_eq least most] at shown'
      have same' : answer' = answer := Except.ok.inj (answered'.symm.trans answered)
      have displayed : resultRow env t ∈ (rows.take maxResults).map (resultRow env) := by
        rw [← shown, ← same', shown']
        exact List.mem_map_of_mem first
      obtain ⟨t', mem', displays⟩ := List.mem_map.mp displayed
      have wanted' := List.mem_filter.mp (same.mem_iff.mp (List.mem_of_mem_take mem'))
      have own := List.mem_filter.mp (List.mem_of_mem_take first)
      have row : t' = t := by
        have id : t'.txnId = t.txnId := congrArg ResultRow.txnId displays
        refine List.inj_on_of_nodup_map distinct ?_ ?_ id
        · exact List.mem_of_mem_filter wanted'.1
        · exact List.mem_of_mem_filter (perm.mem_iff.mp own.1)
      have wanted := of_decide_eq_true wanted'.2
      rw [row] at wanted
      exact (wanted.sized least most).large large
  · intro answerable
    have silent : ¬ (f.qualified = true ∧ f.asks .small ∧ ∃ t ∈ getStatement db accNo, Passing u f t) := by
      intro ⟨qualified, small, t, mem, pass⟩
      have none := List.filter_eq_nil_iff.mp (answerable.small qualified small) t mem
      exact none (decide_eq_true pass)
    obtain ⟨answer, answered, shown⟩ := executeQuery_answers env maxResults
      readable given silent
    refine ⟨answer, (getStatement db accNo).filter fun t => decide (Wanted u f _ t), answered, perm.filter _,
      (getStatement_newest db accNo).filter _, ?_⟩
    rw [shown, wanted_rows]
    refine congrArg _ (take_filter ?_).symm
    intro t first
    refine decide_eq_true fun least most => ?_
    rw [passingRows_eq least most] at first
    constructor
    · intro large
      exact answerable.large least most large t first
    · intro small
      have none := answerable.small (Filters.qualified_of_none small least most) small
      rw [none, List.take_nil] at first
      cases first

end Answer

end Analyzr

/-! ## Large deposits -/

namespace Sample

open Analyzr

/-- A search for large deposits above an amount is answered. -/
theorem salary_over_answered : ∃ f, filtersOf ascii 1709200000000000 "large deposits over 50" = .ok f ∧
    Answers ascii f rupeeEnv 1709200000000000 (lone "1001" [salary]) "large deposits over 50" "1001" 50 := by
  have facts : (filtersOf ascii 1709200000000000 "large deposits over 50").toOption.any (fun f =>
      f.minAmount ≠ none ∧ f.qualified = false) = true := by decide +kernel
  cases readable : filtersOf ascii 1709200000000000 "large deposits over 50" with
  | error e => rw [readable] at facts; cases facts
  | ok f =>
    rw [readable] at facts
    have known : f.minAmount ≠ none ∧ f.qualified = false := of_decide_eq_true facts
    refine ⟨f, rfl, (search_answers_iff rupeeEnv ascii 1709200000000000 (lone "1001" [salary]) "large deposits over 50" "1001" 50 f
      readable (by decide) (by decide)).mpr ?_⟩
    constructor
    · intro qualified
      rw [known.2] at qualified
      cases qualified
    · intro least
      exact absurd least known.1

/-- A search for large deposits finds a deposit of the average amount, and one for small deposits raises. -/
theorem average_deposit_found : (∃ f, filtersOf ascii 1709200000000000 "large deposits" = .ok f ∧
      ¬ Answers ascii f rupeeEnv 1709200000000000 (lone "1001" [salary]) "large deposits" "1001" 50) ∧
    executeQuery rupeeEnv ascii 1709200000000000 (lone "1001" [salary]) "small deposits" (some "1001") 50 =
      .error QueryError.typeError := by
  constructor
  · classical
    have facts : (filtersOf ascii 1709200000000000 "large deposits").toOption.any (fun f =>
        f.minAmount = none ∧ f.maxAmount = none ∧ f.asks .large) = true := by decide +kernel
    have seen : (executeQuery rupeeEnv ascii 1709200000000000 (lone "1001" [salary]) "large deposits" (some "1001") 50).toOption.map
        (fun answer => answer.results.length) = some 1 := by decide +kernel
    cases readable : filtersOf ascii 1709200000000000 "large deposits" with
    | error e => rw [readable] at facts; cases facts
    | ok f =>
      rw [readable] at facts
      obtain ⟨least, most, large⟩ := of_decide_eq_true (Option.any_some ▸ facts)
      refine ⟨f, rfl, ?_⟩
      intro ⟨answer, rows, answered, same, _, shown⟩
      have none : rows = [] := by
        refine List.Perm.eq_nil (same.trans (List.Perm.of_eq ?_))
        refine List.filter_eq_nil_iff.mpr fun t mem wanted => ?_
        have sized := (of_decide_eq_true wanted).sized least most
        have average : computeAverageTxnAmount
            ((lone "1001" [salary]).transactions.filter fun t => t.accountNumber = "1001") = 2500 := by decide +kernel
        have enough := sized.large large
        have only : t = salary := List.mem_singleton.mp (List.mem_of_mem_filter mem)
        rw [average, only] at enough
        exact absurd enough (by decide +kernel)
      rw [answered] at seen
      have empty : answer.results.length = 1 := Option.some.inj seen
      rw [shown, none] at empty
      cases empty
  · have seen : (match executeQuery rupeeEnv ascii 1709200000000000 (lone "1001" [salary]) "small deposits" (some "1001") 50 with
        | .error .typeError => true
        | _ => false) = true := by decide +kernel
    split at seen
    · assumption
    · cases seen

end Sample

end UnionBank
