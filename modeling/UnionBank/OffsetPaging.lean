import UnionBank.Lib.Offset
import UnionBank.Dormancy
import UnionBank.DoubleEntry
import UnionBank.Paging

/-!
# Offset paging of the transactions

An admin reads all transactions page by page, from the newest to the oldest, and others move money in between. The
database may put rows with one timestamp in any order, a different one for each page.

- `getPaginated`, `Api.adminViewTransactions`: one page;
- `Bank.browsed`: the pages that are read one after another, with visits in between;
- `day_log`: the log only grows, and its ids stay distinct;
- `browsed_single`: a row that is alone with its timestamp is on one of the pages;
- `browsed_certain_iff`: which rows are on one of the pages whatever the orders are.
-/

namespace UnionBank

open Keyed Programs

set_option linter.unusedSectionVars false

/-! ## One page -/

section Pages

variable {D : Type}

/-- `get_paginated`, on a database that orders rows by `order`: the rows of the page, and how many rows there are. -/
def getPaginated (order : Keyset.Descending (Transaction.timestamp (D := D))) (rows : List (Transaction D))
    (filter : KeysetFilter) (page perPage : ℕ) : List (Transaction D) × ℕ :=
  let query := rows.filter filter.selects
  let offset := (page - 1) * perPage
  (((order.sort query).drop offset).take perPage, query.length)

/-- The rows of an account; without text, or without an account, all rows. -/
def KeysetFilter.byAccount (account : Option String) : KeysetFilter := ⟨account.filter (· ≠ ""), none, none, none⟩

/-- `admin_view_transactions`. -/
def Api.adminViewTransactions (order : Keyset.Descending (Transaction.timestamp (D := D)))
    (rows : List (Transaction D)) (account : Option String) (page perPage : ℕ) : List (Transaction D) :=
  (getPaginated order rows (.byAccount account) page perPage).1

end Pages

variable {D : Type} [Zero D] [Add D] [Sub D] [LE D] [LT D] [DecidableEq D] [DecidableLE D] [DecidableLT D]

/-! ## The log grows -/

section Log

variable {B : Backend D} {db db' : Db D}

theorem apply_distinct {c : Change D} (h : c.apply B db = .ok db')
    (distinct : (db.transactions.map Transaction.txnId).Nodup) :
    (db'.transactions.map Transaction.txnId).Nodup := by
  cases staged : c.row? with
  | none =>
    obtain ⟨stored, log, kept⟩ := apply_rows h
    have nothing : rowsOf [c] = [] := by simp [rowsOf, staged]
    rw [nothing] at kept
    obtain rfl := List.forall₂_nil_left_iff.mp kept
    rw [log, List.append_nil]
    exact distinct
  | some t =>
    obtain rfl : c = .insert (.transaction t) := by
      unfold Change.row? at staged
      split at staged
      · cases staged
        rfl
      · cases staged
    obtain ⟨amount, -, balance, -, -, -, fresh, rfl⟩ := apply_insertTransaction_ok.mp h
    show ((db.transactions ++ [{ t with amount, balance }]).map Transaction.txnId).Nodup
    rw [List.map_append, List.nodup_append]
    refine ⟨distinct, by simp, ?_⟩
    rintro id old id' new rfl
    rw [List.map_singleton, List.mem_singleton] at new
    exact fresh (new ▸ old)

/-- What is committed together. -/
theorem flush_log {cs : List (Change D)} (h : flush B cs db = .ok db')
    (distinct : (db.transactions.map Transaction.txnId).Nodup) :
    db.transactions.Sublist db'.transactions ∧ (db'.transactions.map Transaction.txnId).Nodup := by
  constructor
  · obtain ⟨stored, log, -⟩ := flush_rows h
    rw [log]
    exact List.sublist_append_left ..
  · induction cs generalizing db with
    | nil =>
      cases h
      exact distinct
    | cons c cs ih =>
      obtain ⟨db₁, h₁, h₂⟩ := (flush_cons_ok B).mp h
      exact ih h₂ (apply_distinct h₁ distinct)

end Log

section Browse

variable (env : Env D) (checks : Checks) (B : Backend D)

/-- What visits leave of a log with distinct ids. -/
structure Bank.Extends (bank bank' : Bank D) : Prop where
  idle : bank'.Idle
  distinct : (bank'.db.transactions.map Transaction.txnId).Nodup
  grows : bank.db.transactions.Sublist bank'.db.transactions

/-- A bank between two visits, with distinct ids in its log. -/
theorem day_log {bank : Bank D} (idle : bank.Idle) (distinct : (bank.db.transactions.map Transaction.txnId).Nodup)
    (visits : List (ℕ × Visit D)) : bank.Extends (bank.day env checks B visits) := by
  induction visits generalizing bank with
  | nil => exact ⟨idle, distinct, .refl _⟩
  | cons tv visits ih =>
    obtain ⟨attended, idle'⟩ := attend_settles env checks B idle tv.1 tv.2
    have kept : bank.db.transactions.Sublist (bank.attend env checks B tv.1 tv.2).2.db.transactions ∧
        ((bank.attend env checks B tv.1 tv.2).2.db.transactions.map Transaction.txnId).Nodup := by
      cases attended with
      | unmoved ledger =>
        rw [congrArg Ledger.transactions ledger]
        exact ⟨.refl _, distinct⟩
      | moved writes flushed ledger =>
        rw [congrArg Ledger.transactions ledger]
        exact flush_log flushed distinct
    obtain ⟨idle'', distinct'', grows⟩ := ih idle' kept.2
    exact ⟨idle'', distinct'', kept.1.trans grows⟩

theorem day_append (bank : Bank D) (visits visits' : List (ℕ × Visit D)) :
    bank.day env checks B (visits ++ visits') = (bank.day env checks B visits).day env checks B visits' := by
  induction visits generalizing bank with
  | nil => rfl
  | cons tv visits ih => exact ih _

namespace Bank

variable (orders : ℕ → Keyset.Descending (Transaction.timestamp (D := D))) (account : Option String) (perPage : ℕ)

/-- The rows for a page: before the page with index `i` others have made the first `i` runs of visits. -/
def listed (bank : Bank D) (runs : List (List (ℕ × Visit D))) (i : ℕ) : List (Transaction D) :=
  (bank.day env checks B (runs.take i).flatten).db.transactions

/-- The page with index `i` of those that are read one after another. -/
def browsed (bank : Bank D) (runs : List (List (ℕ × Visit D))) (i : ℕ) : List (Transaction D) :=
  Api.adminViewTransactions (orders i) (bank.listed env checks B runs i) account (i + 1) perPage

end Bank

variable {bank : Bank D} {account : Option String}

/-- What a query selects only grows from page to page. -/
theorem listed_grows (idle : bank.Idle) (distinct : (bank.db.transactions.map Transaction.txnId).Nodup)
    (filter : KeysetFilter) (runs : List (List (ℕ × Visit D))) (i : ℕ) :
    ((bank.listed env checks B runs i).filter filter.selects).Sublist
      ((bank.listed env checks B runs (i + 1)).filter filter.selects) := by
  have before := day_log env checks B idle distinct (runs.take i).flatten
  unfold Bank.listed
  rw [List.take_add_one, List.flatten_append, day_append]
  exact (day_log env checks B before.idle before.distinct _).grows.filter _

/-- A row of the first page's query is one of every page's. -/
theorem mem_listed (idle : bank.Idle) (distinct : (bank.db.transactions.map Transaction.txnId).Nodup)
    {filter : KeysetFilter} (runs : List (List (ℕ × Visit D))) {t : Transaction D}
    (present : t ∈ bank.db.transactions.filter filter.selects) (i : ℕ) :
    t ∈ (bank.listed env checks B runs i).filter filter.selects := by
  induction i with
  | zero => exact present
  | succ i ih => exact (listed_grows env checks B idle distinct filter runs i).subset ih

/-- **A row is not lost.** An admin reads the transactions of an account, or all of them, page by page until a page is
not full. Whatever visits others make in between, every row that was there at the start is on one of the pages, unless
another row that is read has its timestamp. -/
theorem browsed_single (idle : bank.Idle) (distinct : (bank.db.transactions.map Transaction.txnId).Nodup)
    (orders : ℕ → Keyset.Descending (Transaction.timestamp (D := D))) (account : Option String) {perPage : ℕ}
    (runs : List (List (ℕ × Visit D)))
    (short : (bank.browsed env checks B orders account perPage runs runs.length).length < perPage)
    {t : Transaction D} (present : t ∈ bank.db.transactions.filter (KeysetFilter.byAccount account).selects)
    (single : ((bank.listed env checks B runs runs.length).filter (KeysetFilter.byAccount account).selects).countP
      (fun t' => t'.timestamp = t.timestamp) ≤ 1) :
    ∃ i ≤ runs.length, t ∈ bank.browsed env checks B orders account perPage runs i := by
  have few : ((bank.listed env checks B runs runs.length).filter (KeysetFilter.byAccount account).selects).length <
      (runs.length + 1) * perPage := by
    simp only [Bank.browsed, Api.adminViewTransactions, getPaginated, List.length_take, List.length_drop,
      ((orders _).perm _).length_eq, Nat.add_sub_cancel] at short
    rw [Nat.succ_mul]
    omega
  obtain ⟨i, read, covers⟩ := Offset.covers_of_single (listed_grows env checks B idle distinct _ runs) single few
  refine ⟨i, read, Offset.mem_page_of_covers (orders i) ?_ covers⟩
  exact mem_listed env checks B idle distinct runs present i

/-- **Which rows are certain.** A row that was there at the start is on one of the pages, in whatever order the store
puts rows with one timestamp, if and only if one of the pages holds all rows with its timestamp. -/
theorem browsed_certain_iff (idle : bank.Idle) (distinct : (bank.db.transactions.map Transaction.txnId).Nodup)
    (account : Option String) (perPage : ℕ) (runs : List (List (ℕ × Visit D))) {t : Transaction D}
    (present : t ∈ bank.db.transactions.filter (KeysetFilter.byAccount account).selects) :
    (∀ orders, ∃ i ≤ runs.length, t ∈ bank.browsed env checks B orders account perPage runs i) ↔
      ∃ i ≤ runs.length, Offset.Covers Transaction.timestamp perPage i
        ((bank.listed env checks B runs i).filter (KeysetFilter.byAccount account).selects) t := by
  refine Offset.certain_iff (fun i _ => ?_) fun i _ => mem_listed env checks B idle distinct runs present i
  have ids := (day_log env checks B idle distinct (runs.take i).flatten).distinct
  exact ids.of_map.filter _

end Browse

/-! ## A deposit and a transfer -/

namespace Sample

def newestFirst : Keyset.Descending (Transaction.timestamp (D := ℤ)) where
  sort rows := rows.insertionSort fun t t' => t'.timestamp ≤ t.timestamp
  perm rows := rows.perm_insertionSort _
  descends rows := rows.pairwise_insertionSort _

/-- Account 1001 has got a deposit, and has paid account 1002. -/
def traded : Bank ℤ := (bank 10000 5000 0).day paiseEnv lenient paise
  [(0, .call ⟨.deposit "1001" 500 "General" none, draws 1⟩),
    (0, .call ⟨.transfer "1001" "1002" 300 "General" none, draws 2⟩)]

def paidInRow : Transaction ℤ := ⟨"T1", "1001", .deposit, 500, 10500, "Deposit", "General", none, 1⟩

def paidOutRow : Transaction ℤ :=
  ⟨"T2", "1001", .transferOut, 300, 10200, "Transfer to 1002", "General", some "1002", 2⟩

/-- What others do after each page. -/
def meantime : List (List (ℕ × Visit ℤ)) := [[(1, .call ⟨.deposit "1001" 700 "General" none, draws 3⟩)], [], []]

theorem traded_log : (bank 10000 5000 0).Extends traded :=
  day_log paiseEnv lenient paise (bank_idle 10000 5000 0) (by decide) _

/-- Another deposit comes after the first page; the deposit is on one of the pages of one row each. -/
theorem browsed_single_deposit : ∃ i ≤ 3,
    paidInRow ∈ traded.browsed paiseEnv lenient paise (fun _ => newestFirst) (some "1001") 1 meantime i := by
  refine browsed_single paiseEnv lenient paise traded_log.idle traded_log.distinct (fun _ => newestFirst)
    (some "1001") meantime ?_ ?_ ?_
  · decide +kernel
  · decide +kernel
  · decide +kernel

/-- On pages of one row, the database may show the other side of a transfer twice. -/
theorem browsed_certain_iff_transfer : ¬ ∀ orders, ∃ i ≤ 2,
    paidOutRow ∈ traded.browsed paiseEnv lenient paise orders none 1 [[], []] i := by
  intro certain
  have covered := (browsed_certain_iff paiseEnv lenient paise traded_log.idle traded_log.distinct none 1 [[], []]
    (by decide +kernel)).mp certain
  exact absurd covered (by decide +kernel)

end Sample

end UnionBank
