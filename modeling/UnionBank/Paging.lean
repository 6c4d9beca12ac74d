import UnionBank.Lib.Keyset
import UnionBank.Search

/-!
# Keyset paging of the statement

`get_paginated_keyset` reads one row more than a page holds, from the newest row to the oldest, and a page goes on with
the rows that are strictly older than the last one of the page before. The database may put rows with one timestamp in
any order, a different one for each page.

- `KeysetFilter`, `getPaginatedKeyset`: one page;
- `Schedule`, `follow`: the pages a client gets by following the cursor while new transactions are written;
- `Complete`: every row once, from the newest to the oldest, and `has_more` exactly while rows remain;
- `paging_complete_iff`: paging is complete if and only if no rows with one timestamp lie across a page end.
-/

namespace UnionBank

variable {D : Type}

/-! ## One page -/

/-- The filters of a page. Without text they are not given. -/
structure KeysetFilter where
  accNo : Option String
  fromDate : Option Time
  toDate : Option Time
  txnType : Option String

namespace KeysetFilter

/-- The rows of the query without a cursor. -/
def selects (filter : KeysetFilter) (t : Transaction D) : Bool :=
  (filter.accNo.all fun accNo => accNo = "" ∨ t.accountNumber = accNo) &&
  (filter.fromDate.all fun fromDate => fromDate ≤ t.timestamp) &&
  (filter.toDate.all fun toDate => t.timestamp ≤ toDate) &&
  filter.txnType.all fun txnType => txnType = "" ∨ t.type.value = txnType

end KeysetFilter

structure KeysetPage (D : Type) where
  items : List (Transaction D) := []
  cursor : Option Time := none
  hasMore : Bool := false
  cursorKey : String := "timestamp"

/-- The rows of the query. -/
def keysetRows (filter : KeysetFilter) (cursor : Option Time) (rows : List (Transaction D)) : List (Transaction D) :=
  (rows.filter filter.selects).filter fun t => cursor.all fun cursor => t.timestamp < cursor

/-- `get_paginated_keyset`, on a database that orders rows by `order`. -/
def getPaginatedKeyset (order : Keyset.Descending (Transaction.timestamp (D := D))) (rows : List (Transaction D))
    (filter : KeysetFilter) (limit : ℕ) (cursor : Option Time) : KeysetPage D :=
  let models := (order.sort (keysetRows filter cursor rows)).take (limit + 1)
  let items := models.take limit
  { items, hasMore := decide (limit < models.length), cursor := items.getLast?.map Transaction.timestamp }

/-! ## Following the cursor -/

/-- How the database orders the rows of each page, and what is written after it. -/
structure Schedule (D : Type) where
  order : ℕ → Keyset.Descending (Transaction.timestamp (D := D))
  inserted : ℕ → List (Transaction D)

/-- The pages from number `i` on, until one has no more; `none` where they are more than `fuel`. -/
def Schedule.follow (schedule : Schedule D) (filter : KeysetFilter) (limit : ℕ) :
    ℕ → ℕ → List (Transaction D) → Option Time → Option (List (KeysetPage D))
  | 0, _, _, _ => none
  | fuel + 1, i, rows, cursor =>
    let page := getPaginatedKeyset (schedule.order i) rows filter limit cursor
    if page.hasMore then
      (schedule.follow filter limit fuel (i + 1) (rows ++ schedule.inserted i) page.cursor).map (page :: ·)
    else some [page]

/-- What is written is newer than the rows present before, or as new. -/
def Schedule.Newer (schedule : Schedule D) (present : List (Transaction D)) : Prop :=
  ∀ i, ∀ t ∈ schedule.inserted i, ∀ t' ∈ present, t'.timestamp ≤ t.timestamp

/-- The rows of all pages. -/
def itemsOf (pages : List (KeysetPage D)) : List (Transaction D) := pages.flatMap KeysetPage.items

/-- The pages show all rows once, from the newest to the oldest, and each says whether rows remain. -/
structure Complete (rows : List (Transaction D)) (pages : List (KeysetPage D)) : Prop where
  once : (itemsOf pages).Perm rows
  newest : (itemsOf pages).Pairwise fun t t' => t'.timestamp ≤ t.timestamp
  more : ∀ before page after, pages = before ++ page :: after →
    (page.hasMore = true ↔ ∃ t ∈ rows, t ∉ itemsOf (before ++ [page]))

/-! ## The rows of a page -/

variable {filter : KeysetFilter} {limit : ℕ} {rows : List (Transaction D)} {cursor : Option Time}

/-- A cursor at a row of the query selects the older rows of the query. -/
theorem keysetRows_some {t : Transaction D} (mem : t ∈ keysetRows filter cursor rows) :
    keysetRows filter (some t.timestamp) rows =
      (keysetRows filter cursor rows).filter fun t' => t'.timestamp < t.timestamp := by
  have before : ∀ c ∈ cursor, t.timestamp < c := by
    intro c hc
    have below := (List.mem_filter.mp mem).2
    rw [Option.mem_def.mp hc] at below
    exact of_decide_eq_true below
  unfold keysetRows
  rw [List.filter_filter (l := rows.filter filter.selects)]
  refine List.filter_congr fun t' _ => ?_
  cases cursor with
  | none => simp
  | some c =>
    have earlier := before c rfl
    by_cases older : t'.timestamp < t.timestamp
    · simp [older, lt_trans older earlier]
    · simp [older]

/-- Rows that are not older than the cursor are not in the query. -/
theorem keysetRows_inserted {c : Time} {inserted : List (Transaction D)} (newer : ∀ t ∈ inserted, c ≤ t.timestamp) :
    keysetRows filter (some c) (rows ++ inserted) = keysetRows filter (some c) rows := by
  unfold keysetRows
  rw [List.filter_append, List.filter_append]
  have none : (inserted.filter filter.selects).filter (fun t => (some c).all fun c => t.timestamp < c) = [] := by
    refine List.filter_eq_nil_iff.mpr fun t mem older => ?_
    exact absurd (of_decide_eq_true older) (not_lt.mpr (newer t (List.mem_of_mem_filter mem)))
  rw [none, List.append_nil]

variable {order : Keyset.Descending (Transaction.timestamp (D := D))}

variable (order) in
/-- The last page. -/
theorem getPaginatedKeyset_last (short : (keysetRows filter cursor rows).length ≤ limit) :
    (getPaginatedKeyset order rows filter limit cursor).hasMore = false ∧
    (getPaginatedKeyset order rows filter limit cursor).items = order.sort (keysetRows filter cursor rows) := by
  have length := (order.perm (keysetRows filter cursor rows)).length_eq
  constructor
  · refine decide_eq_false ?_
    rw [List.length_take]
    omega
  · show ((order.sort (keysetRows filter cursor rows)).take (limit + 1)).take limit = _
    have all : (order.sort (keysetRows filter cursor rows)).take (limit + 1) =
        order.sort (keysetRows filter cursor rows) := List.take_of_length_le (by omega)
    rw [all, List.take_of_length_le (by omega)]

/-- A page that is not the last one. -/
theorem getPaginatedKeyset_more {init rest : List (Transaction D)} {t t' : Transaction D}
    (sorted : order.sort (keysetRows filter cursor rows) = init ++ [t] ++ t' :: rest)
    (full : (init ++ [t]).length = limit) :
    getPaginatedKeyset order rows filter limit cursor =
      { items := init ++ [t], cursor := some t.timestamp, hasMore := true } := by
  have models : (order.sort (keysetRows filter cursor rows)).take (limit + 1) = init ++ [t] ++ [t'] := by
    rw [sorted, ← full, List.take_length_add_append]
    rfl
  have items : (init ++ [t] ++ [t']).take limit = init ++ [t] := List.take_left' full
  simp only [getPaginatedKeyset, models, items]
  have more : limit < (init ++ [t] ++ [t']).length := by
    rw [List.length_append, full]
    exact Nat.lt_succ_self limit
  rw [decide_eq_true more, List.getLast?_concat]
  rfl

/-! ## All pages -/

theorem itemsOf_cons (page : KeysetPage D) (pages : List (KeysetPage D)) :
    itemsOf (page :: pages) = page.items ++ itemsOf pages := List.flatMap_cons

/-- One page that shows all rows is complete. -/
theorem complete_single {page : KeysetPage D} (perm : page.items.Perm rows)
    (newest : page.items.Pairwise fun t t' => t'.timestamp ≤ t.timestamp) (last : page.hasMore = false) :
    Complete rows [page] := by
  constructor
  · simpa [itemsOf] using perm
  · simpa [itemsOf] using newest
  · intro before page' after split
    obtain ⟨rfl, rest⟩ | ⟨_, _, rest⟩ := List.cons_eq_append_iff.mp split
    · obtain ⟨rfl, _⟩ := List.cons_eq_cons.mp rest
      simp [last, itemsOf, perm.mem_iff]
    · simp at rest

/-- A page before complete ones. -/
theorem complete_cons {page : KeysetPage D} {pages : List (KeysetPage D)} {first rest : List (Transaction D)}
    (perm : (first ++ rest).Perm rows) (items : page.items = first)
    (descends : first.Pairwise fun t t' => t'.timestamp ≤ t.timestamp)
    (apart : ∀ t ∈ first, ∀ t' ∈ rest, t'.timestamp < t.timestamp)
    (left : rest ≠ []) (more : page.hasMore = true) (complete : Complete rest pages) :
    Complete rows (page :: pages) := by
  have disjoint : ∀ t ∈ rest, t ∉ first := by
    intro t mem mem'
    exact lt_irrefl _ (apart t mem' t mem)
  constructor
  · rw [itemsOf_cons, items]
    exact (complete.once.append_left first).trans perm
  · rw [itemsOf_cons, items]
    refine List.pairwise_append.mpr ⟨descends, complete.newest, ?_⟩
    intro t mem t' mem'
    exact (apart t mem t' (complete.once.mem_iff.mp mem')).le
  · intro before page' after split
    obtain ⟨rfl, here⟩ | ⟨before', rfl, later⟩ := List.cons_eq_append_iff.mp split
    · obtain ⟨rfl, _⟩ := List.cons_eq_cons.mp here
      obtain ⟨t, mem⟩ := List.exists_mem_of_ne_nil rest left
      refine iff_of_true more ⟨t, perm.mem_iff.mp (List.mem_append_right first mem), ?_⟩
      simpa [itemsOf, items] using disjoint t mem
    · rw [complete.more before' page' after later, List.cons_append, itemsOf_cons, items]
      constructor
      · intro ⟨t, mem, missing⟩
        refine ⟨t, perm.mem_iff.mp (List.mem_append_right first mem), ?_⟩
        rw [List.mem_append, not_or]
        exact ⟨disjoint t mem, missing⟩
      · intro ⟨t, mem, missing⟩
        rw [List.mem_append, not_or] at missing
        rcases List.mem_append.mp (perm.mem_iff.mpr mem) with inFirst | inRest
        · exact absurd inFirst missing.1
        · exact ⟨t, inRest, missing.2⟩

/-- What following the cursor comes to. The induction is on the rows that are left; a page takes at least one, and what
is written in between is never among them. -/
theorem follow_spec {schedule : Schedule D} {present : List (Transaction D)} (newer : schedule.Newer present)
    (positive : 1 ≤ limit) (n : ℕ) : ∀ (i : ℕ) (rows : List (Transaction D)) (cursor : Option Time),
    (keysetRows filter cursor rows).length ≤ n → (keysetRows filter cursor rows).Nodup →
    (∀ t ∈ keysetRows filter cursor rows, t ∈ present) →
    ∃ pages, (∀ fuel, n < fuel → schedule.follow filter limit fuel i rows cursor = some pages) ∧
      (∀ t ∈ itemsOf pages, t ∈ keysetRows filter cursor rows) ∧
      (Keyset.Untied Transaction.timestamp limit (keysetRows filter cursor rows) →
        Complete (keysetRows filter cursor rows) pages) ∧
      ((itemsOf pages).Perm (keysetRows filter cursor rows) →
        Keyset.Untied Transaction.timestamp limit (keysetRows filter cursor rows)) := by
  induction n using Nat.strong_induction_on with
  | _ n ih =>
    intro i rows cursor bound nodup known
    have perm := (schedule.order i).perm (keysetRows filter cursor rows)
    have descends := (schedule.order i).descends (keysetRows filter cursor rows)
    by_cases short : (keysetRows filter cursor rows).length ≤ limit
    · obtain ⟨last, items⟩ := getPaginatedKeyset_last (schedule.order i) short
      refine ⟨[getPaginatedKeyset (schedule.order i) rows filter limit cursor], ?_, ?_, ?_, ?_⟩
      · intro fuel enough
        obtain ⟨fuel, rfl⟩ : ∃ k, fuel = k + 1 := ⟨fuel - 1, by omega⟩
        simp [Schedule.follow, last]
      · intro t mem
        simpa [itemsOf, items, perm.mem_iff] using mem
      · intro _
        exact complete_single (items ▸ perm) (items ▸ descends) last
      · intro _
        exact Keyset.untied_of_length_le short
    · have long : limit < ((schedule.order i).sort (keysetRows filter cursor rows)).length := by
        rw [perm.length_eq]
        omega
      obtain ⟨init, t, t', rest, split, full⟩ := Keyset.split_page positive long
      have page := getPaginatedKeyset_more split full
      rw [split] at perm descends
      have here : t ∈ keysetRows filter cursor rows := perm.mem_iff.mp (by simp)
      -- the rows left for the next page
      have left : keysetRows filter (some t.timestamp) (rows ++ schedule.inserted i) =
          (keysetRows filter cursor rows).filter fun t'' => t''.timestamp < t.timestamp := by
        rw [keysetRows_inserted fun t'' mem => newer i t'' mem t (known t here), keysetRows_some here]
      have fewer : ((keysetRows filter cursor rows).filter fun t'' => t''.timestamp < t.timestamp).length <
          (keysetRows filter cursor rows).length := by
        refine lt_of_le_of_ne (List.length_filter_le ..) fun same => ?_
        have all := List.length_filter_eq_length_iff.mp same t here
        exact lt_irrefl _ (of_decide_eq_true all)
      obtain ⟨pages, followed, shown, complete, untied⟩ := ih _ (lt_of_lt_of_le fewer bound) (i + 1)
        (rows ++ schedule.inserted i) (some t.timestamp) (by rw [left]) (by rw [left]; exact nodup.filter _)
        (by rw [left]; exact fun t'' mem => known t'' (List.mem_of_mem_filter mem))
      rw [left] at shown complete untied
      refine ⟨getPaginatedKeyset (schedule.order i) rows filter limit cursor :: pages, ?_, ?_, ?_⟩
      · intro fuel enough
        obtain ⟨fuel, rfl⟩ : ∃ k, fuel = k + 1 := ⟨fuel - 1, by omega⟩
        simp [Schedule.follow, page, followed fuel (by omega)]
      · intro t'' mem
        rw [itemsOf_cons, page] at mem
        rcases List.mem_append.mp mem with mem | mem
        · exact perm.mem_iff.mp (List.mem_append_left _ mem)
        · exact List.mem_of_mem_filter (shown t'' mem)
      by_cases apart : t'.timestamp < t.timestamp
      · have below := Keyset.below_page descends apart
        have leftPerm : (t' :: rest).Perm
            ((keysetRows filter cursor rows).filter fun t'' => t''.timestamp < t.timestamp) := below ▸ perm.filter _
        have sides : ∀ a ∈ init ++ [t], ∀ b ∈ (keysetRows filter cursor rows).filter (fun t'' =>
            t''.timestamp < t.timestamp), b.timestamp < a.timestamp := by
          intro a ha b hb
          have older : b.timestamp < t.timestamp := of_decide_eq_true (List.mem_filter.mp hb).2
          rcases List.mem_append.mp ha with ha | ha
          · have page := (List.pairwise_append.mp descends).1
            exact lt_of_lt_of_le older ((List.pairwise_append.mp page).2.2 a ha t List.mem_cons_self)
          · rw [List.mem_singleton.mp ha]
            exact older
        have whole : (init ++ [t] ++ (keysetRows filter cursor rows).filter fun t'' =>
            t''.timestamp < t.timestamp).Perm (keysetRows filter cursor rows) :=
          (leftPerm.symm.append_left _).trans perm
        have ends : Keyset.Untied Transaction.timestamp limit (keysetRows filter cursor rows) ↔
            Keyset.Untied Transaction.timestamp limit ((keysetRows filter cursor rows).filter fun t'' =>
              t''.timestamp < t.timestamp) := by
          rw [← Keyset.untied_perm whole]
          exact Keyset.untied_append full sides
        constructor
        · intro tidy
          refine complete_cons whole (by rw [page]) (List.pairwise_append.mp descends).1 sides ?_ (by rw [page])
            (complete (ends.mp tidy))
          exact fun none => List.cons_ne_nil t' rest ((none ▸ leftPerm).eq_nil)
        · intro once
          rw [itemsOf_cons, page] at once
          exact ends.mpr (untied ((List.perm_append_left_iff _).mp (once.trans whole.symm)))
      · have same : t'.timestamp = t.timestamp := by
          have order := (List.pairwise_append.mp descends).2.2 t (by simp) t' List.mem_cons_self
          exact le_antisymm order (not_lt.mp apart)
        have tied : ¬ Keyset.Untied Transaction.timestamp limit (keysetRows filter cursor rows) := by
          rw [← Keyset.untied_perm perm]
          exact Keyset.not_untied full descends same
        constructor
        · exact fun tidy => absurd tidy tied
        · intro once
          -- the first row behind the page is not on it, and the later pages are strictly older
          have mem : t' ∈ itemsOf (getPaginatedKeyset (schedule.order i) rows filter limit cursor :: pages) :=
            once.mem_iff.mpr (perm.mem_iff.mp (by simp))
          rw [itemsOf_cons, page] at mem
          rcases List.mem_append.mp mem with onPage | later
          · have twice := perm.nodup_iff.mpr nodup
            exact absurd List.mem_cons_self ((List.nodup_append.mp twice).2.2 t' onPage t' · rfl)
          · have older := (List.mem_filter.mp (shown t' later)).2
            exact absurd (of_decide_eq_true older) apart

/-- **Paging.** For every store with distinct ids, filter, page length and schedule of newer transactions, following the
cursor ends, and its pages are complete if and only if no rows with one timestamp lie across a page end. -/
theorem paging_complete_iff (schedule : Schedule D) (filter : KeysetFilter) (limit : ℕ)
    (present : List (Transaction D)) (positive : 1 ≤ limit) (newer : schedule.Newer present)
    (distinct : (present.map Transaction.txnId).Nodup) :
    ∃ pages, (∀ fuel, present.length < fuel → schedule.follow filter limit fuel 0 present none = some pages) ∧
      (Complete (present.filter filter.selects) pages ↔
        Keyset.Untied Transaction.timestamp limit (present.filter filter.selects)) := by
  have all : keysetRows filter none present = present.filter filter.selects := by simp [keysetRows]
  have bound : (keysetRows filter none present).length ≤ present.length := by
    rw [all]
    exact List.length_filter_le ..
  have nodup : (keysetRows filter none present).Nodup := by
    rw [all]
    exact distinct.of_map.filter _
  obtain ⟨pages, followed, _, complete, untied⟩ := follow_spec newer positive present.length 0 present none bound nodup
    (by rw [all]; exact fun t mem => List.mem_of_mem_filter mem)
  rw [all] at complete untied
  exact ⟨pages, followed, fun c => untied c.once, complete⟩

/-! ## Two deposits of one moment -/

namespace Sample

def byTimestamp : Keyset.Descending (Transaction.timestamp (D := ℚ)) where
  sort rows := rows.insertionSort fun t t' => t'.timestamp ≤ t.timestamp
  perm rows := rows.perm_insertionSort _
  descends rows := rows.pairwise_insertionSort _

def deposit (txnId : String) (timestamp : Time) : Transaction ℚ :=
  ⟨txnId, "1001", .deposit, 100, 100, "Deposit", "General", none, timestamp⟩

/-- While an account is paged, a third deposit is written. -/
def busy : Schedule ℚ where
  order _ := byTimestamp
  inserted i := if i = 0 then [deposit "T3" 7] else []

def ofAccount : KeysetFilter := ⟨some "1001", none, none, none⟩

/-- Deposits of two moments are paged completely. -/
theorem moments_paged : ∃ pages, (∀ fuel, 2 < fuel →
    busy.follow ofAccount 1 fuel 0 [deposit "T1" 5, deposit "T2" 6] none = some pages) ∧
    Complete ([deposit "T1" 5, deposit "T2" 6].filter ofAccount.selects) pages := by
  have newer : busy.Newer [deposit "T1" 5, deposit "T2" 6] := by
    intro i t mem
    by_cases first : i = 0
    · simp only [busy, first, if_true, List.mem_singleton] at mem
      subst mem
      decide
    · simp [busy, first] at mem
  obtain ⟨pages, followed, complete⟩ := paging_complete_iff busy ofAccount 1 [deposit "T1" 5, deposit "T2" 6]
    (le_refl 1) newer (by decide)
  refine ⟨pages, followed, complete.mpr ?_⟩
  have selected : [deposit "T1" 5, deposit "T2" 6].filter ofAccount.selects = [deposit "T1" 5, deposit "T2" 6] := by
    decide
  rw [selected]
  intro t mem j ⟨larger, atLeast⟩
  have counts : ∀ t ∈ [deposit "T1" 5, deposit "T2" 6],
      [deposit "T1" 5, deposit "T2" 6].countP (fun t' => t.timestamp ≤ t'.timestamp) ≤
        [deposit "T1" 5, deposit "T2" 6].countP (fun t' => t.timestamp < t'.timestamp) + 1 := by decide
  have groups := counts t mem
  omega

/-- Of two deposits of one moment the second is on no page, although the first page says that there is more. -/
theorem moment_lost : ∃ pages,
    busy.follow ofAccount 1 3 0 [deposit "T1" 5, deposit "T2" 5] none = some pages ∧
    pages.map KeysetPage.hasMore = [true, false] ∧
    ¬ Complete ([deposit "T1" 5, deposit "T2" 5].filter ofAccount.selects) pages := by
  refine ⟨_, rfl, by decide, ?_⟩
  intro complete
  exact absurd complete.once.length_eq (by decide)

end Sample

end UnionBank
