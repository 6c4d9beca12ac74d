import UnionBank.Exactness

/-!
# Statistics of the accounts

The counts and sums of `SqlAlchemyAccountRepository`, each a query of its own, and `get_statistics`, one query in their
place. Deleted accounts count nowhere. The one query sums the balances of all other accounts, and `total_balance` those
of the active ones.

- `count`, `activeCount`, `frozenCount`, `closedCount`, `totalBalance`, `getStatistics`, over the rows of the table;
- `Consolidated`: the one query says what the five said;
- `consolidated_iff`: so it is exactly where the frozen and the closed accounts hold nothing together.
-/

namespace UnionBank

variable {D : Type}

namespace accountRepo

/-! ## The queries -/

/-- The rows of a query that leaves deleted accounts out. -/
def rowsWhere (p : Account D → Bool) (rows : List (Account D)) : List (Account D) :=
  rows.filter fun a => a.deletedAt.isNone && p a

def count (rows : List (Account D)) : ℕ := (rowsWhere (fun _ => true) rows).length

def activeCount (rows : List (Account D)) : ℕ := (rowsWhere (fun a => a.isActive && !a.isFrozen) rows).length

def frozenCount (rows : List (Account D)) : ℕ := (rowsWhere (fun a => a.isFrozen) rows).length

def closedCount (rows : List (Account D)) : ℕ := (rowsWhere (fun a => !a.isActive && !a.isFrozen) rows).length

/-- `SUM` of a column; NULL without rows. -/
def sqlSum {M : Type} [Zero M] [Add M] (values : List M) : Option M := if values = [] then none else some values.sum

section Sums

variable [Zero D] [Add D]

/-- `total_balance`. -/
def totalBalance (rows : List (Account D)) : D :=
  (sqlSum ((rowsWhere (fun a => a.isActive && !a.isFrozen) rows).map Account.balance)).getD 0

structure Statistics (F : Type) where
  totalCustomers : ℕ
  active : ℕ
  frozen : ℕ
  closed : ℕ
  totalBalance : F
deriving DecidableEq

/-- `case((condition, 1), else_=0)`. -/
def oneIf (condition : Bool) : ℕ := if condition then 1 else 0

/-- `get_statistics`, with the conversion of the sum to a float. -/
def getStatistics {F : Type} (float : D → F) (rows : List (Account D)) : Statistics F :=
  let live := rowsWhere (fun _ => true) rows
  { totalCustomers := live.length
    active := (sqlSum (live.map fun a => oneIf (a.isActive && !a.isFrozen))).getD 0
    frozen := (sqlSum (live.map fun a => oneIf a.isFrozen)).getD 0
    closed := (sqlSum (live.map fun a => oneIf (!a.isActive && !a.isFrozen))).getD 0
    totalBalance := float ((sqlSum (live.map Account.balance)).getD 0) }

/-- The one query says what the five queries said, with the sum read exactly, and every customer is active, frozen or
closed. -/
structure Consolidated (rows : List (Account D)) : Prop where
  totalCustomers : (getStatistics id rows).totalCustomers = count rows
  active : (getStatistics id rows).active = activeCount rows
  frozen : (getStatistics id rows).frozen = frozenCount rows
  closed : (getStatistics id rows).closed = closedCount rows
  totalBalance : (getStatistics id rows).totalBalance = totalBalance rows
  split : (getStatistics id rows).active + (getStatistics id rows).frozen + (getStatistics id rows).closed =
    (getStatistics id rows).totalCustomers

/-- What the accounts hold that are frozen or not active. -/
def heldBalance (rows : List (Account D)) : D :=
  ((rowsWhere (fun a => !(a.isActive && !a.isFrozen)) rows).map Account.balance).sum

end Sums

/-! ## Conditional sums -/

@[simp] theorem sqlSum_getD {M : Type} [AddMonoid M] (values : List M) : (sqlSum values).getD 0 = values.sum := by
  unfold sqlSum
  split
  · rename_i none
    rw [none]
    rfl
  · rfl

/-- A sum of ones counts. -/
theorem sum_oneIf {α : Type} (p : α → Bool) (l : List α) : (l.map fun a => oneIf (p a)).sum = (l.filter p).length := by
  induction l with
  | nil => rfl
  | cons a l ih =>
    rw [List.map_cons, List.sum_cons, ih]
    by_cases here : p a = true
    · simp [oneIf, here, add_comm]
    · simp [oneIf, here]

theorem filter_rowsWhere (p : Account D → Bool) (rows : List (Account D)) :
    (rowsWhere (fun _ => true) rows).filter p = rowsWhere p rows := by
  unfold rowsWhere
  rw [List.filter_filter]
  refine List.filter_congr fun a _ => ?_
  simp [Bool.and_comm]

/-- An account is active, frozen, or closed. -/
theorem counts_split (rows : List (Account D)) : activeCount rows + frozenCount rows + closedCount rows = count rows := by
  unfold activeCount frozenCount closedCount count rowsWhere
  induction rows with
  | nil => rfl
  | cons a rows ih =>
    cases deleted : a.deletedAt with
    | some t => simpa [deleted] using ih
    | none =>
      cases active : a.isActive <;> cases frozen : a.isFrozen <;> simp [deleted, active, frozen] at ih ⊢ <;> omega

/-- The balances of all accounts are those of the active ones and those of the others. -/
theorem sum_split [AddCommMonoid D] (rows : List (Account D)) :
    ((rowsWhere (fun _ => true) rows).map Account.balance).sum = totalBalance rows + heldBalance rows := by
  unfold totalBalance heldBalance
  rw [sqlSum_getD]
  unfold rowsWhere
  induction rows with
  | nil => simp
  | cons a rows ih =>
    cases deleted : a.deletedAt with
    | some t => simpa [deleted] using ih
    | none =>
      cases active : a.isActive <;> cases frozen : a.isFrozen <;>
        simp only [List.filter_cons, deleted, active, frozen, Option.isNone_none, Bool.and_true, Bool.not_true,
          Bool.not_false, if_true, if_false, Bool.and_false, Bool.false_eq_true, List.map_cons, List.sum_cons] at ih ⊢ <;>
        rw [ih]
      · exact add_left_comm _ _ _
      · exact add_left_comm _ _ _
      · exact (add_assoc _ _ _).symm
      · exact add_left_comm _ _ _

/-- **One query for five** says the same exactly where the accounts that are frozen or not active hold nothing together. -/
theorem consolidated_iff [AddCommGroup D] (rows : List (Account D)) : Consolidated rows ↔ heldBalance rows = 0 := by
  have counts : ∀ p : Account D → Bool,
      (sqlSum ((rowsWhere (fun _ => true) rows).map fun a => oneIf (p a))).getD 0 = (rowsWhere p rows).length := by
    intro p
    rw [sqlSum_getD, sum_oneIf, filter_rowsWhere]
  have sum : (getStatistics id rows).totalBalance = totalBalance rows + heldBalance rows := by
    rw [← sum_split, ← sqlSum_getD]
    rfl
  constructor
  · intro same
    have total := same.totalBalance
    rw [sum] at total
    exact add_eq_left.mp total
  · intro nothing
    have active : (getStatistics id rows).active = activeCount rows := counts _
    have frozen : (getStatistics id rows).frozen = frozenCount rows := counts _
    have closed : (getStatistics id rows).closed = closedCount rows := counts _
    refine ⟨rfl, active, frozen, closed, ?_, ?_⟩
    · rw [sum, nothing, add_zero]
    · rw [active, frozen, closed]
      exact counts_split rows

/-- Balances are not negative, so that each of these accounts holds nothing. -/
theorem heldBalance_eq_zero_iff [AddCommGroup D] [LinearOrder D] [IsOrderedAddMonoid D] {rows : List (Account D)}
    (checked : ∀ a ∈ rows, 0 ≤ a.balance) :
    heldBalance rows = 0 ↔ ∀ a ∈ rows, a.deletedAt = none → (a.isActive && !a.isFrozen) = false → a.balance = 0 := by
  have inside : ∀ a ∈ rows, a.deletedAt = none → (a.isActive && !a.isFrozen) = false →
      a.balance ∈ (rowsWhere (fun a => !(a.isActive && !a.isFrozen)) rows).map Account.balance := by
    intro a mem live other
    refine List.mem_map_of_mem (List.mem_filter.mpr ⟨mem, ?_⟩)
    show (a.deletedAt.isNone && !(a.isActive && !a.isFrozen)) = true
    rw [live, other]
    rfl
  constructor
  · intro nothing a mem live other
    refine List.all_zero_of_le_zero_le_of_sum_eq_zero (fun x hx => ?_) nothing (inside a mem live other)
    obtain ⟨a', mem', rfl⟩ := List.mem_map.mp hx
    exact checked a' (List.mem_of_mem_filter mem')
  · intro empty
    refine List.sum_eq_zero fun x hx => ?_
    obtain ⟨a, mem, rfl⟩ := List.mem_map.mp hx
    obtain ⟨here, other⟩ := List.mem_filter.mp mem
    rw [Bool.and_eq_true, Option.isNone_iff_eq_none, Bool.not_eq_true'] at other
    exact empty a here other.1 other.2

end accountRepo

namespace Sample

/-- A frozen account with five hundred. -/
theorem frozen_unconsolidated :
    ¬accountRepo.Consolidated [(⟨"2002", "User 2", 30, "", "", "", "p", 500, true, true, 0, none⟩ : Account ℤ)] := by
  intro same
  have total := same.totalBalance
  revert total
  decide

end Sample

end UnionBank
