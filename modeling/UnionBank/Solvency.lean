import UnionBank.Exactness

/-!
# No overdraft

What a service reads is not negative, and what it asks its session to write is not either. The rely and the guarantee
are one specification (`solvent`), to which the session keeps as long as nothing negative is stored or pending.

- `Ledger.Nonneg`, `Change.Nonneg`: what is stored, and what is pending;
- `Safe`: programs that rely on `solvent` and raise no `ValueError`; every call but a profile update is one
  (`solvent_safe`);
- `no_overdraft`: over whole runs, also that the CHECK of the accounts table is never met.
-/

namespace UnionBank

open Keyed Programs Prog

set_option linter.unusedSectionVars false

variable {D : Type} [AddCommGroup D] [LinearOrder D]

/-! ## Values that are not negative -/

/-- The amounts of a loan that money moves by. -/
def Loan.Nonneg (l : Loan D) : Prop := 0 ≤ l.principalAmount ∧ 0 ≤ l.remainingAmount

/-- No balance, no goal and no debt is negative. -/
structure Ledger.Nonneg (l : Ledger D) : Prop where
  balance : ∀ a ∈ l.accounts.rows, 0 ≤ a.balance
  loan : ∀ x ∈ l.loans.rows, x.Nonneg
  goal : ∀ g ∈ l.goals.rows, 0 ≤ g.currentAmount

def NewRow.Nonneg : NewRow D → Prop
  | .account a => 0 ≤ a.balance
  | .loan l => l.Nonneg
  | .goal g => 0 ≤ g.currentAmount
  | _ => True

/-- A statement writes nothing negative. -/
def Change.Nonneg : Change D → Prop
  | .insert row => row.Nonneg
  | .account _ current => 0 ≤ current.balance
  | .loan _ current => current.Nonneg
  | .goal _ current => 0 ≤ current.currentAmount
  | _ => True

/-- Rounding keeps the sign. -/
def Backend.KeepsSign (B : Backend D) : Prop := ∀ (p : ℕ) (x y : D), 0 ≤ x → B.numeric p x = some y → 0 ≤ y

section Statements

variable {B : Backend D} {db db' : Db D}

theorem Backend.KeepsSign.money (hB : B.KeepsSign) {x y : D} (hx : 0 ≤ x) (h : B.money x = .ok y) : 0 ≤ y := by
  unfold Backend.money Backend.number at h
  split at h
  · cases h
    exact hB _ _ _ hx ‹_›
  · cases h

theorem Backend.KeepsSign.moneyColumn (hB : B.KeepsSign) {loaded current stored y : D} (hc : 0 ≤ current)
    (hs : 0 ≤ stored) (h : B.moneyColumn loaded current stored = .ok y) : 0 ≤ y := by
  unfold Backend.moneyColumn Backend.numberColumn at h
  split at h
  · cases h
    exact hs
  · exact hB.money hc h

/-- **Statements that write nothing negative keep the tables so.** -/
theorem apply_nonneg (hB : B.KeepsSign) {c : Change D} (hc : c.Nonneg) (hl : db.toLedger.Nonneg)
    (h : c.apply B db = .ok db') : db'.toLedger.Nonneg := by
  have support : c.isSupport = true → db'.toLedger.Nonneg := fun hs => by
    rw [apply_support hs h]
    exact hl
  cases c with
  | insert row =>
    cases row with
    | account a =>
      simp only [Change.apply, NewRow.insert, bind_eq_ok, require_eq_ok, found_eq_ok, pure_eq_ok] at h
      obtain ⟨balance, hb, -, -, -, -, accounts, hi, rfl⟩ := h
      obtain ⟨_, rfl⟩ := Table.insert?_eq_some.mp hi
      refine ⟨fun x hx => ?_, hl.loan, hl.goal⟩
      rcases List.mem_append.mp hx with hx | hx
      · exact hl.balance x hx
      · rw [List.mem_singleton.mp hx]
        exact hB.money hc hb
    | transaction t =>
      obtain ⟨amount, -, balance, -, -, -, -, rfl⟩ := apply_insertTransaction_ok.mp h
      exact ⟨hl.balance, hl.loan, hl.goal⟩
    | loan l =>
      obtain ⟨principal, hp, rate, -, emi, -, paid, -, remaining, hr, -, -, loans, hi, rfl⟩ := apply_insertLoan_ok.mp h
      obtain ⟨_, rfl⟩ := Table.insert?_eq_some.mp hi
      refine ⟨hl.balance, fun x hx => ?_, hl.goal⟩
      rcases List.mem_append.mp hx with hx | hx
      · exact hl.loan x hx
      · rw [List.mem_singleton.mp hx]
        exact ⟨hB.money hc.1 hp, hB.money hc.2 hr⟩
    | goal g =>
      obtain ⟨target, -, saved, hs, -, -, goals, hi, rfl⟩ := apply_insertGoal_ok.mp h
      obtain ⟨_, rfl⟩ := Table.insert?_eq_some.mp hi
      refine ⟨hl.balance, hl.loan, fun x hx => ?_⟩
      rcases List.mem_append.mp hx with hx | hx
      · exact hl.goal x hx
      · rw [List.mem_singleton.mp hx]
        exact hB.money hc hs
    | _ => exact support rfl
  | account loaded current =>
    obtain ⟨stored, hf, balance, hb, -, -, rfl⟩ := apply_account_ok.mp h
    refine ⟨fun x hx => ?_, hl.loan, hl.goal⟩
    rcases Table.mem_set hx with rfl | ⟨hx, -⟩
    · exact hB.moneyColumn hc (hl.balance _ (Table.mem_of_find? hf)) hb
    · exact hl.balance x hx
  | loan loaded current =>
    obtain ⟨stored, hf, principal, hp, rate, -, emi, -, paid, -, remaining, hr, -, rfl⟩ := apply_loan_ok.mp h
    have hstored := hl.loan _ (Table.mem_of_find? hf)
    refine ⟨hl.balance, fun x hx => ?_, hl.goal⟩
    rcases Table.mem_set hx with rfl | ⟨hx, -⟩
    · exact ⟨hB.moneyColumn hc.1 hstored.1 hp, hB.moneyColumn hc.2 hstored.2 hr⟩
    · exact hl.loan x hx
  | goal loaded current =>
    obtain ⟨stored, hf, target, -, saved, hs, -, rfl⟩ := apply_goal_ok.mp h
    refine ⟨hl.balance, hl.loan, fun x hx => ?_⟩
    rcases Table.mem_set hx with rfl | ⟨hx, -⟩
    · exact hB.moneyColumn hc (hl.goal _ (Table.mem_of_find? hf)) hs
    · exact hl.goal x hx
  | deleteGoal goalId =>
    obtain rfl := apply_deleteGoal_ok.mp h
    exact ⟨hl.balance, hl.loan, fun x hx => hl.goal x (List.mem_of_mem_filter hx)⟩
  | tokenVersion => exact support rfl

/-- The statement meets `CHECK balance >= 0`. -/
def Change.MeetsCheck (B : Backend D) (db : Db D) : Change D → Prop
  | .insert (.account a) => ∃ balance, B.money a.balance = .ok balance ∧ balance < 0
  | .account loaded current => ∃ stored, db.accounts.find? loaded.accountNumber = some stored ∧
      ∃ balance, B.moneyColumn loaded.balance current.balance stored.balance = .ok balance ∧ balance < 0
  | _ => False

/-- A statement of the transaction meets the CHECK. -/
def MeetsCheck (B : Backend D) : List (Change D) → Db D → Prop
  | [], _ => False
  | c :: cs, db => c.MeetsCheck B db ∨ ∃ db₁, c.apply B db = .ok db₁ ∧ MeetsCheck B cs db₁

theorem Change.not_meetsCheck (hB : B.KeepsSign) {c : Change D} (hc : c.Nonneg) (hl : db.toLedger.Nonneg) :
    ¬c.MeetsCheck B db := by
  cases c with
  | insert row =>
    cases row with
    | account a =>
      rintro ⟨balance, hb, neg⟩
      exact not_lt.mpr (hB.money hc hb) neg
    | _ => exact id
  | account loaded current =>
    rintro ⟨stored, hf, balance, hb, neg⟩
    exact not_lt.mpr (hB.moneyColumn hc (hl.balance _ (Table.mem_of_find? hf)) hb) neg
  | _ => exact id

theorem not_meetsCheck (hB : B.KeepsSign) {cs : List (Change D)} (hc : ∀ c ∈ cs, c.Nonneg)
    (hl : db.toLedger.Nonneg) : ¬MeetsCheck B cs db := by
  induction cs generalizing db with
  | nil => exact id
  | cons c cs ih =>
    rintro (h | ⟨db₁, h₁, h⟩)
    · exact Change.not_meetsCheck hB (hc c List.mem_cons_self) hl h
    · exact ih (fun c hm => hc c (List.mem_cons_of_mem _ hm)) (apply_nonneg hB (hc c List.mem_cons_self) hl h₁) h

theorem flush_nonneg (hB : B.KeepsSign) {cs : List (Change D)} (hc : ∀ c ∈ cs, c.Nonneg) (hl : db.toLedger.Nonneg)
    (h : flush B cs db = .ok db') : db'.toLedger.Nonneg := by
  induction cs generalizing db with
  | nil => cases h; exact hl
  | cons c cs ih =>
    obtain ⟨db₁, h₁, h₂⟩ := (flush_cons_ok B).mp h
    exact ih (fun c hm => hc c (List.mem_cons_of_mem _ hm)) (apply_nonneg hB (hc c List.mem_cons_self) hl h₁) h₂

/-! ## Exceptions of the store -/

/-- An exception that no service raises by itself. -/
def Exn.FromStore (e : Exn) : Prop := ∀ message, e ≠ .valueError message

/-- A computation of the store raises only what the store raises. -/
def Stored {α : Type} (x : Except Exn α) : Prop := ∀ e, x = .error e → e.FromStore

namespace Stored

variable {α β : Type}

theorem pure (a : α) : Stored (Pure.pure a : Except Exn α) := by rintro e ⟨⟩

theorem bind {x : Except Exn α} {f : α → Except Exn β} (hx : Stored x) (hf : ∀ a, Stored (f a)) : Stored (x >>= f) := by
  intro e h
  cases x with
  | error e' => exact hx e (by cases h; rfl)
  | ok a => exact hf a e h

theorem found {a : Option α} {e : Exn} (he : e.FromStore) : Stored (UnionBank.found a e) := by
  cases a with
  | none => rintro e' ⟨⟩; exact he
  | some a => rintro e' ⟨⟩

theorem require {p : Prop} [Decidable p] {e : Exn} (he : e.FromStore) : Stored (UnionBank.require p e) := by
  unfold UnionBank.require
  split
  · rintro e' ⟨⟩
  · rintro e' ⟨⟩; exact he

theorem number {p : ℕ} {x : D} : Stored (B.number p x) := by
  unfold Backend.number
  split
  · rintro e' ⟨⟩
  · rintro e' ⟨⟩ message ⟨⟩

theorem numberColumn {p : ℕ} {loaded current stored : D} : Stored (B.numberColumn p loaded current stored) := by
  unfold Backend.numberColumn
  split
  · rintro e' ⟨⟩
  · exact number

end Stored

theorem apply_stored (c : Change D) (db : Db D) : Stored (c.apply B db) := by
  have data : Exn.FromStore .dataError := by rintro m ⟨⟩
  have integrity : Exn.FromStore .integrityError := by rintro m ⟨⟩
  have stale : Exn.FromStore .staleDataError := by rintro m ⟨⟩
  rcases c with (_ | _ | _ | _ | _ | _ | _) | _ | _ | _ | _ | _
  all_goals simp only [Change.apply, NewRow.insert, Backend.money, Backend.moneyColumn]
  all_goals repeat' first
    | refine Stored.bind ?_ fun _ => ?_
    | exact .number
    | exact .numberColumn
    | exact .require data
    | exact .require integrity
    | exact .found integrity
    | exact .found stale
    | exact .pure _

theorem flush_stored (cs : List (Change D)) (db : Db D) : Stored (flush B cs db) := by
  induction cs generalizing db with
  | nil => rintro e ⟨⟩
  | cons c cs ih => exact .bind (apply_stored c db) fun db₁ => ih db₁

end Statements

/-! ## Rely and guarantee of a service -/

/-- What an answer of the session is relied on for. -/
def Query.Solvent : (q : Query D) → q.Res → Prop
  | .getAccount _, r => ∀ a, r = some a → 0 ≤ a.balance
  | .getLoan _, r => ∀ l, r = some l → l.Nonneg
  | .getGoal _, r | .contributeGoal .., r | .deleteGoal _, r => ∀ g, r = some g → 0 ≤ g.currentAmount
  | _, _ => True

/-- What a query asks to write. -/
def Query.Asks : Query D → Prop
  | .updateAccount a => 0 ≤ a.balance
  | .updateLoan l => l.Nonneg
  | .updateGoal g => 0 ≤ g.currentAmount
  | .contributeGoal _ amount => 0 ≤ amount
  | _ => True

/-- Nothing negative is read and nothing negative is written. The state tells whether the session is known to be
active; on an active one a savepoint is never rolled back. -/
def solvent : Spec (Op.Res (D := D)) Exn Bool
  | .acquire _, s, Q | .release _, s, Q | .releaseNested, s, Q => Q (.ok ()) s
  | .rollback, _, Q => Q (.ok ()) true
  | .query q, s, Q => q.Asks ∧ (∀ a, q.Solvent a → Q (.ok a) true) ∧
      (s = false → ∀ e, e.FromStore → Q (.error e) false)
  | .create row, s, Q => row.Nonneg ∧ Q (.ok ()) s
  | .beginNested, s, Q => Q (.ok ()) true ∧ (s = false → ∀ e, e.FromStore → Q (.error e) false)
  | .rollbackNested, _, _ => False
  | .commit, _, Q => Q (.ok ()) true ∧ ∀ e, e.FromStore → Q (.error e) false

/-- The store and what the session has pending. -/
def KeptNonneg (w : Db D × Session D) (s : Bool) : Prop :=
  w.1.toLedger.Nonneg ∧ (∀ c ∈ w.2.pending, c.Nonneg) ∧ (s = true → w.2.inactive = false)

section Session

variable {db : Db D} {s : Session D}

/-- A session reads its own version of a row that is not negative. -/
theorem Session.ownAccount_nonneg (hp : ∀ c ∈ s.pending, c.Nonneg) {row : Account D} (h : 0 ≤ row.balance) :
    0 ≤ (s.ownAccount row).balance := by
  unfold Session.ownAccount
  refine List.foldlRecOn (motive := fun own : Account D => 0 ≤ own.balance) s.pending _ h fun own hown c hc => ?_
  have kept := hp c hc
  cases c with
  | account loaded current =>
    simp only
    split
    · exact kept
    · exact hown
  | _ => exact hown

theorem Session.ownLoan_nonneg (hp : ∀ c ∈ s.pending, c.Nonneg) {row : Loan D} (h : row.Nonneg) :
    (s.ownLoan row).Nonneg := by
  unfold Session.ownLoan
  refine List.foldlRecOn (motive := fun own : Loan D => own.Nonneg) s.pending _ h fun own hown c hc => ?_
  have kept := hp c hc
  cases c with
  | loan loaded current =>
    simp only
    split
    · exact kept
    · exact hown
  | _ => exact hown

theorem Session.ownGoal_nonneg (hp : ∀ c ∈ s.pending, c.Nonneg) {row : SavingsGoal D} (h : 0 ≤ row.currentAmount) :
    0 ≤ (s.ownGoal row).currentAmount := by
  unfold Session.ownGoal
  refine List.foldlRecOn (motive := fun own : SavingsGoal D => 0 ≤ own.currentAmount) s.pending _ h fun own hown c hc => ?_
  have kept := hp c hc
  cases c with
  | goal loaded current =>
    simp only
    split
    · exact kept
    · exact hown
  | _ => exact hown

theorem Session.account?_nonneg (hl : db.toLedger.Nonneg) (hp : ∀ c ∈ s.pending, c.Nonneg) {accNo : String}
    {a : Account D} (h : s.account? db accNo = some a) : 0 ≤ a.balance := by
  obtain ⟨row, live, rfl⟩ := Option.map_eq_some_iff.mp h
  exact Session.ownAccount_nonneg hp (hl.balance _ (Table.mem_of_find? (Ledger.liveAccount?_eq_some.mp live).1))

theorem Session.loan?_nonneg (hl : db.toLedger.Nonneg) (hp : ∀ c ∈ s.pending, c.Nonneg) {loanId : String} {l : Loan D}
    (h : s.loan? db loanId = some l) : l.Nonneg := by
  obtain ⟨row, found, rfl⟩ := Option.map_eq_some_iff.mp h
  exact Session.ownLoan_nonneg hp (hl.loan _ (Table.mem_of_find? found))

theorem Session.goal?_nonneg (hl : db.toLedger.Nonneg) (hp : ∀ c ∈ s.pending, c.Nonneg) {goalId : String}
    {g : SavingsGoal D} (h : s.goal? db goalId = some g) : 0 ≤ g.currentAmount := by
  obtain ⟨row, found, rfl⟩ := Option.map_eq_some_iff.mp h
  exact Session.ownGoal_nonneg hp (hl.goal _ (Table.mem_of_find? found))

variable [IsOrderedAddMonoid D]

/-- **The session answers as it is relied on, and stages what it was asked.** -/
theorem Query.answer_solvent (hl : db.toLedger.Nonneg) (hp : ∀ c ∈ s.pending, c.Nonneg) {q : Query D} (hq : q.Asks) :
    q.Solvent (q.answer db s) ∧ ∀ c ∈ q.staged db s, c.Nonneg := by
  cases q with
  | getAccount accNo => exact ⟨fun a h => Session.account?_nonneg hl hp h, by simp [Query.staged]⟩
  | getLoan loanId => exact ⟨fun l h => Session.loan?_nonneg hl hp h, by simp [Query.staged]⟩
  | getGoal goalId => exact ⟨fun g h => Session.goal?_nonneg hl hp h, by simp [Query.staged]⟩
  | getIdempotencyKey key => exact ⟨trivial, by simp [Query.staged]⟩
  | getTokenVersion accNo => exact ⟨trivial, by simp [Query.staged]⟩
  | updateAccount account =>
    refine ⟨trivial, ?_⟩
    simp only [Query.staged]
    split
    · simp only [List.mem_singleton, forall_eq]
      exact hq
    · simp only [List.mem_singleton, forall_eq]
      exact hq
  | setActive accNo active =>
    refine ⟨trivial, ?_⟩
    simp only [Query.staged]
    split
    · simp
    · rename_i row h
      simpa [Change.Nonneg] using Session.account?_nonneg hl hp h
  | setFrozen accNo frozen =>
    refine ⟨trivial, ?_⟩
    simp only [Query.staged]
    split
    · simp
    · rename_i row h
      simpa [Change.Nonneg] using Session.account?_nonneg hl hp h
  | deleteAccount accNo now =>
    refine ⟨trivial, ?_⟩
    simp only [Query.staged]
    split
    · simp
    · rename_i row h
      simpa [Change.Nonneg] using Session.account?_nonneg hl hp h
  | updateLoan loan =>
    refine ⟨trivial, ?_⟩
    simp only [Query.staged]
    split
    · simp
    · simp only [List.mem_singleton, forall_eq]
      exact hq
  | updateGoal goal =>
    refine ⟨trivial, ?_⟩
    simp only [Query.staged]
    split
    · simp
    · simp only [List.mem_singleton, forall_eq]
      exact hq
  | contributeGoal goalId amount =>
    constructor
    · intro g h
      obtain ⟨row, found, rfl⟩ := Option.map_eq_some_iff.mp h
      exact add_nonneg (Session.goal?_nonneg hl hp found) hq
    · simp only [Query.staged]
      split
      · simp
      · rename_i row h
        simpa [Change.Nonneg, Query.contributed] using add_nonneg (Session.goal?_nonneg hl hp h) hq
  | deleteGoal goalId =>
    refine ⟨fun g h => Session.goal?_nonneg hl hp h, ?_⟩
    simp only [Query.staged]
    split
    · simp
    · simp [Change.Nonneg]
  | incrementTokenVersion accNo =>
    refine ⟨trivial, ?_⟩
    simp only [Query.staged]
    split
    · simp [Change.Nonneg, NewRow.Nonneg]
    · simp [Change.Nonneg]

theorem keeps_solvent {B : Backend D} (hB : B.KeepsSign) : Handler.Keeps (handle B) solvent KeptNonneg := by
  rintro o ⟨db, s⟩ t Q ⟨hl, hp, hi⟩ hQ
  have inactive : s.inactive = true → t = false := fun h => by
    cases t with
    | false => rfl
    | true => rw [hi rfl] at h; cases h
  cases o with
  | acquire accNo => exact ⟨t, ⟨hl, hp, hi⟩, hQ⟩
  | release accNo => exact ⟨t, ⟨hl, hp, hi⟩, hQ⟩
  | releaseNested => exact ⟨t, ⟨hl, hp, hi⟩, hQ⟩
  | rollback => exact ⟨true, ⟨hl, by simp [handle, Session.clear], fun _ => rfl⟩, hQ⟩
  | rollbackNested => exact hQ.elim
  | create row =>
    refine ⟨t, ⟨hl, fun c hc => ?_, hi⟩, hQ.2⟩
    rcases List.mem_append.mp hc with hc | hc
    · exact hp c hc
    · rw [List.mem_singleton.mp hc]
      exact hQ.1
  | query q =>
    obtain ⟨hq, hok, herr⟩ := hQ
    obtain ⟨hans, hst⟩ := Query.answer_solvent hl hp hq
    simp only [handle]
    split
    · rename_i h
      exact ⟨false, ⟨hl, hp, Bool.noConfusion⟩, herr (inactive h) _ (by rintro m ⟨⟩)⟩
    · rename_i h
      refine ⟨true, ⟨hl, fun c hc => ?_, fun _ => Bool.eq_false_of_not_eq_true h⟩, hok _ hans⟩
      rcases List.mem_append.mp hc with hc | hc
      · exact hp c hc
      · exact hst c hc
  | beginNested =>
    obtain ⟨hok, herr⟩ := hQ
    simp only [handle]
    split
    · rename_i h
      exact ⟨false, ⟨hl, hp, Bool.noConfusion⟩, herr (inactive h) _ (by rintro m ⟨⟩)⟩
    · rename_i h
      exact ⟨true, ⟨hl, hp, fun _ => Bool.eq_false_of_not_eq_true h⟩, hok⟩
  | commit =>
    obtain ⟨hok, herr⟩ := hQ
    simp only [handle]
    split
    · exact ⟨false, ⟨hl, hp, Bool.noConfusion⟩, herr _ (by rintro m ⟨⟩)⟩
    cases hf : flush B s.pending db with
    | ok db' =>
      exact ⟨true, ⟨flush_nonneg hB hp hl hf, by simp [Session.clear], fun _ => rfl⟩, hok⟩
    | error e => exact ⟨false, ⟨hl, by simp [Session.clear], Bool.noConfusion⟩, herr e (flush_stored _ _ e hf)⟩

end Session

/-! ## Safe programs -/

section Rules

variable {α β : Type}

theorem solvent_mono : Spec.Mono (solvent (D := D)) := by
  intro o s Q Q' hQ h
  cases o <;> simp only [solvent] at h ⊢ <;> grind

/-- A program that relies on its session and answers it, from a session known to be active or not; what it returns has
`Q`, and what it raises comes from the store. -/
def Safe (s : Bool) (p : Svc D α) (Q : α → Bool → Prop) : Prop :=
  wp solvent p (fun r s' => match r with
    | .ok a => Q a s'
    | .error e => e.FromStore) s

/-- Any end. -/
abbrev Fine : α → Bool → Prop := fun _ _ => True

namespace Safe

variable {s : Bool} {Q : α → Bool → Prop} {Q' : β → Bool → Prop}

theorem ret {a : α} (h : Q a s) : Safe (D := D) s (Prog.ret a) Q := h

theorem raise {e : Exn} (h : e.FromStore) : Safe (D := D) s (Prog.raise e : Svc D α) Q := h

theorem bind {p : Svc D α} {f : α → Svc D β} (hp : Safe s p Q) (hf : ∀ a s', Q a s' → Safe s' (f a) Q') :
    Safe s (p >>= f) Q' := by
  rw [Safe, wp_bind]
  refine wp_mono solvent_mono ?_ hp
  rintro (e | a) s' h
  · exact h
  · exact hf a s' h

/-- A query, and what its answer is good for. -/
theorem ask {q : Query D} (hq : q.Asks) : Safe s (UnionBank.ask q) fun a s' => q.Solvent a ∧ s' = true := by
  rw [Safe, UnionBank.ask, wp_perform]
  exact ⟨hq, fun a ha => ⟨ha, rfl⟩, fun _ e he => he⟩

theorem add {row : NewRow D} (hr : row.Nonneg) : Safe s (UnionBank.add row) fun _ s' => s' = s := by
  rw [Safe, UnionBank.add, wp_perform]
  exact ⟨hr, rfl⟩

theorem commit : Safe s (perform Op.commit : Svc D Unit) Fine := by
  rw [Safe, wp_perform]
  exact ⟨trivial, fun e he => he⟩

theorem rollback : Safe s (perform Op.rollback : Svc D Unit) Fine := by
  rw [Safe, wp_perform]
  exact trivial

theorem mono {p : Svc D α} {R : α → Bool → Prop} (hp : Safe s p Q) (h : ∀ a s', Q a s' → R a s') : Safe s p R := by
  refine wp_mono solvent_mono ?_ hp
  rintro (e | a) s' hr
  · exact hr
  · exact h a s' hr

theorem tryCatch {p : Svc D α} {f : Exn → Svc D α} (hp : Safe s p Q) (hf : ∀ e s', Safe s' (f e) Q) :
    Safe s (MonadExcept.tryCatch p f) Q := by
  rw [Safe, wp_tryCatch]
  refine wp_mono solvent_mono ?_ hp
  rintro (e | a) s' h
  · exact hf e s'
  · exact h

theorem acquireAll (accNos : List String) : Safe s (UnionBank.acquireAll accNos : Svc D Unit) fun _ s' => s' = s := by
  induction accNos with
  | nil => exact rfl
  | cons accNo accNos ih =>
    rw [UnionBank.acquireAll, Safe, wp_bind, wp_perform]
    exact ih

theorem releaseAll (accNos : List String) (R : Except Exn Unit → Bool → Prop) (h : R (.ok ()) s) :
    wp solvent (UnionBank.releaseAll accNos : Svc D Unit) R s := by
  induction accNos with
  | nil => exact h
  | cons accNo accNos ih =>
    rw [UnionBank.releaseAll, wp_bind, wp_perform]
    exact ih

theorem accountLock {accNos : List String} {p : Svc D α} (hp : ∀ s, Safe s p Q) :
    Safe s (UnionBank.accountLock accNos p) Q := by
  refine bind (acquireAll _) fun _ s' _ => ?_
  rw [Safe, wp_ensuring]
  refine wp_mono solvent_mono ?_ (hp s')
  intro r s'' h
  refine releaseAll _ _ ?_
  rw [andThen_ok, wp_ofExcept]
  exact h

/-- A savepoint on an active session, around a body that does not raise. -/
theorem beginNested {p : Svc D α} (hp : wp solvent p (fun r _ => ∃ a, r = .ok a) true) :
    Safe true (UnionBank.beginNested p) Fine := by
  rw [Safe, UnionBank.beginNested, wp_bind, wp_perform]
  refine ⟨?_, fun h => Bool.noConfusion h⟩
  rw [andThen_ok, wp_bind, wp_attempt]
  refine wp_mono solvent_mono ?_ hp
  rintro r s' ⟨a, rfl⟩
  rw [andThen_ok, wp_bind, wp_perform]
  exact trivial

end Safe

end Rules

/-! ## Every call is safe -/

section Services

variable [IsOrderedAddMonoid D] (env : Env D) (draws : Draws) {s : Bool}

open TransactionService

theorem checkIdempotency_safe (key : Option String) : Safe (D := D) s (checkIdempotency key) Fine := by
  unfold checkIdempotency
  cases givenKey key with
  | none => exact .ret trivial
  | some k =>
    refine .bind (.ask trivial) fun existing s' _ => ?_
    cases existing with
    | none => exact .ret trivial
    | some existing =>
      simp only
      split
      · exact .ret trivial
      · exact .ret trivial

theorem cachedTransfer_safe (key : Option String) : Safe (D := D) s (cachedTransfer key) Fine := by
  unfold cachedTransfer
  cases givenKey key with
  | none => exact .ret trivial
  | some k =>
    refine .bind (.ask trivial) fun existing s' _ => ?_
    cases existing with
    | none => exact .ret trivial
    | some existing =>
      simp only
      split
      · exact .ret trivial
      · exact .ret trivial

theorem storeKey_safe (record : IdempotencyRecord D) :
    Safe s (tryCatch (do idempotencyRepo.create record; idempotencyRepo.commit) fun _ => idempotencyRepo.rollback)
      Fine :=
  .tryCatch (.bind (.add trivial) fun _ _ _ => .commit) fun _ _ => .rollback

theorem storeIdempotency_safe (key : Option String) (accNo operation : String) (amount : D)
    (result : ServiceResult D) (balance : D) :
    Safe s (storeIdempotency key accNo operation amount result balance) Fine := by
  unfold storeIdempotency
  cases givenKey key with
  | none => exact .ret trivial
  | some k => exact storeKey_safe _

theorem storeTransferIdempotency_safe (key : Option String) (accNo : String) (amount : D)
    (result : TransferResult D) : Safe s (storeTransferIdempotency env key accNo amount result) Fine := by
  unfold storeTransferIdempotency
  cases givenKey key with
  | none => exact .ret trivial
  | some k => exact storeKey_safe _

/-- The guard behind a guard never raises. -/
theorem ensureNonNegativeBalance_safe {balance : D} (h : 0 ≤ balance) (operation : String) :
    ensureNonNegativeBalance balance operation = Prog.ret () := by
  rw [ensureNonNegativeBalance, if_neg (not_lt.mpr h)]
  rfl

theorem depositLocked_safe (accNo : String) {amount : D} (ha : 0 < amount) (category : String) :
    Safe s (depositLocked draws accNo amount category) Fine := by
  unfold depositLocked
  refine .bind (.ask trivial) fun account s' h => ?_
  cases account with
  | none => exact .ret trivial
  | some account =>
    have hb : 0 ≤ account.balance + amount := add_nonneg (h.1 account rfl) ha.le
    simp only
    split
    · exact .ret trivial
    exact .bind (.ask hb) fun _ _ _ => .bind (.add trivial) fun _ _ _ => .bind .commit fun _ _ _ => .ret trivial

theorem deposit_safe (accNo : String) (amount : D) (category : String) (key : Option String) :
    Safe s (deposit env draws accNo amount category key) Fine := by
  unfold deposit
  split
  · exact .ret trivial
  rename_i positive
  refine .bind (checkIdempotency_safe key) fun cached s' _ => ?_
  cases cached with
  | some cached => exact .ret trivial
  | none =>
    refine .bind (.accountLock fun _ => depositLocked_safe draws accNo (not_le.mp positive) category)
      fun outcome s' _ => ?_
    cases outcome with
    | error refusal => exact .ret trivial
    | ok account => exact .bind (storeIdempotency_safe ..) fun _ _ _ => .ret trivial

theorem withdrawLocked_safe (accNo : String) (amount : D) (category : String) :
    Safe s (withdrawLocked env draws accNo amount category) Fine := by
  unfold withdrawLocked
  refine .bind (.ask trivial) fun account s' h => ?_
  cases account with
  | none => exact .ret trivial
  | some account =>
    simp only
    split
    · exact .ret trivial
    split
    · exact .ret trivial
    rename_i covered
    have hb : 0 ≤ account.balance - amount := sub_nonneg.mpr (not_lt.mp covered)
    rw [ensureNonNegativeBalance_safe (show 0 ≤ (account.withBalance (account.balance - amount)).balance from hb),
      bind_ret]
    exact .bind (.ask hb) fun _ _ _ => .bind (.add trivial) fun _ _ _ => .bind .commit fun _ _ _ => .ret trivial

theorem withdraw_safe (accNo : String) (amount : D) (category : String) (key : Option String) :
    Safe s (withdraw env draws accNo amount category key) Fine := by
  unfold withdraw
  split
  · exact .ret trivial
  refine .bind (checkIdempotency_safe key) fun cached s' _ => ?_
  cases cached with
  | some cached => exact .ret trivial
  | none =>
    refine .bind (.accountLock fun _ => withdrawLocked_safe env draws accNo amount category) fun outcome s' _ => ?_
    cases outcome with
    | error refusal => exact .ret trivial
    | ok account => exact .bind (storeIdempotency_safe ..) fun _ _ _ => .ret trivial

/-- The writes of a covered transfer do not raise on an active session. -/
theorem moveMoney_safe {sender receiver : Account D} (senderAccNo receiverAccNo : String) {amount : D} (cat : String)
    (ha : 0 < amount) (hs : 0 ≤ sender.balance - amount) (hr : 0 ≤ receiver.balance) :
    wp solvent (moveMoney draws sender receiver senderAccNo receiverAccNo amount cat) (fun r _ => ∃ a, r = .ok a)
      true := by
  have inactive : true = false → ∀ e : Exn, e.FromStore → ∃ a : D × D, (.error e : Except Exn (D × D)) = .ok a :=
    fun h => Bool.noConfusion h
  have hb : 0 ≤ receiver.balance + amount := add_nonneg hr ha.le
  rw [moveMoney, ensureNonNegativeBalance_safe (show 0 ≤ (sender.withBalance (sender.balance - amount)).balance from hs),
    bind_ret, wp_bind, accountRepo.update, UnionBank.ask, wp_perform]
  refine ⟨hs, fun _ _ => ?_, inactive⟩
  rw [andThen_ok, wp_bind, accountRepo.update, UnionBank.ask, wp_perform]
  refine ⟨hb, fun _ _ => ?_, inactive⟩
  rw [andThen_ok, wp_bind, txnRepo.create, UnionBank.add, wp_perform]
  refine ⟨trivial, ?_⟩
  rw [andThen_ok, wp_bind, txnRepo.create, UnionBank.add, wp_perform]
  exact ⟨trivial, _, rfl⟩

theorem transferLocked_safe (senderAccNo receiverAccNo : String) {amount : D} (ha : 0 < amount) (cat : String) :
    Safe s (transferLocked env draws senderAccNo receiverAccNo amount cat) Fine := by
  unfold transferLocked
  refine .bind (.ask trivial) fun sender s' hs => .bind (.ask trivial) fun receiver s'' hr => ?_
  cases sender with
  | none => exact .ret trivial
  | some sender =>
  cases receiver with
  | none => exact .ret trivial
  | some receiver =>
    simp only
    split
    · exact .ret trivial
    split
    · exact .ret trivial
    split
    · exact .ret trivial
    rename_i covered
    obtain rfl : s'' = true := hr.2
    refine .bind (.beginNested (moveMoney_safe draws _ _ _ ha (sub_nonneg.mpr (not_lt.mp covered)) (hr.1 receiver rfl)))
      fun balances _ _ => .bind .commit fun _ _ _ => .ret trivial

theorem transfer_safe (senderAccNo receiverAccNo : String) (amount : D) (category : String) (key : Option String) :
    Safe s (transfer env draws senderAccNo receiverAccNo amount category key) Fine := by
  unfold transfer
  split
  · exact .ret trivial
  rename_i positive
  split
  · exact .ret trivial
  refine .bind (cachedTransfer_safe key) fun cached s' _ => ?_
  cases cached with
  | some cached => exact .ret trivial
  | none =>
    refine .bind (.tryCatch (.accountLock fun _ => transferLocked_safe env draws _ _ (not_le.mp positive) _)
      fun _ _ => .bind .rollback fun _ _ _ => .ret trivial) fun outcome s' _ => ?_
    cases outcome with
    | error refusal => exact .ret trivial
    | ok balances => exact .bind (storeTransferIdempotency_safe env ..) fun _ _ _ => .ret trivial

theorem applyInterest_safe (accNo : String) : Safe s (applyInterest env draws accNo) Fine := by
  refine .bind (.ask trivial) fun account s' h => ?_
  cases account with
  | none => exact .ret trivial
  | some account =>
    simp only
    split
    · exact .ret trivial
    split
    · exact .ret trivial
    rename_i positive
    have hb : 0 ≤ account.balance + env.calculateMonthlyInterest account.balance :=
      add_nonneg (h.1 account rfl) (not_le.mp positive).le
    exact .bind (.ask hb) fun _ _ _ => .bind (.add trivial) fun _ _ _ => .bind .commit fun _ _ _ => .ret trivial

theorem auditLog_safe {actor action : String} {target details reason : Option String} {now : Time} :
    Safe (D := D) s (do auditLogRepo.log actor action target details reason now; auditLogRepo.commit) Fine :=
  .bind (.add trivial) fun _ _ _ => .commit

theorem applyLoan_safe (hmin : 0 ≤ env.ofCents 100000) (accNo loanType : String) (principal rate : D) (tenure : Int)
    (purpose : String) : Safe s (LoanService.applyLoan env draws accNo loanType principal rate tenure purpose) Fine := by
  refine .bind (.ask trivial) fun account s' h => ?_
  cases account with
  | none => exact .ret trivial
  | some account =>
    simp only
    split
    · exact .ret trivial
    split
    · exact .ret trivial
    split
    · exact .ret trivial
    rename_i least
    have hp : 0 ≤ principal := hmin.trans (not_lt.mp least)
    split
    · exact .ret trivial
    split
    · exact .ret trivial
    split
    · exact .ret trivial
    exact .bind (.add ⟨hp, hp⟩) fun _ _ _ => .bind .commit fun _ _ _ => .bind auditLog_safe fun _ _ _ => .ret trivial

theorem approveLoan_safe (loanId adminUser : String) :
    Safe s (LoanService.approveLoan env draws loanId adminUser) Fine := by
  refine .bind (.ask trivial) fun loan s' hl => ?_
  cases loan with
  | none => exact .ret trivial
  | some loan =>
    simp only
    split
    · exact .ret trivial
    refine .bind (.ask trivial) fun account s' h => ?_
    cases account with
    | none => exact .ret trivial
    | some account =>
      simp only
      split
      · exact .ret trivial
      have hloan : loan.Nonneg := hl.1 loan rfl
      have hb : 0 ≤ account.balance + loan.principalAmount := add_nonneg (h.1 account rfl) hloan.1
      exact .bind (.ask hloan) fun _ _ _ => .bind (.ask hb) fun _ _ _ => .bind (.add trivial) fun _ _ _ =>
        .bind .commit fun _ _ _ => .bind auditLog_safe fun _ _ _ => .ret trivial

theorem rejectLoan_safe (loanId reason adminUser : String) :
    Safe (D := D) s (LoanService.rejectLoan draws loanId reason adminUser) Fine := by
  refine .bind (.ask trivial) fun loan s' hl => ?_
  cases loan with
  | none => exact .ret trivial
  | some loan =>
    simp only
    split
    · exact .ret trivial
    have hloan : loan.Nonneg := hl.1 loan rfl
    exact .bind (.ask hloan) fun _ _ _ => .bind .commit fun _ _ _ => .bind auditLog_safe fun _ _ _ => .ret trivial

/-- A payment of at most the debt leaves no negative debt. -/
theorem paid_nonneg {loan : Loan D} (h : loan.Nonneg) {actual : D} (ha : actual ≤ loan.remainingAmount) (now : Time) :
    (LoanService.paid loan actual now).Nonneg := by
  unfold LoanService.paid
  simp only
  split
  · exact ⟨h.1, le_refl 0⟩
  · exact ⟨h.1, sub_nonneg.mpr ha⟩

theorem payEmi_safe (accNo loanId : String) (amount : Option D) :
    Safe s (LoanService.payEmi env draws accNo loanId amount) Fine := by
  refine .bind (.ask trivial) fun loan s' hl => ?_
  cases loan with
  | none => exact .ret trivial
  | some loan =>
    simp only
    split
    · exact .ret trivial
    split
    · exact .ret trivial
    refine .bind (.ask trivial) fun account s' h => ?_
    cases account with
    | none => exact .ret trivial
    | some account =>
      simp only
      split
      · exact .ret trivial
      split
      · exact .ret trivial
      split
      · exact .ret trivial
      rename_i covered
      have hloan : loan.Nonneg := hl.1 loan rfl
      generalize amount.getD loan.emiAmount = payment at covered
      -- `min(payment, remaining_debt)` is at most each of them
      have le_debt : (if loan.remainingAmount < payment then loan.remainingAmount else payment) ≤ loan.remainingAmount := by
        split
        · exact le_refl _
        · exact not_lt.mp ‹_›
      have le_payment : (if loan.remainingAmount < payment then loan.remainingAmount else payment) ≤ payment := by
        split
        · exact le_of_lt ‹_›
        · exact le_refl _
      have hb : 0 ≤ account.balance - (if loan.remainingAmount < payment then loan.remainingAmount else payment) :=
        sub_nonneg.mpr (le_payment.trans (not_lt.mp covered))
      exact .bind (.ask hb) fun _ _ _ => .bind (.ask (paid_nonneg hloan le_debt _)) fun _ _ _ =>
        .bind (.add trivial) fun _ _ _ => .bind .commit fun _ _ _ => .ret trivial

theorem createGoal_safe (accNo name : String) (target : D) (targetDate : Option String) :
    Safe s (SavingsGoalService.createGoal draws accNo name target targetDate) Fine := by
  unfold SavingsGoalService.createGoal
  split
  · exact .ret trivial
  split
  · exact .ret trivial
  exact .bind (.add (le_refl 0)) fun _ _ _ => .bind .commit fun _ _ _ => .ret trivial

theorem contribute_safe (accNo goalId : String) (amount : D) :
    Safe s (SavingsGoalService.contribute env draws accNo goalId amount) Fine := by
  unfold SavingsGoalService.contribute
  split
  · exact .ret trivial
  rename_i positive
  have ha : 0 ≤ amount := (not_le.mp positive).le
  refine .bind (.ask trivial) fun account s' h => ?_
  cases account with
  | none => exact .ret trivial
  | some account =>
    simp only
    split
    · exact .ret trivial
    rename_i covered
    have hb : 0 ≤ account.balance - amount := sub_nonneg.mpr (not_lt.mp covered)
    refine .bind (.ask trivial) fun goal s' _ => ?_
    cases goal with
    | none => exact .ret trivial
    | some goal =>
      exact .bind (.ask hb) fun _ _ _ => .bind (.add trivial) fun _ _ _ => .bind (.ask ha) fun _ _ _ =>
        .bind .commit fun _ _ _ => .ret trivial

theorem deleteGoal_safe (accNo goalId : String) :
    Safe s (SavingsGoalService.deleteGoal (D := D) accNo goalId) Fine := by
  refine .bind (.ask trivial) fun goal s' hg => ?_
  cases goal with
  | none => exact .ret trivial
  | some goal =>
    refine .bind (.ask trivial) fun _ _ _ => ?_
    have ending : ∀ (s : Bool) (message : String), Safe (D := D) s (do
        goalRepo.commit
        return ({ success := true, message } : ServiceResult D)) Fine := fun _ _ => .bind .commit fun _ _ _ => .ret trivial
    split
    · rename_i positive
      refine .bind (.ask trivial) fun account s' h => ?_
      cases account with
      | none => exact ending _ _
      | some account =>
        have hb : 0 ≤ account.balance + goal.currentAmount := add_nonneg (h.1 account rfl) positive.le
        exact .bind (.ask hb) fun _ _ _ => ending _ _
    · exact ending _ _

theorem freezeAccount_safe (accNo actor : String) (reason : Option String) :
    Safe (D := D) s (AdminService.freezeAccount draws accNo actor reason) Fine := by
  refine .bind (.ask trivial) fun account s' h => ?_
  cases account with
  | none => exact .ret trivial
  | some account =>
    simp only
    split
    · exact .ret trivial
    split
    · exact .ret trivial
    exact .bind (.ask trivial) fun _ _ _ => .bind (.ask trivial) fun _ _ _ => .bind .commit fun _ _ _ =>
      .bind auditLog_safe fun _ _ _ => .ret trivial

theorem unfreezeAccount_safe (accNo actor : String) (reason : Option String) :
    Safe (D := D) s (AdminService.unfreezeAccount draws accNo actor reason) Fine := by
  refine .bind (.ask trivial) fun account s' h => ?_
  cases account with
  | none => exact .ret trivial
  | some account =>
    simp only
    split
    · exact .ret trivial
    exact .bind (.ask trivial) fun _ _ _ => .bind .commit fun _ _ _ => .bind auditLog_safe fun _ _ _ => .ret trivial

theorem deleteAccount_safe (accNo actor : String) (reason : Option String) :
    Safe (D := D) s (AdminService.deleteAccount draws accNo actor reason) Fine := by
  refine .bind (.ask trivial) fun account s' h => ?_
  cases account with
  | none => exact .ret trivial
  | some account =>
    exact .bind (.ask trivial) fun _ _ _ => .bind .commit fun _ _ _ => .bind auditLog_safe fun _ _ _ => .ret trivial

theorem changePassword_safe (accNo currentPwd newPwd : String) :
    Safe s (AccountService.changePassword env accNo currentPwd newPwd) Fine := by
  refine .bind (.ask trivial) fun account s' h => ?_
  cases account with
  | none => exact .ret trivial
  | some account =>
    have hb : 0 ≤ account.balance := h.1 account rfl
    simp only
    split
    · exact .ret trivial
    exact .bind (.ask hb) fun _ _ _ => .bind (.ask trivial) fun _ _ _ => .bind .commit fun _ _ _ => .ret trivial

theorem closeAccount_safe (accNo password : String) : Safe s (AccountService.closeAccount env accNo password) Fine := by
  refine .bind (.ask trivial) fun account s' h => ?_
  cases account with
  | none => exact .ret trivial
  | some account =>
    have hb : 0 ≤ account.balance := h.1 account rfl
    simp only
    split
    · exact .ret trivial
    exact .bind (.ask hb) fun _ _ _ => .bind .commit fun _ _ _ => .ret trivial

/-- **Every call but a profile update is safe.** -/
theorem call_safe (hmin : 0 ≤ env.ofCents 100000) (c : Call D) (hp : c.request.isProfile = false) :
    Safe s (c.prog env) Fine := by
  obtain ⟨request, draws⟩ := c
  have answered : ∀ {α : Type} {p : Svc D α} (f : α → Reply D), Safe s p Fine → Safe s (do return f (← p)) Fine :=
    fun f h => h.bind fun _ _ _ => .ret trivial
  cases request with
  | deposit => exact answered _ (deposit_safe env draws ..)
  | withdraw => exact answered _ (withdraw_safe env draws ..)
  | transfer => exact answered _ (transfer_safe env draws ..)
  | applyInterest => exact answered _ (applyInterest_safe env draws ..)
  | applyLoan => exact answered _ (applyLoan_safe env draws hmin ..)
  | approveLoan => exact answered _ (approveLoan_safe env draws ..)
  | rejectLoan => exact answered _ (rejectLoan_safe draws ..)
  | payEmi => exact answered _ (payEmi_safe env draws ..)
  | createGoal => exact answered _ (createGoal_safe draws ..)
  | contribute => exact answered _ (contribute_safe env draws ..)
  | deleteGoal => exact answered _ (deleteGoal_safe ..)
  | freezeAccount => exact answered _ (freezeAccount_safe draws ..)
  | unfreezeAccount => exact answered _ (unfreezeAccount_safe draws ..)
  | deleteAccount => exact answered _ (deleteAccount_safe draws ..)
  | updateProfile => cases hp
  | changePassword => exact answered _ (changePassword_safe env ..)
  | closeAccount => exact answered _ (closeAccount_safe env ..)

end Services

/-! ## Runs -/

section Run

variable [IsOrderedAddMonoid D] {env : Env D} {B : Backend D}

/-- Nothing negative is stored, and nothing negative is pending in any session. -/
def Bank.Nonneg (bank : Bank D) : Prop :=
  bank.db.toLedger.Nonneg ∧ ∀ thread, ∀ c ∈ (bank.sessions thread).pending, c.Nonneg

/-- The guards behind the guards rest in a call: no commit meets the CHECK of the accounts table, and
`ensureNonNegativeBalance` raises neither in a transfer, which would roll its savepoint back, nor in a withdrawal. -/
def Bank.GuardsRest (env : Env D) (B : Backend D) (bank : Bank D) (tc : ℕ × Call D) : Prop :=
  (∀ n w, struck (handle B) n (tc.2.prog env) (bank.db, bank.sessions tc.1) = some (.commit, w) →
    ¬MeetsCheck B w.2.pending w.1) ∧
  (∀ n w, struck (handle B) n (tc.2.prog env) (bank.db, bank.sessions tc.1) ≠ some (.rollbackNested, w)) ∧
  ∀ message, (bank.serve env B tc.1 tc.2).1 ≠ .error (.valueError message)

theorem serve_nonneg (hB : B.KeepsSign) (hmin : 0 ≤ env.ofCents 100000) {bank : Bank D} (h : bank.Nonneg)
    {tc : ℕ × Call D} (hp : tc.2.request.isProfile = false) :
    bank.GuardsRest env B tc ∧ (bank.serve env B tc.1 tc.2).2.Nonneg := by
  have start : KeptNonneg (bank.db, bank.sessions tc.1) false := ⟨h.1, h.2 tc.1, Bool.noConfusion⟩
  have safe := call_safe (s := false) env hmin tc.2 hp
  have reach : ∀ {n o w}, struck (handle B) n (tc.2.prog env) (bank.db, bank.sessions tc.1) = some (o, w) →
      ∃ s Q, KeptNonneg w s ∧ solvent o s Q := fun hs => by
    obtain ⟨k, s, hR, hspec, -⟩ := wp_struck failed start safe hs fun m o w _ _ s Q => keeps_solvent hB o w s Q
    exact ⟨s, _, hR, hspec⟩
  obtain ⟨s, ⟨hl, hp, -⟩, hend⟩ := exec_of_wp (keeps_solvent hB) start safe
  refine ⟨⟨fun n w hs => ?_, fun n w hs => ?_, fun message he => ?_⟩, hl, fun t c hc => ?_⟩
  · obtain ⟨s, Q, ⟨hl, hp, -⟩, -⟩ := reach hs
    exact not_meetsCheck hB hp hl
  · obtain ⟨s, Q, -, hfalse⟩ := reach hs
    exact hfalse
  · have he' : (exec (handle B) (tc.2.prog env) (bank.db, bank.sessions tc.1)).1 = .error (.valueError message) := he
    rw [he'] at hend
    exact hend message rfl
  · simp only [Bank.serve, Function.update_apply] at hc
    split at hc
    · exact hp c hc
    · exact h.2 t c hc

/-- **No overdraft**: in every state reached by calls other than profile updates no balance, no goal and no debt is
negative, and in none of the calls does the CHECK of the accounts or the guard of a withdrawal or a transfer fire. -/
theorem no_overdraft (hB : B.KeepsSign) (hmin : 0 ≤ env.ofCents 100000) {bank : Bank D}
    (clean : ∀ thread, (bank.sessions thread).pending = []) (nonneg : bank.db.toLedger.Nonneg)
    {calls : List (ℕ × Call D)} (hp : ∀ tc ∈ calls, tc.2.request.isProfile = false) :
    (bank.run env B calls).db.toLedger.Nonneg ∧ bank.Along env B (Bank.GuardsRest env B) calls := by
  have start : bank.Nonneg := ⟨nonneg, fun t c hc => by rw [clean t] at hc; cases hc⟩
  have along : bank.Along env B (fun _ tc => tc.2.request.isProfile = false) calls :=
    Bank.along_of_forall fun _ tc hm => hp tc hm
  exact ⟨(Bank.run_induction along start fun _ tc h hp => (serve_nonneg hB hmin h hp).2).1,
    along.of_invariant start fun _ tc h hp => serve_nonneg hB hmin h hp⟩

end Run

/-! ## Examples -/

namespace Sample

theorem paise_keepsSign : paise.KeepsSign := fun p x y hx h => by
  rw [paise_exact p x y trivial h]
  exact hx

theorem store_nonneg : (store 10000 5000 700).toLedger.Nonneg where
  balance := by simp [store, account]
  loan := by simp [store]
  goal := by simp [store, goal]

/-- A withdrawal of everything, and a transfer of more than there is. -/
def spending : List (ℕ × Call ℤ) :=
  [(0, ⟨.withdraw "1001" 10000 "General" none, draws 0⟩), (0, ⟨.transfer "1001" "1002" 1 "General" none, draws 1⟩),
    (1, ⟨.closeAccount "1002" "secret", draws 2⟩)]

theorem no_overdraft_spending : ((bank 10000 5000 700).run paiseEnv paise spending).db.toLedger.Nonneg ∧
    (bank 10000 5000 700).Along paiseEnv paise (Bank.GuardsRest paiseEnv paise) spending :=
  no_overdraft paise_keepsSign (by decide) (fun _ => rfl) store_nonneg (by decide)

end Sample

end UnionBank
