import UnionBank.Services.Endpoints
import UnionBank.Serving

/-!
# What a visit does to the ledger

A visit ends with the ledger it found, or with the changes that `Visit.Writes` lists (`attend_settles`); a run of visits
starts every one of them on idle sessions (`day_idle`).
-/

namespace UnionBank

open Keyed Programs Prog

set_option linter.unusedSectionVars false

variable {D : Type} [Zero D] [Add D] [Sub D] [LE D] [LT D] [DecidableEq D] [DecidableLE D] [DecidableLT D]
variable (env : Env D) (checks : Checks) (B : Backend D)

/-- The changes a visit commits, with what it has checked. -/
inductive Visit.Writes (db : Db D) : Visit D → List (Change D) → Prop
  | call {c : Call D} {cs : List (Change D)} (posts : Posts env c.draws db c.request cs) : Writes db (.call c) cs
  | register {accNo name gender mobile email password : String} {age : Int} {now : Time} :
      Writes db (.register accNo name age gender mobile email password now)
        [.insert (.account ⟨accNo, name, age, gender, mobile, email, env.hashPassword password, env.ofCents 0, true,
          false, now, none⟩)]
  | updateProfile {accNo : String} {form : Api.ProfileForm} {account : Account D}
      (live : db.liveAccount? accNo = some account) :
      Writes db (.updateProfile accNo form) [.account account (form.fill account)]
  | updateSavingsGoal {goalId : String} {form : Api.GoalForm D} {goal : SavingsGoal D}
      (found : db.goals.find? goalId = some goal) :
      Writes db (.updateSavingsGoal goalId form) [.goal goal (form.fill goal)]
  | changePassword {accNo currentPassword newPassword confirmPassword : String} {account : Account D}
      (live : db.liveAccount? accNo = some account)
      (verified : env.verifyPassword currentPassword account.password = true) :
      Writes db (.changePassword accNo currentPassword newPassword confirmPassword)
        [.account account { account with password := env.hashPassword newPassword }]

/-- The end of a visit. -/
inductive Attended (v : Visit D) (db db' : Db D) : Prop
  | unmoved (ledger : db'.toLedger = db.toLedger)
  | moved {db₁ : Db D} {cs : List (Change D)} (writes : v.Writes env db cs) (flushed : flush B cs db = .ok db₁)
      (ledger : db'.toLedger = db₁.toLedger)

/-- A visit that is a service call. -/
theorem attend_call (bank : Bank D) (thread : ℕ) (c : Call D) :
    (bank.attend env checks B thread (.call c)).2 = (bank.serve env B thread c).2 := by
  simp only [Bank.attend, Bank.serve, Visit.prog, exec_bind]
  rcases exec (handle B) (c.prog env) (bank.db, bank.sessions thread) with ⟨_ | _, _, _⟩ <;> rfl

section Clean

variable (db : Db D)

/-- The store as it was, and a session that an endpoint leaves between two calls. -/
theorem Attended.same (v : Visit D) {i : Bool} : Attended env B v db db ∧ (⟨[], i, none, []⟩ : Session D).Idle :=
  ⟨.unmoved rfl, Session.idle_nil⟩

theorem register_attended (accNo name : String) (age : Int) (gender mobile email password : String) (now : Time) :
    wp (runs B) ((Visit.register accNo name age gender mobile email password now).prog env checks)
      (fun _ w => Attended env B (.register accNo name age gender mobile email password now) db w.1 ∧ w.2.Idle)
      (db, {}) := by
  have create : ∀ (account : Account D) (Q : Except Exn Unit → Db D × Session D → Prop),
      wp (runs B) (accountRepo.create account) Q (db, {}) =
        Q (.ok ()) (db, ⟨[.insert (.account account)], false, none, []⟩) := fun _ _ => wp_perform ..
  simp only [Visit.prog, AuthService.customerRegister, wp_bind, create, andThen_ok]
  refine wp_commit B _ (fun db₁ hf => ?_) fun e _ => ?_
  · exact ⟨.moved .register hf rfl, Session.idle_nil⟩
  · exact Attended.same env B db _

theorem updateProfile_attended (accNo : String) (form : Api.ProfileForm) :
    wp (runs B) ((Visit.updateProfile accNo form).prog env checks)
      (fun _ w => Attended env B (.updateProfile accNo form) db w.1 ∧ w.2.Idle) (db, {}) := by
  simp only [Visit.prog, Api.updateProfile, wp_bind, wp_accountRepo_get, andThen_ok, Session.account?_nil]
  cases live : db.liveAccount? accNo with
  | none => exact Attended.same env B db _
  | some account =>
    simp only
    split
    · exact Attended.same env B db _
    split
    · exact Attended.same env B db _
    split
    · exact Attended.same env B db _
    have staged := staged_updateAccount (s := ({} : Session D)) (form.fill account) live (by simp) rfl rfl
    simp only [wp_bind, wp_accountRepo_update, List.nil_append, andThen_ok]
    refine wp_commit B _ (fun db₁ hf => ?_) fun e _ => ?_
    · rw [staged] at hf
      exact ⟨.moved (.updateProfile live) hf rfl, Session.idle_nil⟩
    · exact Attended.same env B db _

theorem updateSavingsGoal_attended (goalId : String) (form : Api.GoalForm D) :
    wp (runs B) ((Visit.updateSavingsGoal goalId form).prog env checks)
      (fun _ w => Attended env B (.updateSavingsGoal goalId form) db w.1 ∧ w.2.Idle) (db, {}) := by
  simp only [Visit.prog, Api.updateSavingsGoal, wp_bind, wp_goalRepo_get, andThen_ok, Session.goal?_nil]
  cases found : db.goals.find? goalId with
  | none => exact Attended.same env B db _
  | some goal =>
    have staged : Query.staged db {} (.updateGoal (form.fill goal)) = [.goal goal (form.fill goal)] := by
      have read : ({} : Session D).goal? db (form.fill goal).goalId = some goal := by
        show ({} : Session D).goal? db goal.goalId = some goal
        rw [Session.goal?_nil, Table.key_of_find? found, found]
      simp only [Query.staged, read]
      rfl
    have update : ∀ Q : Except Exn Unit → Db D × Session D → Prop,
        wp (runs B) (goalRepo.update (form.fill goal)) Q (db, {}) =
          Q (.ok ()) (db, ⟨[.goal goal (form.fill goal)], false, none, []⟩) := by
      intro Q
      rw [goalRepo.update, wp_ask, staged]
      rfl
    simp only [wp_bind, update, andThen_ok]
    refine wp_commit B _ (fun db₁ hf => ?_) fun e _ => ?_
    · exact ⟨.moved (.updateSavingsGoal found) hf rfl, Session.idle_nil⟩
    · exact Attended.same env B db _

theorem changePassword_attended (accNo currentPassword newPassword confirmPassword : String) :
    wp (runs B) ((Visit.changePassword accNo currentPassword newPassword confirmPassword).prog env checks)
      (fun _ w => Attended env B (.changePassword accNo currentPassword newPassword confirmPassword) db w.1 ∧ w.2.Idle)
      (db, {}) := by
  simp only [Visit.prog, Api.changePassword, wp_bind, wp_accountRepo_get, andThen_ok, Session.account?_nil]
  cases live : db.liveAccount? accNo with
  | none => exact Attended.same env B db _
  | some account =>
    simp only
    split
    · exact Attended.same env B db _
    rename_i verified
    split
    · exact Attended.same env B db _
    split
    · exact Attended.same env B db _
    have staged := staged_updateAccount (s := ({} : Session D)) { account with password := env.hashPassword newPassword }
      live (by simp) rfl rfl
    simp only [wp_bind, wp_accountRepo_update, List.nil_append, andThen_ok]
    refine wp_commit B _ (fun db₁ hf => ?_) fun e _ => ?_
    · rw [staged] at hf
      exact ⟨.moved (.changePassword live (by simpa using verified)) hf rfl, Session.idle_nil⟩
    · exact Attended.same env B db _

end Clean

/-- An endpoint on an inactive session writes nothing. -/
theorem exec_endpoint_inactive (db : Db D) (v : Visit D) (hv : ∀ c, v ≠ .call c) {s : Session D}
    (hi : s.inactive = true) (hh : s.held = []) :
    (exec (handle B) (v.prog env checks) (db, s)).2.1 = db ∧
      (exec (handle B) (v.prog env checks) (db, s)).2.2.Idle := by
  obtain ⟨pending, inactive, savepoint, held⟩ := s
  obtain rfl : inactive = true := hi
  obtain rfl : held = [] := hh
  cases v with
  | call c => exact absurd rfl (hv c)
  | register => exact ⟨rfl, rfl, fun h => Bool.noConfusion h⟩
  | updateProfile => exact ⟨rfl, rfl, fun h => Bool.noConfusion h⟩
  | updateSavingsGoal => exact ⟨rfl, rfl, fun h => Bool.noConfusion h⟩
  | changePassword => exact ⟨rfl, rfl, fun h => Bool.noConfusion h⟩

/-- **A visit** on idle sessions leaves the ledger or writes what it lists, and leaves the sessions idle. -/
theorem attend_settles {bank : Bank D} (h : bank.Idle) (thread : ℕ) (v : Visit D) :
    Attended env B v bank.db (bank.attend env checks B thread v).2.db ∧ (bank.attend env checks B thread v).2.Idle := by
  by_cases hv : ∃ c, v = .call c
  · obtain ⟨c, rfl⟩ := hv
    rw [attend_call]
    obtain ⟨posted, idle⟩ := serve_settles env B h thread c
    refine ⟨?_, idle⟩
    cases posted with
    | unmoved ledger => exact .unmoved ledger
    | moved posts flushed ledger => exact .moved (.call posts) flushed ledger
  have main : Attended env B v bank.db (exec (handle B) (v.prog env checks) (bank.db, bank.sessions thread)).2.1 ∧
      (exec (handle B) (v.prog env checks) (bank.db, bank.sessions thread)).2.2.Idle := by
    have hidle := h thread
    rcases hs : bank.sessions thread with ⟨pending, inactive, savepoint, held⟩
    rw [hs] at hidle
    obtain rfl : held = [] := hidle.held
    cases inactive with
    | true =>
      obtain ⟨hdb, hi⟩ := exec_endpoint_inactive env checks B bank.db v (fun c e => hv ⟨c, e⟩)
        (s := ⟨pending, true, savepoint, []⟩) rfl rfl
      exact ⟨.unmoved (by rw [hdb]), hi⟩
    | false =>
      obtain ⟨rfl, rfl⟩ := hidle.clean rfl
      cases v with
      | call c => exact absurd ⟨c, rfl⟩ hv
      | register => exact (wp_handler _ _ _ _).mp (register_attended env checks B bank.db _ _ _ _ _ _ _ _)
      | updateProfile => exact (wp_handler _ _ _ _).mp (updateProfile_attended env checks B bank.db _ _)
      | updateSavingsGoal => exact (wp_handler _ _ _ _).mp (updateSavingsGoal_attended env checks B bank.db _ _)
      | changePassword => exact (wp_handler _ _ _ _).mp (changePassword_attended env checks B bank.db _ _ _ _)
  refine ⟨main.1, fun t => ?_⟩
  simp only [Bank.attend, Function.update_apply]
  split
  · exact main.2
  · exact h t

/-! ## Runs of visits -/

namespace Bank

/-- Every visit of a run is made on a bank with `P`. -/
def Throughout (P : Bank D → ℕ × Visit D → Prop) : Bank D → List (ℕ × Visit D) → Prop
  | _, [] => True
  | bank, tv :: visits => P bank tv ∧ (bank.attend env checks B tv.1 tv.2).2.Throughout P visits

variable {env checks B} {P : Bank D → ℕ × Visit D → Prop}

/-- The bank after one visit more. -/
theorem day_take_succ {bank : Bank D} {visits : List (ℕ × Visit D)} {k : ℕ} {tv : ℕ × Visit D}
    (h : visits[k]? = some tv) : bank.day env checks B (visits.take (k + 1)) =
      ((bank.day env checks B (visits.take k)).attend env checks B tv.1 tv.2).2 := by
  induction visits generalizing bank k with
  | nil => cases h
  | cons tv' visits ih =>
    cases k with
    | zero => cases h; rfl
    | succ k => exact ih h

/-- A run of visits stands still after its last one. -/
theorem day_take_length {bank : Bank D} {visits : List (ℕ × Visit D)} {k : ℕ} (h : visits.length ≤ k) :
    bank.day env checks B (visits.take (k + 1)) = bank.day env checks B (visits.take k) := by
  rw [List.take_of_length_le h, List.take_of_length_le (h.trans k.le_succ)]

theorem Throughout.get {bank : Bank D} {visits : List (ℕ × Visit D)} (all : bank.Throughout env checks B P visits)
    {k : ℕ} {tv : ℕ × Visit D} (h : visits[k]? = some tv) : P (bank.day env checks B (visits.take k)) tv := by
  induction visits generalizing bank k with
  | nil => cases h
  | cons tv' visits ih =>
    cases k with
    | zero => cases h; exact all.1
    | succ k => exact ih all.2 h

/-- What every visit preserves holds after each of them. -/
theorem day_induction {I : Bank D → Prop} {bank : Bank D} {visits : List (ℕ × Visit D)}
    (all : bank.Throughout env checks B P visits) (start : I bank)
    (step : ∀ bank tv, I bank → P bank tv → I (bank.attend env checks B tv.1 tv.2).2) (k : ℕ) :
    I (bank.day env checks B (visits.take k)) := by
  induction k with
  | zero => rw [List.take_zero]; exact start
  | succ k ih =>
    cases h : visits[k]? with
    | none => rw [day_take_length (List.getElem?_eq_none_iff.mp h)]; exact ih
    | some tv => rw [day_take_succ h]; exact step _ tv ih (all.get h)

end Bank

theorem day_idle {bank : Bank D} (h : bank.Idle) (visits : List (ℕ × Visit D)) (k : ℕ) :
    (bank.day env checks B (visits.take k)).Idle := by
  have all : bank.Throughout env checks B (fun _ _ => True) visits := by
    clear h
    induction visits generalizing bank with
    | nil => trivial
    | cons tv visits ih => exact ⟨trivial, ih⟩
  exact Bank.day_induction all h (fun _ tv idle _ => (attend_settles env checks B idle tv.1 tv.2).2) k

end UnionBank
