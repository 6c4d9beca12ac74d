import UnionBank.Dormancy
import UnionBank.Replay

/-!
# Keys of different customers

All customers share one space of keys: the lookup does not ask whose record it finds. Two runs that differ in the keys
of one customer's errands go the same way (`keys_apart`) when those keys meet no key of another customer, and are
repeated, left out and too long for their column at the same places.

- `Rekeyed`: two errands that may differ in the key of one customer, `Apart`: the condition on two runs;
- `Alike`: the relation between the two banks that every pair of errands keeps (`Alike.step`).
-/

namespace UnionBank

open Keyed TransactionService

set_option linter.unusedSectionVars false

variable {D : Type}

/-- An errand of a thread in each of two runs. -/
abbrev Pair (D : Type) := (ℕ × Errand D) × (ℕ × Errand D)

/-- The same errand, but for its key if it is one of `b`. -/
structure Rekeyed (b : String) (z : Pair D) : Prop where
  thread : z.1.1 = z.2.1
  order : z.1.2.order = z.2.2.order
  draws : z.1.2.draws = z.2.2.draws
  key : z.1.2.order.customer ≠ b → z.1.2.key = z.2.2.key

/-- The keys of `b` meet no other customer's, in either run, and follow the same pattern in both. -/
structure Apart (B : Backend D) (b : String) (zs : List (Pair D)) : Prop where
  foreign : ∀ z ∈ zs, ∀ z' ∈ zs, z.1.2.order.customer = b → z'.1.2.order.customer ≠ b → ∀ k,
    ¬(givenKey z.1.2.key = some k ∧ givenKey z'.1.2.key = some k) ∧
      ¬(givenKey z.2.2.key = some k ∧ givenKey z'.2.2.key = some k)
  given : ∀ z ∈ zs, z.1.2.order.customer = b → (givenKey z.1.2.key).isSome = (givenKey z.2.2.key).isSome
  taken : ∀ z ∈ zs, z.1.2.order.customer = b → ∀ k₁ k₂, givenKey z.1.2.key = some k₁ → givenKey z.2.2.key = some k₂ →
    B.varchar 64 k₁ = B.varchar 64 k₂
  repeated : ∀ z ∈ zs, ∀ z' ∈ zs, z.1.2.order.customer = b → z'.1.2.order.customer = b →
    (givenKey z.1.2.key = givenKey z'.1.2.key ↔ givenKey z.2.2.key = givenKey z'.2.2.key)

/-! ## One ledger, two key tables -/

section Ledgers

variable [Zero D] [Add D] [Sub D] [LE D] [LT D] [DecidableEq D] [DecidableLE D] [DecidableLT D]
variable {env : Env D} {B : Backend D}

/-- The tables beside the ledger, with another ledger. -/
def Db.onto (db : Db D) (l : Ledger D) : Db D := { db with toLedger := l }

theorem Db.onto_self {db db' : Db D} (h : db.toLedger = db'.toLedger) : db.onto db'.toLedger = db := by
  rw [← h]
  rfl

theorem map_bind {α β γ : Type} (x : Except Exn α) (f : α → Except Exn β) (g : β → γ) :
    (x >>= f).map g = x >>= fun a => (f a).map g := by
  cases x <;> rfl

/-- A booking depends on the ledger only. -/
theorem apply_onto {c : Change D} (hc : c.isBooking = true) (db db' : Db D) (l : Ledger D) :
    c.apply B (db.onto l) = (c.apply B (db'.onto l)).map fun d => db.onto d.toLedger := by
  rcases c with (_ | _ | _ | _ | _ | _ | _) | _ | _ | _ | _ | _
  all_goals first
    | exact Bool.noConfusion hc
    | simp only [Change.apply, NewRow.insert, map_bind]; rfl

theorem flush_onto {cs : List (Change D)} (hc : ∀ c ∈ cs, c.isBooking = true) (db db' : Db D) (l : Ledger D) :
    flush B cs (db.onto l) = (flush B cs (db'.onto l)).map fun d => db.onto d.toLedger := by
  induction cs generalizing l with
  | nil => rfl
  | cons c cs ih =>
    have head := apply_onto (B := B) (hc c List.mem_cons_self) db db' l
    show (c.apply B (db.onto l) >>= fun d => flush B cs d) = ((c.apply B (db'.onto l) >>= fun d => flush B cs d)).map _
    have keeps : ∀ d, c.apply B (db'.onto l) = .ok d → db'.onto d.toLedger = d := by
      intro d h
      have := apply_onto (B := B) (hc c List.mem_cons_self) db' db' l
      rw [h] at this
      exact (Except.ok.inj this).symm
    rw [head, map_bind]
    cases h : c.apply B (db'.onto l) with
    | error e => rfl
    | ok d =>
      have rest := ih (fun c hm => hc c (List.mem_cons_of_mem _ hm)) d.toLedger
      rw [keeps d h] at rest
      exact rest

/-! ## One errand -/

variable {draws : Draws} {db₁ db₂ : Db D} {key₁ key₂ : Option String} {o : Order D}

/-- What a movement posts depends on the ledger only. -/
theorem post_congr (h : db₁.toLedger = db₂.toLedger) : o.post env draws db₁ = o.post env draws db₂ := by
  have live : ∀ accNo, db₁.liveAccount? accNo = db₂.liveAccount? accNo := fun accNo => by rw [h]
  cases o with
  | deposit | withdraw | transfer => simp only [Order.post, live]

theorem replay_congr {r r' : IdempotencyRecord D} (h : r.resultJson = r'.resultJson) : o.replay r = o.replay r' := by
  cases o with
  | deposit | withdraw | transfer => simp only [Order.replay, h]

theorem kept_replay_congr (h : (db₁.kept key₁).map IdempotencyRecord.resultJson =
    (db₂.kept key₂).map IdempotencyRecord.resultJson) :
    ((db₁.kept key₁).bind fun r => o.replay r) = (db₂.kept key₂).bind fun r => o.replay r := by
  cases k₁ : db₁.kept key₁ with
  | none =>
    cases k₂ : db₂.kept key₂ with
    | none => rfl
    | some r₂ => rw [k₁, k₂] at h; cases h
  | some r₁ =>
    cases k₂ : db₂.kept key₂ with
    | none => rw [k₁, k₂] at h; cases h
    | some r₂ =>
      rw [k₁, k₂] at h
      exact replay_congr (Option.some.inj h)

/-- The store after the commit of a movement, with its record if it has a key. -/
def Db.keepUnder (B : Backend D) (db : Db D) (key : Option String) (o : Order D) (result : CachedResult D) : Db D :=
  ((givenKey key).map fun k => db.keep B (o.record k result)).getD db

/-- Two ends of one errand: the same answer, and the same ledger after the same posting. -/
inductive Agree (B : Backend D) (db₁ db₂ : Db D) (key₁ key₂ : Option String) (o : Order D) : Told D → Told D → Prop
  | answered (r : Except Exn (Reply D)) (inactive : Bool) : Agree B db₁ db₂ key₁ key₂ o ⟨r, db₁, inactive⟩ ⟨r, db₂, inactive⟩
  | posted {posting : Posting D} {d₁ d₂ : Db D} (ledger : d₁.toLedger = d₂.toLedger)
      (keys₁ : d₁.idempotencyKeys = db₁.idempotencyKeys) (keys₂ : d₂.idempotencyKeys = db₂.idempotencyKeys)
      (new₁ : db₁.kept key₁ = none) (new₂ : db₂.kept key₂ = none) :
      Agree B db₁ db₂ key₁ key₂ o ⟨.ok posting.reply, d₁.keepUnder B key₁ o posting.result, false⟩
        ⟨.ok posting.reply, d₂.keepUnder B key₂ o posting.result, false⟩

variable (env draws) in
/-- **Two keys that find the same result end an errand alike.** -/
theorem tell_agree (ledger : db₁.toLedger = db₂.toLedger) (readable : db₁.Readable)
    (given : (givenKey key₁).isSome = (givenKey key₂).isSome)
    (found : (db₁.kept key₁).map IdempotencyRecord.resultJson = (db₂.kept key₂).map IdempotencyRecord.resultJson)
    (inactive : Bool) :
    Agree B db₁ db₂ key₁ key₂ o (tell env B draws db₁ inactive key₁ o) (tell env B draws db₂ inactive key₂ o) := by
  have failure : ∀ e, Agree B db₁ db₂ key₁ key₂ o (o.failure db₁ e) (o.failure db₂ e) := by
    intro e
    cases o <;> exact .answered _ _
  cases asked : o.refusal with
  | some reply =>
    rw [tell_refused asked, tell_refused asked]
    exact .answered _ _
  | none =>
    cases inactive with
    | true =>
      cases hg : (givenKey key₁).isSome with
      | true =>
        rw [tell_pending asked hg, tell_pending asked (given ▸ hg)]
        exact .answered _ _
      | false =>
        rw [tell_inactive asked hg, tell_inactive asked (given ▸ hg)]
        exact failure _
    | false =>
      have same := kept_replay_congr (o := o) found
      cases known : (db₁.kept key₁).bind fun r => o.replay r with
      | some reply =>
        rw [tell_replayed asked known, tell_replayed asked (same ▸ known)]
        exact .answered _ _
      | none =>
        have new₁ : db₁.kept key₁ = none := by
          cases kept : db₁.kept key₁ with
          | none => rfl
          | some record =>
            obtain ⟨k, -, stored⟩ := Option.bind_eq_some_iff.mp kept
            have answers := replay_isSome (o := o) (readable k record stored)
            rw [kept, Option.bind_some] at known
            rw [known] at answers
            cases answers
        have new₂ : db₂.kept key₂ = none := by
          rw [new₁] at found
          exact Option.map_eq_none_iff.mp found.symm
        rw [tell_executed asked known, tell_executed asked (same ▸ known)]
        cases post : o.post env draws db₁ with
        | error r =>
          rw [execute_stopped post, execute_stopped (post_congr ledger ▸ post)]
          exact .answered _ _
        | ok posting =>
          have post₂ : o.post env draws db₂ = .ok posting := post_congr ledger ▸ post
          have booking := (books_of_post post).booking
          have onto := flush_onto (B := B) booking db₂ db₁ db₁.toLedger
          rw [Db.onto_self ledger.symm, Db.onto_self rfl] at onto
          cases flushed : flush B posting.changes db₁ with
          | error e =>
            rw [flushed] at onto
            rw [execute_failed post flushed, execute_failed post₂ onto]
            exact failure e
          | ok d₁ =>
            rw [flushed] at onto
            rw [execute_posted post flushed, execute_posted post₂ onto]
            exact .posted rfl (flush_booking booking flushed) rfl new₁ new₂

/-- Keeping a record under a new key: whether the columns take it is all that matters. -/
theorem keep_new {db : Db D} {r : IdempotencyRecord D} (new : db.idempotencyKeys.find? r.idempotencyKey = none) :
    (∃ amount, B.money r.amount = .ok amount ∧ B.fits r.texts = true ∧ ∀ k,
        (db.keep B r).idempotencyKeys.find? k =
          if k = r.idempotencyKey then some { r with amount } else db.idempotencyKeys.find? k) ∨
      (B.fits r.texts = true → ∀ amount, B.money r.amount ≠ .ok amount) ∧ db.keep B r = db := by
  unfold Db.keep
  cases flushed : flush B [.insert (.idempotencyKey r)] db with
  | ok db' =>
    left
    have applied := (flush_one _).mp flushed
    simp only [Change.apply, NewRow.insert, bind_eq_ok, require_eq_ok, found_eq_ok, pure_eq_ok] at applied
    obtain ⟨amount, money, -, fits, keys, inserted, rfl⟩ := applied
    obtain ⟨_, rfl⟩ := Table.insert?_eq_some.mp inserted
    exact ⟨amount, money, fits, fun k => Table.find?_insert db.idempotencyKeys { r with amount } new k⟩
  | error e =>
    refine .inr ⟨fun fits amount money => ?_, rfl⟩
    have inserted : db.idempotencyKeys.insert? { r with amount } = some (db.idempotencyKeys.insert { r with amount } new) :=
      dif_pos new
    have applied : flush B [.insert (.idempotencyKey r)] db =
        .ok { db with idempotencyKeys := db.idempotencyKeys.insert { r with amount } new } := by
      refine (flush_one _).mpr ?_
      simp only [Change.apply, NewRow.insert, bind_eq_ok, require_eq_ok, found_eq_ok, pure_eq_ok]
      exact ⟨amount, money, (), fits, _, inserted, rfl⟩
    rw [applied] at flushed
    cases flushed

/-! ## Two key tables -/

/-- The records under the keys of two runs: the same results, each under a key of the customer it names. -/
structure Linked (zs : List (Pair D)) (t₁ t₂ : Table (IdempotencyRecord.idempotencyKey (D := D))) : Prop where
  found : ∀ z ∈ zs, ∀ k₁ k₂, givenKey z.1.2.key = some k₁ → givenKey z.2.2.key = some k₂ →
    (t₁.find? k₁).map IdempotencyRecord.resultJson = (t₂.find? k₂).map IdempotencyRecord.resultJson
  owner₁ : ∀ k r, t₁.find? k = some r → ∃ z ∈ zs, givenKey z.1.2.key = some k ∧ r.accountNumber = z.1.2.order.customer
  owner₂ : ∀ k r, t₂.find? k = some r → ∃ z ∈ zs, givenKey z.2.2.key = some k ∧ r.accountNumber = z.2.2.order.customer
  readable : ∀ k r, t₁.find? k = some r → r.resultJson ≠ none

variable {b : String} {zs : List (Pair D)}

/-- Two errands repeat a key in the one run if they do in the other. -/
theorem Apart.pattern (apart : Apart B b zs) (rekeyed : ∀ z ∈ zs, Rekeyed b z) {z z' : Pair D} (hz : z ∈ zs)
    (hz' : z' ∈ zs) {k₁ k₂ k₁' k₂' : String} (h₁ : givenKey z.1.2.key = some k₁) (h₂ : givenKey z.2.2.key = some k₂)
    (h₁' : givenKey z'.1.2.key = some k₁') (h₂' : givenKey z'.2.2.key = some k₂') : k₁' = k₁ ↔ k₂' = k₂ := by
  by_cases own : z.1.2.order.customer = b
  · by_cases own' : z'.1.2.order.customer = b
    · have pattern := apart.repeated z hz z' hz' own own'
      rw [h₁, h₂, h₁', h₂', Option.some_inj, Option.some_inj] at pattern
      exact ⟨fun e => (pattern.mp e.symm).symm, fun e => (pattern.mpr e.symm).symm⟩
    · constructor
      · rintro rfl
        exact absurd ⟨h₁, h₁'⟩ (apart.foreign z hz z' hz' own own' _).1
      · rintro rfl
        exact absurd ⟨h₂, h₂'⟩ (apart.foreign z hz z' hz' own own' _).2
  · have same := (rekeyed z hz).key own
    rw [← same, h₁] at h₂
    cases h₂
    by_cases own' : z'.1.2.order.customer = b
    · constructor
      · rintro rfl
        exact absurd ⟨h₁', h₁⟩ (apart.foreign z' hz' z hz own' own _).1
      · rintro rfl
        exact absurd ⟨h₂', same ▸ h₁⟩ (apart.foreign z' hz' z hz own' own _).2
    · have same' := (rekeyed z' hz').key own'
      rw [← same', h₁'] at h₂'
      cases h₂'
      rfl

theorem Apart.isSome (apart : Apart B b zs) (rekeyed : ∀ z ∈ zs, Rekeyed b z) {z : Pair D} (hz : z ∈ zs) :
    (givenKey z.1.2.key).isSome = (givenKey z.2.2.key).isSome := by
  by_cases own : z.1.2.order.customer = b
  · exact apart.given z hz own
  · rw [(rekeyed z hz).key own]

/-- A pair carries two keys or none. -/
theorem Apart.keys (apart : Apart B b zs) (rekeyed : ∀ z ∈ zs, Rekeyed b z) {z : Pair D} (hz : z ∈ zs) :
    (givenKey z.1.2.key = none ∧ givenKey z.2.2.key = none) ∨
      ∃ k₁ k₂, givenKey z.1.2.key = some k₁ ∧ givenKey z.2.2.key = some k₂ := by
  have given := apart.isSome rekeyed hz
  cases h₁ : givenKey z.1.2.key with
  | none =>
    cases h₂ : givenKey z.2.2.key with
    | none => exact .inl ⟨rfl, rfl⟩
    | some k₂ => rw [h₁, h₂] at given; cases given
  | some k₁ =>
    cases h₂ : givenKey z.2.2.key with
    | none => rw [h₁, h₂] at given; cases given
    | some k₂ => exact .inr ⟨k₁, k₂, rfl, rfl⟩

theorem Apart.varchar (apart : Apart B b zs) (rekeyed : ∀ z ∈ zs, Rekeyed b z) {z : Pair D} (hz : z ∈ zs)
    {k₁ k₂ : String} (h₁ : givenKey z.1.2.key = some k₁) (h₂ : givenKey z.2.2.key = some k₂) :
    B.varchar 64 k₁ = B.varchar 64 k₂ := by
  by_cases own : z.1.2.order.customer = b
  · exact apart.taken z hz own k₁ k₂ h₁ h₂
  · rw [(rekeyed z hz).key own, h₂] at h₁
    cases h₁
    rfl

/-- Records of one result under two new keys are both taken or both refused. -/
theorem Linked.keep (apart : Apart B b zs) (rekeyed : ∀ z ∈ zs, Rekeyed b z) {z : Pair D} (hz : z ∈ zs) {d₁ d₂ : Db D}
    (linked : Linked zs d₁.idempotencyKeys d₂.idempotencyKeys) (result : CachedResult D)
    (new₁ : d₁.kept z.1.2.key = none) (new₂ : d₂.kept z.2.2.key = none) :
    Linked zs (d₁.keepUnder B z.1.2.key z.1.2.order result).idempotencyKeys
      (d₂.keepUnder B z.2.2.key z.1.2.order result).idempotencyKeys := by
  unfold Db.keepUnder
  rcases apart.keys rekeyed hz with ⟨h₁, h₂⟩ | ⟨k₁, k₂, h₁, h₂⟩
  · rw [h₁, h₂]
    exact linked
  · rw [h₁, h₂]
    rw [Db.kept, h₁, Option.bind_some] at new₁
    rw [Db.kept, h₂, Option.bind_some] at new₂
    have fits : B.fits (z.1.2.order.record k₁ result).texts = B.fits (z.1.2.order.record k₂ result).texts := by
      have taken := apart.varchar rekeyed hz h₁ h₂
      simp only [Backend.fits, IdempotencyRecord.texts, Order.record, List.all_cons, taken]
    have kept₁ := keep_new (B := B) (r := z.1.2.order.record k₁ result) new₁
    have kept₂ := keep_new (B := B) (r := z.1.2.order.record k₂ result) new₂
    show Linked zs (d₁.keep B (z.1.2.order.record k₁ result)).idempotencyKeys
      (d₂.keep B (z.1.2.order.record k₂ result)).idempotencyKeys
    rcases kept₁ with ⟨amount, money, fits₁, find₁⟩ | ⟨refused₁, same₁⟩
    · rcases kept₂ with ⟨amount₂, -, -, find₂⟩ | ⟨refused₂, -⟩
      swap
      · exact absurd money (refused₂ (fits ▸ fits₁) amount)
      constructor
      · intro z' hz' k₁' k₂' h₁' h₂'
        have pattern := apart.pattern rekeyed hz hz' h₁ h₂ h₁' h₂'
        rw [find₁, find₂]
        show Option.map _ (if k₁' = k₁ then _ else _) = Option.map _ (if k₂' = k₂ then _ else _)
        by_cases e : k₁' = k₁
        · rw [if_pos e, if_pos (pattern.mp e)]
          rfl
        · rw [if_neg e, if_neg fun e₂ => e (pattern.mpr e₂)]
          exact linked.found z' hz' k₁' k₂' h₁' h₂'
      · intro k r hr
        rw [find₁] at hr
        split at hr
        · rename_i e
          cases hr
          exact ⟨z, hz, by rw [e]; exact h₁, rfl⟩
        · exact linked.owner₁ k r hr
      · intro k r hr
        rw [find₂] at hr
        split at hr
        · rename_i e
          cases hr
          refine ⟨z, hz, by rw [e]; exact h₂, ?_⟩
          rw [← (rekeyed z hz).order]
          rfl
        · exact linked.owner₂ k r hr
      · intro k r hr
        rw [find₁] at hr
        split at hr
        · cases hr
          exact Option.some_ne_none _
        · exact linked.readable k r hr
    · rcases kept₂ with ⟨amount, money, fits₂, -⟩ | ⟨-, same₂⟩
      · exact absurd money (refused₁ (fits.symm ▸ fits₂) amount)
      · rw [same₁, same₂]
        exact linked

/-! ## Two runs -/

/-- Two banks on which the errands of a pair go the same way. -/
structure Alike (zs : List (Pair D)) (bank₁ bank₂ : Bank D) : Prop where
  ledger : bank₁.db.toLedger = bank₂.db.toLedger
  sessions : bank₁.sessions = bank₂.sessions
  rested : bank₁.Rested
  linked : Linked zs bank₁.db.idempotencyKeys bank₂.db.idempotencyKeys

theorem Alike.rested' {bank₁ bank₂ : Bank D} (alike : Alike zs bank₁ bank₂) : bank₂.Rested := by
  intro t
  rw [← alike.sessions]
  exact alike.rested t

variable (env) in
/-- **A pair of errands** has one answer and keeps the banks alike. -/
theorem Alike.step (apart : Apart B b zs) (rekeyed : ∀ z ∈ zs, Rekeyed b z) {z : Pair D} (hz : z ∈ zs)
    {bank₁ bank₂ : Bank D} (alike : Alike zs bank₁ bank₂) :
    (bank₁.serve env B z.1.1 z.1.2.call).1 = (bank₂.serve env B z.2.1 z.2.2.call).1 ∧
      Alike zs (bank₁.serve env B z.1.1 z.1.2.call).2 (bank₂.serve env B z.2.1 z.2.2.call).2 := by
  have same := rekeyed z hz
  have found : (bank₁.db.kept z.1.2.key).map IdempotencyRecord.resultJson =
      (bank₂.db.kept z.2.2.key).map IdempotencyRecord.resultJson := by
    rw [Db.kept, Db.kept]
    rcases apart.keys rekeyed hz with ⟨h₁, h₂⟩ | ⟨k₁, k₂, h₁, h₂⟩
    · rw [h₁, h₂]
      rfl
    · rw [h₁, h₂]
      exact alike.linked.found z hz k₁ k₂ h₁ h₂
  have agree := tell_agree env z.1.2.draws (B := B) (o := z.1.2.order) alike.ledger
    alike.linked.readable (apart.isSome rekeyed hz) found (bank₁.sessions z.1.1).inactive
  rw [serve_errand env B alike.rested, serve_errand env B alike.rested', ← same.thread]
  have rested := serve_rested env B alike.rested z.1.1 z.1.2
  rw [serve_errand env B alike.rested] at rested
  unfold Bank.told at rested ⊢
  rw [← same.order, ← same.draws, ← alike.sessions]
  generalize tell env B z.1.2.draws bank₁.db (bank₁.sessions z.1.1).inactive z.1.2.key z.1.2.order = t₁ at agree rested ⊢
  generalize tell env B z.1.2.draws bank₂.db (bank₁.sessions z.1.1).inactive z.2.2.key z.1.2.order = t₂ at agree ⊢
  cases agree with
  | answered r inactive => exact ⟨rfl, alike.ledger, rfl, rested, alike.linked⟩
  | @posted posting d₁ d₂ ledger keys₁ keys₂ new₁ new₂ =>
    have linked : Linked zs d₁.idempotencyKeys d₂.idempotencyKeys := by
      rw [keys₁, keys₂]
      exact alike.linked
    have keepLedger : ∀ (d : Db D) (key : Option String),
        (d.keepUnder B key z.1.2.order posting.result).toLedger = d.toLedger := by
      intro d key
      unfold Db.keepUnder
      cases givenKey key with
      | none => rfl
      | some k => exact keep_ledger d _
    refine ⟨rfl, ?_, rfl, rested, linked.keep apart rekeyed hz posting.result ?_ ?_⟩
    · show (d₁.keepUnder B z.1.2.key z.1.2.order posting.result).toLedger =
        (d₂.keepUnder B z.2.2.key z.1.2.order posting.result).toLedger
      rw [keepLedger, keepLedger, ledger]
    · rw [Db.kept, keys₁]
      exact new₁
    · rw [Db.kept, keys₂]
      exact new₂

theorem Alike.run (apart : Apart B b zs) (rekeyed : ∀ z ∈ zs, Rekeyed b z) {ws : List (Pair D)} (hws : ∀ z ∈ ws, z ∈ zs)
    {bank₁ bank₂ : Bank D} (alike : Alike zs bank₁ bank₂) :
    Alike zs (bank₁.run env B (calls (ws.map Prod.fst))) (bank₂.run env B (calls (ws.map Prod.snd))) := by
  induction ws generalizing bank₁ bank₂ with
  | nil => exact alike
  | cons w ws ih =>
    have next := (alike.step env apart rekeyed (hws w List.mem_cons_self)).2
    exact ih (fun z hz => hws z (List.mem_cons_of_mem _ hz)) next

theorem Alike.start {bank : Bank D} (rested : bank.Rested) (noKeys : bank.db.idempotencyKeys.rows = [])
    (zs : List (Pair D)) : Alike zs bank bank := by
  have none : ∀ k, bank.db.idempotencyKeys.find? k = none := by
    intro k
    rw [Table.find?, noKeys]
    rfl
  refine ⟨rfl, rfl, rested, ?_, ?_, ?_, ?_⟩
  · intro z _ k₁ k₂ _ _
    rw [none, none]
  all_goals
    intro k r h
    rw [none] at h
    cases h

end Ledgers

/-! ## Isolation -/

section Isolation

variable [AddCommGroup D] [LinearOrder D]

/-- Along two runs that differ in the keys of `b`, the errands of `a` are answered alike and do the same to the account
of `a`, and no record that they find is one of `b`. -/
def Bank.KeysIsolated (env : Env D) (B : Backend D) (a b : String) (bank : Bank D) (zs : List (Pair D)) : Prop :=
  ∀ n z bank₁ bank₂, zs[n]? = some z → z.1.2.order.customer = a →
    bank₁ = bank.run env B (calls ((zs.take n).map Prod.fst)) →
    bank₂ = bank.run env B (calls ((zs.take n).map Prod.snd)) →
    (bank₁.serve env B z.1.1 z.1.2.call).1 = (bank₂.serve env B z.2.1 z.2.2.call).1 ∧
      bank₁.db.book a = bank₂.db.book a ∧
      (bank₁.serve env B z.1.1 z.1.2.call).2.db.book a = (bank₂.serve env B z.2.1 z.2.2.call).2.db.book a ∧
      (∀ r, bank₁.db.kept z.1.2.key = some r → r.accountNumber ≠ b) ∧
      ∀ r, bank₂.db.kept z.2.2.key = some r → r.accountNumber ≠ b

/-- **Keys that are apart** isolate their customers. -/
theorem keys_apart {env : Env D} {B : Backend D} {a b : String} (distinct : a ≠ b) {bank : Bank D} (rested : bank.Rested)
    (noKeys : bank.db.idempotencyKeys.rows = []) {zs : List (Pair D)} (rekeyed : ∀ z ∈ zs, Rekeyed b z)
    (apart : Apart B b zs) : bank.KeysIsolated env B a b zs := by
  intro n z bank₁ bank₂ at_ customer run₁ run₂
  have hz : z ∈ zs := List.mem_of_getElem? at_
  have alike : Alike zs bank₁ bank₂ := by
    rw [run₁, run₂]
    exact (Alike.start rested noKeys zs).run apart rekeyed fun z hz => List.mem_of_mem_take hz
  obtain ⟨reply, after⟩ := alike.step env apart rekeyed hz
  have other : z.1.2.order.customer ≠ b := customer ▸ distinct
  refine ⟨reply, by rw [alike.ledger], by rw [after.ledger], fun r kept own => ?_, fun r kept own => ?_⟩
  · obtain ⟨k, given, found⟩ := Option.bind_eq_some_iff.mp kept
    obtain ⟨z', hz', given', named⟩ := alike.linked.owner₁ k r found
    exact (apart.foreign z' hz' z hz (named.symm.trans own) other k).1 ⟨given', given⟩
  · obtain ⟨k, given, found⟩ := Option.bind_eq_some_iff.mp kept
    obtain ⟨z', hz', given', named⟩ := alike.linked.owner₂ k r found
    have own' : z'.1.2.order.customer = b := by rw [(rekeyed z' hz').order, ← named, own]
    exact (apart.foreign z' hz' z hz own' other k).2 ⟨given', given⟩

end Isolation

/-! ## Examples -/

namespace Sample

/-- A deposit of the second customer under one of two keys, and one of the first. -/
def theirs (key : String) : ℕ × Errand ℤ := (0, ⟨.deposit "1002" 700 "General", some key, draws 0⟩)

def ours : ℕ × Errand ℤ := (0, ⟨.deposit "1001" 500 "General", some "k1", draws 1⟩)

theorem keys_apart_deposits :
    (bank 10000 5000 0).KeysIsolated paiseEnv paise "1001" "1002" [(theirs "k2", theirs "k3"), (ours, ours)] := by
  refine keys_apart (by decide) (fun _ => rfl) rfl ?_ ?_
  · intro z hz
    rcases List.mem_pair.mp hz with rfl | rfl
    · exact ⟨rfl, rfl, rfl, fun other => absurd rfl other⟩
    · exact ⟨rfl, rfl, rfl, fun _ => rfl⟩
  · constructor
    · intro z hz z' hz' own other k
      rcases List.mem_pair.mp hz with rfl | rfl
      · rcases List.mem_pair.mp hz' with rfl | rfl
        · exact absurd rfl other
        · constructor <;> exact fun h => absurd (h.1.trans h.2.symm) (by decide)
      · exact absurd own (by decide)
    · intro z hz own
      rcases List.mem_pair.mp hz with rfl | rfl <;> rfl
    · intro z hz own k₁ k₂ h₁ h₂
      rcases List.mem_pair.mp hz with rfl | rfl <;> cases h₁ <;> cases h₂ <;> rfl
    · intro z hz z' hz' own own'
      rcases List.mem_pair.mp hz with rfl | rfl
      · rcases List.mem_pair.mp hz' with rfl | rfl
        · exact iff_of_true rfl rfl
        · exact absurd own' (by decide)
      · exact absurd own (by decide)

/-- Under the same key, the second deposit is answered with the balance of the other customer. -/
theorem keys_collide :
    (∀ z ∈ [(theirs "k1", theirs "k3"), (ours, ours)], Rekeyed "1002" z) ∧
      ¬(bank 10000 5000 0).KeysIsolated paiseEnv paise "1001" "1002" [(theirs "k1", theirs "k3"), (ours, ours)] := by
  constructor
  · intro z hz
    rcases List.mem_pair.mp hz with rfl | rfl
    · exact ⟨rfl, rfl, rfl, fun other => absurd rfl other⟩
    · exact ⟨rfl, rfl, rfl, fun _ => rfl⟩
  · intro isolated
    obtain ⟨-, -, after, -⟩ := isolated 1 _ _ _ rfl rfl rfl rfl
    have balances := congrArg Prod.fst after
    revert balances
    decide

end Sample

end UnionBank
