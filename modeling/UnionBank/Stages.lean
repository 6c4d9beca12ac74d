import UnionBank.Requests

/-!
# The stages of a call

Every service call writes money in one commit. Before it nothing is written; once an operation has failed or the
session was rolled back before it, nothing is written any more; after it only the key of the call and audit entries
are.

- `stages`: this order as a specification, whatever the answers of the session are, together with the locks held;
- `disciplined`: every call obeys it, gives back its locks, and reports success when it has committed.
-/

namespace UnionBank

open Keyed Programs Prog

set_option linter.unusedSectionVars false

variable {D : Type}

/-- Where a call is: before its money commit, after it, with an audit entry staged after it, or past a failure before
it. -/
inductive Stage where
  | before
  | done
  | audited
  | quit
deriving DecidableEq

/-- What a call may ask in each stage. `faults` tells whether an operation may raise on its own: a commit of money or
of a key may also be refused by the store, locks and `rollback` never fail. `key` is the idempotency key of the call. -/
def stages (faults : Bool) (key : Option String) : Spec (Op.Res (D := D)) Exn (Stage × List String)
  | .acquire accNo, (g, held), Q => Q (.ok ()) (g, held ++ [accNo])
  | .release accNo, (g, held), Q => Q (.ok ()) (g, held.erase accNo)
  | .query q, (g, held), Q =>
    g = .before ∧ (∀ k, q = .getIdempotencyKey k → key = some k) ∧ (∀ a, Q (.ok a) (.before, held)) ∧
      (faults = true → ∀ e, Q (.error e) (.quit, held))
  | .create row, (g, held), Q =>
    (g = .before ∧ Q (.ok ()) (.before, held) ∧ (faults = true → ∀ e, Q (.error e) (.quit, held))) ∨
    (g = .done ∧ (∃ r, row = .idempotencyKey r ∧ key = some r.idempotencyKey) ∧ Q (.ok ()) (.done, held) ∧
      (faults = true → ∀ e, Q (.error e) (.done, held))) ∨
    (g = .done ∧ (∃ e, row = .auditEntry e) ∧ Q (.ok ()) (.audited, held) ∧
      (faults = true → ∀ e, Q (.error e) (.done, held)))
  | .beginNested, (g, held), Q | .releaseNested, (g, held), Q =>
    g = .before ∧ Q (.ok ()) (.before, held) ∧ (faults = true → ∀ e, Q (.error e) (.quit, held))
  | .rollbackNested, (g, held), Q =>
    (g = .before ∨ g = .quit) ∧ Q (.ok ()) (.quit, held) ∧ (faults = true → ∀ e, Q (.error e) (.quit, held))
  | .commit, (g, held), Q =>
    (g = .before ∧ Q (.ok ()) (.done, held) ∧ ∀ e, Q (.error e) (.quit, held)) ∨
    (g = .done ∧ Q (.ok ()) (.done, held) ∧ ∀ e, Q (.error e) (.done, held)) ∨
    (g = .audited ∧ Q (.ok ()) (.done, held) ∧ (faults = true → ∀ e, Q (.error e) (.done, held)))
  | .rollback, (g, held), Q => g ≠ .audited ∧ Q (.ok ()) (if g = .done then .done else .quit, held)

variable {faults : Bool} {key : Option String}

theorem stages_mono : Spec.Mono (stages (D := D) faults key) := by
  intro o s Q Q' hQ h
  obtain ⟨g, held⟩ := s
  cases o <;> simp only [stages] at h ⊢ <;> grind

/-! ## Rules -/

section Rules

variable {α : Type} {g : Stage} {held : List String}

theorem stages_ask {q : Query D} {Q : Except Exn q.Res → Stage × List String → Prop}
    (hk : ∀ k, q = .getIdempotencyKey k → key = some k) (hok : ∀ a, Q (.ok a) (.before, held))
    (herr : ∀ e, Q (.error e) (.quit, held)) : wp (stages faults key) (ask q) Q (.before, held) := by
  rw [ask, wp_perform]
  exact ⟨rfl, hk, hok, fun _ => herr⟩

theorem stages_add {row : NewRow D} {Q : Except Exn Unit → Stage × List String → Prop}
    (hok : Q (.ok ()) (.before, held)) (herr : ∀ e, Q (.error e) (.quit, held)) :
    wp (stages faults key) (add row) Q (.before, held) := by
  rw [add, wp_perform]
  exact .inl ⟨rfl, hok, fun _ => herr⟩

theorem stages_commit {Q : Except Exn Unit → Stage × List String → Prop}
    (hok : Q (.ok ()) (.done, held)) (herr : ∀ e, Q (.error e) (.quit, held)) :
    wp (stages (D := D) faults key) (perform Op.commit) Q (.before, held) := by
  rw [wp_perform]
  exact .inl ⟨rfl, hok, herr⟩

/-- The key of the call, after the money commit; a failure is rolled back and forgotten. -/
theorem stages_storeKey {record : IdempotencyRecord D} {Q : Except Exn Unit → Stage × List String → Prop}
    (hk : key = some record.idempotencyKey) (hok : Q (.ok ()) (.done, held)) :
    wp (stages faults key)
      (tryCatch (do idempotencyRepo.create record; idempotencyRepo.commit) fun _ => idempotencyRepo.rollback) Q
      (.done, held) := by
  have undo : ∀ _ : Exn, wp (stages (D := D) faults key) idempotencyRepo.rollback Q (.done, held) := fun _ => by
    rw [idempotencyRepo.rollback, wp_perform]
    exact ⟨by simp, hok⟩
  rw [wp_tryCatch, wp_bind, idempotencyRepo.create, add, wp_perform]
  refine .inr (.inl ⟨rfl, ⟨record, rfl, hk⟩, ?_, fun _ => undo⟩)
  rw [andThen_ok, idempotencyRepo.commit, wp_perform]
  exact .inr (.inl ⟨rfl, hok, undo⟩)

/-- An audit entry, with its own commit. -/
theorem stages_auditLog {actor action : String} {target details reason : Option String} {now : Time}
    {Q : Except Exn Unit → Stage × List String → Prop} (hok : Q (.ok ()) (.done, held))
    (herr : faults = true → ∀ e, Q (.error e) (.done, held)) :
    wp (stages (D := D) faults key)
      (do auditLogRepo.log actor action target details reason now; auditLogRepo.commit) Q (.done, held) := by
  rw [wp_bind, auditLogRepo.log, add, wp_perform]
  refine .inr (.inr ⟨rfl, ⟨_, rfl⟩, ?_, herr⟩)
  rw [andThen_ok, auditLogRepo.commit, wp_perform]
  exact .inr (.inr ⟨rfl, hok, herr⟩)

theorem stages_acquireAll (accNos : List String) (Q : Except Exn Unit → Stage × List String → Prop) :
    wp (stages (D := D) faults key) (acquireAll accNos) Q (g, held) = Q (.ok ()) (g, held ++ accNos) := by
  induction accNos generalizing held with
  | nil => simp [acquireAll]
  | cons accNo accNos ih =>
    rw [acquireAll, wp_bind, wp_perform]
    show wp (stages faults key) (acquireAll accNos) Q (g, held ++ [accNo]) = _
    rw [ih, List.append_assoc, List.singleton_append]

theorem stages_releaseAll (accNos : List String) (Q : Except Exn Unit → Stage × List String → Prop) :
    wp (stages (D := D) faults key) (releaseAll accNos) Q (g, held) = Q (.ok ()) (g, accNos.foldl List.erase held) := by
  induction accNos generalizing held with
  | nil => simp [releaseAll]
  | cons accNo accNos ih =>
    rw [releaseAll, wp_bind, wp_perform]
    show wp (stages faults key) (releaseAll accNos) Q (g, held.erase accNo) = _
    rw [ih, List.foldl_cons]

/-- A locked section keeps the locks in its body and leaves without them. -/
theorem stages_accountLock {accNos : List String} {body : Svc D α} {Q : Except Exn α → Stage × List String → Prop}
    (h : wp (stages faults key) body (fun r s => s.2 = accNos.insertionSort (· ≤ ·) ∧ Q r (s.1, []))
      (g, accNos.insertionSort (· ≤ ·))) : wp (stages faults key) (accountLock accNos body) Q (g, []) := by
  rw [accountLock, wp_bind, stages_acquireAll, andThen_ok, List.nil_append, wp_ensuring]
  refine wp_mono stages_mono ?_ h
  rintro r ⟨g', held'⟩ ⟨rfl, hQ⟩
  rw [stages_releaseAll, andThen_ok, wp_ofExcept, foldl_erase_self]
  exact hQ

/-- A savepoint around a body that commits nothing. -/
theorem stages_beginNested {body : Svc D α} {Q : Except Exn α → Stage × List String → Prop}
    (h : wp (stages faults key) body (fun
      | .ok a, s => s = (.before, held) ∧ Q (.ok a) s
      | .error _, s => s = (.before, held) ∨ s = (.quit, held)) (.before, held))
    (herr : ∀ e, Q (.error e) (.quit, held)) : wp (stages faults key) (beginNested body) Q (.before, held) := by
  rw [beginNested, wp_bind, wp_perform]
  refine ⟨rfl, ?_, fun _ => herr⟩
  rw [andThen_ok, wp_bind, wp_attempt]
  refine wp_mono stages_mono ?_ h
  rintro r s hQ
  cases r with
  | ok a =>
    obtain ⟨rfl, hQ⟩ := hQ
    rw [andThen_ok, wp_bind, wp_perform]
    exact ⟨rfl, hQ, fun _ => herr⟩
  | error e =>
    rw [andThen_ok, wp_bind, wp_perform]
    rcases hQ with rfl | rfl
    · exact ⟨.inl rfl, herr e, fun _ => herr⟩
    · exact ⟨.inr rfl, herr e, fun _ => herr⟩

end Rules

/-! ## Every call obeys the stages -/

/-- How a call ends: without locks, and after a commit with a success unless an operation failed on its own. A
success without a commit is the stored result of the key. -/
def Ends (faults : Bool) (request : Request D) (r : Except Exn (Reply D)) (s : Stage × List String) : Prop :=
  s.2 = [] ∧ (s.1 = .done → faults = true ∨ ∃ reply, r = .ok reply ∧ reply.success = true) ∧
    (∀ reply, r = .ok reply → reply.success = true → s.1 = .done ∨ request.key ≠ none) ∧ s.1 ≠ .audited

section Ends

variable {request : Request D} {g : Stage}

theorem Ends.refused (message : String) : Ends faults request (.ok (.service (refused message))) (.before, []) := by
  simp [Ends, UnionBank.refused, Reply.success]

theorem Ends.transferRefused [Zero D] (message : String) (hg : g ≠ .done) (ha : g ≠ .audited) :
    Ends faults request (.ok (.transfer (TransactionService.transferRefused message))) (g, []) := by
  simp [Ends, TransactionService.transferRefused, Reply.success, hg, ha]

theorem Ends.failed (e : Exn) (hg : g = .done → faults = true) (ha : g ≠ .audited) :
    Ends faults request (.error e) (g, []) := by
  simpa [Ends, ha] using hg

theorem Ends.cached {reply : Reply D} (hk : request.key ≠ none) : Ends faults request (.ok reply) (.before, []) := by
  simp [Ends, hk]

theorem Ends.success {reply : Reply D} (hs : reply.success = true) : Ends faults request (.ok reply) (.done, []) := by
  simp [Ends, hs]

end Ends

section Parts

variable {held : List String}

theorem stages_checkIdempotency {idempotencyKey : Option String}
    {Q : Except Exn (Option (ServiceResult D)) → Stage × List String → Prop} (hnone : Q (.ok none) (.before, held))
    (hsome : ∀ cached, TransactionService.givenKey idempotencyKey ≠ none → Q (.ok (some cached)) (.before, held))
    (herr : ∀ e, Q (.error e) (.quit, held)) :
    wp (stages faults (TransactionService.givenKey idempotencyKey)) (TransactionService.checkIdempotency idempotencyKey)
      Q (.before, held) := by
  unfold TransactionService.checkIdempotency
  cases hk : TransactionService.givenKey idempotencyKey with
  | none => exact hnone
  | some k =>
    rw [hk] at hsome
    rw [wp_bind]
    refine stages_ask (by rintro k' ⟨⟩; rfl) (fun existing => ?_) fun e => herr e
    rw [andThen_ok]
    cases existing with
    | none => exact hnone
    | some existing =>
      simp only
      split
      · exact hsome _ (by simp)
      · exact hsome _ (by simp)

theorem stages_cachedTransfer {idempotencyKey : Option String}
    {Q : Except Exn (Option (TransferResult D)) → Stage × List String → Prop} [Zero D]
    (hnone : Q (.ok none) (.before, held))
    (hsome : ∀ cached, TransactionService.givenKey idempotencyKey ≠ none → Q (.ok (some cached)) (.before, held))
    (herr : ∀ e, Q (.error e) (.quit, held)) :
    wp (stages faults (TransactionService.givenKey idempotencyKey)) (TransactionService.cachedTransfer idempotencyKey) Q
      (.before, held) := by
  unfold TransactionService.cachedTransfer
  cases hk : TransactionService.givenKey idempotencyKey with
  | none => exact hnone
  | some k =>
    rw [hk] at hsome
    rw [wp_bind]
    refine stages_ask (by rintro k' ⟨⟩; rfl) (fun existing => ?_) fun e => herr e
    rw [andThen_ok]
    cases existing with
    | none => exact hnone
    | some existing =>
      simp only
      split
      · exact hsome _ (by simp)
      · exact hnone

theorem stages_storeIdempotency {idempotencyKey : Option String} {accNo operation : String} {amount balance : D}
    {result : ServiceResult D} {Q : Except Exn Unit → Stage × List String → Prop}
    (hk : key = TransactionService.givenKey idempotencyKey) (hok : Q (.ok ()) (.done, held)) :
    wp (stages faults key) (TransactionService.storeIdempotency idempotencyKey accNo operation amount result balance) Q
      (.done, held) := by
  unfold TransactionService.storeIdempotency
  cases hg : TransactionService.givenKey idempotencyKey with
  | none => exact hok
  | some k => exact stages_storeKey (hk.trans hg) hok

theorem stages_storeTransferIdempotency {env : Env D} {idempotencyKey : Option String} {accNo : String} {amount : D}
    {result : TransferResult D} {Q : Except Exn Unit → Stage × List String → Prop}
    (hk : key = TransactionService.givenKey idempotencyKey) (hok : Q (.ok ()) (.done, held)) :
    wp (stages faults key) (TransactionService.storeTransferIdempotency env idempotencyKey accNo amount result) Q
      (.done, held) := by
  unfold TransactionService.storeTransferIdempotency
  cases hg : TransactionService.givenKey idempotencyKey with
  | none => exact hok
  | some k => exact stages_storeKey (hk.trans hg) hok

end Parts

variable [Zero D] [Add D] [Sub D] [LE D] [LT D] [DecidableLE D] [DecidableLT D] (env : Env D) (draws : Draws)

section Disciplined


/-- An operation failed before the commit. -/
theorem Ends.quit {request : Request D} (e : Exn) : Ends faults request (.error e) (.quit, []) :=
  .failed e (by simp) (by simp)

/-- How a locked section ends: with a refusal and nothing written, with its commit, or with an exception and nothing
written. -/
def EndsSection {ρ β : Type} (success : ρ → Bool) (held : List String) : Except Exn (Except ρ β) → Stage × List String → Prop
  | .ok (.error refusal), s => (s = (.before, held) ∨ s = (.quit, held)) ∧ success refusal = false
  | .ok (.ok _), s => s = (.done, held)
  | .error _, s => s = (.before, held) ∨ s = (.quit, held)

/-- A refusal of a locked section as the end of its call. -/
theorem EndsSection.refused {request : Request D} {reply : Reply D} {held : List String} {s : Stage × List String}
    (h : s = (.before, held) ∨ s = (.quit, held)) (hr : reply.success = false) :
    s.2 = held ∧ Ends faults request (.ok reply) (s.1, []) := by
  rcases h with rfl | rfl <;> simp [Ends, hr]

theorem EndsSection.failed {request : Request D} {held : List String} {s : Stage × List String} (e : Exn)
    (h : s = (.before, held) ∨ s = (.quit, held)) : s.2 = held ∧ Ends faults request (.error e) (s.1, []) := by
  rcases h with rfl | rfl <;> simp [Ends]

theorem depositLocked_disciplined {held : List String} (accNo : String) (amount : D) (category : String) :
    wp (stages faults key) (TransactionService.depositLocked draws accNo amount category)
      (EndsSection ServiceResult.success held) (.before, held) := by
  rw [TransactionService.depositLocked, wp_bind]
  refine stages_ask (by simp) (fun account => ?_) fun e => .inr rfl
  cases account with
  | none => exact ⟨.inl rfl, rfl⟩
  | some account =>
    rw [andThen_ok]
    simp only
    split
    · exact ⟨.inl rfl, rfl⟩
    rw [wp_bind]
    refine stages_ask (by simp) (fun _ => ?_) fun e => .inr rfl
    rw [andThen_ok, wp_bind]
    refine stages_add ?_ fun e => .inr rfl
    rw [andThen_ok, wp_bind]
    exact stages_commit rfl fun e => .inr rfl

theorem withdrawLocked_disciplined {held : List String} (accNo : String) (amount : D) (category : String) :
    wp (stages faults key) (TransactionService.withdrawLocked env draws accNo amount category)
      (EndsSection ServiceResult.success held) (.before, held) := by
  rw [TransactionService.withdrawLocked, wp_bind]
  refine stages_ask (by simp) (fun account => ?_) fun e => .inr rfl
  cases account with
  | none => exact ⟨.inl rfl, rfl⟩
  | some account =>
    rw [andThen_ok]
    simp only
    split
    · exact ⟨.inl rfl, rfl⟩
    split
    · exact ⟨.inl rfl, rfl⟩
    rw [wp_bind, TransactionService.ensureNonNegativeBalance]
    split
    · exact .inl rfl
    rw [pure_eq, wp_ret, andThen_ok, wp_bind]
    refine stages_ask (by simp) (fun _ => ?_) fun e => .inr rfl
    rw [andThen_ok, wp_bind]
    refine stages_add ?_ fun e => .inr rfl
    rw [andThen_ok, wp_bind]
    exact stages_commit rfl fun e => .inr rfl

theorem deposit_disciplined (accNo : String) (amount : D) (category : String) (key : Option String) :
    wp (stages faults (TransactionService.givenKey key)) (Request.prog env draws (.deposit accNo amount category key))
      (Ends faults (.deposit accNo amount category key)) (.before, []) := by
  unfold Request.prog TransactionService.deposit
  rw [wp_bind]
  split
  · exact .refused _
  rw [wp_bind]
  refine stages_checkIdempotency ?_ (fun cached hk => .cached hk) fun e => .quit e
  rw [andThen_ok, wp_bind]
  refine stages_accountLock (wp_mono stages_mono ?_ (depositLocked_disciplined draws ..))
  rintro (e | refusal | account) s hr
  · exact EndsSection.failed e hr
  · exact EndsSection.refused hr.1 hr.2
  · obtain rfl : s = (.done, [accNo].insertionSort (· ≤ ·)) := hr
    refine ⟨rfl, ?_⟩
    rw [andThen_ok, wp_bind]
    exact stages_storeIdempotency rfl (.success rfl)

theorem withdraw_disciplined (accNo : String) (amount : D) (category : String) (key : Option String) :
    wp (stages faults (TransactionService.givenKey key)) (Request.prog env draws (.withdraw accNo amount category key))
      (Ends faults (.withdraw accNo amount category key)) (.before, []) := by
  unfold Request.prog TransactionService.withdraw
  rw [wp_bind]
  split
  · exact .refused _
  rw [wp_bind]
  refine stages_checkIdempotency ?_ (fun cached hk => .cached hk) fun e => .quit e
  rw [andThen_ok, wp_bind]
  refine stages_accountLock (wp_mono stages_mono ?_ (withdrawLocked_disciplined env draws ..))
  rintro (e | refusal | account) s hr
  · exact EndsSection.failed e hr
  · exact EndsSection.refused hr.1 hr.2
  · obtain rfl : s = (.done, [accNo].insertionSort (· ≤ ·)) := hr
    refine ⟨rfl, ?_⟩
    rw [andThen_ok, wp_bind]
    exact stages_storeIdempotency rfl (.success rfl)

/-- The writes of a transfer commit nothing. -/
theorem moveMoney_disciplined {held : List String} (sender receiver : Account D) (senderAccNo receiverAccNo : String)
    (amount : D) (cat : String) : wp (stages faults key)
      (TransactionService.moveMoney draws sender receiver senderAccNo receiverAccNo amount cat) (fun
        | .ok _, s => s = (.before, held)
        | .error _, s => s = (.before, held) ∨ s = (.quit, held)) (.before, held) := by
  rw [TransactionService.moveMoney, wp_bind, TransactionService.ensureNonNegativeBalance]
  split
  · exact .inl rfl
  rw [pure_eq, wp_ret, andThen_ok, wp_bind]
  refine stages_ask (by simp) (fun _ => ?_) fun e => .inr rfl
  rw [andThen_ok, wp_bind]
  refine stages_ask (by simp) (fun _ => ?_) fun e => .inr rfl
  rw [andThen_ok, wp_bind]
  refine stages_add ?_ fun e => .inr rfl
  rw [andThen_ok, wp_bind]
  exact stages_add rfl fun e => .inr rfl

theorem transferLocked_disciplined {held : List String} (senderAccNo receiverAccNo : String) (amount : D)
    (cat : String) : wp (stages faults key)
      (TransactionService.transferLocked env draws senderAccNo receiverAccNo amount cat)
      (EndsSection TransferResult.success held) (.before, held) := by
  rw [TransactionService.transferLocked, wp_bind]
  refine stages_ask (by simp) (fun sender => ?_) fun e => .inr rfl
  rw [andThen_ok, wp_bind]
  refine stages_ask (by simp) (fun receiver => ?_) fun e => .inr rfl
  rw [andThen_ok]
  cases sender with
  | none => exact ⟨.inl rfl, rfl⟩
  | some sender =>
  cases receiver with
  | none => exact ⟨.inl rfl, rfl⟩
  | some receiver =>
    simp only
    split
    · exact ⟨.inl rfl, rfl⟩
    split
    · exact ⟨.inl rfl, rfl⟩
    split
    · exact ⟨.inl rfl, rfl⟩
    rw [wp_bind]
    refine stages_beginNested (wp_mono stages_mono ?_ (moveMoney_disciplined draws ..)) fun e => .inr rfl
    intro r s hr
    cases r with
    | error e => exact hr
    | ok balances =>
      refine ⟨hr, ?_⟩
      obtain rfl : s = (.before, held) := hr
      rw [andThen_ok, wp_bind]
      exact stages_commit rfl fun e => .inr rfl

theorem transfer_disciplined (senderAccNo receiverAccNo : String) (amount : D) (category : String) (key : Option String) :
    wp (stages faults (TransactionService.givenKey key))
      (Request.prog env draws (.transfer senderAccNo receiverAccNo amount category key))
      (Ends faults (.transfer senderAccNo receiverAccNo amount category key)) (.before, []) := by
  unfold Request.prog TransactionService.transfer
  rw [wp_bind]
  split
  · exact .transferRefused _ (by simp) (by simp)
  split
  · exact .transferRefused _ (by simp) (by simp)
  rw [wp_bind]
  refine stages_cachedTransfer ?_ (fun cached hk => .cached hk) fun e => .quit e
  rw [andThen_ok, wp_bind, wp_tryCatch]
  refine stages_accountLock (wp_mono stages_mono ?_ (transferLocked_disciplined env draws ..))
  rintro (e | refusal | balances) s hr
  · -- an exception of the locked section is rolled back and answered
    rcases hr with rfl | rfl <;>
    · refine ⟨rfl, ?_⟩
      simp only
      rw [wp_bind, accountRepo.rollback, wp_perform]
      exact ⟨by simp, .transferRefused _ (by simp) (by simp)⟩
  · exact EndsSection.refused hr.1 hr.2
  · obtain rfl : s = (.done, [senderAccNo, receiverAccNo].insertionSort (· ≤ ·)) := hr
    refine ⟨rfl, ?_⟩
    simp only [andThen_ok]
    rw [wp_bind]
    exact stages_storeTransferIdempotency rfl (.success rfl)

theorem applyInterest_disciplined (accNo : String) :
    wp (stages faults none) (Request.prog env draws (.applyInterest accNo)) (Ends faults (.applyInterest accNo))
      (.before, []) := by
  unfold Request.prog TransactionService.applyInterest
  rw [wp_bind, wp_bind]
  refine stages_ask (by simp) (fun account => ?_) fun e => .quit e
  rw [andThen_ok]
  cases account with
  | none => exact .refused _
  | some account =>
    simp only
    split
    · exact .refused _
    split
    · exact .refused _
    rw [wp_bind]
    refine stages_ask (by simp) (fun _ => ?_) fun e => .quit e
    rw [andThen_ok, wp_bind]
    refine stages_add ?_ fun e => .quit e
    rw [andThen_ok, wp_bind]
    exact stages_commit (.success rfl) fun e => .quit e

theorem applyLoan_disciplined (accNo loanType : String) (principal rate : D) (tenure : Int) (purpose : String) :
    wp (stages faults none) (Request.prog env draws (.applyLoan accNo loanType principal rate tenure purpose)) (Ends faults (.applyLoan accNo loanType principal rate tenure purpose))
      (.before, []) := by
  unfold Request.prog LoanService.applyLoan
  rw [wp_bind, wp_bind]
  refine stages_ask (by simp) (fun account => ?_) fun e => .quit e
  rw [andThen_ok]
  cases account with
  | none => exact .refused _
  | some account =>
    simp only
    split
    · exact .refused _
    split
    · exact .refused _
    split
    · exact .refused _
    split
    · exact .refused _
    split
    · exact .refused _
    split
    · exact .refused _
    rw [wp_bind]
    refine stages_add ?_ fun e => .quit e
    rw [andThen_ok, wp_bind]
    refine stages_commit ?_ fun e => .quit e
    rw [andThen_ok, wp_bind]
    exact stages_auditLog (.success rfl) fun hf e => .failed e (fun _ => hf) (by simp)

theorem approveLoan_disciplined (loanId adminUser : String) :
    wp (stages faults none) (Request.prog env draws (.approveLoan loanId adminUser)) (Ends faults (.approveLoan loanId adminUser))
      (.before, []) := by
  unfold Request.prog LoanService.approveLoan
  rw [wp_bind, wp_bind]
  refine stages_ask (by simp) (fun loan => ?_) fun e => .quit e
  rw [andThen_ok]
  cases loan with
  | none => exact .refused _
  | some loan =>
    simp only
    split
    · exact .refused _
    rw [wp_bind]
    refine stages_ask (by simp) (fun account => ?_) fun e => .quit e
    rw [andThen_ok]
    cases account with
    | none => exact .refused _
    | some account =>
      simp only
      split
      · exact .refused _
      rw [wp_bind]
      refine stages_ask (by simp) (fun _ => ?_) fun e => .quit e
      rw [andThen_ok, wp_bind]
      refine stages_ask (by simp) (fun _ => ?_) fun e => .quit e
      rw [andThen_ok, wp_bind]
      refine stages_add ?_ fun e => .quit e
      rw [andThen_ok, wp_bind]
      refine stages_commit ?_ fun e => .quit e
      rw [andThen_ok, wp_bind]
      exact stages_auditLog (.success rfl) fun hf e => .failed e (fun _ => hf) (by simp)

theorem rejectLoan_disciplined (loanId reason adminUser : String) :
    wp (stages faults none) (Request.prog env draws (.rejectLoan loanId reason adminUser)) (Ends faults (.rejectLoan loanId reason adminUser))
      (.before, []) := by
  unfold Request.prog LoanService.rejectLoan
  rw [wp_bind, wp_bind]
  refine stages_ask (by simp) (fun loan => ?_) fun e => .quit e
  rw [andThen_ok]
  cases loan with
  | none => exact .refused _
  | some loan =>
    simp only
    split
    · exact .refused _
    rw [wp_bind]
    refine stages_ask (by simp) (fun _ => ?_) fun e => .quit e
    rw [andThen_ok, wp_bind]
    refine stages_commit ?_ fun e => .quit e
    rw [andThen_ok, wp_bind]
    exact stages_auditLog (.success rfl) fun hf e => .failed e (fun _ => hf) (by simp)

theorem payEmi_disciplined (accNo loanId : String) (amount : Option D) :
    wp (stages faults none) (Request.prog env draws (.payEmi accNo loanId amount)) (Ends faults (.payEmi accNo loanId amount))
      (.before, []) := by
  unfold Request.prog LoanService.payEmi
  rw [wp_bind, wp_bind]
  refine stages_ask (by simp) (fun loan => ?_) fun e => .quit e
  rw [andThen_ok]
  cases loan with
  | none => exact .refused _
  | some loan =>
    simp only
    split
    · exact .refused _
    split
    · exact .refused _
    rw [wp_bind]
    refine stages_ask (by simp) (fun account => ?_) fun e => .quit e
    rw [andThen_ok]
    cases account with
    | none => exact .refused _
    | some account =>
      simp only
      split
      · exact .refused _
      split
      · exact .refused _
      split
      · exact .refused _
      rw [wp_bind]
      refine stages_ask (by simp) (fun _ => ?_) fun e => .quit e
      rw [andThen_ok, wp_bind]
      refine stages_ask (by simp) (fun _ => ?_) fun e => .quit e
      rw [andThen_ok, wp_bind]
      refine stages_add ?_ fun e => .quit e
      rw [andThen_ok, wp_bind]
      exact stages_commit (.success rfl) fun e => .quit e

theorem createGoal_disciplined (accNo name : String) (target : D) (targetDate : Option String) :
    wp (stages faults none) (Request.prog env draws (.createGoal accNo name target targetDate)) (Ends faults (.createGoal accNo name target targetDate))
      (.before, []) := by
  unfold Request.prog SavingsGoalService.createGoal
  rw [wp_bind]
  split
  · exact .refused _
  split
  · exact .refused _
  rw [wp_bind]
  refine stages_add ?_ fun e => .quit e
  rw [andThen_ok, wp_bind]
  exact stages_commit (.success rfl) fun e => .quit e

theorem contribute_disciplined (accNo goalId : String) (amount : D) :
    wp (stages faults none) (Request.prog env draws (.contribute accNo goalId amount)) (Ends faults (.contribute accNo goalId amount))
      (.before, []) := by
  unfold Request.prog SavingsGoalService.contribute
  rw [wp_bind]
  split
  · exact .refused _
  rw [wp_bind]
  refine stages_ask (by simp) (fun account => ?_) fun e => .quit e
  rw [andThen_ok]
  cases account with
  | none => exact .refused _
  | some account =>
    simp only
    split
    · exact .refused _
    rw [wp_bind]
    refine stages_ask (by simp) (fun goal => ?_) fun e => .quit e
    rw [andThen_ok]
    cases goal with
    | none => exact .refused _
    | some goal =>
      simp only
      rw [wp_bind]
      refine stages_ask (by simp) (fun _ => ?_) fun e => .quit e
      rw [andThen_ok, wp_bind]
      refine stages_add ?_ fun e => .quit e
      rw [andThen_ok, wp_bind]
      refine stages_ask (by simp) (fun _ => ?_) fun e => .quit e
      rw [andThen_ok, wp_bind]
      exact stages_commit (.success rfl) fun e => .quit e

theorem deleteGoal_disciplined (accNo goalId : String) :
    wp (stages faults none) (Request.prog env draws (.deleteGoal accNo goalId)) (Ends faults (.deleteGoal accNo goalId))
      (.before, []) := by
  unfold Request.prog SavingsGoalService.deleteGoal
  rw [wp_bind, wp_bind]
  refine stages_ask (by simp) (fun goal => ?_) fun e => .quit e
  rw [andThen_ok]
  cases goal with
  | none => exact .refused _
  | some goal =>
    simp only
    rw [wp_bind]
    refine stages_ask (by simp) (fun _ => ?_) fun e => .quit e
    rw [andThen_ok]
    split
    · rw [wp_bind]
      refine stages_ask (by simp) (fun account => ?_) fun e => .quit e
      rw [andThen_ok]
      cases account with
      | none =>
        simp only
        rw [wp_bind]
        exact stages_commit (.success rfl) fun e => .quit e
      | some account =>
        simp only
        rw [wp_bind]
        refine stages_ask (by simp) (fun _ => ?_) fun e => .quit e
        rw [andThen_ok, wp_bind]
        exact stages_commit (.success rfl) fun e => .quit e
    · rw [wp_bind]
      exact stages_commit (.success rfl) fun e => .quit e

theorem freezeAccount_disciplined (accNo actor : String) (reason : Option String) :
    wp (stages faults none) (Request.prog env draws (.freezeAccount accNo actor reason)) (Ends faults (.freezeAccount accNo actor reason))
      (.before, []) := by
  unfold Request.prog AdminService.freezeAccount
  rw [wp_bind, wp_bind]
  refine stages_ask (by simp) (fun account => ?_) fun e => .quit e
  rw [andThen_ok]
  cases account with
  | none => exact .refused _
  | some account =>
    simp only
    split
    · exact .refused _
    split
    · exact .refused _
    rw [wp_bind]
    refine stages_ask (by simp) (fun _ => ?_) fun e => .quit e
    rw [andThen_ok, wp_bind]
    refine stages_ask (by simp) (fun _ => ?_) fun e => .quit e
    rw [andThen_ok, wp_bind]
    refine stages_commit ?_ fun e => .quit e
    rw [andThen_ok, wp_bind]
    exact stages_auditLog (.success rfl) fun hf e => .failed e (fun _ => hf) (by simp)

theorem unfreezeAccount_disciplined (accNo actor : String) (reason : Option String) :
    wp (stages faults none) (Request.prog env draws (.unfreezeAccount accNo actor reason)) (Ends faults (.unfreezeAccount accNo actor reason))
      (.before, []) := by
  unfold Request.prog AdminService.unfreezeAccount
  rw [wp_bind, wp_bind]
  refine stages_ask (by simp) (fun account => ?_) fun e => .quit e
  rw [andThen_ok]
  cases account with
  | none => exact .refused _
  | some account =>
    simp only
    split
    · exact .refused _
    rw [wp_bind]
    refine stages_ask (by simp) (fun _ => ?_) fun e => .quit e
    rw [andThen_ok, wp_bind]
    refine stages_commit ?_ fun e => .quit e
    rw [andThen_ok, wp_bind]
    exact stages_auditLog (.success rfl) fun hf e => .failed e (fun _ => hf) (by simp)

theorem deleteAccount_disciplined (accNo actor : String) (reason : Option String) :
    wp (stages faults none) (Request.prog env draws (.deleteAccount accNo actor reason)) (Ends faults (.deleteAccount accNo actor reason))
      (.before, []) := by
  unfold Request.prog AdminService.deleteAccount
  rw [wp_bind, wp_bind]
  refine stages_ask (by simp) (fun account => ?_) fun e => .quit e
  rw [andThen_ok]
  cases account with
  | none => exact .refused _
  | some account =>
    simp only
    rw [wp_bind]
    refine stages_ask (by simp) (fun _ => ?_) fun e => .quit e
    rw [andThen_ok, wp_bind]
    refine stages_commit ?_ fun e => .quit e
    rw [andThen_ok, wp_bind]
    exact stages_auditLog (.success rfl) fun hf e => .failed e (fun _ => hf) (by simp)

theorem updateProfile_disciplined (accNo : String) (kwargs : List (AccountService.AccountField D)) :
    wp (stages faults none) (Request.prog env draws (.updateProfile accNo kwargs)) (Ends faults (.updateProfile accNo kwargs))
      (.before, []) := by
  unfold Request.prog AccountService.updateProfile
  rw [wp_bind, wp_bind]
  refine stages_ask (by simp) (fun account => ?_) fun e => .quit e
  rw [andThen_ok]
  cases account with
  | none => exact .refused _
  | some account =>
    simp only
    rw [wp_bind, wp_ofExcept]
    cases kwargs.foldlM AccountService.AccountField.assign account with
    | error e => exact .failed e (by simp) (by simp)
    | ok account =>
      rw [andThen_ok, wp_bind]
      refine stages_ask (by simp) (fun _ => ?_) fun e => .quit e
      rw [andThen_ok, wp_bind]
      exact stages_commit (.success rfl) fun e => .quit e

theorem changePassword_disciplined (accNo currentPwd newPwd : String) :
    wp (stages faults none) (Request.prog env draws (.changePassword accNo currentPwd newPwd)) (Ends faults (.changePassword accNo currentPwd newPwd))
      (.before, []) := by
  unfold Request.prog AccountService.changePassword
  rw [wp_bind, wp_bind]
  refine stages_ask (by simp) (fun account => ?_) fun e => .quit e
  rw [andThen_ok]
  cases account with
  | none => exact .refused _
  | some account =>
    simp only
    split
    · exact .refused _
    rw [wp_bind]
    refine stages_ask (by simp) (fun _ => ?_) fun e => .quit e
    rw [andThen_ok, wp_bind]
    refine stages_ask (by simp) (fun _ => ?_) fun e => .quit e
    rw [andThen_ok, wp_bind]
    exact stages_commit (.success rfl) fun e => .quit e

theorem closeAccount_disciplined (accNo password : String) :
    wp (stages faults none) (Request.prog env draws (.closeAccount accNo password)) (Ends faults (.closeAccount accNo password))
      (.before, []) := by
  unfold Request.prog AccountService.closeAccount
  rw [wp_bind, wp_bind]
  refine stages_ask (by simp) (fun account => ?_) fun e => .quit e
  rw [andThen_ok]
  cases account with
  | none => exact .refused _
  | some account =>
    simp only
    split
    · exact .refused _
    rw [wp_bind]
    refine stages_ask (by simp) (fun _ => ?_) fun e => .quit e
    rw [andThen_ok, wp_bind]
    exact stages_commit (.success rfl) fun e => .quit e

/-- **Every call obeys the stages**, returns its locks, and reports success once it has committed. -/
theorem disciplined (faults : Bool) (c : Call D) :
    wp (stages faults c.request.key) (c.prog env) (Ends faults c.request) (.before, []) := by
  obtain ⟨request, draws⟩ := c
  cases request with
  | deposit => exact deposit_disciplined ..
  | withdraw => exact withdraw_disciplined ..
  | transfer => exact transfer_disciplined ..
  | applyInterest => exact applyInterest_disciplined ..
  | applyLoan => exact applyLoan_disciplined ..
  | approveLoan => exact approveLoan_disciplined ..
  | rejectLoan => exact rejectLoan_disciplined ..
  | payEmi => exact payEmi_disciplined ..
  | createGoal => exact createGoal_disciplined ..
  | contribute => exact contribute_disciplined ..
  | deleteGoal => exact deleteGoal_disciplined ..
  | freezeAccount => exact freezeAccount_disciplined ..
  | unfreezeAccount => exact unfreezeAccount_disciplined ..
  | deleteAccount => exact deleteAccount_disciplined ..
  | updateProfile => exact updateProfile_disciplined ..
  | changePassword => exact changePassword_disciplined ..
  | closeAccount => exact closeAccount_disciplined ..

end Disciplined

end UnionBank
