import UnionBank.Stages

/-!
# All or nothing

One fault, at any operation of a call: the ledger is what it was before the call or what the call makes of it without
the fault (`all_or_nothing`). A failure in the locked section of a transfer is answered, rolled back and gives back
both locks (`transfer_answers_failure`).
-/

namespace UnionBank

open Keyed Programs Prog

set_option linter.unusedSectionVars false

variable {D : Type} [Zero D] [Add D] [Sub D] [LE D] [LT D] [DecidableEq D] [DecidableLE D] [DecidableLT D]
variable (env : Env D) (B : Backend D)

/-! ## The ledger and the stages of a call -/

section Ledgers

variable {B}

/-- Past the money commit, or past a failure before it, the ledger stays. -/
def Past (l : Ledger D) (w : Db D × Session D) (s : Stage × List String) : Prop :=
  w.1.toLedger = l ∧ s.1 ≠ .before ∧ (s.1 ≠ .quit → ∀ c ∈ w.2.pending, c.isSupport = true)

theorem keeps_past {l : Ledger D} {key : Option String} : Handler.Keeps (handle B) (stages true key) (Past l) := by
  rintro o ⟨db, s⟩ ⟨g, held⟩ Q ⟨rfl, hbefore, hsupport⟩ hQ
  cases o with
  | acquire accNo => exact ⟨(g, held ++ [accNo]), ⟨rfl, hbefore, hsupport⟩, hQ⟩
  | release accNo => exact ⟨(g, held.erase accNo), ⟨rfl, hbefore, hsupport⟩, hQ⟩
  | query q => exact absurd hQ.1 hbefore
  | beginNested => exact absurd hQ.1 hbefore
  | releaseNested => exact absurd hQ.1 hbefore
  | create row =>
    have more : g ≠ .quit → (Change.insert row).isSupport = true →
        ∀ c ∈ s.pending ++ [Change.insert row], c.isSupport = true := fun hg hr => by
      simpa [or_imp, forall_and, hr] using hsupport hg
    rcases hQ with ⟨rfl, -⟩ | ⟨rfl, ⟨r, rfl, -⟩, hok, -⟩ | ⟨rfl, ⟨e, rfl⟩, hok, -⟩
    · exact absurd rfl hbefore
    · exact ⟨(.done, held), ⟨rfl, by simp, fun hg => more hg rfl⟩, hok⟩
    · exact ⟨(.audited, held), ⟨rfl, by simp, fun _ => more (by simp) rfl⟩, hok⟩
  | rollbackNested =>
    obtain ⟨-, hok, -⟩ := hQ
    exact ⟨(.quit, held), ⟨rfl, by simp, fun h => absurd rfl h⟩, hok⟩
  | commit =>
    have writes : g ≠ .quit → Q (.ok ()) (.done, held) → (∀ e, Q (.error e) (.done, held)) →
        ∃ s', Past db.toLedger (handle B .commit (db, s)).2 s' ∧ Q (handle B .commit (db, s)).1 s' := fun hg hok herr => by
      simp only [handle]
      split
      · exact ⟨(.done, held), ⟨rfl, by simp, fun _ => hsupport hg⟩, herr _⟩
      cases hf : flush B s.pending db with
      | ok db' => exact ⟨(.done, held), ⟨flush_support (hsupport hg) hf, by simp, by simp [Session.clear]⟩, hok⟩
      | error e => exact ⟨(.done, held), ⟨rfl, by simp, by simp [Session.clear]⟩, herr e⟩
    rcases hQ with ⟨rfl, -⟩ | ⟨rfl, hok, herr⟩ | ⟨rfl, hok, herr⟩
    · exact absurd rfl hbefore
    · exact writes (by simp) hok herr
    · exact writes (by simp) hok (herr rfl)
  | rollback =>
    obtain ⟨-, hok⟩ := hQ
    exact ⟨(if g = .done then .done else .quit, held), ⟨rfl, by split <;> simp, fun _ c hc => by simp [handle, Session.clear] at hc⟩, hok⟩

theorem strikes_past {l : Ledger D} {key : Option String} :
    Strikes failed (stages true key) (fun o => o.fallible = true) (Past (D := D) l) (Past l) := by
  rintro o ⟨db, s⟩ ⟨g, held⟩ Q e ho ⟨rfl, hbefore, hsupport⟩ hQ
  cases o with
  | acquire | release | rollback => cases ho
  | query q => exact absurd hQ.1 hbefore
  | beginNested => exact absurd hQ.1 hbefore
  | releaseNested => exact absurd hQ.1 hbefore
  | create row =>
    rcases hQ with ⟨rfl, -⟩ | ⟨rfl, -, -, herr⟩ | ⟨rfl, -, -, herr⟩
    · exact absurd rfl hbefore
    · exact ⟨(.done, held), ⟨rfl, by simp, fun _ => hsupport (by simp)⟩, herr rfl e⟩
    · exact ⟨(.done, held), ⟨rfl, by simp, fun _ => hsupport (by simp)⟩, herr rfl e⟩
  | rollbackNested =>
    obtain ⟨-, -, herr⟩ := hQ
    exact ⟨(.quit, held), ⟨rfl, by simp, fun h => absurd rfl h⟩, herr rfl e⟩
  | commit =>
    have clean : Past db.toLedger (failed .commit (db, s)) (.done, held) :=
      ⟨rfl, by simp, by simp [failed, Op.flushes, Session.clear]⟩
    rcases hQ with ⟨rfl, -⟩ | ⟨rfl, -, herr⟩ | ⟨rfl, -, herr⟩
    · exact absurd rfl hbefore
    · exact ⟨(.done, held), clean, herr e⟩
    · exact ⟨(.done, held), clean, herr rfl e⟩

/-- **One operation before the money commit**: the ledger stays, unless the operation is the commit. -/
theorem before_step {key : Option String} {o : Op D} {w : Db D × Session D} {held : List String}
    {Q : Except Exn o.Res → Stage × List String → Prop} (hQ : stages true key o (.before, held) Q) :
    ∃ s', Q (handle B o w).1 s' ∧
      ((s'.1 = .before ∧ (handle B o w).2.1.toLedger = w.1.toLedger) ∨ Past w.1.toLedger (handle B o w).2 s' ∨
        Past (handle B o w).2.1.toLedger (handle B o w).2 s') := by
  obtain ⟨db, s⟩ := w
  cases o with
  | acquire accNo => exact ⟨_, hQ, .inl ⟨rfl, rfl⟩⟩
  | release accNo => exact ⟨_, hQ, .inl ⟨rfl, rfl⟩⟩
  | query q =>
    obtain ⟨-, -, hok, herr⟩ := hQ
    simp only [handle]
    split
    · exact ⟨_, herr rfl _, .inr (.inl ⟨rfl, by simp, by simp⟩)⟩
    · exact ⟨_, hok _, .inl ⟨rfl, rfl⟩⟩
  | create row =>
    rcases hQ with ⟨-, hok, -⟩ | ⟨h, -⟩ | ⟨h, -⟩
    · exact ⟨_, hok, .inl ⟨rfl, rfl⟩⟩
    · cases h
    · cases h
  | beginNested =>
    obtain ⟨-, hok, herr⟩ := hQ
    simp only [handle]
    split
    · exact ⟨_, herr rfl _, .inr (.inl ⟨rfl, by simp, by simp⟩)⟩
    · exact ⟨_, hok, .inl ⟨rfl, rfl⟩⟩
  | releaseNested => exact ⟨_, hQ.2.1, .inl ⟨rfl, rfl⟩⟩
  | rollbackNested => exact ⟨_, hQ.2.1, .inr (.inl ⟨rfl, by simp, by simp⟩)⟩
  | commit =>
    rcases hQ with ⟨-, hok, herr⟩ | ⟨h, -⟩ | ⟨h, -⟩
    · simp only [handle]
      split
      · exact ⟨_, herr _, .inr (.inl ⟨rfl, by simp, by simp⟩)⟩
      cases hf : flush B s.pending db with
      | ok db' => exact ⟨_, hok, .inr (.inr ⟨rfl, by simp, by simp [Session.clear]⟩)⟩
      | error e => exact ⟨_, herr e, .inr (.inl ⟨rfl, by simp, by simp⟩)⟩
    · cases h
    · cases h
  | rollback =>
    obtain ⟨-, hok⟩ := hQ
    exact ⟨_, hok, .inr (.inl ⟨rfl, by simp, by simp⟩)⟩

/-- A struck operation before the money commit changes nothing, and nothing is committed after it. -/
theorem before_struck {key : Option String} {o : Op D} (ho : o.fallible = true) {w : Db D × Session D}
    {held : List String} {Q : Except Exn o.Res → Stage × List String → Prop} (hQ : stages true key o (.before, held) Q)
    (e : Exn) : ∃ s', Q (.error e) s' ∧ Past w.1.toLedger (failed o w) s' := by
  obtain ⟨db, s⟩ := w
  have quits : Q (.error e) (.quit, held) → ∃ s', Q (.error e) s' ∧ Past db.toLedger (failed o (db, s)) s' :=
    fun h => ⟨_, h, by simp only [failed]; split <;> rfl, by simp, by simp⟩
  cases o with
  | acquire | release | rollback => cases ho
  | query q => exact quits (hQ.2.2.2 rfl e)
  | create row =>
    rcases hQ with ⟨-, -, herr⟩ | ⟨h, -⟩ | ⟨h, -⟩
    · exact quits (herr rfl e)
    · cases h
    · cases h
  | beginNested => exact quits (hQ.2.2 rfl e)
  | releaseNested => exact quits (hQ.2.2 rfl e)
  | rollbackNested => exact quits (hQ.2.2 rfl e)
  | commit =>
    rcases hQ with ⟨-, -, herr⟩ | ⟨h, -⟩ | ⟨h, -⟩
    · exact quits (herr e)
    · cases h
    · cases h

/-- A run that is past its money commit, or past a failure, keeps the ledger to its end, with or without a fault. -/
theorem past_exec {l : Ledger D} {key : Option String} {α : Type} {p : Svc D α} {Q : Except Exn α → Stage × List String → Prop}
    {w : Db D × Session D} {s : Stage × List String} (hp : wp (stages true key) p Q s) (hw : Past l w s) :
    (exec (handle B) p w).2.1.toLedger = l := by
  obtain ⟨s', hs', -⟩ := exec_of_wp keeps_past hw hp
  exact hs'.1

/-- **All or nothing**, for a program that obeys the stages. -/
theorem wp_all_or_nothing {key : Option String} {α : Type} {p : Svc D α}
    {Q : Except Exn α → Stage × List String → Prop} {held : List String} {w : Db D × Session D}
    (hp : wp (stages true key) p Q (.before, held)) {f : Fault Exn} {n : ℕ}
    (allowed : f.Allowed (fun o => o.fallible = true) (handle B) n p w) :
    (execFault (handle B) failed f n p w).2.1.toLedger = w.1.toLedger ∨
      (execFault (handle B) failed f n p w).2.1.toLedger = (exec (handle B) p w).2.1.toLedger := by
  induction p generalizing n w held with
  | ret a => cases n <;> exact .inl rfl
  | raise e => cases n <;> exact .inl rfl
  | call o k ih =>
    cases n with
    | zero =>
      cases f with
      | die => exact .inl rfl
      | raise e =>
        obtain ⟨s', hs', past⟩ := before_struck (allowed o w e rfl rfl) (w := w) hp e
        exact .inl (past_exec hs' past)
    | succ n =>
      obtain ⟨⟨g, held'⟩, hs', ⟨rfl, same⟩ | past | past⟩ := before_step (B := B) (w := w) hp
      · rcases ih _ hs' (n := n) (w := (handle B o w).2) allowed with h | h
        · exact .inl (h.trans same)
        · exact .inr h
      · obtain ⟨s'', hs'', -⟩ := execFault_keeps keeps_past strikes_past (f := f) (n := n) allowed past hs'
        exact .inl hs''.1
      · obtain ⟨s'', hs'', -⟩ := execFault_keeps keeps_past strikes_past (f := f) (n := n) allowed past hs'
        exact .inr (hs''.1.trans (past_exec hs' past).symm)

end Ledgers

/-! ## Failures under the locks of a transfer -/

/-- What matters of a session for a failing transfer: the locks it holds, whether an operation failed under `locks`,
and whether it was rolled back since it last asked anything. -/
structure Alarm where
  held : List String
  raised : Bool
  clean : Bool

/-- Any answer of the session, with the alarm raised by an exception under `locks`. -/
def alarms (locks : List String) : Spec (Op.Res (D := D)) Exn Alarm
  | .acquire accNo, s, Q => Q (.ok ()) { s with held := s.held ++ [accNo] }
  | .release accNo, s, Q => Q (.ok ()) { s with held := s.held.erase accNo }
  | .rollback, s, Q => Q (.ok ()) { s with clean := true }
  | _, s, Q => (∀ a, Q (.ok a) { s with clean := false }) ∧
      ∀ e, Q (.error e) { s with clean := false, raised := s.raised || s.held == locks }

section Alarms

variable {B} {locks : List String}

/-- A session as its alarm describes it; an alarm that was raised stays so. -/
def Watches (raised : Bool) (w : Db D × Session D) (s : Alarm) : Prop :=
  w.2.held = s.held ∧ (s.clean = true → w.2.pending = []) ∧ (raised = true → s.raised = true)

theorem alarms_fallible {o : Op D} (ho : o.fallible = true) {s : Alarm} {Q : Except Exn o.Res → Alarm → Prop} :
    alarms locks o s Q ↔ (∀ a, Q (.ok a) { s with clean := false }) ∧
      ∀ e, Q (.error e) { s with clean := false, raised := s.raised || s.held == locks } := by
  cases o with
  | acquire | release | rollback => cases ho
  | _ => rfl

theorem alarms_mono : Spec.Mono (alarms (D := D) locks) := by
  intro o s Q Q' hQ h
  cases hf : o.fallible with
  | true =>
    rw [alarms_fallible hf] at h ⊢
    exact ⟨fun a => hQ _ _ (h.1 a), fun e => hQ _ _ (h.2 e)⟩
  | false =>
    cases o with
    | acquire | release | rollback => exact hQ _ _ h
    | _ => cases hf

/-- What the session makes of an operation that can fail: its locks stay. -/
theorem handle_held {o : Op D} (ho : o.fallible = true) (w : Db D × Session D) :
    (handle B o w).2.2.held = w.2.held := by
  obtain ⟨db, s⟩ := w
  cases o with
  | acquire | release | rollback => cases ho
  | query | beginNested => simp only [handle]; split <;> rfl
  | create | releaseNested | rollbackNested => rfl
  | commit =>
    simp only [handle]
    split
    · rfl
    · split <;> rfl

theorem keeps_watches (raised : Bool) : Handler.Keeps (handle B) (alarms locks) (Watches raised) := by
  rintro o ⟨db, s⟩ ⟨held, r, clean⟩ Q ⟨rfl, hclean, hraised⟩ hQ
  cases hf : o.fallible with
  | true =>
    rw [alarms_fallible hf] at hQ
    have hheld := handle_held (B := B) hf (db, s)
    cases hr : (handle B o (db, s)).1 with
    | ok a => exact ⟨⟨s.held, r, false⟩, ⟨hheld, Bool.noConfusion, hraised⟩, hQ.1 a⟩
    | error e =>
      have stays : raised = true → (r || s.held == locks) = true := fun h => by rw [show r = true from hraised h]; rfl
      exact ⟨⟨s.held, _, false⟩, ⟨hheld, Bool.noConfusion, stays⟩, hQ.2 e⟩
  | false =>
    cases o with
    | acquire accNo => exact ⟨⟨s.held ++ [accNo], r, clean⟩, ⟨rfl, hclean, hraised⟩, hQ⟩
    | release accNo => exact ⟨⟨s.held.erase accNo, r, clean⟩, ⟨rfl, hclean, hraised⟩, hQ⟩
    | rollback => exact ⟨⟨s.held, r, true⟩, ⟨rfl, fun _ => rfl, hraised⟩, hQ⟩
    | _ => cases hf

/-- A failing operation under the locks raises the alarm. -/
theorem strike_watches {o : Op D} {w : Db D × Session D} {s : Alarm} {e : Exn}
    {Q : Except Exn o.Res → Alarm → Prop} (ho : o.fallible = true ∧ w.2.held = locks) (hR : Watches false w s)
    (hQ : alarms locks o s Q) : ∃ s', Watches true (failed o w) s' ∧ Q (.error e) s' := by
  obtain ⟨db, session⟩ := w
  obtain ⟨hheld, -, -⟩ := hR
  have under : s.held = locks := hheld.symm.trans ho.2
  refine ⟨⟨s.held, s.raised || s.held == locks, false⟩, ⟨?_, Bool.noConfusion, fun _ => ?_⟩,
    ((alarms_fallible ho.1).mp hQ).2 e⟩
  · simp only [failed]
    split <;> exact hheld
  · simp [under]

/-- So does one that fails by itself. -/
theorem raises_watches {o : Op D} {w : Db D × Session D} {s : Alarm} {Q : Except Exn o.Res → Alarm → Prop}
    (ho : o.fallible = true ∧ w.2.held = locks ∧ ∃ e, (handle B o w).1 = .error e) (hR : Watches false w s)
    (hQ : alarms locks o s Q) : ∃ s', Watches true (handle B o w).2 s' ∧ Q (handle B o w).1 s' := by
  obtain ⟨hf, hl, e, he⟩ := ho
  have under : s.held = locks := hR.1.symm.trans hl
  refine ⟨⟨s.held, s.raised || s.held == locks, false⟩, ⟨(handle_held hf w).trans hR.1, Bool.noConfusion, fun _ => ?_⟩, ?_⟩
  · simp [under]
  · rw [he]
    exact ((alarms_fallible hf).mp hQ).2 e

/-! ## Programs that pass an exception on -/

/-- The end of a program under the locks: an alarm it raised is an exception. -/
def PassesOn {α : Type} (locks : List String) (r : Except Exn α) (s : Alarm) : Prop :=
  s.held = locks ∧ (s.raised = true → ∃ e, r = .error e)

/-- From a session under the locks, with no alarm. -/
def PassOn {α : Type} (locks : List String) (p : Svc D α) : Prop :=
  ∀ clean, wp (alarms locks) p (PassesOn locks) ⟨locks, false, clean⟩

namespace PassOn

variable {α β : Type}

theorem ret (a : α) : PassOn (D := D) locks (Prog.ret a) := fun _ => ⟨rfl, by simp⟩

theorem raise (e : Exn) : PassOn (D := D) (α := α) locks (Prog.raise e) := fun _ => ⟨rfl, by simp⟩

theorem perform {o : Op D} (ho : o.fallible = true) : PassOn locks (Prog.perform o : Svc D o.Res) := fun clean => by
  rw [wp_perform, alarms_fallible ho]
  exact ⟨fun a => ⟨rfl, by simp⟩, fun e => ⟨rfl, fun _ => ⟨e, rfl⟩⟩⟩

theorem bind {p : Svc D α} {f : α → Svc D β} (hp : PassOn locks p) (hf : ∀ a, PassOn locks (f a)) :
    PassOn locks (p >>= f) := fun clean => by
  rw [wp_bind]
  refine wp_mono alarms_mono ?_ (hp clean)
  rintro (e | a) ⟨held, raised, clean'⟩ ⟨rfl, hr⟩
  · exact ⟨rfl, fun _ => ⟨e, rfl⟩⟩
  · cases raised with
    | false => exact hf a clean'
    | true => obtain ⟨e, he⟩ := hr rfl; cases he

theorem beginNested {p : Svc D α} (hp : PassOn locks p) : PassOn locks (UnionBank.beginNested p) := by
  refine bind (perform rfl) fun _ => ?_
  intro clean
  rw [wp_bind, wp_attempt]
  refine wp_mono alarms_mono ?_ (hp clean)
  rintro (e | a) ⟨held, raised, clean'⟩ ⟨rfl, hr⟩
  · rw [andThen_ok, wp_bind, wp_perform, alarms_fallible rfl]
    exact ⟨fun _ => ⟨rfl, fun _ => ⟨e, rfl⟩⟩, fun e' => ⟨rfl, fun _ => ⟨e', rfl⟩⟩⟩
  · cases raised with
    | true => obtain ⟨e, he⟩ := hr rfl; cases he
    | false => exact bind (perform rfl) (fun _ => ret a) clean'

end PassOn

open TransactionService

theorem moveMoney_passOn (draws : Draws) (sender receiver : Account D) (senderAccNo receiverAccNo : String)
    (amount : D) (cat : String) :
    PassOn locks (moveMoney draws sender receiver senderAccNo receiverAccNo amount cat) := by
  unfold moveMoney ensureNonNegativeBalance
  refine .bind ?_ fun _ => .bind (.perform rfl) fun _ => .bind (.perform rfl) fun _ => .bind (.perform rfl) fun _ =>
    .bind (.perform rfl) fun _ => .ret _
  split
  · exact .raise _
  · exact .ret _

theorem transferLocked_passOn (draws : Draws) (senderAccNo receiverAccNo : String) (amount : D) (cat : String) :
    PassOn locks (transferLocked env draws senderAccNo receiverAccNo amount cat) := by
  unfold transferLocked
  refine .bind (.perform rfl) fun sender => .bind (.perform rfl) fun receiver => ?_
  cases sender with
  | none => exact .ret _
  | some sender =>
  cases receiver with
  | none => exact .ret _
  | some receiver =>
    simp only
    split
    · exact .ret _
    split
    · exact .ret _
    split
    · exact .ret _
    exact .bind (.beginNested (moveMoney_passOn draws _ _ _ _ _ _)) fun _ => .bind (.perform rfl) fun _ => .ret _

/-! ## The whole transfer -/

/-- How a transfer ends whose locked section failed. -/
def AnsweredFailure (r : Except Exn (Reply D)) (s : Session D) : Prop :=
  (∃ reply, r = .ok (.transfer reply) ∧ reply.success = false) ∧ s.pending = [] ∧ s.held = []

/-- An operation outside the locks raises no alarm. -/
theorem alarms_outside {o : Op D} (ho : o.fallible = true) (hl : locks ≠ []) {clean : Bool}
    {Q : Except Exn o.Res → Alarm → Prop} (h : ∀ r, Q r ⟨[], false, false⟩) :
    wp (alarms locks) (perform o) Q ⟨[], false, clean⟩ := by
  rw [wp_perform, alarms_fallible ho]
  have hne : (([] : List String) == locks) = false := beq_eq_false_iff_ne.mpr fun e => hl e.symm
  simp only [hne, Bool.or_self]
  exact ⟨fun a => h _, fun e => h _⟩

theorem alarms_acquireAll (accNos : List String) {s : Alarm} {Q : Except Exn Unit → Alarm → Prop} :
    wp (alarms (D := D) locks) (acquireAll accNos) Q s = Q (.ok ()) { s with held := s.held ++ accNos } := by
  induction accNos generalizing s with
  | nil => simp [acquireAll]
  | cons accNo accNos ih =>
    rw [acquireAll, wp_bind, wp_perform]
    show wp (alarms locks) (acquireAll accNos) Q { s with held := s.held ++ [accNo] } = _
    rw [ih, List.append_assoc, List.singleton_append]

theorem alarms_releaseAll (accNos : List String) {s : Alarm} {Q : Except Exn Unit → Alarm → Prop} :
    wp (alarms (D := D) locks) (releaseAll accNos) Q s = Q (.ok ()) { s with held := accNos.foldl List.erase s.held } := by
  induction accNos generalizing s with
  | nil => simp [releaseAll]
  | cons accNo accNos ih =>
    rw [releaseAll, wp_bind, wp_perform]
    show wp (alarms locks) (releaseAll accNos) Q { s with held := s.held.erase accNo } = _
    rw [ih, List.foldl_cons]

/-- A transfer whose alarm was raised has been rolled back and is answered with a refusal. -/
theorem transfer_alarms (draws : Draws) (senderAccNo receiverAccNo : String) (amount : D) (category : String)
    (key : Option String) (hl : locks = [senderAccNo, receiverAccNo].insertionSort (· ≤ ·)) :
    wp (alarms locks) (Request.prog env draws (.transfer senderAccNo receiverAccNo amount category key))
      (fun r s => s.raised = true →
        (∃ reply, r = .ok (.transfer reply) ∧ reply.success = false) ∧ s.clean = true ∧ s.held = [])
      ⟨[], false, true⟩ := by
  have some : locks ≠ [] := by
    rw [hl]
    intro e
    have := List.length_insertionSort (· ≤ ·) [senderAccNo, receiverAccNo]
    rw [e] at this
    cases this
  unfold Request.prog transfer
  rw [wp_bind]
  split
  · exact fun h => Bool.noConfusion h
  split
  · exact fun h => Bool.noConfusion h
  rw [wp_bind]
  -- the lookup of the key is outside the locks
  have lookup : ∀ Q : Except Exn (Option (TransferResult D)) → Alarm → Prop, (∀ r clean, Q r ⟨[], false, clean⟩) →
      wp (alarms locks) (cachedTransfer key) Q ⟨[], false, true⟩ := by
    intro Q h
    unfold cachedTransfer
    cases givenKey key with
    | none => exact h _ _
    | some k =>
      rw [wp_bind]
      refine alarms_outside rfl some fun r => ?_
      cases r with
      | error e => exact h _ _
      | ok existing =>
        rw [andThen_ok]
        cases existing with
        | none => exact h _ _
        | some existing => simp only; split <;> exact h _ _
  refine lookup _ fun r clean => ?_
  rcases r with e | cached | cached
  · exact fun h => Bool.noConfusion h
  · rw [andThen_ok, wp_bind, wp_tryCatch, accountLock, wp_bind, alarms_acquireAll, andThen_ok, List.nil_append,
      wp_ensuring, ← hl]
    refine wp_mono alarms_mono ?_ (transferLocked_passOn env draws senderAccNo receiverAccNo amount _ clean)
    rintro r ⟨held, raised, clean'⟩ ⟨rfl, hr⟩
    rw [alarms_releaseAll, andThen_ok, wp_ofExcept, foldl_erase_self]
    rcases r with e | refusal | balances
    · simp only
      rw [wp_bind, accountRepo.rollback, wp_perform]
      exact fun _ => ⟨⟨_, rfl, rfl⟩, rfl, rfl⟩
    · cases raised with
      | true => obtain ⟨e, he⟩ := hr rfl; cases he
      | false => exact fun h => Bool.noConfusion h
    · cases raised with
      | true => obtain ⟨e, he⟩ := hr rfl; cases he
      | false =>
        -- the key is stored outside the locks
        simp only [andThen_ok]
        rw [wp_bind]
        unfold storeTransferIdempotency
        cases givenKey key with
        | none => exact fun h => Bool.noConfusion h
        | some k =>
          rw [wp_tryCatch, wp_bind]
          have undo : ∀ Q : Except Exn Unit → Alarm → Prop, Q (.ok ()) ⟨[], false, true⟩ →
              wp (alarms (D := D) held) idempotencyRepo.rollback Q ⟨[], false, false⟩ := fun Q h => by
            rw [idempotencyRepo.rollback, wp_perform]
            exact h
          refine alarms_outside rfl some fun r => ?_
          cases r with
          | error e => exact undo _ fun h => Bool.noConfusion h
          | ok _ =>
            rw [andThen_ok]
            refine alarms_outside rfl some fun r => ?_
            cases r with
            | error e => exact undo _ fun h => Bool.noConfusion h
            | ok _ => exact fun h => Bool.noConfusion h
  · exact fun h => Bool.noConfusion h

end Alarms

section Failure

variable (draws : Draws) (senderAccNo receiverAccNo : String) (amount : D) (category : String) (key : Option String)
variable (db : Db D) {n : ℕ} {o : Op D} {w : Db D × Session D}

/-- An operation in the locked section of a transfer fails by a fault. -/
theorem transfer_answers_fault
    (hs : struck (handle B) n (Request.prog env draws (.transfer senderAccNo receiverAccNo amount category key))
      (db, {}) = some (o, w)) (ho : o.fallible = true)
    (hl : w.2.held = [senderAccNo, receiverAccNo].insertionSort (· ≤ ·)) (e : Exn) :
    ∃ r w', execFault (handle B) failed (.raise e) n
      (Request.prog env draws (.transfer senderAccNo receiverAccNo amount category key)) (db, {}) = (.done r, w') ∧
      AnsweredFailure r w'.2 := by
  obtain ⟨r, w', s', hrun, ⟨hheld, hclean, hraised⟩, hend⟩ :=
    execFault_of_struck (fun o w => o.fallible = true ∧ w.2.held = [senderAccNo, receiverAccNo].insertionSort (· ≤ ·))
      (keeps_watches false) (keeps_watches true) (fun o w s Q ho hR hQ => strike_watches ho hR hQ)
      (w := (db, {})) ⟨rfl, fun _ => rfl, Bool.noConfusion⟩
      (transfer_alarms env draws senderAccNo receiverAccNo amount category key rfl) hs ⟨ho, hl⟩
  obtain ⟨hreply, hc, hh⟩ := hend (hraised rfl)
  exact ⟨r, w', hrun, hreply, hclean hc, hheld.trans hh⟩

/-- An operation in the locked section of a transfer fails by itself. -/
theorem transfer_answers_raise
    (hs : struck (handle B) n (Request.prog env draws (.transfer senderAccNo receiverAccNo amount category key))
      (db, {}) = some (o, w)) (ho : o.fallible = true)
    (hl : w.2.held = [senderAccNo, receiverAccNo].insertionSort (· ≤ ·)) {e : Exn} (he : (handle B o w).1 = .error e) :
    AnsweredFailure
      (exec (handle B) (Request.prog env draws (.transfer senderAccNo receiverAccNo amount category key)) (db, {})).1
      (exec (handle B) (Request.prog env draws (.transfer senderAccNo receiverAccNo amount category key)) (db, {})).2.2 := by
  obtain ⟨s', ⟨hheld, hclean, hraised⟩, hend⟩ :=
    exec_of_struck (fun o w => o.fallible = true ∧ w.2.held = [senderAccNo, receiverAccNo].insertionSort (· ≤ ·) ∧
        ∃ e, (handle B o w).1 = .error e)
      (keeps_watches false) (keeps_watches true) (fun o w s Q ho hR hQ => raises_watches ho hR hQ)
      (w := (db, {})) ⟨rfl, fun _ => rfl, Bool.noConfusion⟩
      (transfer_alarms env draws senderAccNo receiverAccNo amount category key rfl) hs ⟨ho, hl, e, he⟩
  obtain ⟨hreply, hc, hh⟩ := hend (hraised rfl)
  exact ⟨hreply, hclean hc, hheld.trans hh⟩

end Failure

/-- **All or nothing.** A single fault in a call on a clean session, of an operation that raises or of the process,
leaves the ledger as it was or as the call without the fault leaves it. When an operation raises in the locked section
of a transfer, by a fault or by itself, the transfer answers with a failure and leaves a session without pending
changes and without locks. -/
theorem all_or_nothing (c : Call D) (db : Db D) :
    (∀ (f : Fault Exn) (n : ℕ), f.Allowed (fun o => o.fallible = true) (handle B) n (c.prog env) (db, {}) →
      (execFault (handle B) failed f n (c.prog env) (db, {})).2.1.toLedger = db.toLedger ∨
        (execFault (handle B) failed f n (c.prog env) (db, {})).2.1.toLedger =
          (exec (handle B) (c.prog env) (db, {})).2.1.toLedger) ∧
    ∀ senderAccNo receiverAccNo amount category key,
      c.request = .transfer senderAccNo receiverAccNo amount category key →
      ∀ n o w, struck (handle B) n (c.prog env) (db, {}) = some (o, w) → o.fallible = true →
        w.2.held = [senderAccNo, receiverAccNo].insertionSort (· ≤ ·) →
        (∀ e, ∃ r w', execFault (handle B) failed (.raise e) n (c.prog env) (db, {}) = (.done r, w') ∧
          AnsweredFailure r w'.2) ∧
        ∀ e, (handle B o w).1 = .error e →
          AnsweredFailure (exec (handle B) (c.prog env) (db, {})).1 (exec (handle B) (c.prog env) (db, {})).2.2 := by
  refine ⟨fun f n allowed => wp_all_or_nothing (disciplined env true c) allowed, ?_⟩
  obtain ⟨request, draws⟩ := c
  rintro senderAccNo receiverAccNo amount category key rfl n o w hs ho hl
  exact ⟨fun e => transfer_answers_fault env B draws _ _ _ _ _ db hs ho hl e,
    fun e he => transfer_answers_raise env B draws _ _ _ _ _ db hs ho hl he⟩

end UnionBank
