import UnionBank.Lib.Serial

/-!
# Serial orders by commits

Threads that read the store, and change it in one operation at most. A thread settles in that operation, or in its last
read when it changes nothing. When all that it has read before is then as it read it, its whole program could have run
at that point, so that the threads end as their programs one after another, in the order in which they settle.

- `Meets`, `Quiet`, `Replays`: a journal of reads that still holds, an operation that only reads, and a program that has
  come as far as its journal tells;
- `Blind`: a rest that neither depends on the store nor matters to it;
- `Serialized`: how a configuration and the serial store hang together; `quiet`, `commits` and `trails` keep it, and
  `Serialized.ended` reads it off at the end.
-/

namespace Programs

open Prog

set_option linter.unusedSectionVars false

variable {ι Op : Type} {Res : Op → Type} {ε α S T L K V : Type}

/-! ## Reads -/

section Reads

variable (h : Handler Res ε (S × L)) (view : K → S → V)

/-- The store still has what a journal says. -/
def Meets (journal : List (K × V)) (s : S) : Prop := ∀ kv ∈ journal, view kv.1 s = kv.2

instance decidableMeets [DecidableEq V] (journal : List (K × V)) (s : S) : Decidable (Meets view journal s) :=
  inferInstanceAs (Decidable (∀ kv ∈ journal, view kv.1 s = kv.2))

/-- What the keys are in a store. -/
def readings (keys : List K) (s : S) : List (K × V) := keys.map fun k => (k, view k s)

/-- An operation that depends on some keys, and changes nothing in the store. -/
def Quiet (keys : List K) (o : Op) (s : S) (l : L) : Prop :=
  ∀ t, (∀ k ∈ keys, view k t = view k s) → h o (t, l) = ((h o (s, l)).1, t, (h o (s, l)).2.2)

/-- Wherever the journal holds, the program `p₀` comes to `p`, with the store as it was. -/
def Replays (p₀ : Prog Res ε α) (l₀ : L) (journal : List (K × V)) (p : Prog Res ε α) (l : L) : Prop :=
  ∀ s, Meets view journal s → exec h p₀ (s, l₀) = exec h p (s, l)

variable {h view} {p₀ : Prog Res ε α} {l₀ l : L} {s : S} {journal : List (K × V)} {keys : List K}

theorem Meets.append {more : List (K × V)} (here : Meets view journal s) (there : Meets view more s) :
    Meets view (journal ++ more) s := by
  intro kv hkv
  rcases List.mem_append.mp hkv with hkv | hkv
  · exact here kv hkv
  · exact there kv hkv

theorem meets_readings (keys : List K) (s : S) : Meets view (readings view keys s) s := by
  intro kv hkv
  obtain ⟨k, -, rfl⟩ := List.mem_map.mp hkv
  rfl

/-- One read. -/
theorem Replays.step {o : Op} {k : Except ε (Res o) → Prog Res ε α}
    (replays : Replays h view p₀ l₀ journal (.call o k) l) (quiet : Quiet h view keys o s l) :
    Replays h view p₀ l₀ (journal ++ readings view keys s) (k (h o (s, l)).1) (h o (s, l)).2.2 := by
  intro t meets
  have before : Meets view journal t := fun kv hkv => meets kv (List.mem_append_left _ hkv)
  have same : ∀ key ∈ keys, view key t = view key s := by
    intro key hkey
    exact meets (key, view key s) (List.mem_append_right _ (List.mem_map.mpr ⟨key, hkey, rfl⟩))
  rw [replays t before, exec_call, quiet t same]

end Reads

/-! ## Rests that do not matter -/

section Blind

variable (h : Handler Res ε (S × L)) (core : S → T)

/-- A rest of a program that is the same on every store and leaves what matters of it. -/
def Blind : Prog Res ε α → L → Prop
  | .ret _, _ => True
  | .raise _, _ => True
  | .call o k, l => ∃ r l', (∀ s, (h o (s, l)).1 = r ∧ (h o (s, l)).2.2 = l' ∧ core (h o (s, l)).2.1 = core s) ∧
    Blind (k r) l'

variable {h core} {p : Prog Res ε α} {l : L}

/-- What matters of the store stays. -/
theorem Blind.exec_core (blind : Blind h core p l) (s : S) : core (exec h p (s, l)).2.1 = core s := by
  induction p generalizing s l with
  | ret a => rfl
  | raise e => rfl
  | call o k ih =>
    obtain ⟨r, l', same, rest⟩ := blind
    obtain ⟨hr, hl, hs⟩ := same s
    rw [exec_call, hr, ← hs]
    exact ih r (hl ▸ rest) (h o (s, l)).2.1

/-- The result is the same on every store. -/
theorem Blind.exec_result (blind : Blind h core p l) (s t : S) : (exec h p (s, l)).1 = (exec h p (t, l)).1 := by
  induction p generalizing s t l with
  | ret a => rfl
  | raise e => rfl
  | call o k ih =>
    obtain ⟨r, l', same, rest⟩ := blind
    obtain ⟨hr, hl, -⟩ := same s
    obtain ⟨hr', hl', -⟩ := same t
    have left : (h o (s, l)).2 = ((h o (s, l)).2.1, l') := Prod.ext rfl hl
    have right : (h o (t, l)).2 = ((h o (t, l)).2.1, l') := Prod.ext rfl hl'
    rw [exec_call, exec_call, hr, hr', left, right]
    exact ih r rest _ _

/-- Such a rest keeps to the empty footprint. -/
theorem Blind.within {view : K → S → V} (seen : ∀ k {s t : S}, core s = core t → view k s = view k t)
    (blind : Blind h core p l) (s : S) : Within h view ∅ p s l := by
  induction p generalizing s l with
  | ret a => trivial
  | raise e => trivial
  | call o k ih =>
    obtain ⟨r, l', same, rest⟩ := blind
    refine ⟨⟨?_, ?_, ?_, ?_⟩, ?_⟩
    · intro s t _
      rw [(same s).1, (same t).1]
    · intro s t _
      rw [(same s).2.1, (same t).2.1]
    · intro s t _ k hk
      exact absurd hk (Set.notMem_empty k)
    · intro s k _
      exact seen k (same s).2.2
    · rw [(same s).1, (same s).2.1]
      exact ih r rest _

/-- A read of nothing does not make a rest blind. -/
theorem Blind.of_quiet_nil {view : K → S → V} {o : Op} {k : Except ε (Res o) → Prog Res ε α} {s : S}
    (quiet : Quiet h view [] o s l) (blind : Blind h core (k (h o (s, l)).1) (h o (s, l)).2.2) :
    Blind h core (.call o k) l := by
  refine ⟨(h o (s, l)).1, (h o (s, l)).2.2, fun t => ?_, blind⟩
  have there := quiet t fun key hkey => absurd hkey List.not_mem_nil
  rw [there]
  exact ⟨rfl, rfl, rfl⟩

end Blind

/-! ## The simulation -/

section Simulation

variable (h : Handler Res ε (S × L)) (view : K → S → V) (core : S → T)

/-- What matters of the store decides what an operation does. -/
def Respects : Prop := ∀ (o : Op) (l : L) {s t : S}, core s = core t →
  (h o (s, l)).1 = (h o (t, l)).1 ∧ (h o (s, l)).2.2 = (h o (t, l)).2.2 ∧ core (h o (s, l)).2.1 = core (h o (t, l)).2.1

variable {h core}

/-- What matters of the store decides how a run ends. -/
theorem Respects.exec (hr : Respects h core) (p : Prog Res ε α) (l : L) {s t : S} (same : core s = core t) :
    (exec h p (s, l)).1 = (exec h p (t, l)).1 ∧ core (exec h p (s, l)).2.1 = core (exec h p (t, l)).2.1 := by
  induction p generalizing s t l with
  | ret a => exact ⟨rfl, same⟩
  | raise e => exact ⟨rfl, same⟩
  | call o k ih =>
    obtain ⟨answer, own, store⟩ := hr o l same
    have right : (h o (t, l)).2 = ((h o (t, l)).2.1, (h o (s, l)).2.2) := Prod.ext rfl own.symm
    rw [exec_call, exec_call, ← answer, right]
    exact ih _ _ store

variable (h core) (programs : ι → Prog Res ε α) (fresh : ι → L) (s₀ : S)

/-- The threads of `order` have settled, and the store is theirs; the others have only read. -/
structure Committed (order : List ι) (journal : ι → List (K × V)) (c : Config ι Res ε α S L) : Prop where
  nodup : order.Nodup
  running : ∀ i, i ∉ order → Replays h view (programs i) (fresh i) (journal i) (c.threads i).prog (c.threads i).own
  store : core c.store = core (serial h programs fresh s₀ order)
  past : ∀ i, i ∈ order → Blind h core (c.threads i).prog (c.threads i).own
  outcomes : ∀ before i after, order = before ++ i :: after → ∀ s,
    (exec h (c.threads i).prog (s, (c.threads i).own)).1 = outcome h programs fresh (serial h programs fresh s₀ before) i

/-- No other thread has settled. -/
structure Serialized (order : List ι) (journal : ι → List (K × V)) (c : Config ι Res ε α S L) : Prop
    extends Committed h view core programs fresh s₀ order journal c where
  unsettled : ∀ i, i ∉ order → ¬Blind h core (c.threads i).prog (c.threads i).own

variable {h view core programs fresh s₀} {order : List ι} {journal : ι → List (K × V)} {c c' : Config ι Res ε α S L}

/-- A thread settles in a step that leaves it a blind rest. -/
theorem Committed.closes (hr : Respects h core) (sim : Committed h view core programs fresh s₀ order journal c) {i : ι}
    (new : i ∉ order) (others : ∀ j, j ≠ i → c'.threads j = c.threads j)
    (ran : exec h (programs i) (c.store, fresh i) = exec h (c'.threads i).prog (c'.store, (c'.threads i).own))
    (blind : Blind h core (c'.threads i).prog (c'.threads i).own) :
    Committed h view core programs fresh s₀ (order ++ [i]) journal c' := by
  obtain ⟨sameResult, sameStore⟩ := hr.exec (programs i) (fresh i) sim.store
  have older : ∀ j, j ∈ order → c'.threads j = c.threads j := by
    intro j hj
    refine others j ?_
    rintro rfl
    exact new hj
  constructor
  · refine List.nodup_append.mpr ⟨sim.nodup, List.nodup_singleton _, ?_⟩
    rintro j hj j' hj' rfl
    exact new (List.mem_singleton.mp hj' ▸ hj)
  · intro j hj
    have outside : j ∉ order := fun mem => hj (List.mem_append_left _ mem)
    have hne : j ≠ i := by
      rintro rfl
      exact hj (List.mem_append_right _ (List.mem_singleton_self j))
    rw [others j hne]
    exact sim.running j outside
  · rw [serial_append]
    show _ = core (Prog.exec h (programs i) (serial h programs fresh s₀ order, fresh i)).2.1
    rw [← sameStore, ran]
    exact (blind.exec_core c'.store).symm
  · intro j hj
    rcases List.mem_append.mp hj with hj | hj
    · rw [older j hj]
      exact sim.past j hj
    · rw [List.mem_singleton.mp hj]
      exact blind
  · intro before j after ho s
    rcases split_snoc ho with ⟨rfl, rfl⟩ | ⟨after', earlier⟩
    · rw [outcome, ← sameResult, ran]
      exact blind.exec_result s c'.store
    · rw [older j (by simp [earlier])]
      exact sim.outcomes before j after' earlier s

/-- A thread that has come to a blind rest. -/
theorem Committed.settles (hr : Respects h core) (sim : Committed h view core programs fresh s₀ order journal c) {i : ι}
    (new : i ∉ order) (meets : Meets view (journal i) c.store) (blind : Blind h core (c.threads i).prog (c.threads i).own) :
    Committed h view core programs fresh s₀ (order ++ [i]) journal c :=
  sim.closes hr new (fun _ _ => rfl) (sim.running i new c.store meets) blind

/-- Before the first step: the threads that do nothing have settled. -/
theorem Serialized.start [Fintype ι] (hr : Respects h core) : ∃ order,
    Serialized h view core programs fresh s₀ order (fun _ => []) ⟨s₀, fun i => ⟨programs i, fresh i⟩⟩ := by
  classical
  have first : Committed h view core programs fresh s₀ [] (fun _ => []) ⟨s₀, fun i => ⟨programs i, fresh i⟩⟩ :=
    { nodup := List.nodup_nil
      running := fun i _ s _ => rfl
      store := rfl
      past := fun i hi => absurd hi List.not_mem_nil
      outcomes := fun before i after ho => by cases before <;> cases ho }
  have all : ∀ more : List ι, ∃ order,
      Committed h view core programs fresh s₀ order (fun _ => []) ⟨s₀, fun i => ⟨programs i, fresh i⟩⟩ ∧
        ∀ i ∈ more, i ∉ order → ¬Blind h core (programs i) (fresh i) := by
    intro more
    induction more with
    | nil => exact ⟨[], first, by simp⟩
    | cons i more ih =>
      obtain ⟨order, sim, unsettled⟩ := ih
      by_cases settles : i ∉ order ∧ Blind h core (programs i) (fresh i)
      · refine ⟨order ++ [i], sim.settles hr settles.1 (by simp [Meets]) settles.2, ?_⟩
        intro j hj outside
        rcases List.mem_cons.mp hj with rfl | hj
        · exact absurd (List.mem_append_right _ (List.mem_singleton_self j)) outside
        · exact unsettled j hj fun mem => outside (List.mem_append_left _ mem)
      · refine ⟨order, sim, ?_⟩
        intro j hj outside blind
        rcases List.mem_cons.mp hj with rfl | hj
        · exact settles ⟨outside, blind⟩
        · exact unsettled j hj outside blind
  obtain ⟨order, sim, unsettled⟩ := all Finset.univ.toList
  exact ⟨order, sim, fun i => unsettled i (by simp)⟩

/-- Only the journals of threads that have not settled count. -/
theorem Serialized.of_journal (sim : Serialized h view core programs fresh s₀ order journal c) {journal' : ι → List (K × V)}
    (same : ∀ i, i ∉ order → journal' i = journal i) : Serialized h view core programs fresh s₀ order journal' c where
  nodup := sim.nodup
  running i new := by
    rw [same i new]
    exact sim.running i new
  store := sim.store
  past := sim.past
  outcomes := sim.outcomes
  unsettled := sim.unsettled

variable [DecidableEq ι]

/-- A thread reads; what it has read before is as it read it. -/
theorem Serialized.quiet (hr : Respects h core) (sim : Serialized h view core programs fresh s₀ order journal c) {i : ι}
    (new : i ∉ order) {o : Op} {k : Except ε (Res o) → Prog Res ε α} (here : (c.threads i).prog = .call o k)
    {keys : List K} (quiet : Quiet h view keys o c.store (c.threads i).own)
    (meets : keys ≠ [] → Meets view (journal i) c.store) :
    ∃ order', (order' = order ∨ order' = order ++ [i]) ∧ Serialized h view core programs fresh s₀ order'
      (Function.update journal i (journal i ++ readings view keys c.store))
      (c.put i (h o (c.world i)).2 (k (h o (c.world i)).1)) := by
  generalize hc : c.put i (h o (c.world i)).2 (k (h o (c.world i)).1) = c'
  have self : c'.threads i = ⟨k (h o (c.world i)).1, (h o (c.world i)).2.2⟩ := by
    rw [← hc, Config.put_threads_self]
  have others : ∀ j, j ≠ i → c'.threads j = c.threads j := by
    intro j hj
    rw [← hc, Config.put_threads_of_ne _ _ _ hj]
  have older : ∀ j, j ∈ order → j ≠ i := by
    rintro j hj rfl
    exact new hj
  have store : c'.store = c.store := by
    rw [← hc, Config.put_store]
    exact congrArg (·.2.1) (quiet c.store fun _ _ => rfl)
  have before := sim.running i new
  rw [here] at before
  have next : Committed h view core programs fresh s₀ order
      (Function.update journal i (journal i ++ readings view keys c.store)) c' := by
    constructor
    · exact sim.nodup
    · intro j hj
      by_cases hne : j = i
      · subst hne
        rw [self, Function.update_self]
        exact before.step quiet
      · rw [others j hne, Function.update_of_ne hne]
        exact sim.running j hj
    · rw [store]
      exact sim.store
    · intro j hj
      rw [others j (older j hj)]
      exact sim.past j hj
    · intro before j after ho
      rw [others j (older j (by simp [ho]))]
      exact sim.outcomes before j after ho
  have rest : ∀ j, j ≠ i → j ∉ order → ¬Blind h core (c'.threads j).prog (c'.threads j).own := by
    intro j hj outside
    rw [others j hj]
    exact sim.unsettled j outside
  by_cases blind : Blind h core (c'.threads i).prog (c'.threads i).own
  · -- it was its last read
    have read : keys ≠ [] := by
      rintro rfl
      have settled := sim.unsettled i new
      rw [here] at settled
      rw [self] at blind
      exact settled (blind.of_quiet_nil quiet)
    have journal' : Meets view (Function.update journal i (journal i ++ readings view keys c.store) i) c'.store := by
      rw [Function.update_self, store]
      exact (meets read).append (meets_readings keys c.store)
    refine ⟨order ++ [i], .inr rfl, next.settles hr new journal' blind, fun j hj => ?_⟩
    refine rest j ?_ fun mem => hj (List.mem_append_left _ mem)
    rintro rfl
    exact hj (List.mem_append_right _ (List.mem_singleton_self j))
  · refine ⟨order, .inl rfl, next, fun j hj => ?_⟩
    by_cases hne : j = i
    · subst hne
      exact blind
    · exact rest j hne hj

/-- A thread commits; what it has read is as it read it. -/
theorem Serialized.commits (hr : Respects h core) (sim : Serialized h view core programs fresh s₀ order journal c) {i : ι}
    (new : i ∉ order) {o : Op} {k : Except ε (Res o) → Prog Res ε α} (here : (c.threads i).prog = .call o k)
    (meets : Meets view (journal i) c.store) (blind : Blind h core (k (h o (c.world i)).1) (h o (c.world i)).2.2) :
    Serialized h view core programs fresh s₀ (order ++ [i]) journal
      (c.put i (h o (c.world i)).2 (k (h o (c.world i)).1)) := by
  have ran := sim.running i new c.store meets
  rw [here, exec_call] at ran
  have others : ∀ j, j ≠ i → (c.put i (h o (c.world i)).2 (k (h o (c.world i)).1)).threads j = c.threads j :=
    fun j hj => Config.put_threads_of_ne _ _ _ hj
  refine ⟨sim.closes hr new others ?_ ?_, fun j hj => ?_⟩
  · rw [Config.put_threads_self]
    exact ran
  · rw [Config.put_threads_self]
    exact blind
  · have hne : j ≠ i := by
      rintro rfl
      exact hj (List.mem_append_right _ (List.mem_singleton_self j))
    rw [others j hne]
    exact sim.unsettled j fun mem => hj (List.mem_append_left _ mem)

/-- A thread that has settled goes on. -/
theorem Serialized.trails (sim : Serialized h view core programs fresh s₀ order journal c) {i : ι} (begun : i ∈ order) {o : Op}
    {k : Except ε (Res o) → Prog Res ε α} (here : (c.threads i).prog = .call o k) :
    Serialized h view core programs fresh s₀ order journal (c.put i (h o (c.world i)).2 (k (h o (c.world i)).1)) := by
  have blind := sim.past i begun
  rw [here] at blind
  obtain ⟨r, l', same, rest⟩ := blind
  obtain ⟨answer, own, store⟩ := same c.store
  have outside : ∀ j, j ∉ order → j ≠ i := by
    rintro j hj rfl
    exact hj begun
  refine ⟨⟨sim.nodup, ?_, ?_, ?_, ?_⟩, ?_⟩
  · intro j hj
    rw [Config.put_threads_of_ne _ _ _ (outside j hj)]
    exact sim.running j hj
  · rw [Config.put_store, ← sim.store]
    exact store
  · intro j hj
    by_cases hne : j = i
    · subst hne
      rw [Config.put_threads_self]
      show Blind h core (k (h o (c.store, (c.threads j).own)).1) (h o (c.store, (c.threads j).own)).2.2
      rw [answer, own]
      exact rest
    · rw [Config.put_threads_of_ne _ _ _ hne]
      exact sim.past j hj
  · intro before j after ho s
    by_cases hne : j = i
    · subst hne
      obtain ⟨answer', own', -⟩ := same s
      have there : (h o (s, (c.threads j).own)).2 = ((h o (s, (c.threads j).own)).2.1, l') := Prod.ext rfl own'
      rw [Config.put_threads_self, ← sim.outcomes before j after ho s, here, exec_call]
      show (exec h (k (h o (c.store, (c.threads j).own)).1) (s, (h o (c.store, (c.threads j).own)).2.2)).1 = _
      rw [answer, own, answer', there]
      exact rest.exec_result _ _
    · rw [Config.put_threads_of_ne _ _ _ hne]
      exact sim.outcomes before j after ho s
  · intro j hj
    rw [Config.put_threads_of_ne _ _ _ (outside j hj)]
    exact sim.unsettled j hj

/-- **At the end** the store is what the programs leave one after another, in the order in which they settled, and the
threads have returned what those return. -/
theorem Serialized.ended (sim : Serialized h view core programs fresh s₀ order journal c)
    (done : ∀ i, (c.threads i).result ≠ none) :
    (∀ i, i ∈ order) ∧ core c.store = core (serial h programs fresh s₀ order) ∧
      ∀ before i after, order = before ++ i :: after →
        (c.threads i).result = some (outcome h programs fresh (serial h programs fresh s₀ before) i) := by
  refine ⟨fun i => ?_, sim.store, fun before i after ho => ?_⟩
  · by_contra outside
    have di := done i
    have unsettled := sim.unsettled i outside
    unfold Thread.result at di
    split at di
    next a ret => rw [ret] at unsettled; exact unsettled trivial
    next e raised => rw [raised] at unsettled; exact unsettled trivial
    next => exact di rfl
  · rw [← sim.outcomes before i after ho c.store]
    have di := done i
    unfold Thread.result at di ⊢
    split at di
    next a ret => rw [ret]; rfl
    next e raised => rw [raised]; rfl
    next => exact absurd rfl di

end Simulation

end Programs
