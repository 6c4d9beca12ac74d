import UnionBank.Lib.Machine

/-!
# Serial orders of interleaved threads

A store seen through the values of its keys, and threads that run, from some point on, within keys that no other
running thread touches. Their interleaving ends as their programs one after another, in the order of those points.

- `Agree`, `Local`, `Within`: stores that agree on a footprint, operations that keep to it, and runs that do;
- `serial`: the programs one after another;
- `Serial`: how a configuration and the serial store hang together; `opened`, `stepped`, `waited` and `narrowed` keep
  it, and `Serial.ended` reads it off at the end.
-/

namespace Programs

open Prog

set_option linter.unusedSectionVars false

variable {ι Op : Type} {Res : Op → Type} {ε α S L K V : Type}

/-! ## Footprints -/

section Footprints

variable (h : Handler Res ε (S × L)) (view : K → S → V)

/-- The stores have the same values in a footprint. -/
def Agree (F : Set K) (s t : S) : Prop := ∀ k ∈ F, view k s = view k t

/-- An operation that depends on a footprint only, and changes nothing outside it. -/
structure Local (F : Set K) (o : Op) (l : L) : Prop where
  answer : ∀ {s t : S}, Agree view F s t → (h o (s, l)).1 = (h o (t, l)).1
  own : ∀ {s t : S}, Agree view F s t → (h o (s, l)).2.2 = (h o (t, l)).2.2
  agree : ∀ {s t : S}, Agree view F s t → Agree view F (h o (s, l)).2.1 (h o (t, l)).2.1
  frame : ∀ (s : S) {k : K}, k ∉ F → view k (h o (s, l)).2.1 = view k s

/-- A run that keeps to a footprint. -/
def Within (F : Set K) : Prog Res ε α → S → L → Prop
  | .ret _, _, _ => True
  | .raise _, _, _ => True
  | .call o k, s, l => Local h view F o l ∧ Within F (k (h o (s, l)).1) (h o (s, l)).2.1 (h o (s, l)).2.2

variable {h view} {F : Set K} {s t : S} {l : L} {p : Prog Res ε α}

theorem Agree.symm (a : Agree view F s t) : Agree view F t s := fun k hk => (a k hk).symm

theorem Agree.trans {u : S} (a : Agree view F s t) (b : Agree view F t u) : Agree view F s u :=
  fun k hk => (a k hk).trans (b k hk)

/-- The footprint decides whether a run keeps to it. -/
theorem Within.of_agree (w : Within h view F p s l) (a : Agree view F s t) : Within h view F p t l := by
  induction p generalizing s t l with
  | ret a => trivial
  | raise e => trivial
  | call o k ih =>
    obtain ⟨local_, rest⟩ := w
    refine ⟨local_, ?_⟩
    rw [← local_.answer a, ← local_.own a]
    exact ih _ rest (local_.agree a)

/-- The footprint decides how a run ends. -/
theorem Within.exec_agree (w : Within h view F p s l) (a : Agree view F s t) :
    (exec h p (s, l)).1 = (exec h p (t, l)).1 ∧ Agree view F (exec h p (s, l)).2.1 (exec h p (t, l)).2.1 := by
  induction p generalizing s t l with
  | ret x => exact ⟨rfl, a⟩
  | raise e => exact ⟨rfl, a⟩
  | call o k ih =>
    obtain ⟨local_, rest⟩ := w
    have next := ih _ rest (local_.agree a)
    rw [exec_call, exec_call, ← local_.answer a]
    have own := local_.own a
    rcases hs : h o (s, l) with ⟨r, s', l'⟩
    rcases ht : h o (t, l) with ⟨r', t', l''⟩
    rw [hs] at next
    rw [hs, ht] at own
    rw [ht] at next
    obtain rfl : l' = l'' := own
    exact next

/-- A run changes nothing outside its footprint. -/
theorem Within.exec_frame (w : Within h view F p s l) {k : K} (hk : k ∉ F) :
    view k (exec h p (s, l)).2.1 = view k s := by
  induction p generalizing s l with
  | ret x => rfl
  | raise e => rfl
  | call o k ih =>
    obtain ⟨local_, rest⟩ := w
    rw [exec_call]
    exact (ih _ rest).trans (local_.frame s hk)

end Footprints

/-! ## One after another -/

section SerialRuns

variable (h : Handler Res ε (S × L)) (programs : ι → Prog Res ε α) (fresh : ι → L)

/-- The store after the programs one after another, each from a fresh state of its own. -/
def serial (s : S) : List ι → S
  | [] => s
  | i :: order => serial (exec h (programs i) (s, fresh i)).2.1 order

/-- What a program returns or raises on a store. -/
def outcome (s : S) (i : ι) : Except ε α := (exec h (programs i) (s, fresh i)).1

theorem serial_append (s : S) (order order' : List ι) :
    serial h programs fresh s (order ++ order') = serial h programs fresh (serial h programs fresh s order) order' := by
  induction order generalizing s with
  | nil => rfl
  | cons i order ih => exact ih _

end SerialRuns

/-- An entry of a list with one more at its end: the last one, or one from before. -/
theorem split_snoc {order before after : List ι} {i j : ι} (ho : order ++ [i] = before ++ j :: after) :
    (before = order ∧ j = i) ∨ ∃ after', order = before ++ j :: after' := by
  rcases List.append_eq_append_iff.mp ho with ⟨middle, hb, hr⟩ | ⟨middle, hb, hr⟩
  · cases middle with
    | nil =>
      simp only [List.append_nil] at hb
      simp only [List.nil_append, List.cons.injEq] at hr
      exact .inl ⟨hb, hr.1.symm⟩
    | cons x xs => simp at hr
  · cases middle with
    | nil =>
      simp only [List.append_nil] at hb
      simp only [List.nil_append, List.cons.injEq] at hr
      exact .inl ⟨hb.symm, hr.1⟩
    | cons x xs =>
      simp only [List.cons_append, List.cons.injEq] at hr
      exact .inr ⟨xs, hr.1 ▸ hb⟩

/-! ## The simulation -/

section Simulation

variable (h : Handler Res ε (S × L)) (view : K → S → V) (programs : ι → Prog Res ε α) (fresh : ι → L) (s₀ : S)

/-- The threads of `order` have begun, thread `i` with the footprint `F i`. They are ahead of the store by the rest of
their programs: the serial store has their footprints as they will leave them, and everything else as it is. -/
structure Serial (order : List ι) (F : ι → Set K) (c : Config ι Res ε α S L) : Prop where
  nodup : order.Nodup
  waiting : ∀ i, i ∉ order → ∀ s, exec h (c.threads i).prog (s, (c.threads i).own) = exec h (programs i) (s, fresh i)
  within : ∀ i, i ∈ order → Within h view (F i) (c.threads i).prog c.store (c.threads i).own
  ahead : ∀ i, i ∈ order → ∀ k ∈ F i,
    view k (exec h (c.threads i).prog (c.world i)).2.1 = view k (serial h programs fresh s₀ order)
  rest : ∀ k, (∀ i, i ∈ order → k ∉ F i) → view k c.store = view k (serial h programs fresh s₀ order)
  apart : ∀ i, i ∈ order → ∀ j, j ∈ order → i ≠ j → Disjoint (F i) (F j)
  outcomes : ∀ before i after, order = before ++ i :: after → (exec h (c.threads i).prog (c.world i)).1 =
    outcome h programs fresh (serial h programs fresh s₀ before) i

variable {h view programs fresh s₀} {order : List ι} {F : ι → Set K} {c : Config ι Res ε α S L}

/-- Before the first step. -/
theorem Serial.start : Serial h view programs fresh s₀ [] F ⟨s₀, fun i => ⟨programs i, fresh i⟩⟩ where
  nodup := List.nodup_nil
  waiting _ _ _ := rfl
  within _ hi := by cases hi
  ahead _ hi := by cases hi
  rest _ _ := rfl
  apart _ hi := by cases hi
  outcomes before i after ho := by cases before <;> cases ho

variable [DecidableEq ι]

/-- A thread begins, with a footprint that no running thread has. -/
theorem Serial.opened (sim : Serial h view programs fresh s₀ order F c) {i : ι} (new : i ∉ order) {G : Set K}
    (within : Within h view G (c.threads i).prog c.store (c.threads i).own)
    (clear : ∀ j, j ∈ order → Disjoint (F j) G) :
    Serial h view programs fresh s₀ (order ++ [i]) (Function.update F i G) c := by
  have others : ∀ j, j ∈ order → Function.update F i G j = F j := by
    intro j hj
    refine Function.update_of_ne ?_ _ _
    rintro rfl
    exact new hj
  have self : Function.update F i G i = G := Function.update_self ..
  have store : serial h programs fresh s₀ (order ++ [i]) =
      (exec h (c.threads i).prog (serial h programs fresh s₀ order, (c.threads i).own)).2.1 := by
    rw [serial_append, sim.waiting i new]
    rfl
  have agree : Agree view G c.store (serial h programs fresh s₀ order) := by
    intro k hk
    exact sim.rest k fun j hj hkj => Set.disjoint_left.mp (clear j hj) hkj hk
  have within' := within.of_agree agree
  obtain ⟨sameEnd, sameStore⟩ := within.exec_agree agree
  have frame : ∀ {k : K}, k ∉ G → view k (serial h programs fresh s₀ (order ++ [i])) =
      view k (serial h programs fresh s₀ order) := by
    intro k hk
    rw [store]
    exact within'.exec_frame hk
  constructor
  · exact List.nodup_append.mpr ⟨sim.nodup, List.nodup_singleton _, by
      rintro j hj j' hj' rfl
      rw [List.mem_singleton] at hj'
      exact new (hj' ▸ hj)⟩
  · intro j hj
    exact sim.waiting j fun mem => hj (List.mem_append_left _ mem)
  · intro j hj
    rcases List.mem_append.mp hj with hj | hj
    · rw [others j hj]
      exact sim.within j hj
    · obtain rfl := List.mem_singleton.mp hj
      rw [self]
      exact within
  · intro j hj k hk
    rcases List.mem_append.mp hj with hj | hj
    · rw [others j hj] at hk
      rw [sim.ahead j hj k hk, frame]
      exact Set.disjoint_left.mp (clear j hj) hk
    · obtain rfl := List.mem_singleton.mp hj
      rw [self] at hk
      rw [store]
      exact sameStore k hk
  · intro k hk
    have outside : k ∉ G := by
      have := hk i (by simp)
      rwa [self] at this
    rw [frame outside]
    refine sim.rest k fun j hj hkj => hk j (List.mem_append_left _ hj) ?_
    rw [others j hj]
    exact hkj
  · intro j hj j' hj' hne
    rcases List.mem_append.mp hj with hj | hj
    · rw [others j hj]
      rcases List.mem_append.mp hj' with hj' | hj'
      · rw [others j' hj']
        exact sim.apart j hj j' hj' hne
      · rw [List.mem_singleton.mp hj', self]
        exact clear j hj
    · obtain rfl := List.mem_singleton.mp hj
      rw [self]
      rcases List.mem_append.mp hj' with hj' | hj'
      · rw [others j' hj']
        exact (clear j' hj').symm
      · exact absurd (List.mem_singleton.mp hj').symm hne
  · intro before j after ho
    rcases List.append_eq_append_iff.mp ho with ⟨middle, hb, hr⟩ | ⟨middle, hb, hr⟩
    · -- the new thread is the last one
      have middle_nil : middle = [] := by
        cases middle with
        | nil => rfl
        | cons x xs => simp at hr
      subst middle_nil
      simp only [List.append_nil] at hb
      simp only [List.nil_append, List.cons.injEq] at hr
      obtain ⟨rfl, -⟩ := hr
      rw [hb, outcome, ← sim.waiting i new]
      exact sameEnd
    · cases middle with
      | nil =>
        simp only [List.append_nil] at hb
        simp only [List.nil_append, List.cons.injEq] at hr
        obtain ⟨rfl, -⟩ := hr
        rw [← hb, outcome, ← sim.waiting j new]
        exact sameEnd
      | cons x xs =>
        simp only [List.cons_append, List.cons.injEq] at hr
        obtain ⟨rfl, -⟩ := hr
        exact sim.outcomes before j xs hb

/-- A thread that has begun performs an operation. -/
theorem Serial.stepped (sim : Serial h view programs fresh s₀ order F c) {i : ι} (begun : i ∈ order) {o : Op}
    {k : Except ε (Res o) → Prog Res ε α} (here : (c.threads i).prog = .call o k) :
    Serial h view programs fresh s₀ order F (c.put i (h o (c.world i)).2 (k (h o (c.world i)).1)) := by
  have within := sim.within i begun
  rw [here] at within
  obtain ⟨local_, rest⟩ := within
  have store : (c.put i (h o (c.world i)).2 (k (h o (c.world i)).1)).store = (h o (c.world i)).2.1 := rfl
  have agree : ∀ j, j ∈ order → j ≠ i → Agree view (F j) c.store (h o (c.world i)).2.1 := by
    intro j hj hne key hkey
    exact (local_.frame c.store (Set.disjoint_left.mp (sim.apart j hj i begun hne) hkey)).symm
  have exec_self : exec h (c.threads i).prog (c.world i) = exec h (k (h o (c.world i)).1) (h o (c.world i)).2 := by
    rw [here, exec_call]
  constructor
  · exact sim.nodup
  · intro j hj
    have hne : j ≠ i := fun e => hj (e ▸ begun)
    rw [Config.put_threads_of_ne _ _ _ hne]
    exact sim.waiting j hj
  · intro j hj
    by_cases hne : j = i
    · subst hne
      rw [Config.put_threads_self]
      exact rest
    · rw [Config.put_threads_of_ne _ _ _ hne]
      exact (sim.within j hj).of_agree (agree j hj hne)
  · intro j hj key hkey
    by_cases hne : j = i
    · subst hne
      rw [← sim.ahead j hj key hkey, exec_self, Config.put_world_self, Config.put_threads_self]
    · rw [Config.put_world_of_ne _ _ _ hne, Config.put_threads_of_ne _ _ _ hne, ← sim.ahead j hj key hkey]
      exact (((sim.within j hj).exec_agree (agree j hj hne)).2 key hkey).symm
  · intro key hkey
    rw [← sim.rest key hkey]
    exact local_.frame c.store (hkey i begun)
  · exact sim.apart
  · intro before j after ho
    have hj : j ∈ order := by simp [ho]
    rw [← sim.outcomes before j after ho]
    by_cases hne : j = i
    · subst hne
      rw [exec_self, Config.put_world_self, Config.put_threads_self]
    · rw [Config.put_world_of_ne _ _ _ hne, Config.put_threads_of_ne _ _ _ hne]
      exact ((sim.within j hj).exec_agree (agree j hj hne)).1.symm

/-- A thread that has not begun performs an operation that neither reads nor writes the store. -/
theorem Serial.waited (sim : Serial h view programs fresh s₀ order F c) {i : ι} (new : i ∉ order) {o : Op}
    {k : Except ε (Res o) → Prog Res ε α} (here : (c.threads i).prog = .call o k)
    (blind : ∀ s, h o (s, (c.threads i).own) = ((h o (c.world i)).1, s, (h o (c.world i)).2.2)) :
    Serial h view programs fresh s₀ order F (c.put i (h o (c.world i)).2 (k (h o (c.world i)).1)) := by
  have store : (c.put i (h o (c.world i)).2 (k (h o (c.world i)).1)).store = c.store := by
    rw [Config.put_store, Config.world, blind c.store]
  have others : ∀ j, j ∈ order → (c.put i (h o (c.world i)).2 (k (h o (c.world i)).1)).threads j = c.threads j := by
    intro j hj
    refine Config.put_threads_of_ne _ _ _ ?_
    rintro rfl
    exact new hj
  have worlds : ∀ j, j ∈ order → (c.put i (h o (c.world i)).2 (k (h o (c.world i)).1)).world j = c.world j := by
    intro j hj
    exact Prod.ext store (congrArg Thread.own (others j hj))
  constructor
  · exact sim.nodup
  · intro j hj s
    by_cases hne : j = i
    · subst hne
      rw [Config.put_threads_self, ← sim.waiting j hj s, here, exec_call, blind s]
    · rw [Config.put_threads_of_ne _ _ _ hne]
      exact sim.waiting j hj s
  · intro j hj
    rw [others j hj, store]
    exact sim.within j hj
  · intro j hj
    rw [worlds j hj, others j hj]
    exact sim.ahead j hj
  · intro key hkey
    rw [store]
    exact sim.rest key hkey
  · exact sim.apart
  · intro before j after ho
    have hj : j ∈ order := by simp [ho]
    rw [worlds j hj, others j hj]
    exact sim.outcomes before j after ho

/-- A thread that needs less than its footprint from here on. -/
theorem Serial.narrowed (sim : Serial h view programs fresh s₀ order F c) {i : ι} (begun : i ∈ order) {G : Set K}
    (sub : G ⊆ F i) (within : Within h view G (c.threads i).prog c.store (c.threads i).own) :
    Serial h view programs fresh s₀ order (Function.update F i G) c := by
  have self : Function.update F i G i = G := Function.update_self ..
  have smaller : ∀ j, Function.update F i G j ⊆ F j := by
    intro j
    by_cases hne : j = i
    · subst hne
      rw [self]
      exact sub
    · rw [Function.update_of_ne hne]
  constructor
  · exact sim.nodup
  · exact sim.waiting
  · intro j hj
    by_cases hne : j = i
    · subst hne
      rw [self]
      exact within
    · rw [Function.update_of_ne hne]
      exact sim.within j hj
  · intro j hj key hkey
    exact sim.ahead j hj key (smaller j hkey)
  · intro key hkey
    by_cases hk : key ∈ F i
    · -- the rest of the program leaves the key as it is
      rw [← sim.ahead i begun key hk]
      have outside : key ∉ G := by
        have := hkey i begun
        rwa [self] at this
      exact (within.exec_frame outside).symm
    · refine sim.rest key fun j hj hkj => ?_
      by_cases hne : j = i
      · exact hk (hne ▸ hkj)
      · refine hkey j hj ?_
        rw [Function.update_of_ne hne]
        exact hkj
  · intro j hj j' hj' hne
    exact (sim.apart j hj j' hj' hne).mono (smaller j) (smaller j')
  · exact sim.outcomes

/-- Threads that came to their end without beginning take a place in the order all the same. -/
theorem Serial.completed (sim : Serial h view programs fresh s₀ order F c) (done : ∀ i, (c.threads i).result ≠ none)
    (more : List ι) : ∃ order' F', Serial h view programs fresh s₀ order' F' c ∧ order <+: order' ∧
      ∀ i ∈ more, i ∈ order' := by
  induction more with
  | nil => exact ⟨order, F, sim, List.prefix_refl _, by simp⟩
  | cons i more ih =>
    obtain ⟨order', F', sim', longer, all⟩ := ih
    by_cases new : i ∈ order'
    · refine ⟨order', F', sim', longer, ?_⟩
      rintro j hj
      rcases List.mem_cons.mp hj with rfl | hj
      · exact new
      · exact all j hj
    · have ended : Within h view (∅ : Set K) (c.threads i).prog c.store (c.threads i).own := by
        have di := done i
        unfold Thread.result at di
        split at di
        next a ret => rw [ret]; trivial
        next e raised => rw [raised]; trivial
        next => exact absurd rfl di
      refine ⟨order' ++ [i], _, sim'.opened new ended fun j _ => Set.disjoint_empty _,
        longer.trans (List.prefix_append _ _), ?_⟩
      rintro j hj
      rcases List.mem_cons.mp hj with rfl | hj
      · simp
      · exact List.mem_append_left _ (all j hj)

/-- **At the end** the threads have left what their programs leave one after another, and have returned what those
return. -/
theorem Serial.ended (sim : Serial h view programs fresh s₀ order F c)
    (done : ∀ i, (c.threads i).result ≠ none) :
    (∀ k, view k c.store = view k (serial h programs fresh s₀ order)) ∧
      ∀ before i after, order = before ++ i :: after →
        (c.threads i).result = some (outcome h programs fresh (serial h programs fresh s₀ before) i) := by
  have end_ : ∀ i, exec h (c.threads i).prog (c.world i) = ((exec h (c.threads i).prog (c.world i)).1, c.world i) ∧
      (c.threads i).result = some (exec h (c.threads i).prog (c.world i)).1 := by
    intro i
    have di := done i
    unfold Thread.result at di ⊢
    split at di
    next a here => rw [here]; exact ⟨rfl, rfl⟩
    next e here => rw [here]; exact ⟨rfl, rfl⟩
    next => exact absurd rfl di
  constructor
  · intro key
    by_cases hk : ∃ i, i ∈ order ∧ key ∈ F i
    · obtain ⟨i, hi, hki⟩ := hk
      rw [← sim.ahead i hi key hki, (end_ i).1]
      rfl
    · exact sim.rest key fun i hi hki => hk ⟨i, hi, hki⟩
  · intro before i after ho
    rw [(end_ i).2, sim.outcomes before i after ho]

end Simulation

end Programs
