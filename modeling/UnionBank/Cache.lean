import UnionBank.Lib.Glob
import UnionBank.Lib.KeyValue

/-!
# The `cached` decorator and `invalidate`

The key of a cached call is the SHA-256 digest of a text that begins with the prefix; `invalidate` asks for the keys
that begin with the prefix itself.

- `CachedCall.cacheKey`, `cached`, `invalidate`: the decorator's wrapper, and the deletion by pattern;
- `Called`: the stores that calls and invalidations lead to;
- `Invalidates`: after `invalidate(p)` each call under `p` is computed anew, and the other values are kept;
- `invalidate_spares`: a prefix whose brackets are closed deletes nothing at all;
- `invalidates_iff`: so it does its work exactly when there is none to do.
-/

namespace UnionBank

open KeyValue

/-- A function under `@cached(ttl, key_prefix)`: its `__module__` and `__qualname__`. -/
structure Func where
  moduleName : String
  qualname : String
  ttl : ℤ
  keyPrefix : String

/-- A call of it; each argument by its `repr`. -/
structure CachedCall where
  func : Func
  args : List String
  kwargs : List (String × String)

namespace CachedCall

/-- `repr(args)`. -/
def reprArgs : List String → String
  | [a] => "(" ++ a ++ ",)"
  | as => "(" ++ ", ".intercalate as ++ ")"

/-- `repr(sorted(kwargs.items()))`. -/
def reprKwargs (kwargs : List (String × String)) : String :=
  let sorted := kwargs.insertionSort fun a b => a.1 ≤ b.1
  "[" ++ ", ".intercalate (sorted.map fun a => "('" ++ a.1 ++ "', " ++ a.2 ++ ")") ++ "]"

def parts (c : CachedCall) : List String :=
  (if c.func.keyPrefix = "" then [] else [c.func.keyPrefix]) ++ [c.func.moduleName, c.func.qualname] ++
    (if c.args = [] then [] else [reprArgs c.args]) ++ (if c.kwargs = [] then [] else [reprKwargs c.kwargs])

end CachedCall

/-- What the cache is built on: the digest, `json.dumps(_, default=str)` (which may raise), `json.loads`, and the
server's `SCAN`. -/
structure CacheEnv (V : Type) where
  hexdigest : String → String
  dumps : V → Option String
  loads : String → Option V
  isNone : V → Bool
  scan : Scan String String String

variable {V : Type}

/-- `hashlib.sha256(":".join(parts).encode()).hexdigest()`. -/
def CachedCall.cacheKey (E : CacheEnv V) (c : CachedCall) : String := E.hexdigest (":".intercalate c.parts)

/-- `get_json`: a text that is no JSON counts as a miss. -/
def getJson (E : CacheEnv V) (s : Store String String) (now : ℕ) (key : String) : Option V :=
  (s.get now key).bind E.loads

/-- `RedisCache.set`: the server refuses a `ttl` that is not positive, and the refusal is logged. -/
def setText (s : Store String String) (now : ℕ) (key text : String) (ttl : ℤ) : Store String String :=
  if 0 < ttl then s.setex now key ttl.toNat text else s

/-- A call's outcome, and whether the function ran. -/
structure Answered (V : Type) where
  value : Except String V
  computed : Bool

/-- The value that the cache has for a call, `None` aside. -/
def cachedValue (E : CacheEnv V) (s : Store String String) (now : ℕ) (c : CachedCall) : Option V :=
  (getJson E s now (c.cacheKey E)).filter fun v => !E.isNone v

/-- `wrapper`; `result` is what the function itself would do now. -/
def cached (E : CacheEnv V) (s : Store String String) (now : ℕ) (c : CachedCall) (result : Except String V) :
    Answered V × Store String String :=
  match cachedValue E s now c with
  | some v => (⟨.ok v, false⟩, s)
  | none =>
    match result with
    | .error e => (⟨.error e, true⟩, s)
    | .ok v =>
      match E.dumps v with
      | none => (⟨.ok v, true⟩, s)
      | some text => (⟨.ok v, true⟩, setText s now (c.cacheKey E) text c.func.ttl)

/-- `invalidate`, through `clear_pattern`. -/
def invalidate (E : CacheEnv V) (keyPrefix : String) (s s' : Store String String) : Prop :=
  Clears E.scan (keyPrefix ++ ":*") s s'

/-- The stores that a history of calls and invalidations leads to. -/
inductive Called (E : CacheEnv V) : Store String String → Prop
  | start : Called E []
  | call {s} (now : ℕ) (c : CachedCall) (result : Except String V) (before : Called E s) :
      Called E (cached E s now c result).2
  | invalidate {s s'} (keyPrefix : String) (before : Called E s) (h : invalidate E keyPrefix s s') : Called E s'

/-- What `invalidate(p)` is for: from then on a call under `p` runs the function, and the values under the other
prefixes are as they were. -/
def Invalidates (E : CacheEnv V) (p : String) (now : ℕ) (s s' : Store String String) : Prop :=
  (∀ c : CachedCall, c.func.keyPrefix = p → ∀ t ≥ now, ∀ result, (cached E s' t c result).1.computed = true) ∧
    ∀ c : CachedCall, c.func.keyPrefix ≠ p → ∀ t ≥ now, s'.get t (c.cacheKey E) = s.get t (c.cacheKey E)

/-- What the server and the digest promise: the documented patterns, and digits in base sixteen. -/
structure Promises (E : CacheEnv V) (fits : String → String → Bool) : Prop where
  scans : Scans E.scan fits
  documented : ∀ {pattern ts}, Glob.parse pattern = some ts → ∀ key : String,
    fits pattern key = Glob.accepts ts key.toList
  hex : ∀ text, ∀ c ∈ (E.hexdigest text).toList, c ∈ "0123456789abcdef".toList

/-- The brackets of a prefix are closed when its pattern is read. -/
def Closed (p : String) : Prop := (Glob.parse (p ++ ":*")).isSome

instance (p : String) : Decidable (Closed p) := inferInstanceAs (Decidable (_ = true))

/-- The function runs exactly when the cache has no value for the call. -/
theorem cached_computed (E : CacheEnv V) (s : Store String String) (now : ℕ) (c : CachedCall) (result : Except String V) :
    (cached E s now c result).1.computed = true ↔ cachedValue E s now c = none := by
  unfold cached
  cases cachedValue E s now c with
  | some v => simp
  | none =>
    cases result with
    | error e => simp
    | ok v =>
      cases hv : E.dumps v with
      | none => simp [hv]
      | some text => simp [hv]

theorem cachedValue_of_get {E : CacheEnv V} {s s' : Store String String} {t : ℕ} {c : CachedCall}
    (h : s'.get t (c.cacheKey E) = s.get t (c.cacheKey E)) : cachedValue E s' t c = cachedValue E s t c := by
  unfold cachedValue getJson
  rw [h]

/-- A value that is there later is there now. -/
theorem cachedValue_later {E : CacheEnv V} {s : Store String String} {now later : ℕ} (h : now ≤ later) {c : CachedCall}
    (none_now : cachedValue E s now c = none) : cachedValue E s later c = none := by
  cases hv : s.get later (c.cacheKey E) with
  | none => simp [cachedValue, getJson, hv]
  | some text =>
    rw [← none_now]
    unfold cachedValue getJson
    rw [hv, Store.get_later h hv]

section Invalidation

variable {E : CacheEnv V} {fits : String → String → Bool}

/-- What the keys deleted must be, for the purpose to be met: the keys under the prefix that have a value, and no
other key. -/
def Selects (E : CacheEnv V) (fits : String → String → Bool) (p : String) (now : ℕ) (s : Store String String) :
    Prop :=
  (∀ c : CachedCall, c.func.keyPrefix = p → cachedValue E s now c ≠ none → fits (p ++ ":*") (c.cacheKey E) = true) ∧
    ∀ c : CachedCall, c.func.keyPrefix ≠ p → s.get now (c.cacheKey E) ≠ none → fits (p ++ ":*") (c.cacheKey E) = false

/-- A digest has no colon, so the pattern of a closed prefix fits no key. -/
theorem Promises.unfit (h : Promises E fits) {p : String} (closed : Closed p) (c : CachedCall) :
    fits (p ++ ":*") (c.cacheKey E) = false := by
  obtain ⟨ts, hts⟩ := Option.isSome_iff_exists.1 closed
  rw [h.documented hts, Bool.eq_false_iff]
  intro fit
  have colon : ':' ∈ "0123456789abcdef".toList := h.hex _ _ (Glob.colon_mem hts fit)
  simp at colon

/-- **Nothing is deleted** under a closed prefix. -/
theorem invalidate_spares (h : Promises E fits) {p : String} (closed : Closed p) {s s' : Store String String}
    (hs : invalidate E p s s') (c : CachedCall) (t : ℕ) : s'.get t (c.cacheKey E) = s.get t (c.cacheKey E) := by
  rw [Clears.get h.scans hs, h.unfit closed c]
  simp

/-- The purpose is met when the right keys fit the pattern, and only then. -/
theorem invalidates_selects (h : Scans E.scan fits) {p : String} {s s' : Store String String}
    (hs : invalidate E p s s') (now : ℕ) : Invalidates E p now s s' ↔ Selects E fits p now s := by
  simp only [Invalidates, Selects, cached_computed]
  refine and_congr (forall_congr' fun c => forall_congr' fun _ => ?_)
    (forall_congr' fun c => forall_congr' fun _ => ?_)
  · have after (t : ℕ) := Clears.get h hs t (c.cacheKey E)
    constructor
    · intro anew valued
      by_contra unfit
      have same : s'.get now (c.cacheKey E) = s.get now (c.cacheKey E) := by rw [after, if_neg unfit]
      exact valued (cachedValue_of_get same ▸ anew now le_rfl default)
    · intro fit t ht _
      by_cases hfit : fits (p ++ ":*") (c.cacheKey E) = true
      · simp [cachedValue, getJson, after, hfit]
      · have same : s'.get t (c.cacheKey E) = s.get t (c.cacheKey E) := by rw [after, if_neg hfit]
        rw [cachedValue_of_get same]
        exact cachedValue_later ht (not_ne_iff.1 fun valued => hfit (fit valued))
  · have after (t : ℕ) := Clears.get h hs t (c.cacheKey E)
    constructor
    · intro kept held
      by_contra fit
      rw [Bool.not_eq_false] at fit
      exact held (by rw [← kept now le_rfl, after, if_pos fit])
    · intro unfit t ht
      cases hv : s.get t (c.cacheKey E) with
      | none => simp [after, hv]
      | some text =>
        have held : s.get now (c.cacheKey E) ≠ none := by simp [Store.get_later ht hv]
        rw [after, unfit held, ← hv]
        simp

/-- **Invalidation by prefix.** Whatever history filled the store, `invalidate(p)` meets its purpose exactly when the
pattern selects the keys under `p`; and for a prefix whose brackets are closed only when nothing under `p` is cached. -/
theorem invalidates_iff (h : Promises E fits) {s s' : Store String String} (p : String)
    (hs : invalidate E p s s') (now : ℕ) :
    (Invalidates E p now s s' ↔ Selects E fits p now s) ∧
      (Closed p → (Invalidates E p now s s' ↔ ∀ c : CachedCall, c.func.keyPrefix = p → cachedValue E s now c = none)) := by
  refine ⟨invalidates_selects h.scans hs now, fun closed => ?_⟩
  rw [invalidates_selects h.scans hs now]
  constructor
  · rintro ⟨under, -⟩ c hc
    by_contra valued
    have fit := under c hc valued
    rw [h.unfit closed c] at fit
    exact Bool.false_ne_true fit
  · intro nothing
    exact ⟨fun c hc valued => (valued (nothing c hc)).elim, fun c _ _ => h.unfit closed c⟩

end Invalidation

namespace Sample

/-- Patterns as documented; one with an open bracket fits nothing. -/
def fitsGlob (pattern key : String) : Bool := ((Glob.parse pattern).map fun ts => Glob.accepts ts key.toList).getD false

/-- Values that are their own text; the digests of the empty text and of one key. -/
def textCache : CacheEnv String where
  hexdigest text :=
    if text = "stats:unionbank.reports:get_bank_statistics" then
      "c9b182a1d2a39568a98ffd63a09330a88012f57d5dbcc1c261ec019061dea25c"
    else "e3b0c44298fc1c149afbf4c8996fb92427ae41e4649b934ca495991b7852b855"
  dumps := some
  loads := some
  isNone _ := false
  scan := fullScan fitsGlob

def statistics : CachedCall := ⟨⟨"unionbank.reports", "get_bank_statistics", 120, "stats"⟩, [], []⟩

theorem textCache_promises : Promises textCache fitsGlob where
  scans := scans_fullScan fitsGlob
  documented h key := by simp [fitsGlob, h]
  hex text := by
    have digits : (textCache.hexdigest text).toList.all ("0123456789abcdef".toList.contains ·) = true := by
      unfold textCache
      dsimp only
      split_ifs
      · decide
      · decide
    intro c hc
    exact List.contains_iff_mem.1 (List.all_eq_true.1 digits c hc)

theorem closed_stats : Closed "stats" := by decide

/-- One call under `stats`. -/
def called : Store String String := (cached textCache [] 0 statistics (.ok "\"1 account\"")).2

/-- After its two minutes nothing of it is left. -/
theorem called_expired (k : String) : called.get 200 k = none := by
  have only : called = [⟨statistics.cacheKey textCache, "\"1 account\"", 120⟩] := by
    unfold called cached cachedValue getJson
    simp [setText, Store.setex, Store.deleteAll, textCache, statistics]
  simp only [only, Store.get, Store.lookup, List.find?_singleton]
  split <;> simp [Option.filter]

theorem statistics_fresh : ∃ s s' : Store String String, Called textCache s ∧ invalidate textCache "stats" s s' ∧
    Invalidates textCache "stats" 200 s s' := by
  obtain ⟨s', hs⟩ := textCache_promises.scans.clears ("stats" ++ ":*") called
  refine ⟨called, s', .call 0 statistics _ .start, hs, ?_⟩
  refine ((invalidates_iff textCache_promises "stats" hs 200).2 closed_stats).mpr fun c _ => ?_
  unfold cachedValue getJson
  rw [called_expired]
  rfl

/-- **One cached call, and an invalidation of its prefix**: the next call is answered from the cache. -/
theorem statistics_stale : ∃ s s' : Store String String, Called textCache s ∧ invalidate textCache "stats" s s' ∧
    ¬Invalidates textCache "stats" 1 s s' := by
  obtain ⟨s', hs⟩ := textCache_promises.scans.clears ("stats" ++ ":*") called
  refine ⟨called, s', .call 0 statistics _ .start, hs, fun h => ?_⟩
  have anew : cachedValue textCache s' 1 statistics = none :=
    (cached_computed ..).1 (h.1 statistics rfl 1 le_rfl (.ok "\"2 accounts\""))
  rw [cachedValue_of_get (invalidate_spares textCache_promises closed_stats hs statistics 1)] at anew
  revert anew
  decide

end Sample

end UnionBank
