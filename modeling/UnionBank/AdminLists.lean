import UnionBank.Cache
import UnionBank.SoftDelete
import UnionBank.Visits

/-!
# The account lists of the admin

The list and the search of v1 answer from the cache for a minute. Of all the endpoints that write accounts, six endpoints
of v1 clear the cached answers.

- `ListQuery.key`, `ListQuery.compute`: an answer's key, and the answer as it is computed from the tables;
- `AdminDesk.Does`: a visit, with the deletion that may follow, or a view of a list;
- `listing`: the listed fields of the accounts; `Careful`: a visit that changes them is one of the six;
- `Fresh`: what is cached is what would be computed; `does_fresh`: a careful step keeps it;
- `lists_fresh`: so every answer in a careful run is the one computed at that moment.
-/

namespace UnionBank

open Keyed Programs Prog KeyValue

set_option linter.unusedSectionVars false

variable {D F : Type}

/-! ## The answers -/

/-- `AccountListItem`. -/
structure AccountListItem (F : Type) where
  accountNumber : String
  name : String
  balance : F
  balanceFormatted : String
  status : String
  mobile : String
  email : String
  age : Int
  gender : String
  createdAt : String
deriving DecidableEq

/-- What the endpoints use besides the tables; `str` is that of a time. -/
structure ListEnv (D F : Type) where
  float : D → F
  fmtCurrency : F → String
  str : Time → String
  ilike : String → String → Bool
  cache : CacheEnv (List (AccountListItem F))

def AccountListItem.of (L : ListEnv D F) (a : Account D) : AccountListItem F where
  accountNumber := a.accountNumber
  name := a.name
  balance := L.float a.balance
  balanceFormatted := L.fmtCurrency (L.float a.balance)
  status := if a.isFrozen then "frozen" else if !a.isActive then "closed" else "active"
  mobile := a.mobile
  email := a.email
  age := a.age
  gender := a.gender
  createdAt := String.ofList ((L.str a.createdAt).toList.take 19)

/-- `get_all_paginated`: the newest first. -/
def accountRepo.getAllPaginated (page perPage : ℕ) (rows : List (Account D)) : List (Account D) × ℕ :=
  let base := rowsWhere (fun _ => true) rows
  (((base.mergeSort fun a b => b.createdAt ≤ a.createdAt).drop ((page - 1) * perPage)).take perPage, base.length)

/-- `admin_view_accounts` and `admin_search_accounts`. -/
inductive ListQuery where
  | list (page perPage : ℕ)
  | search (q : String) (page perPage : ℕ)
deriving DecidableEq

namespace ListQuery

/-- `cache_key`. -/
def key : ListQuery → String
  | list page perPage => "admin:accounts:page:" ++ toString page ++ ":per:" ++ toString perPage
  | search q page perPage => "admin:accounts:search:" ++ q ++ ":page:" ++ toString page ++ ":per:" ++ toString perPage

/-- The answer, without the cache. -/
def compute (L : ListEnv D F) (rows : List (Account D)) : ListQuery → List (AccountListItem F)
  | list page perPage => (accountRepo.getAllPaginated page perPage rows).1.map (.of L)
  | search q page perPage =>
    let start := (page - 1) * perPage
    (((accountRepo.search L.ilike q rows).take (start + perPage)).drop start).map (.of L)

end ListQuery

/-! ## A desk that views and writes -/

/-- The two versions of the interface. -/
inductive Version where
  | v1
  | v2
deriving DecidableEq

/-- `_invalidate_admin_account_cache` ends the endpoints of v1 for these, when they succeed. -/
def Visit.invalidates : Version → Visit D → Bool
  | .v1, .call ⟨.deposit .., _⟩ | .v1, .call ⟨.withdraw .., _⟩ | .v1, .call ⟨.transfer .., _⟩
  | .v1, .call ⟨.freezeAccount .., _⟩ | .v1, .call ⟨.unfreezeAccount .., _⟩ | .v1, .call ⟨.deleteAccount .., _⟩ => true
  | _, _ => false

/-- The bank, and the cache. -/
structure AdminDesk (D : Type) where
  bank : Bank D
  cache : Store String String

/-- A request: a visit at an endpoint of a version, on the session of a thread, or a view. -/
inductive Act (D : Type) where
  | visit (version : Version) (thread : ℕ) (v : Visit D)
  | view (q : ListQuery)

/-- An answer that is no error. -/
def Answer.succeeds : Except Exn (Answer D) → Bool
  | .ok (.reply r) => r.success
  | .ok (.httpException ..) => false
  | .ok _ => true
  | .error _ => false

section Runs

variable [Zero D] [Add D] [Sub D] [LE D] [LT D] [DecidableEq D] [DecidableLE D] [DecidableLT D]
variable (env : Env D) (checks : Checks) (B : Backend D) (L : ListEnv D F)

/-- A request at an instant, with the answer of a view. -/
inductive AdminDesk.Does (now : ℕ) : AdminDesk D → Act D → Option (List (AccountListItem F)) → AdminDesk D → Prop
  | kept {d : AdminDesk D} {version : Version} {thread : ℕ} {v : Visit D}
      (keeps : (v.invalidates version && Answer.succeeds (d.bank.attend env checks B thread v).1) = false) :
      Does now d (.visit version thread v) none ⟨(d.bank.attend env checks B thread v).2, d.cache⟩
  | cleared {d : AdminDesk D} {version : Version} {thread : ℕ} {v : Visit D} {cache : Store String String}
      (clears : (v.invalidates version && Answer.succeeds (d.bank.attend env checks B thread v).1) = true)
      (swept : Clears L.cache.scan "admin:accounts:*" d.cache cache) :
      Does now d (.visit version thread v) none ⟨(d.bank.attend env checks B thread v).2, cache⟩
  | cached {d : AdminDesk D} {q : ListQuery} {items : List (AccountListItem F)}
      (hit : getJson L.cache d.cache now q.key = some items) : Does now d (.view q) (some items) d
  | computed {d : AdminDesk D} {q : ListQuery} {text : String} (miss : getJson L.cache d.cache now q.key = none)
      (dumped : L.cache.dumps (q.compute L d.bank.db.accounts.rows) = some text) :
      Does now d (.view q) (some (q.compute L d.bank.db.accounts.rows))
        { d with cache := setText d.cache now q.key text 60 }

/-- An account as the lists know it. -/
def Account.listed (a : Account D) : Account D := { a with password := "" }

/-- The listed fields of the accounts that are not deleted. -/
def listing (rows : List (Account D)) : List (Account D) :=
  (accountRepo.rowsWhere (fun _ => true) rows).map Account.listed

/-- A request that changes a listed field, creates an account or deletes one is one of the six that clear. -/
def Careful (d : AdminDesk D) : Act D → Prop
  | .visit version thread v => v.invalidates version = true ∨
      listing (d.bank.attend env checks B thread v).2.db.accounts.rows = listing d.bank.db.accounts.rows
  | .view _ => True

/-- A careful step at some instant. -/
def CarefulStep (d d' : AdminDesk D) : Prop :=
  ∃ now act answer, AdminDesk.Does env checks B L now d act answer d' ∧ Careful env checks B d act

/-- What the server and `json` promise: the documented scan and patterns, and that `loads` reads what `dumps` writes. -/
structure ListEnv.Promises (fits : String → String → Bool) : Prop where
  scans : Scans L.cache.scan fits
  documented : ∀ {pattern ts}, Glob.parse pattern = some ts → ∀ key : String,
    fits pattern key = Glob.accepts ts key.toList
  roundTrip : ∀ items, ∃ text, L.cache.dumps items = some text ∧ L.cache.loads text = some items

end Runs

/-! ## Keys -/

/-- A text is cut at its last colon. -/
theorem last_colon {a b x y : List Char} (hx : ':' ∉ x) (hy : ':' ∉ y) (h : a ++ ':' :: x = b ++ ':' :: y) :
    a = b ∧ x = y := by
  rcases List.append_eq_append_iff.1 h with ⟨m, rfl, hm⟩ | ⟨m, rfl, hm⟩
  · cases m with
    | nil => exact ⟨by simp, (List.cons.inj hm).2⟩
    | cons c m => exact (hx (by rw [(List.cons.inj hm).2]; simp)).elim
  · cases m with
    | nil => exact ⟨by simp, (List.cons.inj hm).2.symm⟩
    | cons c m => exact (hy (by rw [(List.cons.inj hm).2]; simp)).elim

theorem colon_notMem_digits (n : ℕ) : ':' ∉ n.repr.toList := by
  intro h
  rw [Nat.toList_repr] at h
  have digit := Nat.isDigit_of_mem_toDigits (by decide) (by decide) h
  revert digit
  decide

theorem digits_injective {n m : ℕ} (h : n.repr.toList = m.repr.toList) : n = m := by
  simp only [Nat.toList_repr] at h
  rw [← Nat.ofDigitChars_ten_toDigits (n := n), h, Nat.ofDigitChars_ten_toDigits]

namespace ListQuery

/-- What follows `admin:accounts:` in a key, up to its last number. -/
def stem : ListQuery → List Char
  | list page _ => "page:".toList ++ page.repr.toList ++ ":per".toList
  | search q page _ => "search:".toList ++ q.toList ++ ":page".toList ++ ':' :: page.repr.toList ++ ":per".toList

def perPage : ListQuery → ℕ
  | list _ perPage | search _ _ perPage => perPage

/-- What stands before the last colon of a key, and after. -/
theorem cut {start x x' sep : List Char} (y : List Char) (h : x = start ++ x') :
    x ++ (sep ++ [':']) ++ y = start ++ (x' ++ sep ++ ':' :: y) := by
  subst h
  simp

theorem key_toList (q : ListQuery) :
    q.key.toList = "admin:accounts:".toList ++ (q.stem ++ ':' :: q.perPage.repr.toList) := by
  have last : ":per:".toList = ":per".toList ++ [':'] := by decide
  cases q with
  | list page perPage =>
    have first : "admin:accounts:page:".toList = "admin:accounts:".toList ++ "page:".toList := by decide
    unfold key stem ListQuery.perPage
    rw [String.toList_append, String.toList_append, String.toList_append, Nat.toString_eq_repr, Nat.toString_eq_repr,
      last]
    exact cut _ (by rw [first, List.append_assoc])
  | search q page perPage =>
    have first : "admin:accounts:search:".toList = "admin:accounts:".toList ++ "search:".toList := by decide
    have middle : ":page:".toList = ":page".toList ++ [':'] := by decide
    unfold key stem ListQuery.perPage
    rw [String.toList_append, String.toList_append, String.toList_append, String.toList_append, String.toList_append,
      Nat.toString_eq_repr, Nat.toString_eq_repr, last, middle]
    exact cut _ (cut _ (by rw [first, List.append_assoc]))

theorem stem_ne {q : String} {page page' perPage perPage' : ℕ} :
    (ListQuery.list page perPage).stem ≠ (ListQuery.search q page' perPage').stem := by
  intro h
  have first : 'p' = 's' := congrArg (fun l : List Char => l.headD ' ') h
  exact absurd first (by decide)

/-- **A key tells its query**, whatever text is searched for. -/
theorem key_injective {q q' : ListQuery} (h : q.key = q'.key) : q = q' := by
  have same := congrArg String.toList h
  rw [key_toList, key_toList] at same
  obtain ⟨stems, pers⟩ :=
    last_colon (colon_notMem_digits _) (colon_notMem_digits _) (List.append_cancel_left same)
  have per := digits_injective pers
  cases q with
  | list page perPage =>
    cases q' with
    | list page' perPage' =>
      obtain rfl := digits_injective (List.append_cancel_left (List.append_cancel_right stems))
      obtain rfl : perPage = perPage' := per
      rfl
    | search => exact (stem_ne stems).elim
  | search text page perPage =>
    cases q' with
    | list => exact (stem_ne stems.symm).elim
    | search text' page' perPage' =>
      obtain ⟨front, number⟩ :=
        last_colon (colon_notMem_digits _) (colon_notMem_digits _) (List.append_cancel_right stems)
      obtain rfl := String.toList_inj.1 (List.append_cancel_left (List.append_cancel_right front))
      obtain rfl := digits_injective number
      obtain rfl : perPage = perPage' := per
      rfl

end ListQuery

/-- Every key fits the pattern that is cleared. -/
theorem ListEnv.Promises.fits_key {L : ListEnv D F} {fits : String → String → Bool} (h : L.Promises fits)
    (q : ListQuery) : fits "admin:accounts:*" q.key = true := by
  have parsed : Glob.parse "admin:accounts:*" = some ("admin:accounts:".toList.map .lit ++ [.star]) := by decide
  rw [h.documented parsed, q.key_toList]
  exact Glob.accepts_prefix _ _

/-! ## What an answer depends on -/

/-- The answer, from the listed fields. -/
def ListQuery.present (L : ListEnv D F) (accounts : List (Account D)) : ListQuery → List (AccountListItem F)
  | list page perPage =>
    (((accounts.mergeSort fun a b => b.createdAt ≤ a.createdAt).drop ((page - 1) * perPage)).take perPage).map (.of L)
  | search q page perPage =>
    let start := (page - 1) * perPage
    let q := "%" ++ q ++ "%"
    (((accounts.filter fun a => L.ilike a.accountNumber q || L.ilike a.name q).take (start + perPage)).drop start).map
      (.of L)

/-- **An answer is made of the listed fields** and of nothing else. -/
theorem ListQuery.compute_eq (L : ListEnv D F) (rows : List (Account D)) (q : ListQuery) :
    q.compute L rows = q.present L (listing rows) := by
  have item : (AccountListItem.of L ∘ Account.listed : Account D → AccountListItem F) = AccountListItem.of L := rfl
  cases q with
  | list page perPage =>
    have sorted := List.map_mergeSort (f := Account.listed) (l := accountRepo.rowsWhere (fun _ => true) rows)
      (r := fun a b => decide (b.createdAt ≤ a.createdAt)) (s := fun a b => decide (b.createdAt ≤ a.createdAt))
      fun _ _ _ _ => rfl
    simp only [compute, present, accountRepo.getAllPaginated, listing]
    rw [← sorted, ← List.map_drop, ← List.map_take, List.map_map, item]
  | search q page perPage =>
    simp only [compute, present, accountRepo.search, listing]
    rw [← accountRepo.filter_rowsWhere, List.filter_map, ← List.map_take, ← List.map_drop, List.map_map, item]
    rfl

/-! ## Runs -/

section Fresh

variable [Zero D] [Add D] [Sub D] [LE D] [LT D] [DecidableEq D] [DecidableLE D] [DecidableLT D]
variable {env : Env D} {checks : Checks} {B : Backend D} {L : ListEnv D F} {fits : String → String → Bool}

/-- A call that has moved the ledger is answered with a success. -/
theorem serve_success {bank : Bank D} (h : bank.Idle) (thread : ℕ) (c : Call D) :
    (bank.serve env B thread c).2.db.toLedger = bank.db.toLedger ∨ succeeds (bank.serve env B thread c).1 = true := by
  have rest := h thread
  unfold Bank.serve
  rcases hs : bank.sessions thread with ⟨pending, inactive, savepoint, held⟩
  rw [hs] at rest
  obtain rfl : held = [] := rest.held
  cases inactive with
  | true =>
    obtain ⟨same, -⟩ := exec_inactive env B bank.db c (s := ⟨pending, true, savepoint, []⟩) rfl rfl
    exact .inl (congrArg Db.toLedger same)
  | false =>
    obtain ⟨rfl, rfl⟩ := rest.clean rfl
    have settled := (wp_handler _ _ _ _).mp (settles env B bank.db c)
    rcases he : exec (handle B) (c.prog env) (bank.db, ({} : Session D)) with ⟨r, db', s'⟩
    rw [he] at settled
    cases settled with
    | unmoved ledger => exact .inl ledger
    | moved _ _ _ _ success => exact .inr success

theorem attend_call_succeeds (bank : Bank D) (thread : ℕ) (c : Call D) :
    Answer.succeeds (bank.attend env checks B thread (.call c)).1 = succeeds (bank.serve env B thread c).1 := by
  simp only [Bank.attend, Bank.serve, Visit.prog, exec_bind]
  rcases exec (handle B) (c.prog env) (bank.db, bank.sessions thread) with ⟨_ | _, _, _⟩ <;> rfl

/-- One of the six that moves the ledger goes on to clear the lists. -/
theorem clears_of_moved {bank : Bank D} (h : bank.Idle) {version : Version} {thread : ℕ} {v : Visit D}
    (six : v.invalidates version = true)
    (keeps : (v.invalidates version && Answer.succeeds (bank.attend env checks B thread v).1) = false) :
    (bank.attend env checks B thread v).2.db.toLedger = bank.db.toLedger := by
  rw [six, Bool.true_and] at keeps
  cases v with
  | call c =>
    rw [attend_call_succeeds] at keeps
    rw [attend_call]
    exact (serve_success h thread c).resolve_right (by simp [keeps])
  | _ => cases version <;> cases six

namespace AdminDesk

/-- Whatever is cached for a list is what would be computed for it. -/
def Current (L : ListEnv D F) (d : AdminDesk D) : Prop :=
  ∀ (q : ListQuery) (now : ℕ) (text : String), d.cache.get now q.key = some text →
    L.cache.loads text = some (q.compute L d.bank.db.accounts.rows)

/-- Nothing is cached for a list. -/
theorem current_of_none {d : AdminDesk D} (empty : ∀ (q : ListQuery) now, d.cache.get now q.key = none) :
    d.Current L := by
  intro q now text held
  rw [empty q now] at held
  cases held

/-- The answers stay what they are as long as no listed field changes. -/
theorem Current.of_listing {d d' : AdminDesk D} (current : d.Current L) (cache : d'.cache = d.cache)
    (same : listing d'.bank.db.accounts.rows = listing d.bank.db.accounts.rows) : d'.Current L := by
  intro q now text held
  rw [cache] at held
  rw [q.compute_eq, same, ← q.compute_eq]
  exact current q now text held

/-- What a view stores is what it has computed. -/
theorem Current.stored (h : L.Promises fits) {d : AdminDesk D} (current : d.Current L) {q : ListQuery} {text : String}
    (dumped : L.cache.dumps (q.compute L d.bank.db.accounts.rows) = some text) (now : ℕ) :
    AdminDesk.Current L { d with cache := setText d.cache now q.key text 60 } := by
  intro q' t text' held
  have held : (d.cache.setex now q.key 60 text).get t q'.key = some text' := held
  by_cases same : q' = q
  · subst same
    rw [Store.get_setex] at held
    obtain rfl : text = text' := by
      split at held
      · exact Option.some.inj held
      · cases held
    obtain ⟨written, dumps, loads⟩ := h.roundTrip (q'.compute L d.bank.db.accounts.rows)
    rw [dumped] at dumps
    exact Option.some.inj dumps ▸ loads
  · rw [Store.get_setex_of_ne _ _ fun keys => same (ListQuery.key_injective keys)] at held
    exact current q' t text' held

/-- **One careful step** keeps the cache current. -/
theorem does_current (h : L.Promises fits) {now : ℕ} {d d' : AdminDesk D} {act : Act D}
    {answer : Option (List (AccountListItem F))} (does : Does env checks B L now d act answer d')
    (careful : Careful env checks B d act) (idle : d.bank.Idle) (current : d.Current L) :
    d'.Current L ∧ d'.bank.Idle := by
  cases does with
  | @kept version thread v keeps =>
    refine ⟨current.of_listing rfl ?_, (attend_settles env checks B idle thread v).2⟩
    rcases careful with six | same
    · have ledger := clears_of_moved idle six keeps
      exact congrArg (fun l : Ledger D => listing l.accounts.rows) ledger
    · exact same
  | @cleared version thread v cache clears swept =>
    refine ⟨current_of_none fun q t => ?_, (attend_settles env checks B idle thread v).2⟩
    rw [Clears.get h.scans swept, h.fits_key]
    rfl
  | cached hit => exact ⟨current, idle⟩
  | computed miss dumped => exact ⟨current.stored h dumped now, idle⟩

/-- A careful run keeps the cache current. -/
theorem run_current (h : L.Promises fits) {start d : AdminDesk D}
    (run : Relation.ReflTransGen (CarefulStep env checks B L) start d) (idle : start.bank.Idle)
    (current : start.Current L) : d.Current L ∧ d.bank.Idle := by
  induction run with
  | refl => exact ⟨current, idle⟩
  | tail _ last ih =>
    obtain ⟨now, act, answer, does, careful⟩ := last
    exact does_current h does careful ih.2 ih.1

/-- An answer on a current cache is the one computed now. -/
theorem Current.answer {d d' : AdminDesk D} (current : d.Current L) {now : ℕ} {q : ListQuery}
    {items : List (AccountListItem F)} (served : Does env checks B L now d (.view q) (some items) d') :
    items = q.compute L d.bank.db.accounts.rows := by
  cases served with
  | cached hit =>
    obtain ⟨text, held, loads⟩ := Option.bind_eq_some_iff.1 hit
    rw [current q now text held] at loads
    exact (Option.some.inj loads).symm
  | computed => rfl

end AdminDesk

/-- **The lists of the admin**: in a run from an empty cache in which each request that changes a listed field is one of
the six of v1 that clear, every list and every search is answered as the tables say at that moment. -/
theorem lists_fresh (h : L.Promises fits) {bank : Bank D} (idle : bank.Idle) {d d' : AdminDesk D}
    (run : Relation.ReflTransGen (CarefulStep env checks B L) ⟨bank, []⟩ d) {now : ℕ} {q : ListQuery}
    {items : List (AccountListItem F)} (served : AdminDesk.Does env checks B L now d (.view q) (some items) d') :
    items = q.compute L d.bank.db.accounts.rows :=
  (AdminDesk.run_current h run idle (AdminDesk.current_of_none fun _ _ => rfl)).1.answer served

end Fresh

namespace Sample

instance encodableChar : Encodable Char := Encodable.ofLeftInverse Char.toNat Char.ofNat Char.ofNat_toNat

instance encodableString : Encodable String := Encodable.ofLeftInverse String.toList String.ofList fun _ => String.ofList_toList

deriving instance Encodable for AccountListItem

/-- Lists as the digits of their codes. -/
def codes : CacheEnv (List (AccountListItem ℤ)) where
  hexdigest := id
  dumps items := some (Encodable.encode items).repr
  loads text := Encodable.decode (Nat.ofDigitChars 10 text.toList 0)
  isNone _ := false
  scan := fullScan fitsGlob

/-- A search finds an account number that is given in full. -/
def lists : ListEnv ℤ ℤ where
  float := id
  fmtCurrency x := toString x
  str _ := "2024-01-01 00:00:00"
  ilike text pattern := pattern = "%" ++ text ++ "%"
  cache := codes

theorem lists_promises : lists.Promises fitsGlob where
  scans := scans_fullScan fitsGlob
  documented h key := by simp [fitsGlob, h]
  roundTrip items := by
    refine ⟨_, rfl, ?_⟩
    show Encodable.decode (Nat.ofDigitChars 10 (Encodable.encode items).repr.toList 0) = some items
    rw [Nat.toList_repr, Nat.ofDigitChars_ten_toDigits, Encodable.encodek]

/-- A deposit of 25.00. -/
def topUp : Visit ℤ := .call ⟨.deposit "1001" 2500 "General" none, draws 0⟩

/-- The first page for one account. -/
def found : ListQuery := .search "1001" 1 20

theorem found_before :
    found.compute lists (bank 10000 5000 0).db.accounts.rows = [.of lists (account "1001" 10000)] := by decide +kernel

/-- The bank after the deposit. -/
def credited : Bank ℤ := ((bank 10000 5000 0).attend paiseEnv lenient paise 0 topUp).2

theorem found_after : found.compute lists credited.db.accounts.rows = [.of lists (account "1001" 12500)] := by
  decide +kernel

/-- A view that finds nothing in the cache. -/
theorem view_computed (now : ℕ) {d : AdminDesk ℤ} (miss : getJson lists.cache d.cache now found.key = none) :
    ∃ text, lists.cache.loads text = some (found.compute lists d.bank.db.accounts.rows) ∧
      AdminDesk.Does paiseEnv lenient paise lists now d (.view found)
        (some (found.compute lists d.bank.db.accounts.rows))
        { d with cache := setText d.cache now found.key text 60 } := by
  obtain ⟨text, dumped, loads⟩ := lists_promises.roundTrip (found.compute lists d.bank.db.accounts.rows)
  exact ⟨text, loads, .computed miss dumped⟩

/-- A search, a deposit over v1, and the search again. -/
theorem v1_deposit_listed : ∃ d d' items, AdminDesk.Does paiseEnv lenient paise lists 2 d (.view found) (some items) d' ∧
    items = [AccountListItem.of lists (account "1001" 12500)] := by
  obtain ⟨text, -, first⟩ := view_computed 0 (d := ⟨bank 10000 5000 0, []⟩) rfl
  obtain ⟨cache, swept⟩ := lists_promises.scans.clears "admin:accounts:*" (setText [] 0 found.key text 60)
  have success : Answer.succeeds ((bank 10000 5000 0).attend paiseEnv lenient paise 0 topUp).1 = true := by
    decide +kernel
  have clears : (topUp.invalidates .v1 &&
      Answer.succeeds ((bank 10000 5000 0).attend paiseEnv lenient paise 0 topUp).1) = true := by
    rw [success]
    rfl
  have cleared : AdminDesk.Does paiseEnv lenient paise lists 1 ⟨bank 10000 5000 0, setText [] 0 found.key text 60⟩
      (.visit .v1 0 topUp) none ⟨credited, cache⟩ := .cleared clears swept
  have miss : getJson lists.cache cache 2 found.key = none := by
    rw [getJson, Clears.get lists_promises.scans swept, lists_promises.fits_key]
    rfl
  obtain ⟨text', -, again⟩ := view_computed 2 (d := ⟨credited, cache⟩) miss
  have run : Relation.ReflTransGen (CarefulStep paiseEnv lenient paise lists) ⟨bank 10000 5000 0, []⟩ ⟨credited, cache⟩ :=
    .tail (.single ⟨0, _, _, first, trivial⟩) ⟨1, _, _, cleared, .inl rfl⟩
  exact ⟨_, _, _, again, (lists_fresh lists_promises (bank_idle 10000 5000 0) run again).trans found_after⟩

/-- **A search, a deposit over v2, and the search again**: the balance before the deposit is shown. -/
theorem v2_deposit_unlisted : ∃ d₁ d₂ d₃ shown items,
    AdminDesk.Does paiseEnv lenient paise lists 0 ⟨bank 10000 5000 0, []⟩ (.view found) (some shown) d₁ ∧
    AdminDesk.Does paiseEnv lenient paise lists 1 d₁ (.visit .v2 0 topUp) none d₂ ∧
    AdminDesk.Does paiseEnv lenient paise lists 2 d₂ (.view found) (some items) d₃ ∧
    items ≠ found.compute lists d₂.bank.db.accounts.rows := by
  obtain ⟨text, loads, first⟩ := view_computed 0 (d := ⟨bank 10000 5000 0, []⟩) rfl
  have kept : AdminDesk.Does paiseEnv lenient paise lists 1 ⟨bank 10000 5000 0, setText [] 0 found.key text 60⟩
      (.visit .v2 0 topUp) none ⟨credited, setText [] 0 found.key text 60⟩ := .kept rfl
  have hit : getJson lists.cache (setText [] 0 found.key text 60) 2 found.key =
      some (found.compute lists (bank 10000 5000 0).db.accounts.rows) := by
    show ((Store.setex [] 0 found.key 60 text).get 2 found.key).bind lists.cache.loads = _
    rw [Store.get_setex]
    exact loads
  refine ⟨_, _, _, _, _, first, kept, .cached hit, ?_⟩
  show found.compute lists (bank 10000 5000 0).db.accounts.rows ≠ found.compute lists credited.db.accounts.rows
  rw [found_before, found_after]
  decide +kernel

end Sample

end UnionBank
