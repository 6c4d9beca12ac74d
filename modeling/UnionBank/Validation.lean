import UnionBank.Lib.Anchored
import UnionBank.Registration
import UnionBank.Disclosure

/-!
# What is validated and what is stored

The validators of `utils/validation.py` match a stripped copy of the text, with classes that know more digits and spaces
than ASCII has, and the endpoints store the text that they were given.

- `validateEmail`, `validatePhone`, `validateName`, `validatePassword`; `Api.register`: the registration endpoints;
- `Saved`: an accepted registration or profile update, and the row it leaves;
- `ValidMobile`, `ValidEmail`, `ValidName`, `Tidy`: what the stored texts should be; `stored_valid_iff`: and when they are.
-/

namespace UnionBank

open Keyed Programs Prog
open Analyzr (Unicode)

set_option linter.unusedSectionVars false

variable {D : Type}

/-! ## The validators -/

/-- A range of a character class. -/
def between (first last c : Char) : Bool := first ≤ c && c ≤ last

/-- `a-zA-Z`. -/
def isLetter (c : Char) : Bool := between 'a' 'z' c || between 'A' 'Z' c

/-- `0-9`. -/
def isAsciiDigit (c : Char) : Bool := between '0' '9' c

/-- `[a-zA-Z0-9._%+-]`. -/
def isLocalChar (c : Char) : Bool := isLetter c || isAsciiDigit c || c ∈ ['.', '_', '%', '+', '-']

/-- `[a-zA-Z0-9.-]`. -/
def isDomainChar (c : Char) : Bool := isLetter c || isAsciiDigit c || c ∈ ['.', '-']

section Validators

variable (u : Unicode)

/-- `str.strip()`. -/
def strip (s : String) : List Char := trim u.isSpace s.toList

/-- The pattern of `validate_email`, up to its end. -/
def emailPattern : Regex :=
  .seq (.atLeast isLocalChar 1) (.seq (.one (· = '@')) (.seq (.atLeast isDomainChar 1)
    (.seq (.one (· = '.')) (.atLeast isLetter 2))))

def validateEmail (email : String) : Bool := emailPattern.matchEnd (strip u email)

/-- `[6-9]\d{9}`. -/
def phonePattern : Regex := .seq (.one (between '6' '9')) (.times (fun c => (u.digit c).isSome) 9)

def validatePhone (phone : String) : Bool := (phonePattern u).matchEnd (strip u phone)

/-- `[A-Za-z\s.]`. -/
def isNameChar (c : Char) : Bool := isLetter c || u.isSpace c || c = '.'

/-- `[A-Za-z\s.]{2,50}`. -/
def namePattern : Regex := .seq (.times (isNameChar u) 2) (.upTo (isNameChar u) 48)

def validateName (name : String) : Bool := !(strip u name).isEmpty && (namePattern u).matchEnd (strip u name)

end Validators

def validatePassword (password : String) : Bool × String :=
  if password.length < 8 then (false, "Password must be at least 8 characters long.")
  else if !password.toList.any (between 'A' 'Z') then (false, "Password must contain at least one uppercase letter.")
  else if !password.toList.any (between 'a' 'z') then (false, "Password must contain at least one lowercase letter.")
  else if !password.toList.any isAsciiDigit then (false, "Password must contain at least one digit.")
  else (true, "")

/-- The validators, as the endpoints call them. -/
def validators (u : Unicode) : Checks where
  validateName := validateName u
  validatePhone := validatePhone u
  validateEmail := validateEmail u
  validatePassword := validatePassword

/-! ## The registration endpoints -/

namespace Api

/-- `customer_register` of v1 and v2. -/
def register (env : Env D) (checks : Checks) (randint : ℕ → ℕ) (req : Applicant) (confirmPassword : String) (now : Time) :
    Svc D (Except RuntimeError (Answer D)) := do
  if checks.validateName req.name = false then
    return .ok (.httpException 400 "Name must be 2-50 characters (letters and spaces only).")
  if checks.validatePhone req.mobile = false then
    return .ok (.httpException 400 "Invalid mobile number. Must be 10 digits starting with 6-9.")
  if checks.validateEmail req.email = false then
    return .ok (.httpException 400 "Invalid email format.")
  if (checks.validatePassword req.password).1 = false then
    return .ok (.httpException 400 (checks.validatePassword req.password).2)
  if req.password ≠ confirmPassword then
    return .ok (.httpException 400 "Passwords do not match.")
  match ← AuthService.register env randint req now with
  | .error e => return .error e
  | .ok result =>
    if result.success = false then return .ok (.httpException 400 result.message)
    return .ok (.message result.message)

end Api

section Saved

variable [Zero D] [Add D] [Sub D] [LE D] [LT D] [DecidableEq D] [DecidableLE D] [DecidableLT D]
variable (env : Env D) (checks : Checks) (B : Backend D)

/-- A request to register on the session of a thread. -/
def Bank.register (bank : Bank D) (thread : ℕ) (randint : ℕ → ℕ) (req : Applicant) (confirmPassword : String) (now : Time) :
    Except Exn (Except RuntimeError (Answer D)) × Bank D :=
  let (r, db, s) := exec (handle B) (Api.register env checks randint req confirmPassword now) (bank.db, bank.sessions thread)
  (r, { db, sessions := Function.update bank.sessions thread s })

/-- A request that was accepted: the name, the mobile number and the email it gives, and a row that it leaves. -/
inductive Saved (bank : Bank D) : Option String → Option String → Option String → Account D → Prop
  | register {thread : ℕ} {randint : ℕ → ℕ} {req : Applicant} {confirmPassword text : String} {now : Time}
      {accNo : String} {row : Account D}
      (accepted : (bank.register env checks B thread randint req confirmPassword now).1 = .ok (.ok (.message text)))
      (new : bank.db.accounts.find? accNo = none)
      (stored : (bank.register env checks B thread randint req confirmPassword now).2.db.accounts.find? accNo = some row) :
      Saved bank (some req.name) (some req.mobile) (some req.email) row
  | update {thread : ℕ} {accNo : String} {form : Api.ProfileForm} {account row : Account D}
      (accepted : (bank.attend env checks B thread (.updateProfile accNo form)).1 = .ok (.profile account))
      (stored : (bank.attend env checks B thread (.updateProfile accNo form)).2.db.accounts.find? accNo = some row) :
      Saved bank form.name form.mobile form.email row

end Saved

/-! ## What the texts should be -/

/-- Exactly ten ASCII digits beginning with 6-9. -/
def ValidMobile (s : String) : Prop :=
  ∃ first rest, s.toList = first :: rest ∧ between '6' '9' first = true ∧ rest.length = 9 ∧ ∀ c ∈ rest, isAsciiDigit c = true

/-- The documented pattern, in full. -/
def ValidEmail (s : String) : Prop := ∃ g, Regex.Matches emailPattern s.toList g

/-- 2 to 50 letters, spaces and dots. -/
def ValidName (s : String) : Prop :=
  2 ≤ s.length ∧ s.length ≤ 50 ∧ ∀ c ∈ s.toList, isLetter c = true ∨ c = ' ' ∨ c = '.'

/-- The boundaries of `str.splitlines`. -/
def isLineBreak (c : Char) : Bool :=
  c.toNat ∈ [0x0a, 0x0b, 0x0c, 0x0d, 0x1c, 0x1d, 0x1e, 0x85, 0x2028, 0x2029]

/-- No whitespace at the ends, and no line break. -/
structure Tidy (u : Unicode) (s : String) : Prop where
  first : ∀ c ∈ s.toList.head?, ¬u.isSpace c
  last : ∀ c ∈ s.toList.getLast?, ¬u.isSpace c
  line : ∀ c ∈ s.toList, isLineBreak c = false

/-- What should be stored of the texts that a request gives. -/
structure StoredValid (u : Unicode) (name mobile email : Option String) (row : Account D) : Prop where
  name : name ≠ none → ValidName row.name ∧ Tidy u row.name
  mobile : mobile ≠ none → ValidMobile row.mobile ∧ Tidy u row.mobile
  email : email ≠ none → ValidEmail row.email ∧ Tidy u row.email

/-- The whitespace of `str.isspace` in ASCII. -/
def Unicode.AsciiSpaces (u : Unicode) : Prop :=
  ∀ c : Char, c.toNat < 128 → (u.isSpace c = true ↔ c.toNat ∈ [0x09, 0x0a, 0x0b, 0x0c, 0x0d, 0x1c, 0x1d, 0x1e, 0x1f, 0x20])

/-! ## Characters -/

section Characters

variable {c : Char}

theorem between_iff {first last : Char} : between first last c = true ↔ first.toNat ≤ c.toNat ∧ c.toNat ≤ last.toNat := by
  rw [between, Bool.and_eq_true, decide_eq_true_eq, decide_eq_true_eq]
  exact Iff.rfl

theorem isLetter_iff : isLetter c = true ↔ (97 ≤ c.toNat ∧ c.toNat ≤ 122) ∨ 65 ≤ c.toNat ∧ c.toNat ≤ 90 := by
  rw [isLetter, Bool.or_eq_true, between_iff, between_iff]
  exact Iff.rfl

theorem isAsciiDigit_iff : isAsciiDigit c = true ↔ 48 ≤ c.toNat ∧ c.toNat ≤ 57 := by
  rw [isAsciiDigit, between_iff]
  exact Iff.rfl

/-- A character that is neither whitespace in ASCII nor beyond ASCII is no space and breaks no line. -/
theorem plain_char {u : Unicode} (spaces : Unicode.AsciiSpaces u) (low : 33 ≤ c.toNat) (high : c.toNat < 127) :
    u.isSpace c = false ∧ isLineBreak c = false := by
  constructor
  · rw [← Bool.not_eq_true, spaces c (by omega)]
    simp only [List.mem_cons, List.not_mem_nil, or_false]
    omega
  · simp only [isLineBreak, List.mem_cons, List.not_mem_nil, or_false, decide_eq_false_iff_not]
    omega

theorem isLocalChar_range (h : isLocalChar c = true) : 33 ≤ c.toNat ∧ c.toNat < 127 := by
  rw [isLocalChar, Bool.or_eq_true, Bool.or_eq_true, isLetter_iff, isAsciiDigit_iff, decide_eq_true_eq] at h
  rcases h with (h | h) | h
  · omega
  · omega
  · simp only [List.mem_cons, List.not_mem_nil, or_false] at h
    rcases h with rfl | rfl | rfl | rfl | rfl <;> decide

theorem isDomainChar_range (h : isDomainChar c = true) : 33 ≤ c.toNat ∧ c.toNat < 127 := by
  rw [isDomainChar, Bool.or_eq_true, Bool.or_eq_true, isLetter_iff, isAsciiDigit_iff, decide_eq_true_eq] at h
  rcases h with (h | h) | h
  · omega
  · omega
  · simp only [List.mem_cons, List.not_mem_nil, or_false] at h
    rcases h with rfl | rfl <;> decide

end Characters

/-! ## Texts -/

section Texts

variable {u : Unicode} {s : String}

/-- A text of such characters is tidy. -/
theorem tidy_of_plain (spaces : Unicode.AsciiSpaces u) (plain : ∀ c ∈ s.toList, 33 ≤ c.toNat ∧ c.toNat < 127) :
    Tidy u s := by
  have each : ∀ c ∈ s.toList, u.isSpace c = false ∧ isLineBreak c = false := fun c mem =>
    plain_char spaces (plain c mem).1 (plain c mem).2
  refine ⟨fun c head => ?_, fun c last => ?_, fun c mem => (each c mem).2⟩
  · simp [(each c (List.mem_of_mem_head? head)).1]
  · simp [(each c (List.mem_of_mem_getLast? last)).1]

theorem Tidy.stripped (tidy : Tidy u s) : strip u s = s.toList := trim_eq_self_iff.mpr ⟨tidy.first, tidy.last⟩

/-- A match of a text that stripping leaves alone is a match of all of it. -/
theorem matches_all (spaces : Unicode.AsciiSpaces u) {r : Regex} (same : strip u s = s.toList)
    (accepted : r.matchEnd (strip u s) = true) : ∃ g, Regex.Matches r s.toList g := by
  rw [same] at accepted
  obtain ⟨text, g, matched, rfl | split⟩ := Regex.matchEnd_iff.mp accepted
  · exact ⟨g, matched⟩
  · have last := (trim_eq_self_iff.mp same).2 '\n'
    rw [split, List.getLast?_concat] at last
    exact absurd ((spaces '\n' (by decide)).mpr (by decide)) (last rfl)

theorem ValidMobile.plain (valid : ValidMobile s) : ∀ c ∈ s.toList, isAsciiDigit c = true := by
  obtain ⟨first, rest, split, six, -, digits⟩ := valid
  rw [split]
  refine List.forall_mem_cons.mpr ⟨?_, digits⟩
  rw [between_iff] at six
  exact isAsciiDigit_iff.mpr ⟨le_trans (by decide) six.1, six.2⟩

theorem ValidMobile.tidy (spaces : Unicode.AsciiSpaces u) (valid : ValidMobile s) : Tidy u s := by
  refine tidy_of_plain spaces fun c mem => ?_
  have digit := isAsciiDigit_iff.mp (valid.plain c mem)
  omega

theorem ValidEmail.tidy (spaces : Unicode.AsciiSpaces u) (valid : ValidEmail s) : Tidy u s := by
  refine tidy_of_plain spaces ?_
  obtain ⟨g, matched⟩ := valid
  rw [emailPattern, Regex.matches_seq] at matched
  obtain ⟨user, rest, g₁, g₂, split, -, first, second⟩ := matched
  obtain ⟨at_, rest, rfl, isAt, second⟩ := Regex.matches_one_seq.mp second
  obtain ⟨host, rest, g₁, g₂, rfl, -, third, fourth⟩ := Regex.matches_seq.mp second
  obtain ⟨dot, top, rfl, isDot, fifth⟩ := Regex.matches_one_seq.mp fourth
  obtain ⟨-, users, -⟩ := Regex.matches_atLeast.mp first
  obtain ⟨-, hosts, -⟩ := Regex.matches_atLeast.mp third
  obtain ⟨-, letters, -⟩ := Regex.matches_atLeast.mp fifth
  obtain rfl : at_ = '@' := by simpa using isAt
  obtain rfl : dot = '.' := by simpa using isDot
  intro c mem
  rw [split] at mem
  simp only [List.mem_append, List.mem_cons] at mem
  rcases mem with mem | rfl | mem | rfl | mem
  · exact isLocalChar_range (users c mem)
  · decide
  · exact isDomainChar_range (hosts c mem)
  · decide
  · have letter := isLetter_iff.mp (letters c mem)
    omega

/-- What an accepted mobile number is. -/
theorem validMobile_iff (spaces : Unicode.AsciiSpaces u) (accepted : validatePhone u s = true) :
    (ValidMobile s ∧ Tidy u s) ↔ strip u s = s.toList ∧ ∀ c ∈ s.toList, (u.digit c).isSome = true → isAsciiDigit c = true := by
  constructor
  · rintro ⟨valid, tidy⟩
    exact ⟨tidy.stripped, fun c mem _ => valid.plain c mem⟩
  · rintro ⟨same, ascii⟩
    obtain ⟨g, matched⟩ := matches_all spaces same accepted
    obtain ⟨first, rest, split, six, others⟩ := Regex.matches_one_seq.mp matched
    obtain ⟨nine, digits, -⟩ := Regex.matches_times.mp others
    have valid : ValidMobile s := ⟨first, rest, split, six, nine, fun c mem =>
      ascii c (split ▸ List.mem_cons_of_mem first mem) (digits c mem)⟩
    exact ⟨valid, valid.tidy spaces⟩

/-- What an accepted email is. -/
theorem validEmail_iff (spaces : Unicode.AsciiSpaces u) (accepted : validateEmail u s = true) :
    (ValidEmail s ∧ Tidy u s) ↔ strip u s = s.toList := by
  constructor
  · rintro ⟨-, tidy⟩
    exact tidy.stripped
  · intro same
    have valid : ValidEmail s := matches_all spaces same accepted
    exact ⟨valid, valid.tidy spaces⟩

/-- What an accepted name is. -/
theorem validName_iff (spaces : Unicode.AsciiSpaces u) (accepted : validateName u s = true) :
    (ValidName s ∧ Tidy u s) ↔ strip u s = s.toList ∧ ∀ c ∈ s.toList, u.isSpace c = true → c = ' ' := by
  have letters : ∀ c : Char, isLetter c = true → u.isSpace c = false ∧ isLineBreak c = false := by
    intro c letter
    rw [isLetter_iff] at letter
    exact plain_char spaces (by omega) (by omega)
  have dot : u.isSpace '.' = false ∧ isLineBreak '.' = false := plain_char spaces (by decide) (by decide)
  constructor
  · rintro ⟨⟨-, -, chars⟩, tidy⟩
    refine ⟨tidy.stripped, fun c mem space => ?_⟩
    rcases chars c mem with letter | rfl | rfl
    · rw [(letters c letter).1] at space
      cases space
    · rfl
    · rw [dot.1] at space
      cases space
  · rintro ⟨same, spaceOnly⟩
    rw [validateName, Bool.and_eq_true] at accepted
    obtain ⟨g, matched⟩ := matches_all spaces same accepted.2
    obtain ⟨least, most, chars, -⟩ := Regex.matches_range.mp matched
    have each : ∀ c ∈ s.toList, isLetter c = true ∨ c = ' ' ∨ c = '.' := by
      intro c mem
      have char := chars c mem
      rw [isNameChar, Bool.or_eq_true, Bool.or_eq_true, decide_eq_true_eq] at char
      rcases char with (letter | space) | dot
      · exact .inl letter
      · exact .inr (.inl (spaceOnly c mem space))
      · exact .inr (.inr dot)
    obtain ⟨first, last⟩ := trim_eq_self_iff.mp same
    rw [String.length_toList] at least most
    refine ⟨⟨least, most, each⟩, first, last, fun c mem => ?_⟩
    rcases each c mem with letter | rfl | rfl
    · exact (letters c letter).2
    · decide
    · exact dot.2

end Texts

/-! ## Rows -/

section Rows

variable [Zero D] [Add D] [Sub D] [LE D] [LT D] [DecidableEq D] [DecidableLE D] [DecidableLT D]
variable {env : Env D} {checks : Checks} {B : Backend D}

/-- An endpoint that answered with a message has checked everything and registered. -/
theorem exec_apiRegister {w w' : Db D × Session D} {randint : ℕ → ℕ} {req : Applicant} {confirmPassword text : String}
    {now : Time} (h : exec (handle B) (Api.register env checks randint req confirmPassword now) w =
      (.ok (.ok (.message text)), w')) :
    checks.validateName req.name = true ∧ checks.validatePhone req.mobile = true ∧ checks.validateEmail req.email = true ∧
      ∃ result : ServiceResult D, exec (handle B) (AuthService.register env randint req now) w = (.ok (.ok result), w') := by
  unfold Api.register at h
  split at h
  · cases h
  next name =>
  split at h
  · cases h
  next mobile =>
  split at h
  · cases h
  next email =>
  split at h
  · cases h
  split at h
  · cases h
  refine ⟨by simpa using name, by simpa using mobile, by simpa using email, ?_⟩
  rw [exec_bind] at h
  rcases end_ : exec (handle B) (AuthService.register env randint req now) w with ⟨_ | _ | result, w₁⟩
  · rw [end_] at h
    cases h
  · rw [end_] at h
    cases h
  · rw [end_] at h
    simp only at h
    split at h
    · cases h
    · obtain ⟨-, rfl⟩ := Prod.mk.inj h
      exact ⟨result, rfl⟩

/-- The only new row of a registration is that of the applicant. -/
theorem register_row {bank : Bank D} (idle : bank.Idle) {thread : ℕ} {randint : ℕ → ℕ} {req : Applicant} {now : Time}
    {result : ServiceResult D} {w' : Db D × Session D}
    (h : exec (handle B) (AuthService.register env randint req now) (bank.db, bank.sessions thread) = (.ok (.ok result), w'))
    {accNo : String} {row : Account D} (new : bank.db.accounts.find? accNo = none)
    (stored : w'.1.accounts.find? accNo = some row) :
    ∃ number balance, row = { req.account env now number with balance } := by
  obtain ⟨db, sessions⟩ := bank
  have clean : (sessions thread).Idle := idle thread
  change exec (handle B) (AuthService.register env randint req now) (db, sessions thread) = _ at h
  generalize sessions thread = s at clean h
  obtain ⟨pending, inactive, savepoint, held⟩ := s
  obtain rfl : held = [] := clean.held
  cases inactive with
  | true => cases h
  | false =>
    obtain ⟨rfl, rfl⟩ := clean.clean rfl
    rcases exec_register B db randint req now with ⟨i, -, ends⟩ | ⟨-, ends⟩
    · rw [exec_bind] at ends
      have inserts := (wp_handler _ _ _ _).mp (register_inserts env B db req now (drawn randint i))
      rcases end_ : exec (handle B) (AuthService.customerRegister env (drawn randint i) req.name req.age req.gender
        req.mobile req.email req.password now) (db, ({} : Session D)) with ⟨r, db', s'⟩
      rw [end_] at ends inserts
      rcases inserts with ⟨result, rfl, -, applied⟩ | ⟨e, rfl, -, -⟩
      · obtain ⟨-, ⟨balance, inserted⟩, others, -⟩ := apply_insertAccount_row applied
        obtain ⟨-, rfl⟩ := Prod.mk.inj (h.symm.trans ends)
        by_cases same : accNo = drawn randint i
        · subst same
          exact ⟨_, balance, Option.some.inj (stored.symm.trans inserted)⟩
        · rw [others accNo same, new] at stored
          cases stored
      · cases h.symm.trans ends
    · cases h.symm.trans ends

theorem wp_updateProfile (env : Env D) (B : Backend D) (checks : Checks) (db : Db D) (accNo : String)
    (form : Api.ProfileForm) :
    wp (runs B) ((Visit.updateProfile accNo form).prog env checks)
      (fun r w => ∀ answer : Account D, r = .ok (.profile answer) →
        (form.name.map checks.validateName).getD true = true ∧ (form.mobile.map checks.validatePhone).getD true = true ∧
          (form.email.map checks.validateEmail).getD true = true ∧
          ∃ account, db.accounts.find? accNo = some account ∧
            (Change.account account (form.fill account)).apply B db = .ok w.1) (db, {}) := by
  simp only [Visit.prog, Api.updateProfile, wp_bind, wp_accountRepo_get, andThen_ok, Session.account?_nil]
  cases live : db.liveAccount? accNo with
  | none =>
    intro _ h
    cases h
  | some account =>
    simp only
    split
    · intro _ h
      cases h
    next name =>
    split
    · intro _ h
      cases h
    next mobile =>
    split
    · intro _ h
      cases h
    next email =>
    have staged := staged_updateAccount (s := ({} : Session D)) (form.fill account) live (by simp) rfl rfl
    simp only [wp_bind, wp_accountRepo_update, List.nil_append, andThen_ok]
    refine wp_commit B _ (fun db₁ flushed => ?_) fun e _ answer h => by cases h
    intro answer _
    rw [staged, flush_one] at flushed
    exact ⟨by simpa using name, by simpa using mobile, by simpa using email, account,
      (Ledger.liveAccount?_eq_some.mp live).1, flushed⟩

/-- An accepted profile update has checked what it was given, and leaves it in the row. -/
theorem update_row {bank : Bank D} (idle : bank.Idle) {thread : ℕ} {accNo : String} {form : Api.ProfileForm}
    {account row : Account D}
    (accepted : (bank.attend env checks B thread (.updateProfile accNo form)).1 = .ok (.profile account))
    (stored : (bank.attend env checks B thread (.updateProfile accNo form)).2.db.accounts.find? accNo = some row) :
    (∀ x ∈ form.name, row.name = x ∧ checks.validateName x = true) ∧
      (∀ x ∈ form.mobile, row.mobile = x ∧ checks.validatePhone x = true) ∧
      ∀ x ∈ form.email, row.email = x ∧ checks.validateEmail x = true := by
  obtain ⟨db, sessions⟩ := bank
  have clean : (sessions thread).Idle := idle thread
  change (exec (handle B) ((Visit.updateProfile accNo form).prog env checks) (db, sessions thread)).1 = _ at accepted
  change (exec (handle B) ((Visit.updateProfile accNo form).prog env checks) (db, sessions thread)).2.1.accounts.find?
    accNo = _ at stored
  generalize sessions thread = s at clean accepted stored
  obtain ⟨pending, inactive, savepoint, held⟩ := s
  obtain rfl : held = [] := clean.held
  cases inactive with
  | true => cases accepted
  | false =>
    obtain ⟨rfl, rfl⟩ := clean.clean rfl
    have ends := (wp_handler _ _ _ _).mp (wp_updateProfile env B checks db accNo form)
    obtain ⟨name, mobile, email, before, found, applied⟩ := ends account accepted
    obtain ⟨loaded, found', balance, -, -, -, after⟩ := apply_account_ok.mp applied
    rw [Table.key_of_find? found, found] at found'
    cases found'
    have number : (before.merge (form.fill before) before balance).accountNumber = accNo := by
      show before.accountNumber = accNo
      exact Table.key_of_find? found
    rw [after] at stored
    change (db.accounts.set (before.merge (form.fill before) before balance)).find? accNo = _ at stored
    rw [Table.find?_set, number, if_pos rfl, found, Option.map_some] at stored
    cases stored
    refine ⟨fun x given => ?_, fun x given => ?_, fun x given => ?_⟩
    · rw [Option.mem_def] at given
      rw [given] at name
      refine ⟨?_, name⟩
      show column before.name (form.fill before).name before.name = x
      rw [column_stored, Api.ProfileForm.fill, given]
      rfl
    · rw [Option.mem_def] at given
      rw [given] at mobile
      refine ⟨?_, mobile⟩
      show column before.mobile (form.fill before).mobile before.mobile = x
      rw [column_stored, Api.ProfileForm.fill, given]
      rfl
    · rw [Option.mem_def] at given
      rw [given] at email
      refine ⟨?_, email⟩
      show column before.email (form.fill before).email before.email = x
      rw [column_stored, Api.ProfileForm.fill, given]
      rfl

/-- What is stored of a request was given by it and has passed its validator. -/
theorem Saved.given {bank : Bank D} (idle : bank.Idle) {name mobile email : Option String} {row : Account D}
    (saved : Saved env checks B bank name mobile email row) :
    (∀ x ∈ name, row.name = x ∧ checks.validateName x = true) ∧
      (∀ x ∈ mobile, row.mobile = x ∧ checks.validatePhone x = true) ∧
      ∀ x ∈ email, row.email = x ∧ checks.validateEmail x = true := by
  cases saved with
  | @register thread randint req confirmPassword text now accNo row accepted new stored =>
    rcases end_ : exec (handle B) (Api.register env checks randint req confirmPassword now)
      (bank.db, bank.sessions thread) with ⟨r, db', s'⟩
    simp only [Bank.register, end_] at accepted stored
    subst accepted
    obtain ⟨name, mobile, email, result, registered⟩ := exec_apiRegister end_
    obtain ⟨number, balance, rfl⟩ := register_row idle registered new stored
    refine ⟨fun x given => ?_, fun x given => ?_, fun x given => ?_⟩
    all_goals cases given
    · exact ⟨rfl, name⟩
    · exact ⟨rfl, mobile⟩
    · exact ⟨rfl, email⟩
  | update accepted stored => exact update_row idle accepted stored

/-- A text that was given and accepted is valid as stored exactly where its condition holds. -/
theorem given_iff {given : Option String} {stored : String} {valid : String → Bool} {P Q : String → Prop}
    (h : ∀ x ∈ given, stored = x ∧ valid x = true) (iff : ∀ x, valid x = true → (P x ↔ Q x)) :
    (given ≠ none → P stored) ↔ ∀ x ∈ given, Q x := by
  cases given with
  | none => simp
  | some x =>
    obtain ⟨rfl, accepted⟩ := h x rfl
    simpa using iff stored accepted

/-- The validators of a request that was saved. -/
theorem Saved.validated {u : Unicode} {bank : Bank D} (idle : bank.Idle) {name mobile email : Option String}
    {row : Account D} (saved : Saved env (validators u) B bank name mobile email row) :
    (∀ x ∈ name, row.name = x ∧ validateName u x = true) ∧ (∀ x ∈ mobile, row.mobile = x ∧ validatePhone u x = true) ∧
      ∀ x ∈ email, row.email = x ∧ validateEmail u x = true := saved.given idle

/-- **What is stored is what was validated** if and only if each given text is its own stripped copy, the digits of the
mobile number are ASCII digits, and the only whitespace of the name are spaces. -/
theorem stored_valid_iff (env : Env D) (B : Backend D) {u : Unicode} (spaces : Unicode.AsciiSpaces u) {bank : Bank D}
    (idle : bank.Idle) {name mobile email : Option String} {row : Account D}
    (saved : Saved env (validators u) B bank name mobile email row) :
    StoredValid u name mobile email row ↔
      (∀ x ∈ name, strip u x = x.toList ∧ ∀ c ∈ x.toList, u.isSpace c = true → c = ' ') ∧
      (∀ x ∈ mobile, strip u x = x.toList ∧ ∀ c ∈ x.toList, (u.digit c).isSome = true → isAsciiDigit c = true) ∧
      ∀ x ∈ email, strip u x = x.toList := by
  obtain ⟨names, mobiles, emails⟩ := saved.validated idle
  have byName : (name ≠ none → ValidName row.name ∧ Tidy u row.name) ↔
      ∀ x ∈ name, strip u x = x.toList ∧ ∀ c ∈ x.toList, u.isSpace c = true → c = ' ' :=
    given_iff (P := fun s => ValidName s ∧ Tidy u s) names fun _ => validName_iff spaces
  have byMobile : (mobile ≠ none → ValidMobile row.mobile ∧ Tidy u row.mobile) ↔
      ∀ x ∈ mobile, strip u x = x.toList ∧ ∀ c ∈ x.toList, (u.digit c).isSome = true → isAsciiDigit c = true :=
    given_iff (P := fun s => ValidMobile s ∧ Tidy u s) mobiles fun _ => validMobile_iff spaces
  have byEmail : (email ≠ none → ValidEmail row.email ∧ Tidy u row.email) ↔ ∀ x ∈ email, strip u x = x.toList :=
    given_iff (P := fun s => ValidEmail s ∧ Tidy u s) emails fun _ => validEmail_iff spaces
  rw [← byName, ← byMobile, ← byEmail]
  exact ⟨fun valid => ⟨valid.name, valid.mobile, valid.email⟩, fun ⟨name, mobile, email⟩ => ⟨name, mobile, email⟩⟩

end Rows

/-! ## Examples -/

namespace Sample

/-- ASCII, with all its whitespace. -/
def typewriter : Unicode :=
  { ascii with isSpace := fun c => c.toNat ∈ [0x09, 0x0a, 0x0b, 0x0c, 0x0d, 0x1c, 0x1d, 0x1e, 0x1f, 0x20] }

theorem typewriter_spaces : Unicode.AsciiSpaces typewriter := fun _ _ => by simp [typewriter]

/-- A number that ends in a line break, or not. -/
def number (broken : Bool) : String := if broken then "9876543210\n" else "9876543210"

/-- A new name, number and address. -/
def moved (broken : Bool) : Api.ProfileForm :=
  ⟨some "Asha Rao", none, none, some (number broken), some "asha@bank.example"⟩

theorem moved_saved (broken : Bool) :
    Saved paiseEnv (validators typewriter) paise (bank 10000 5000 0) (some "Asha Rao") (some (number broken))
      (some "asha@bank.example") ((moved broken).fill (account "1001" 10000)) := by
  have name : ((moved broken).name.map (validators typewriter).validateName).getD true = true := by
    show validateName typewriter "Asha Rao" = true
    decide +kernel
  have mobile : ((moved broken).mobile.map (validators typewriter).validatePhone).getD true = true := by
    cases broken <;> decide +kernel
  have email : ((moved broken).email.map (validators typewriter).validateEmail).getD true = true := by
    show validateEmail typewriter "asha@bank.example" = true
    decide +kernel
  have asked : exec (handle paise) (accountRepo.get "1001") ((bank 10000 5000 0).db, (bank 10000 5000 0).sessions 0) =
      (.ok (some (account "1001" 10000)), ((bank 10000 5000 0).db, {})) := by rfl
  have accepted : ((bank 10000 5000 0).attend paiseEnv (validators typewriter) paise 0
      (.updateProfile "1001" (moved broken))).1 = .ok (.profile ((moved broken).fill (account "1001" 10000))) := by
    rw [Bank.attend]
    simp only [Visit.prog, Api.updateProfile, exec_bind, asked, name, mobile, email, Bool.true_eq_false, if_false]
    cases broken
    · rfl
    · rfl
  have stored : ((bank 10000 5000 0).attend paiseEnv (validators typewriter) paise 0
      (.updateProfile "1001" (moved broken))).2.db.accounts.find? "1001" =
        some ((moved broken).fill (account "1001" 10000)) := by
    rw [Bank.attend]
    simp only [Visit.prog, Api.updateProfile, exec_bind, asked, name, mobile, email, Bool.true_eq_false, if_false]
    cases broken
    · rfl
    · rfl
  exact .update accepted stored

theorem every {cs : List Char} {p q : Char → Bool} (h : cs.all (fun c => !p c || q c) = true) :
    ∀ c ∈ cs, p c = true → q c = true := by
  intro c mem here
  simpa [here] using List.all_eq_true.mp h c mem

/-- A plain number is stored as it should be. -/
theorem number_valid :
    StoredValid typewriter (some "Asha Rao") (some (number false)) (some "asha@bank.example")
      ((moved false).fill (account "1001" 10000)) := by
  refine (stored_valid_iff paiseEnv paise typewriter_spaces (bank_idle 10000 5000 0) (moved_saved false)).mpr ⟨?_, ?_, ?_⟩
  · rintro x ⟨⟩
    have only : ∀ c ∈ "Asha Rao".toList, typewriter.isSpace c = true → decide (c = ' ') = true := every (by decide +kernel)
    exact ⟨by decide +kernel, fun c mem space => of_decide_eq_true (only c mem space)⟩
  · rintro x ⟨⟩
    exact ⟨by decide +kernel, every (by decide +kernel)⟩
  · rintro x ⟨⟩
    decide +kernel

/-- The line break is stored. -/
theorem number_broken :
    ¬∀ (name mobile email : Option String) (row : Account ℤ),
      Saved paiseEnv (validators typewriter) paise (bank 10000 5000 0) name mobile email row →
        StoredValid typewriter name mobile email row := by
  intro all
  obtain ⟨-, tidy⟩ := (all _ _ _ _ (moved_saved true)).mobile (by simp)
  have broken := tidy.line '\n' (by decide +kernel)
  revert broken
  decide

end Sample

end UnionBank
