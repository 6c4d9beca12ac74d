import UnionBank.Lib.Substitution

/-!
# Masking of log messages

`mask_sensitive_data` masks the account numbers of a message, and then its mailboxes.

- `maskAccountNumber`, `maskSensitiveData`: the functions;
- `StandsAfter`: a text with an account number that stands as a word of its own;
- `numbers_masked`: the first substitution leaves none of them, and `mailboxes_add_none`: the second one adds none;
- `masked_stands_not`: a masked message holds none;
- `numbers_exact`: what the first substitution changes;
- `Unchained`, `masked_once`: where the signs of mailboxes are not chained, a masked message holds no mailbox.
-/

namespace UnionBank.Masking

open Regex

/-- The classes `\w` and `\d`. -/
structure Alphabet where
  isWord : Char → Bool
  isDigit : Char → Bool

variable (u : Alphabet)

/-- `\b`. -/
def boundary (before : Option Char) (cs : List Char) : Bool := before.any u.isWord != cs.head?.any u.isWord

/-- `[\w.-]`. -/
def isMailbox (c : Char) : Bool := u.isWord c || c = '.' || c = '-'

/-- `\b(\d{8,})\b`. -/
def accountPattern : Between := ⟨boundary u, group (atLeast u.isDigit 8), boundary u⟩

/-- `[\w.-]+\.\w{2,}`. -/
def mailDomain : Regex := seq (atLeast (isMailbox u) 1) (seq (one fun c => c = '.') (atLeast u.isWord 2))

/-- `([\w.-]+)@([\w.-]+\.\w{2,})`. -/
def mailPattern : Between where
  starts _ _ := true
  body := seq (group (atLeast (isMailbox u) 1)) (seq (one fun c => c = '@')
    (group (mailDomain u)))
  ends _ _ := true

/-- `mask_account_number`. -/
def maskAccountNumber (accNo : List Char) : List Char :=
  if accNo = [] ∨ accNo.length < 4 then "****".toList
  else List.replicate (accNo.length - 4) '*' ++ accNo.drop (accNo.length - 4)

/-- `lambda m: mask_account_number(m.group(1))`. -/
def maskedNumber : List (List Char) → List Char
  | [accNo] => maskAccountNumber accNo
  | _ => []

/-- `***@\2`. -/
def maskedMailbox : List (List Char) → List Char
  | [_, domain] => "***@".toList ++ domain
  | _ => []

/-- The substitution of account numbers, behind a character. -/
def maskNumbers (before : Option Char) (msg : List Char) : List Char :=
  (accountPattern u).sub maskedNumber before msg

/-- The substitution of mailboxes, behind a character. -/
def maskMailboxes (before : Option Char) (msg : List Char) : List Char :=
  (mailPattern u).sub maskedMailbox before msg

/-- `mask_sensitive_data`. -/
def maskSensitiveData (msg : String) : String :=
  .ofList (maskMailboxes u none (maskNumbers u none msg.toList))

/-- Digits are word characters, and the signs of the patterns are none. -/
structure Alphabet.Lawful : Prop where
  digit : ∀ c, u.isDigit c = true → u.isWord c = true
  star : u.isWord '*' = false
  at_ : u.isWord '@' = false

theorem Alphabet.Lawful.not_digit {u : Alphabet} (lawful : u.Lawful) {c : Char} (plain : u.isWord c = false) :
    u.isDigit c = false := by
  cases digit : u.isDigit c with
  | false => rfl
  | true =>
    rw [lawful.digit c digit] at plain
    cases plain

/-- No word character. -/
def Plain (c : Option Char) : Prop := c.any u.isWord = false

/-- Behind the character `before`, at least eight digits that no word character touches. -/
def StandsAfter (before : Option Char) (text : List Char) : Prop :=
  ∃ a d b, text = a ++ d ++ b ∧ (∀ c ∈ d, u.isDigit c = true) ∧ 8 ≤ d.length ∧ Plain u (passed before a) ∧
    Plain u b.head?

variable {u}

section Text

variable {before : Option Char} {c : Char} {x y a d b text : List Char}

theorem passed_cons (a : List Char) : passed before (c :: a) = passed (some c) a := by
  cases a with
  | nil => rfl
  | cons c' a =>
    unfold passed
    rw [List.getLast?_cons_cons, List.getLast?_eq_some_getLast (List.cons_ne_nil c' a)]
    rfl

theorem passed_append : passed before (x ++ y) = passed (passed before x) y := by
  simp [passed, List.getLast?_append, Option.or_assoc]

theorem StandsAfter.cons (h : StandsAfter u (some c) text) : StandsAfter u before (c :: text) := by
  obtain ⟨a, d, b, rfl, digits, long, left, right⟩ := h
  refine ⟨c :: a, d, b, rfl, digits, long, ?_, right⟩
  rw [passed_cons]
  exact left

theorem StandsAfter.append (h : StandsAfter u (passed before x) y) : StandsAfter u before (x ++ y) := by
  obtain ⟨a, d, b, rfl, digits, long, left, right⟩ := h
  refine ⟨x ++ a, d, b, by simp, digits, long, ?_, right⟩
  rw [passed_append]
  exact left

/-- Digits do not go on where no word character comes. -/
theorem apart (lawful : u.Lawful) (digits : ∀ c ∈ d, u.isDigit c = true) (stop : Plain u y.head?)
    (split : x ++ y = a ++ d ++ b) :
    (∃ b', x = a ++ d ++ b' ∧ b = b' ++ y) ∨ ∃ a', y = a' ++ d ++ b ∧ a = x ++ a' := by
  rcases List.append_eq_append_iff.mp split with ⟨as, here, later⟩ | ⟨bs, here, later⟩
  · -- `a ++ d` goes on behind `x`
    rcases List.append_eq_append_iff.mp here with ⟨bs, same, rest⟩ | ⟨bs, same, rest⟩
    · cases as with
      | nil =>
        rw [List.append_nil] at here
        exact .inl ⟨[], by rw [here, List.append_nil], later.symm⟩
      | cons c as =>
        have digit := digits c (by rw [rest]; exact List.mem_append_right bs List.mem_cons_self)
        rw [later, List.cons_append] at stop
        rw [lawful.not_digit stop] at digit
        cases digit
    · exact .inr ⟨bs, by rw [later, rest], same⟩
  · exact .inl ⟨bs, here, later⟩

end Text

/-! ## Account numbers -/

section Numbers

variable {before : Option Char} {c : Char} {cs rest : List Char} {g : List (List Char)}

theorem account_found (lawful : u.Lawful) (h : (accountPattern u).find before cs = some (rest, g)) :
    ∃ d, cs = d ++ rest ∧ (∀ c ∈ d, u.isDigit c = true) ∧ 8 ≤ d.length ∧ g = [d] ∧ Plain u before ∧
      Plain u rest.head? := by
  obtain ⟨d, rfl, matched, starts, ends⟩ := Between.find_some h
  obtain ⟨g', rfl, inner⟩ := matches_group.mp matched
  obtain ⟨long, digits, rfl⟩ := matches_atLeast.mp inner
  have nonempty : d ≠ [] := by
    rintro rfl
    cases long
  obtain ⟨first, d', rfl⟩ := List.exists_cons_of_ne_nil nonempty
  refine ⟨_, rfl, digits, long, rfl, ?_, ?_⟩
  · have word := lawful.digit first (digits first List.mem_cons_self)
    simpa [accountPattern, boundary, word, Plain] using starts
  · obtain ⟨last, isLast⟩ := Option.isSome_iff_exists.mp (List.getLast?_isSome.mpr nonempty)
    have word := lawful.digit last (digits last (List.mem_of_getLast? isLast))
    simpa [accountPattern, boundary, passed, isLast, word, Plain] using ends

/-- Behind a word character no account number starts. -/
theorem account_none_of_word (lawful : u.Lawful) (word : u.isWord c = true) :
    (accountPattern u).find (some c) cs = none := by
  cases found : (accountPattern u).find (some c) cs with
  | none => rfl
  | some way =>
    obtain ⟨_, -, -, -, -, plain, -⟩ := account_found lawful found
    have same : u.isWord c = false := plain
    rw [word] at same
    cases same

/-- An account number that stands at a place is found there. -/
theorem account_found_of_stands (lawful : u.Lawful) {d b : List Char} (digits : ∀ c ∈ d, u.isDigit c = true)
    (long : 8 ≤ d.length) (left : Plain u before) (right : Plain u b.head?) :
    (accountPattern u).find before (d ++ b) ≠ none := by
  have nonempty : d ≠ [] := by
    rintro rfl
    cases long
  refine Between.find_ne_none ?_ (.group (matches_atLeast.mpr ⟨long, digits, rfl⟩)) ?_
  · obtain ⟨first, d', rfl⟩ := List.exists_cons_of_ne_nil nonempty
    have word := lawful.digit first (digits first List.mem_cons_self)
    simpa [accountPattern, boundary, word, Plain] using left
  · obtain ⟨last, isLast⟩ := Option.isSome_iff_exists.mp (List.getLast?_isSome.mpr nonempty)
    have word := lawful.digit last (digits last (List.mem_of_getLast? isLast))
    simpa [accountPattern, boundary, passed, isLast, word, Plain] using right

/-- Behind a word character, digits are copied, up to where they end. -/
theorem numbers_copied (lawful : u.Lawful) {d b : List Char} (digits : ∀ c ∈ d, u.isDigit c = true)
    (right : Plain u b.head?) (word : u.isWord c = true)
    (masked : maskNumbers u (some c) cs = d ++ b) : ∃ b', cs = d ++ b' ∧ Plain u b'.head? := by
  induction d generalizing c cs with
  | nil =>
    refine ⟨cs, rfl, ?_⟩
    cases cs with
    | nil => rfl
    | cons e cs =>
      rw [maskNumbers, Between.sub_none (account_none_of_word lawful word)] at masked
      rw [← show _ = b from masked] at right
      exact right
  | cons e d ih =>
    cases cs with
    | nil =>
      rw [maskNumbers, Between.sub_nil] at masked
      cases masked
    | cons e' cs =>
      rw [maskNumbers, Between.sub_none (account_none_of_word lawful word)] at masked
      obtain ⟨rfl, copied⟩ := List.cons_eq_cons.mp masked
      obtain ⟨digit, others⟩ := List.forall_mem_cons.mp digits
      obtain ⟨b', rfl, right'⟩ := ih others (lawful.digit _ digit) copied
      exact ⟨b', rfl, right'⟩

/-- At most four digits of a masked number are left, the last one among them. -/
theorem digits_masked (lawful : u.Lawful) {d : List Char} (long : 8 ≤ d.length) :
    (maskAccountNumber d).countP u.isDigit ≤ 4 ∧ (maskAccountNumber d).getLast? = d.getLast? := by
  have some_ : ¬(d = [] ∨ d.length < 4) := by
    rintro (rfl | short)
    · cases long
    · omega
  have stars : (List.replicate (d.length - 4) '*').countP u.isDigit = 0 := by
    refine List.countP_eq_zero.mpr fun c mem digit => ?_
    rw [List.eq_of_mem_replicate mem, lawful.not_digit lawful.star] at digit
    cases digit
  rw [maskAccountNumber, if_neg some_]
  constructor
  · rw [List.countP_append, stars, Nat.zero_add]
    refine List.countP_le_length.trans ?_
    rw [List.length_drop]
    omega
  · rw [List.getLast?_append, List.getLast?_drop, if_neg (by omega)]
    obtain ⟨last, isLast⟩ := Option.isSome_iff_exists.mp (List.getLast?_isSome.mpr fun none => some_ (.inl none))
    rw [isLast]
    rfl

/-- What no digit starts is copied. -/
theorem numbers_head (lawful : u.Lawful) (stop : Plain u cs.head?) : (maskNumbers u before cs).head? = cs.head? := by
  cases cs with
  | nil => rw [maskNumbers, Between.sub_nil]
  | cons c cs =>
    cases found : (accountPattern u).find before (c :: cs) with
    | none =>
      rw [maskNumbers, Between.sub_none found]
      rfl
    | some way =>
      obtain ⟨d, same, digits, long, -⟩ := account_found lawful found
      cases d with
      | nil => cases long
      | cons e d =>
        obtain ⟨rfl, -⟩ := List.cons_eq_cons.mp same
        have digit := digits c List.mem_cons_self
        rw [lawful.not_digit stop] at digit
        cases digit

/-- **The first substitution** leaves no account number that stands as a word. -/
theorem numbers_masked (lawful : u.Lawful) (before : Option Char) (cs : List Char) :
    ¬ StandsAfter u before (maskNumbers u before cs) := by
  induction n : cs.length using Nat.strong_induction_on generalizing before cs with
  | _ n ih =>
    subst n
    rintro ⟨a, d, b, split, digits, long, left, right⟩
    cases cs with
    | nil =>
      rw [maskNumbers, Between.sub_nil] at split
      have nothing := congrArg List.length split
      simp only [List.length_append, List.length_nil] at nothing
      omega
    | cons c cs =>
      cases found : (accountPattern u).find before (c :: cs) with
      | none =>
        rw [maskNumbers, Between.sub_none found] at split
        cases a with
        | nil =>
          -- the digits start here, and would have been found
          cases d with
          | nil => cases long
          | cons e d =>
            obtain ⟨rfl, copied⟩ := List.cons_eq_cons.mp split
            obtain ⟨digit, others⟩ := List.forall_mem_cons.mp digits
            obtain ⟨b', rfl, right'⟩ := numbers_copied lawful others right (lawful.digit _ digit) copied
            exact account_found_of_stands lawful digits long left right' found
        | cons e a =>
          obtain ⟨rfl, later⟩ := List.cons_eq_cons.mp split
          rw [passed_cons] at left
          exact ih cs.length (Nat.lt_succ_self _) (some c) cs rfl ⟨a, d, b, later, digits, long, left, right⟩
      | some way =>
        obtain ⟨rest, g⟩ := way
        obtain ⟨number, same, -, long', rfl, -, stop⟩ := account_found lawful found
        have nonempty : number ≠ [] := by
          rintro rfl
          cases long'
        rw [same] at found split ih
        rw [maskNumbers, Between.sub_some found nonempty] at split
        obtain ⟨few, last⟩ := digits_masked lawful long'
        have stop' : Plain u (maskNumbers u (passed before number) rest).head? := by
          rw [numbers_head lawful stop]
          exact stop
        rcases apart lawful digits stop' split with ⟨b', here, -⟩ | ⟨a', later, rfl⟩
        · replace here : maskAccountNumber number = a ++ d ++ b' := here
          rw [here, List.countP_append, List.countP_append, List.countP_eq_length.mpr digits] at few
          omega
        · replace left : Plain u (passed before (maskAccountNumber number ++ a')) := left
          have same_ : passed before (maskAccountNumber number) = passed before number := by
            rw [passed, last]
            rfl
          rw [passed_append, same_] at left
          refine ih rest.length ?_ (passed before number) rest rfl ⟨a', d, b, later, digits, long, left, right⟩
          rw [List.length_append]
          omega

/-- A text without such numbers stays. -/
theorem numbers_fixed (lawful : u.Lawful) (none_ : ¬ StandsAfter u before cs) : maskNumbers u before cs = cs := by
  induction cs generalizing before with
  | nil => exact Between.sub_nil
  | cons c cs ih =>
    cases found : (accountPattern u).find before (c :: cs) with
    | none =>
      rw [maskNumbers, Between.sub_none found]
      exact congrArg (c :: ·) (ih fun stands => none_ stands.cons)
    | some way =>
      obtain ⟨d, same, digits, long, -, left, right⟩ := account_found lawful found
      exact absurd ⟨[], d, way.1, same, digits, long, left, right⟩ none_

end Numbers

/-! ## Mailboxes -/

section Mailboxes

variable {before : Option Char} {c : Char} {s cs rest : List Char} {g : List (List Char)}

theorem mail_matches : Matches (mailPattern u).body s g ↔ ∃ name domain, s = name ++ '@' :: domain ∧
    g = [name, domain] ∧ 1 ≤ name.length ∧ (∀ c ∈ name, isMailbox u c = true) ∧ Matches (mailDomain u) domain [] := by
  constructor
  · intro h
    obtain ⟨name, s₂, g₁, g₂, rfl, rfl, first, second⟩ := matches_seq.mp h
    obtain ⟨g', rfl, inName⟩ := matches_group.mp first
    obtain ⟨long, all, rfl⟩ := matches_atLeast.mp inName
    obtain ⟨c, domain, rfl, sign, third⟩ := matches_one_seq.mp second
    obtain ⟨g', rfl, inDomain⟩ := matches_group.mp third
    obtain rfl : c = '@' := of_decide_eq_true sign
    obtain rfl := inDomain.plain rfl
    exact ⟨name, domain, rfl, rfl, long, all, inDomain⟩
  · rintro ⟨name, domain, rfl, rfl, long, all, third⟩
    refine .seq (.group (matches_atLeast.mpr ⟨long, all, rfl⟩)) ?_
    exact matches_one_seq.mpr ⟨'@', domain, rfl, rfl, .group third⟩

theorem mail_found (h : (mailPattern u).find before cs = some (rest, g)) : ∃ name domain,
    cs = name ++ '@' :: domain ++ rest ∧ g = [name, domain] ∧ Plain u rest.head? := by
  obtain ⟨s, rfl, matched, -, -⟩ := Between.find_some h
  obtain ⟨name, domain, rfl, rfl, -⟩ := mail_matches.mp matched
  refine ⟨name, domain, rfl, rfl, ?_⟩
  have first : ((mailPattern u).body.ways (name ++ '@' :: domain ++ rest)).head? = some (rest, [name, domain]) := by
    have starts : (mailPattern u).starts before (name ++ '@' :: domain ++ rest) = true := rfl
    rw [← h, Between.find, if_pos starts]
    cases (mailPattern u).body.ways (name ++ '@' :: domain ++ rest) <;> rfl
  have greedy : Greedy u.isWord (mailPattern u).body :=
    greedy_seq (greedy_seq (greedy_group (greedy_seq (greedy_seq (greedy_seq greedy_many)))))
  have stop := greedy _ _ _ first
  cases rest with
  | nil => rfl
  | cons c rest => simpa [Plain] using stop

/-- Where no mailbox starts with a character of the class, none starts behind it. -/
theorem mail_none (mailbox : isMailbox u c = true) (h : (mailPattern u).find before (c :: cs) = none) :
    (mailPattern u).find (some c) cs = none := by
  cases found : (mailPattern u).find (some c) cs with
  | none => rfl
  | some way =>
    obtain ⟨s, rfl, matched, -, -⟩ := Between.find_some found
    obtain ⟨name, domain, rfl, -, long, all, matched⟩ := mail_matches.mp matched
    have all' : ∀ e ∈ c :: name, isMailbox u e = true := List.forall_mem_cons.mpr ⟨mailbox, all⟩
    have longer : Matches (mailPattern u).body (c :: name ++ '@' :: domain) [c :: name, domain] :=
      mail_matches.mpr ⟨c :: name, domain, rfl, rfl, Nat.le_add_left .., all', matched⟩
    exact absurd h (Between.find_ne_none rfl longer rfl)

theorem mailbox_of_digit (lawful : u.Lawful) (digit : u.isDigit c = true) : isMailbox u c = true := by
  simp [isMailbox, lawful.digit c digit]

/-- Behind such a character digits are copied, up to where they end. -/
theorem mailboxes_copied (lawful : u.Lawful) {d b : List Char} (digits : ∀ c ∈ d, u.isDigit c = true)
    (right : Plain u b.head?) (mailbox : isMailbox u c = true)
    (stuck : (mailPattern u).find before (c :: cs) = none) (masked : maskMailboxes u (some c) cs = d ++ b) :
    ∃ b', cs = d ++ b' ∧ Plain u b'.head? := by
  induction d generalizing before c cs with
  | nil =>
    refine ⟨cs, rfl, ?_⟩
    cases cs with
    | nil => rfl
    | cons e cs =>
      rw [maskMailboxes, Between.sub_none (mail_none mailbox stuck)] at masked
      rw [← show _ = b from masked] at right
      exact right
  | cons e d ih =>
    cases cs with
    | nil =>
      rw [maskMailboxes, Between.sub_nil] at masked
      cases masked
    | cons e' cs =>
      have stuck' := mail_none mailbox stuck
      rw [maskMailboxes, Between.sub_none stuck'] at masked
      obtain ⟨rfl, copied⟩ := List.cons_eq_cons.mp masked
      obtain ⟨digit, others⟩ := List.forall_mem_cons.mp digits
      obtain ⟨b', rfl, right'⟩ := ih others (mailbox_of_digit lawful digit) stuck' copied
      exact ⟨b', rfl, right'⟩

/-- No word starts where none did. -/
theorem mailboxes_head (lawful : u.Lawful) (stop : Plain u cs.head?) : Plain u (maskMailboxes u before cs).head? := by
  cases cs with
  | nil =>
    rw [maskMailboxes, Between.sub_nil]
    rfl
  | cons c cs =>
    cases found : (mailPattern u).find before (c :: cs) with
    | none =>
      rw [maskMailboxes, Between.sub_none found]
      exact stop
    | some way =>
      obtain ⟨rest, g⟩ := way
      obtain ⟨name, domain, same, rfl, -⟩ := mail_found found
      rw [same] at found ⊢
      rw [maskMailboxes, Between.sub_some found (by simp)]
      exact lawful.star

/-- **The second substitution** adds no account number that stands as a word. -/
theorem mailboxes_add_none (lawful : u.Lawful) (before : Option Char) (cs : List Char)
    (stands : StandsAfter u before (maskMailboxes u before cs)) : StandsAfter u before cs := by
  induction n : cs.length using Nat.strong_induction_on generalizing before cs with
  | _ n ih =>
    subst n
    obtain ⟨a, d, b, split, digits, long, left, right⟩ := stands
    cases cs with
    | nil =>
      rw [maskMailboxes, Between.sub_nil] at split
      have nothing := congrArg List.length split
      simp only [List.length_append, List.length_nil] at nothing
      omega
    | cons c cs =>
      cases found : (mailPattern u).find before (c :: cs) with
      | none =>
        rw [maskMailboxes, Between.sub_none found] at split
        cases a with
        | nil =>
          cases d with
          | nil => cases long
          | cons e d =>
            obtain ⟨rfl, copied⟩ := List.cons_eq_cons.mp split
            obtain ⟨digit, others⟩ := List.forall_mem_cons.mp digits
            have mailbox := mailbox_of_digit lawful digit
            obtain ⟨b', rfl, right'⟩ := mailboxes_copied lawful others right mailbox found copied
            exact ⟨[], c :: d, b', rfl, digits, long, left, right'⟩
        | cons e a =>
          obtain ⟨rfl, later⟩ := List.cons_eq_cons.mp split
          rw [passed_cons] at left
          exact (ih cs.length (Nat.lt_succ_self _) (some c) cs ⟨a, d, b, later, digits, long, left, right⟩ rfl).cons
      | some way =>
        obtain ⟨rest, g⟩ := way
        obtain ⟨name, domain, same, rfl, stop⟩ := mail_found found
        rw [same] at found split ih ⊢
        rw [maskMailboxes, Between.sub_some found (by simp)] at split
        rcases apart lawful digits (mailboxes_head lawful stop) split with ⟨b', here, rfl⟩ | ⟨a', later, rfl⟩
        · -- the digits are in the domain
          replace here : ['*', '*', '*'] ++ '@' :: domain = a ++ d ++ b' := here
          have sign : Plain u ('@' :: domain).head? := lawful.at_
          rcases apart lawful digits sign here with ⟨b'', stars, -⟩ | ⟨a', inside, rfl⟩
          · have short := congrArg List.length stars
            simp only [List.length_append, List.length_cons, List.length_nil] at short
            omega
          · cases a' with
            | nil =>
              cases d with
              | nil => cases long
              | cons e d =>
                obtain ⟨rfl, -⟩ := List.cons_eq_cons.mp inside
                have digit := digits '@' List.mem_cons_self
                rw [lawful.not_digit lawful.at_] at digit
                cases digit
            | cons e a' =>
              obtain ⟨rfl, rfl⟩ := List.cons_eq_cons.mp inside
              refine ⟨name ++ '@' :: a', d, b' ++ rest, by simp, digits, long, ?_, ?_⟩
              · rw [passed_append, passed_cons] at left ⊢
                exact left
              · cases b' with
                | nil => exact stop
                | cons => exact right
        · -- the digits are behind it
          replace left : Plain u (passed before (['*', '*', '*'] ++ '@' :: domain ++ a')) := left
          rw [passed_append, passed_append, passed_cons] at left
          have behind : passed before (name ++ '@' :: domain) = passed (some '@') domain := by
            rw [passed_append, passed_cons]
          rw [← behind] at left
          refine (ih rest.length ?_ _ rest ⟨a', d, b, later, digits, long, left, right⟩ rfl).append
          rw [List.length_append, List.length_append, List.length_cons]
          omega

/-! ## Chains of mailboxes -/

/-- A text is without matches of the pattern. -/
def Mailless (u : Alphabet) (cs : List Char) : Prop :=
  ∀ a s b g, cs = a ++ s ++ b → ¬ Matches (mailPattern u).body s g

/-- Characters of a mailbox, and then an `@`. -/
def Reaches (u : Alphabet) (cs : List Char) : Prop := ∃ p t, cs = p ++ '@' :: t ∧ ∀ c ∈ p, isMailbox u c = true

/-- Behind no `@` another one comes with nothing but characters of a mailbox in between. -/
def Unchained (u : Alphabet) : List Char → Prop
  | [] => True
  | c :: cs => (c = '@' → ¬ Reaches u cs) ∧ Unchained u cs

theorem sign_no_mailbox (lawful : u.Lawful) : isMailbox u '@' = false := by simp [isMailbox, lawful.at_]

theorem star_no_mailbox (lawful : u.Lawful) : isMailbox u '*' = false := by simp [isMailbox, lawful.star]

theorem reaches_of_tail (mailbox : isMailbox u c = true) (h : Reaches u cs) : Reaches u (c :: cs) := by
  obtain ⟨p, t, rfl, all⟩ := h
  exact ⟨c :: p, t, rfl, List.forall_mem_cons.mpr ⟨mailbox, all⟩⟩

theorem tail_reaches (other : c ≠ '@') (h : Reaches u (c :: cs)) : isMailbox u c = true ∧ Reaches u cs := by
  obtain ⟨p, t, same, all⟩ := h
  cases p with
  | nil => exact absurd (List.cons_eq_cons.mp same).1 other
  | cons e p =>
    obtain ⟨rfl, rfl⟩ := List.cons_eq_cons.mp same
    obtain ⟨mailbox, others⟩ := List.forall_mem_cons.mp all
    exact ⟨mailbox, p, t, rfl, others⟩

theorem reaches_append {d : List Char} (all : ∀ c ∈ d, isMailbox u c = true) (h : Reaches u cs) :
    Reaches u (d ++ cs) := by
  obtain ⟨p, t, rfl, all'⟩ := h
  refine ⟨d ++ p, t, (List.append_assoc ..).symm, fun c mem => ?_⟩
  exact (List.mem_append.mp mem).elim (all c) (all' c)

theorem unreached (never : '@' ∉ cs) : ¬ Reaches u cs := by
  rintro ⟨p, t, rfl, -⟩
  simp at never

theorem Unchained.suffix {x y : List Char} (h : Unchained u (x ++ y)) : Unchained u y := by
  induction x with
  | nil => exact h
  | cons c x ih => exact ih h.2

/-- A mailbox reaches its sign. -/
theorem reaches_of_matches {b : List Char} (matched : Matches (mailPattern u).body s g) : Reaches u (s ++ b) := by
  obtain ⟨name, domain, rfl, -, -, all, -⟩ := mail_matches.mp matched
  exact ⟨name, domain ++ b, by simp, all⟩

theorem mail_none_of_not_reaches (never : ¬ Reaches u cs) : (mailPattern u).find before cs = none := by
  cases found : (mailPattern u).find before cs with
  | none => rfl
  | some way =>
    obtain ⟨s, rfl, matched, -, -⟩ := Between.find_some found
    exact absurd (reaches_of_matches matched) never

theorem domain_mailbox {domain : List Char} (matched : Matches (mailDomain u) domain g) :
    ∀ c ∈ domain, isMailbox u c = true := by
  obtain ⟨s₁, s₂, g₁, g₂, rfl, rfl, first, second⟩ := matches_seq.mp matched
  obtain ⟨-, all, -⟩ := matches_atLeast.mp first
  obtain ⟨c, s₃, rfl, dot, third⟩ := matches_one_seq.mp second
  obtain ⟨-, words, -⟩ := matches_atLeast.mp third
  intro e mem
  rcases List.mem_append.mp mem with mem | mem
  · exact all e mem
  · rcases List.mem_cons.mp mem with rfl | mem
    · simp [isMailbox, of_decide_eq_true dot]
    · simp [isMailbox, words e mem]

/-- A text that reaches no sign reaches none when it is masked. -/
theorem masked_reaches_not (never : ¬ Reaches u cs) : ¬ Reaches u (maskMailboxes u before cs) := by
  induction cs generalizing before with
  | nil =>
    rw [maskMailboxes, Between.sub_nil]
    exact never
  | cons c cs ih =>
    rw [maskMailboxes, Between.sub_none (mail_none_of_not_reaches never)]
    intro reaches
    have other : c ≠ '@' := by
      rintro rfl
      exact never ⟨[], cs, rfl, by simp⟩
    obtain ⟨mailbox, later⟩ := tail_reaches other reaches
    exact ih (fun h => never (reaches_of_tail mailbox h)) later

/-- Characters of a mailbox are copied where no sign is reached. -/
theorem prefix_copied {d b : List Char} (never : ¬ Reaches u cs) (all : ∀ c ∈ d, isMailbox u c = true)
    (masked : maskMailboxes u before cs = d ++ b) : ∃ b', cs = d ++ b' := by
  induction d generalizing before cs with
  | nil => exact ⟨cs, rfl⟩
  | cons e d ih =>
    cases cs with
    | nil =>
      rw [maskMailboxes, Between.sub_nil] at masked
      cases masked
    | cons c cs =>
      rw [maskMailboxes, Between.sub_none (mail_none_of_not_reaches never)] at masked
      obtain ⟨rfl, later⟩ := List.cons_eq_cons.mp masked
      obtain ⟨mailbox, others⟩ := List.forall_mem_cons.mp all
      obtain ⟨b', rfl⟩ := ih (fun h => never (reaches_of_tail mailbox h)) others later
      exact ⟨b', rfl⟩

/-- The name of a mailbox is copied where none starts before it. -/
theorem name_copied {name t : List Char} (mailbox : isMailbox u c = true)
    (stuck : (mailPattern u).find before (c :: cs) = none) (all : ∀ c ∈ name, isMailbox u c = true)
    (masked : maskMailboxes u (some c) cs = name ++ '@' :: t) :
    ∃ rest, cs = name ++ '@' :: rest ∧ t = maskMailboxes u (some '@') rest := by
  induction name generalizing before c cs with
  | nil =>
    cases cs with
    | nil =>
      rw [maskMailboxes, Between.sub_nil] at masked
      cases masked
    | cons e cs =>
      rw [maskMailboxes, Between.sub_none (mail_none mailbox stuck)] at masked
      obtain ⟨rfl, rfl⟩ := List.cons_eq_cons.mp masked
      exact ⟨cs, rfl, rfl⟩
  | cons e name ih =>
    cases cs with
    | nil =>
      rw [maskMailboxes, Between.sub_nil] at masked
      cases masked
    | cons e' cs =>
      have stuck' := mail_none mailbox stuck
      rw [maskMailboxes, Between.sub_none stuck'] at masked
      obtain ⟨rfl, later⟩ := List.cons_eq_cons.mp masked
      obtain ⟨mailbox', others⟩ := List.forall_mem_cons.mp all
      obtain ⟨rest, rfl, rfl⟩ := ih mailbox' stuck' others later
      exact ⟨rest, rfl, rfl⟩

theorem mailless_cons (later : Mailless u cs)
    (here : ∀ s b g, c :: cs = s ++ b → ¬ Matches (mailPattern u).body s g) : Mailless u (c :: cs) := by
  intro a s b g split matched
  cases a with
  | nil => exact here s b g split matched
  | cons e a => exact later a s b g (List.cons_eq_cons.mp split).2 matched

theorem mailless_append {d : List Char} (lawful : u.Lawful) (all : ∀ c ∈ d, isMailbox u c = true)
    (later : Mailless u cs) (never : ¬ Reaches u cs) : Mailless u (d ++ cs) ∧ ¬ Reaches u (d ++ cs) := by
  induction d with
  | nil => exact ⟨later, never⟩
  | cons c d ih =>
    obtain ⟨mailbox, others⟩ := List.forall_mem_cons.mp all
    obtain ⟨rest, never'⟩ := ih others
    have other : c ≠ '@' := by
      rintro rfl
      rw [sign_no_mailbox lawful] at mailbox
      cases mailbox
    have nowhere : ¬ Reaches u (c :: (d ++ cs)) := fun reaches => never' (tail_reaches other reaches).2
    refine ⟨mailless_cons rest fun s b g split matched => nowhere ?_, nowhere⟩
    have reaches : Reaches u (s ++ b) := reaches_of_matches matched
    rw [← split] at reaches
    exact reaches

theorem mailless_of_no_mailbox (later : Mailless u cs) (other : isMailbox u c = false) : Mailless u (c :: cs) := by
  refine mailless_cons later fun s b g split matched => ?_
  obtain ⟨name, domain, rfl, -, long, all, -⟩ := mail_matches.mp matched
  cases name with
  | nil => cases long
  | cons e name =>
    obtain ⟨rfl, -⟩ := List.cons_eq_cons.mp split
    rw [all c List.mem_cons_self] at other
    cases other

/-- **The second substitution** leaves no mailbox where the signs are not chained. -/
theorem mailboxes_masked (lawful : u.Lawful) (before : Option Char) (cs : List Char) (unchained : Unchained u cs) :
    Mailless u (maskMailboxes u before cs) := by
  induction n : cs.length using Nat.strong_induction_on generalizing before cs with
  | _ n ih =>
    subst n
    cases cs with
    | nil =>
      rw [maskMailboxes, Between.sub_nil]
      intro a s b g split matched
      obtain ⟨name, domain, rfl, -⟩ := mail_matches.mp matched
      simp at split
    | cons c cs =>
      cases found : (mailPattern u).find before (c :: cs) with
      | none =>
        rw [maskMailboxes, Between.sub_none found]
        refine mailless_cons (ih cs.length (Nat.lt_succ_self _) (some c) cs unchained.2 rfl) ?_
        -- a mailbox that starts here was there before
        intro s b g split matched
        obtain ⟨name, domain, rfl, -, long, all, inDomain⟩ := mail_matches.mp matched
        cases name with
        | nil => cases long
        | cons e name =>
          obtain ⟨rfl, later⟩ := List.cons_eq_cons.mp split
          obtain ⟨mailbox, others⟩ := List.forall_mem_cons.mp all
          have copied : maskMailboxes u (some c) cs = name ++ '@' :: (domain ++ b) := by
            rw [maskMailboxes, later]
            simp
          obtain ⟨rest, rfl, same⟩ := name_copied mailbox found others copied
          have never : ¬ Reaches u rest := (Unchained.suffix (x := c :: name) unchained).1 rfl
          obtain ⟨b', rfl⟩ := prefix_copied never (domain_mailbox inDomain) same.symm
          have there := mail_matches.mpr ⟨c :: name, domain, rfl, rfl, long, all, inDomain⟩
          have missed : (mailPattern u).find before (c :: name ++ '@' :: domain ++ b') ≠ none :=
            Between.find_ne_none rfl there rfl
          refine missed ?_
          rw [← found]
          simp
      | some way =>
        obtain ⟨rest, g⟩ := way
        obtain ⟨s, same, matched, -, -⟩ := Between.find_some found
        obtain ⟨name, domain, rfl, rfl, -, -, inDomain⟩ := mail_matches.mp matched
        have all := domain_mailbox inDomain
        rw [same] at found ih unchained ⊢
        rw [maskMailboxes, Between.sub_some found (by simp)]
        rw [List.append_assoc] at unchained
        obtain ⟨apart_, later⟩ := unchained.suffix
        have never : ¬ Reaches u rest := fun reaches => apart_ rfl (reaches_append all reaches)
        have shorter : rest.length < (name ++ '@' :: domain ++ rest).length := by
          rw [List.length_append, List.length_append, List.length_cons]
          omega
        have behind := ih rest.length shorter (passed before (name ++ '@' :: domain)) rest later.suffix rfl
        have inner := (mailless_append lawful all behind (masked_reaches_not never)).1
        have star := star_no_mailbox lawful
        exact mailless_of_no_mailbox (mailless_of_no_mailbox (mailless_of_no_mailbox
          (mailless_of_no_mailbox inner (sign_no_mailbox lawful)) star) star) star

/-- A text without mailboxes stays. -/
theorem mailboxes_fixed (mailless : Mailless u cs) : maskMailboxes u before cs = cs := by
  induction cs generalizing before with
  | nil => exact Between.sub_nil
  | cons c cs ih =>
    cases found : (mailPattern u).find before (c :: cs) with
    | none =>
      rw [maskMailboxes, Between.sub_none found]
      exact congrArg (c :: ·) (ih fun a s b g split => mailless (c :: a) s b g (by rw [split]; rfl))
    | some way =>
      obtain ⟨s, same, matched, -, -⟩ := Between.find_some found
      exact absurd matched (mailless [] s way.1 _ same)

end Mailboxes

/-! ## The masked message -/

/-- **No account number stands** in a masked message. -/
theorem masked_stands_not (lawful : u.Lawful) (msg : String) :
    ¬ StandsAfter u none (maskSensitiveData u msg).toList := by
  rw [maskSensitiveData, String.toList_ofList]
  intro stands
  exact numbers_masked lawful none msg.toList (mailboxes_add_none lawful none _ stands)

/-- Characters that are kept, and digits that are masked. -/
def Starred (u : Alphabet) : List Char → List Char → Prop :=
  List.Forall₂ fun c c' => c' = c ∨ u.isDigit c = true ∧ c' = '*'

theorem starred_refl (cs : List Char) : Starred u cs cs := List.forall₂_same.mpr fun _ _ => .inl rfl

theorem starred_mask {d : List Char} (digits : ∀ c ∈ d, u.isDigit c = true) (k : ℕ) (small : k ≤ d.length) :
    Starred u d (List.replicate k '*' ++ d.drop k) := by
  induction k generalizing d with
  | zero => exact starred_refl d
  | succ k ih =>
    cases d with
    | nil => cases small
    | cons c d =>
      obtain ⟨digit, digits⟩ := List.forall_mem_cons.mp digits
      exact .cons (.inr ⟨digit, rfl⟩) (ih digits (Nat.le_of_succ_le_succ small))

/-- The first substitution writes stars over digits, and nothing else. -/
theorem numbers_starred (lawful : u.Lawful) (before : Option Char) (cs : List Char) :
    Starred u cs (maskNumbers u before cs) := by
  induction n : cs.length using Nat.strong_induction_on generalizing before cs with
  | _ n ih =>
    subst n
    cases cs with
    | nil =>
      rw [maskNumbers, Between.sub_nil]
      exact .nil
    | cons c cs =>
      cases found : (accountPattern u).find before (c :: cs) with
      | none =>
        rw [maskNumbers, Between.sub_none found]
        exact .cons (.inl rfl) (ih cs.length (Nat.lt_succ_self _) (some c) cs rfl)
      | some way =>
        obtain ⟨rest, g⟩ := way
        obtain ⟨number, same, digits, long, rfl, -, -⟩ := account_found lawful found
        have nonempty : number ≠ [] := by
          rintro rfl
          cases long
        have masked : maskedNumber [number] =
            List.replicate (number.length - 4) '*' ++ number.drop (number.length - 4) :=
          if_neg fun few => few.elim nonempty fun short => by omega
        rw [same] at found ih ⊢
        rw [maskNumbers, Between.sub_some found nonempty, masked]
        refine List.rel_append (starred_mask digits _ (Nat.sub_le ..)) (ih rest.length ?_ _ rest rfl)
        rw [List.length_append]
        omega

/-- **The first substitution** writes stars over digits only, leaves exactly the messages in which no account number
stands, and is done after one round. -/
theorem numbers_exact (lawful : u.Lawful) (msg : List Char) :
    Starred u msg (maskNumbers u none msg) ∧ (maskNumbers u none msg = msg ↔ ¬ StandsAfter u none msg) ∧
      maskNumbers u none (maskNumbers u none msg) = maskNumbers u none msg := by
  refine ⟨numbers_starred lawful none msg, ⟨fun same => ?_, numbers_fixed lawful⟩, ?_⟩
  · have masked := numbers_masked lawful none msg
    rwa [same] at masked
  · exact numbers_fixed lawful (numbers_masked lawful none msg)

/-- Stars over digits reach no sign that was not reached before. -/
theorem starred_reaches {cs out : List Char} (lawful : u.Lawful) (starred : Starred u cs out) (h : Reaches u out) :
    Reaches u cs := by
  induction starred with
  | nil => exact h
  | @cons c c' cs out same later ih =>
    by_cases sign : c' = '@'
    · subst sign
      rcases same with rfl | ⟨-, star⟩
      · exact ⟨[], cs, rfl, by simp⟩
      · exact absurd star (by decide)
    · obtain ⟨mailbox, h⟩ := tail_reaches sign h
      rcases same with rfl | ⟨-, rfl⟩
      · exact reaches_of_tail mailbox (ih h)
      · rw [star_no_mailbox lawful] at mailbox
        cases mailbox

theorem starred_unchained {cs out : List Char} (lawful : u.Lawful) (starred : Starred u cs out)
    (unchained : Unchained u cs) : Unchained u out := by
  induction starred with
  | nil => exact unchained
  | cons same later ih =>
    refine ⟨?_, ih unchained.2⟩
    rintro rfl reaches
    rcases same with same | ⟨-, star⟩
    · exact unchained.1 same.symm (starred_reaches lawful later reaches)
    · exact absurd star (by decide)

/-- **Masking once is enough** where the signs of mailboxes are not chained: the masked message holds no mailbox, and
masking it again changes nothing. -/
theorem masked_once (lawful : u.Lawful) (msg : String) (unchained : Unchained u msg.toList) :
    Mailless u (maskSensitiveData u msg).toList ∧
      maskSensitiveData u (maskSensitiveData u msg) = maskSensitiveData u msg := by
  have starred := numbers_starred lawful none msg.toList
  have mailless := mailboxes_masked lawful none _ (starred_unchained lawful starred unchained)
  have stands : ¬ StandsAfter u none (maskMailboxes u none (maskNumbers u none msg.toList)) := fun stands =>
    numbers_masked lawful none msg.toList (mailboxes_add_none lawful none _ stands)
  unfold maskSensitiveData
  rw [String.toList_ofList, numbers_fixed lawful stands, mailboxes_fixed mailless]
  exact ⟨mailless, rfl⟩

namespace Sample

/-- The classes in ASCII. -/
def ascii : Alphabet := ⟨fun c => c.isAlphanum || c = '_', Char.isDigit⟩

theorem ascii_lawful : ascii.Lawful where
  digit c digit := by simp [ascii, Char.isAlphanum, show c.isDigit = true from digit]
  star := rfl
  at_ := rfl

theorem masked_stands_not_payment :
    ¬ StandsAfter ascii none (maskSensitiveData ascii "12345678 paid 250 to asha@bank.example").toList :=
  masked_stands_not ascii_lawful _

example : maskSensitiveData ascii "12345678 to a@b.in" = "****5678 to ***@b.in" := by decide +kernel

theorem masked_once_mail : Mailless ascii (maskSensitiveData ascii "a@b.in").toList ∧
    maskSensitiveData ascii (maskSensitiveData ascii "a@b.in") = maskSensitiveData ascii "a@b.in" := by
  have other : ∀ {c : Char} {p : Prop}, c ≠ '@' → c = '@' → p := fun no yes => absurd yes no
  have unchained : Unchained ascii ['a', '@', 'b', '.', 'i', 'n'] :=
    ⟨other (by decide), fun _ => unreached (by decide), other (by decide), other (by decide), other (by decide),
      other (by decide), trivial⟩
  exact masked_once ascii_lawful "a@b.in" unchained

example : maskSensitiveData ascii "x@a.co@b.com" = "***@a.co@b.com" := by decide +kernel

theorem numbers_exact_payment :
    maskNumbers ascii none (maskNumbers ascii none "12345678 paid 250".toList) =
      maskNumbers ascii none "12345678 paid 250".toList :=
  (numbers_exact ascii_lawful _).2.2

end Sample

end UnionBank.Masking
