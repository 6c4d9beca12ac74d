import UnionBank.Disclosure

/-!
# Amounts in queries

`extract_amount_range`: the phrases that its patterns find, the numerals in them, and what `Decimal` makes of these.
A second point ends the query with an exception, the full stop behind an amount with a decimal point among them.

- `amountAfter`, `betweenPattern`: the patterns; `Phrases`: what they find, with the sides that count;
- `IsAmount`: the texts that stand for amounts; `numeral`, `numeralValue`: the numeral in one and its value;
- `Extracts`: the bounds are the values of the numerals; `extracts_iff`.
-/

namespace UnionBank

namespace Analyzr

open Regex

/-! ## The patterns -/

section Patterns

variable (c : Classes)

def blanks (r : Regex) : Regex := seq (many c.isSpace) r

/-- `[₹$]`. -/
def sign : Regex := one fun x => (false || decide (x = '₹')) || decide (x = '$')

/-- `[\d,.]`. -/
def isAmountChar (x : Char) : Bool := ((false || c.isDigit x) || decide (x = ',')) || decide (x = '.')

/-- `(\d[\d,.]*)`. -/
def amountPattern : Regex := group (seq (one c.isDigit) (seq (many (isAmountChar c)) empty))

/-- `\s*[₹$]?\s*(\d[\d,.]*)`, before the rest of the pattern. -/
def signedAmount (r : Regex) : Regex := blanks c (seq (alt sign empty) (blanks c (seq (amountPattern c) r)))

/-- A word, and an amount after it. -/
def amountAfter (word : Regex) : Regex := seq word (signedAmount c empty)

def betweenPattern (between and : Regex) : Regex :=
  seq between (signedAmount c (blanks c (seq and (signedAmount c empty))))

/-- `[₹$]\s?(\d[\d,.]*)`. -/
def amountPhrase : Regex := seq sign (seq (alt (one c.isSpace) empty) (seq (amountPattern c) empty))

/-- The one part of a pattern. -/
def word (pattern : String) : Regex :=
  match compile c pattern with
  | some (seq part _) => part
  | _ => empty

/-- The words before a smallest amount. -/
def leastWord : Regex := word c "(?:over|more\\s+than|above|greater\\s+than|exceeding|>)"

/-- The words before a largest amount. -/
def mostWord : Regex := word c "(?:under|less\\s+than|below|up\\s+to|<)"

def betweenWord : Regex := word c "(?:between)"

def andWord : Regex := word c "(?:and|-|to)"

theorem compile_least :
    compile c "(?:over|more\\s+than|above|greater\\s+than|exceeding|>)\\s*[₹$]?\\s*(\\d[\\d,.]*)" =
      some (amountAfter c (leastWord c)) := (rfl)

theorem compile_most :
    compile c "(?:under|less\\s+than|below|up\\s+to|<)\\s*[₹$]?\\s*(\\d[\\d,.]*)" =
      some (amountAfter c (mostWord c)) := (rfl)

theorem compile_between :
    compile c "(?:between)\\s*[₹$]?\\s*(\\d[\\d,.]*)\\s*(?:and|-|to)\\s*[₹$]?\\s*(\\d[\\d,.]*)" =
      some (betweenPattern c (betweenWord c) (andWord c)) := (rfl)

theorem compile_exact : compile c "[₹$]\\s?(\\d[\\d,.]*)" = some (amountPhrase c) := rfl

end Patterns

/-! ## Numerals -/

section Numerals

variable (u : Unicode)

/-- A text that stands for an amount: a digit, and digits, commas and points. -/
def IsAmount (t : List Char) : Prop :=
  ∃ x rest, t = x :: rest ∧ u.classes.isDigit x ∧ ∀ y ∈ rest, isAmountChar u.classes y

/-- The numeral of an amount: without the punctuation behind it. -/
def numeral (t : List Char) : List Char := t.rdropWhile fun x => x = ',' || x = '.'

def digitsOf (t : List Char) : List Char := t.filter fun x => x ≠ ',' && x ≠ '.'

/-- The number that digits write. -/
def number (digits : List Char) : ℕ := digits.foldl (fun n x => 10 * n + (u.digit x).getD 0) 0

/-- The digits behind the point. -/
def places (t : List Char) : ℕ := (digitsOf (t.dropWhile (· ≠ '.'))).length

/-- The value of a numeral with thousands commas and a decimal point. -/
def numeralValue (t : List Char) : ℚ := number u (digitsOf t) / 10 ^ places t

variable {u} {t w f : List Char}

theorem digitsOf_append : digitsOf (w ++ f) = digitsOf w ++ digitsOf f := List.filter_append ..

theorem digitsOf_punctuation {x : Char} (h : (x = ',' || x = '.') = true) : digitsOf [x] = [] := by
  rcases Bool.or_eq_true _ _ |>.mp h with h | h <;> simp [digitsOf, of_decide_eq_true h]

theorem places_append {x : Char} (h : (x = ',' || x = '.') = true) : places (t ++ [x]) = places t := by
  unfold places
  rw [List.dropWhile_append]
  split
  · next none =>
    rw [List.isEmpty_iff.mp none]
    have short : digitsOf ([x].dropWhile (· ≠ '.')) = [] := by
      rw [List.dropWhile_cons]
      split
      · rfl
      · exact digitsOf_punctuation h
    rw [short]
    rfl
  · rw [digitsOf_append, digitsOf_punctuation h, List.append_nil]

/-- Punctuation behind a numeral does not change its value. -/
theorem numeralValue_numeral : numeralValue u (numeral t) = numeralValue u t := by
  induction t using List.reverseRecOn with
  | nil => rfl
  | append_singleton t x ih =>
    rw [numeral, List.rdropWhile_concat]
    split
    · next punctuation =>
      have ih' : numeralValue u (t.rdropWhile fun x => x = ',' || x = '.') = numeralValue u t := ih
      rw [ih', numeralValue, numeralValue, places_append punctuation, digitsOf_append, digitsOf_punctuation punctuation,
        List.append_nil]
    · rfl

/-! ## Decimals of amounts -/

theorem foldlM_digits (h : ∀ x ∈ t, u.classes.isDigit x) (n : ℕ) :
    t.foldlM (fun n x => (u.digit x).map fun d => 10 * n + d) n =
      some (t.foldl (fun n x => 10 * n + (u.digit x).getD 0) n) := by
  induction t generalizing n with
  | nil => rfl
  | cons x t ih =>
    obtain ⟨d, digit⟩ := Option.isSome_iff_exists.mp (h x List.mem_cons_self)
    simp only [List.foldlM_cons, List.foldl_cons, digit, Option.map_some, Option.getD_some]
    exact ih (fun y mem => h y (List.mem_cons_of_mem x mem)) _

theorem no_point (h : '.' ∉ t) : ∀ x ∈ t, decide (x ≠ '.') = true := by
  intro x mem
  refine decide_eq_true ?_
  rintro rfl
  exact h mem

/-- Without a point there are only the commas to leave out. -/
theorem filter_comma (h : '.' ∉ t) : (t.filter fun x => x ≠ ',') = digitsOf t := by
  refine List.filter_congr fun x mem => ?_
  have other : x ≠ '.' := fun eq => h (eq ▸ mem)
  simp [other]

theorem mem_filter_comma : '.' ∈ (t.filter fun x => x ≠ ',') ↔ '.' ∈ t := by
  rw [List.mem_filter]
  exact and_iff_left (by decide)

theorem IsAmount.digits (h : IsAmount u t) : ∀ x ∈ digitsOf t, u.classes.isDigit x := by
  obtain ⟨x, rest, rfl, first, all⟩ := h
  intro y mem
  obtain ⟨mem, kept⟩ := List.mem_filter.mp mem
  rcases List.mem_cons.mp mem with rfl | mem
  · exact first
  · have char := all y mem
    simp only [isAmountChar, Bool.false_or, Bool.or_eq_true, decide_eq_true_eq] at char
    simp only [ne_eq, decide_not, Bool.and_eq_true, Bool.not_eq_true', decide_eq_false_iff_not] at kept
    rcases char with (digit | comma) | point
    · exact digit
    · exact absurd comma kept.1
    · exact absurd point kept.2

/-- An amount with one point at most is the decimal of its numeral. -/
theorem amountOf_eq_some (h : IsAmount u t) (points : t.count '.' ≤ 1) :
    ∃ d, amountOf u t = some d ∧ (d.value : ℚ) = numeralValue u (numeral t) := by
  have digits := h.digits
  rw [numeralValue_numeral]
  by_cases point : '.' ∈ t
  · obtain ⟨w, f, rfl, before⟩ := List.eq_append_cons_of_mem point
    have after : '.' ∉ f := by
      rw [List.count_append, List.count_cons_self] at points
      exact List.count_eq_zero.mp (by omega)
    have all : digitsOf (w ++ '.' :: f) = digitsOf w ++ digitsOf f := digitsOf_append
    have behind : places (w ++ '.' :: f) = (digitsOf f).length := by
      rw [places, List.dropWhile_append_of_pos (no_point before)]
      rfl
    have pieces : (digitsOf w ++ '.' :: digitsOf f).splitOn '.' = [digitsOf w, digitsOf f] := by
      have none (s : List Char) : '.' ∉ digitsOf s := by simp [digitsOf]
      rw [List.splitOn_append_cons_self, List.splitOn_eq_singleton (none w), List.splitOn_eq_singleton (none f)]
      rfl
    have text : (w ++ '.' :: f).filter (fun x => x ≠ ',') = digitsOf w ++ '.' :: digitsOf f := by
      rw [List.filter_append, List.filter_cons_of_pos (by decide), filter_comma before, filter_comma after]
    rw [all] at digits
    refine ⟨⟨number u (digitsOf w ++ digitsOf f), (digitsOf f).length⟩, ?_, ?_⟩
    · simp only [amountOf, Decimal.parse, text, pieces, foldlM_digits digits]
      rfl
    · rw [numeralValue, all, behind]
      rfl
  · have whole : places t = 0 := by
      rw [places, List.dropWhile_eq_nil_iff.mpr (no_point point)]
      rfl
    have pieces : (digitsOf t).splitOn '.' = [digitsOf t] := List.splitOn_eq_singleton (by simp [digitsOf])
    refine ⟨⟨number u (digitsOf t), 0⟩, ?_, ?_⟩
    · simp only [amountOf, Decimal.parse, filter_comma point, pieces, foldlM_digits digits]
      rfl
    · rw [numeralValue, whole]
      rfl

/-- A second point is an `InvalidOperation`. -/
theorem amountOf_eq_none (points : 2 ≤ t.count '.') : amountOf u t = none := by
  obtain ⟨w, f, rfl, before⟩ := List.eq_append_cons_of_mem (List.count_pos_iff.mp (show 0 < t.count '.' by omega))
  have more : '.' ∈ f := by
    rw [List.count_append, List.count_cons_self, List.count_eq_zero.mpr before] at points
    exact List.count_pos_iff.mp (by omega)
  obtain ⟨m, l, rfl, -⟩ := List.eq_append_cons_of_mem more
  have keep (s s' : List Char) : (s ++ '.' :: s').filter (fun x => x ≠ ',') =
      s.filter (fun x => x ≠ ',') ++ '.' :: s'.filter fun x => x ≠ ',' := by
    rw [List.filter_append, List.filter_cons_of_pos (by decide)]
  obtain ⟨a, as, ha⟩ := List.exists_cons_of_ne_nil (List.splitOn_ne_nil '.' (w.filter fun x => x ≠ ','))
  obtain ⟨b, bs, hb⟩ := List.exists_cons_of_ne_nil (List.splitOn_ne_nil '.' (m.filter fun x => x ≠ ','))
  obtain ⟨e, es, he⟩ := List.exists_cons_of_ne_nil (List.splitOn_ne_nil '.' (l.filter fun x => x ≠ ','))
  rw [amountOf, Decimal.parse, keep, keep, List.splitOn_append_cons_self, List.splitOn_append_cons_self, ha, hb, he]
  cases as with
  | nil => cases bs <;> rfl
  | cons a' as => cases as <;> rfl

end Numerals

/-! ## Phrases -/

/-- What the patterns find in a query. -/
structure Phrases where
  least : Option (List Char)
  most : Option (List Char)
  between : Option (List Char × List Char)
  exact : Option (List Char)

def oneGroup : Option (List (List Char)) → Option (List Char)
  | some [t] => some t
  | _ => none

def twoGroups : Option (List (List Char)) → Option (List Char × List Char)
  | some [t, t'] => some (t, t')
  | _ => none

/-- Groups are one, or are as good as none. -/
theorem oneGroup_cases {P : Option (List (List Char)) → Prop} (found : ∀ t, P (some [t])) (missing : P none)
    (empty : P none → P (some [])) (more : ∀ t t' ts, P none → P (some (t :: t' :: ts)))
    (groups : Option (List (List Char))) : P groups :=
  match groups with
  | some [t] => found t
  | none => missing
  | some [] => empty missing
  | some (t :: t' :: ts) => more t t' ts missing

theorem twoGroups_cases {P : Option (List (List Char)) → Prop} (found : ∀ t t', P (some [t, t'])) (missing : P none)
    (empty : P none → P (some [])) (one : ∀ t, P none → P (some [t]))
    (more : ∀ t t' t'' ts, P none → P (some (t :: t' :: t'' :: ts))) (groups : Option (List (List Char))) : P groups :=
  match groups with
  | some [t, t'] => found t t'
  | none => missing
  | some [] => empty missing
  | some [t] => one t missing
  | some (t :: t' :: t'' :: ts) => more t t' t'' ts missing

section Extraction

variable (u : Unicode) (query : String)

def phrases : Phrases :=
  let c := u.classes
  let text := (u.lower query).toList
  { least := oneGroup ((amountAfter c (leastWord c)).search text)
    most := oneGroup ((amountAfter c (mostWord c)).search text)
    between := twoGroups ((betweenPattern c (betweenWord c) (andWord c)).search text)
    exact := oneGroup ((amountPhrase c).search text) }

/-- The amounts that are read. A sign alone only counts without any of the words. -/
def Phrases.amounts (p : Phrases) : List (List Char) :=
  p.least.toList ++ p.most.toList ++
    match p.between with
    | some (least, most) => [least, most]
    | none => if p.least = none ∧ p.most = none then p.exact.toList else []

/-- The decimal of an amount that may be missing. -/
def optionalAmount : Option (List Char) → Option (Option Decimal)
  | some t => some <$> amountOf u t
  | none => some none

/-- The bounds that phrases stand for. -/
def Phrases.bounds (p : Phrases) : Option (Option Decimal × Option Decimal) :=
  match optionalAmount u p.least, optionalAmount u p.most with
  | some minAmt, some maxAmt =>
    match p.between with
    | some (least, most) => do
      let least ← amountOf u least
      let most ← amountOf u most
      pure (some least, some most)
    | none =>
      match minAmt, maxAmt, p.exact with
      | none, none, some amount => do
        let val ← amountOf u amount
        pure (some val, some val)
      | _, _, _ => pure (minAmt, maxAmt)
  | _, _ => none

/-- What comes after the first two patterns. -/
theorem bounds_tail (minAmt maxAmt : Option Decimal) (between exact : Option (List (List Char))) :
    (do
      let (minAmt, maxAmt) ← match between with
        | some [least, most] => do
          let least ← amountOf u least
          let most ← amountOf u most
          pure (some least, some most)
        | _ => pure (minAmt, maxAmt)
      match minAmt, maxAmt, exact with
      | none, none, some [amount] => do
        let val ← amountOf u amount
        pure (some val, some val)
      | _, _, _ => pure (minAmt, maxAmt)) =
    (match twoGroups between with
    | some (least, most) => do
      let least ← amountOf u least
      let most ← amountOf u most
      pure (some least, some most)
    | none =>
      match minAmt, maxAmt, oneGroup exact with
      | none, none, some amount => do
        let val ← amountOf u amount
        pure (some val, some val)
      | _, _, _ => pure (minAmt, maxAmt) : Option (Option Decimal × Option Decimal)) := by
  induction between using twoGroups_cases with
  | empty h => exact h
  | one _ h => exact h
  | more _ _ _ _ h => exact h
  | found t t' =>
    simp only [twoGroups]
    cases amountOf u t with
    | none => rfl
    | some _ => cases amountOf u t' <;> rfl
  | missing =>
    cases minAmt with
    | some _ => rfl
    | none =>
      cases maxAmt with
      | some _ => rfl
      | none =>
        induction exact using oneGroup_cases with
        | empty h => exact h
        | more _ _ _ h => exact h
        | _ => rfl

theorem extractAmountRange_eq : extractAmountRange u query = (phrases u query).bounds u := by
  unfold extractAmountRange search phrases
  simp only [compile_least, compile_most, compile_between, compile_exact, Option.bind_some]
  generalize (amountAfter _ (leastWord _)).search _ = least, (amountAfter _ (mostWord _)).search _ = most,
    (betweenPattern _ _ _).search _ = between, (amountPhrase _).search _ = exact
  induction least using oneGroup_cases with
  | empty h => exact h
  | more _ _ _ h => exact h
  | missing =>
    induction most using oneGroup_cases with
    | empty h => exact h
    | more _ _ _ h => exact h
    | missing => exact bounds_tail u none none between exact
    | found t =>
      simp only [Phrases.bounds, oneGroup, optionalAmount]
      cases amountOf u t with
      | none => rfl
      | some d => exact bounds_tail u none (some d) between exact
  | found t =>
    simp only [Phrases.bounds, oneGroup, optionalAmount]
    cases amountOf u t with
    | none => rfl
    | some d =>
      induction most using oneGroup_cases with
      | empty h => exact h
      | more _ _ _ h => exact h
      | missing => exact bounds_tail u (some d) none between exact
      | found t' =>
        dsimp only
        cases amountOf u t' with
        | none => rfl
        | some d' => exact bounds_tail u (some d) (some d') between exact

end Extraction

/-! ## What the patterns find -/

section Found

variable {u : Unicode} {s text t t' : List Char} {g : List (List Char)}

/-- A phrase with these amounts stands in the text, and the last of them ends there. -/
def StandsIn (u : Unicode) (pattern : Regex) (amounts : List (List Char)) (text : List Char) : Prop :=
  (∀ t ∈ amounts, IsAmount u t) ∧
    ∃ before s rest, text = before ++ s ++ rest ∧ Matches pattern s amounts ∧
      ∀ x ∈ rest.head?, ¬isAmountChar u.classes x

theorem isAmount_of_matches (matched : Matches (amountPattern u.classes) s g) : g = [s] ∧ IsAmount u s := by
  rcases matched with _ | _ | _ | _ | _ | _ | ⟨matched⟩
  rcases matched with _ | _ | _ | ⟨first, more⟩
  rcases first with _ | ⟨digit⟩
  rcases more with _ | _ | _ | ⟨chars, last⟩
  rcases chars with _ | _ | ⟨all⟩
  cases last
  exact ⟨by simp, _, _, by simp, digit, all⟩

theorem greedy_amountPattern : Greedy (isAmountChar u.classes) (seq (amountPattern u.classes) empty) :=
  greedy_seq_empty (greedy_group (greedy_seq (greedy_seq_empty greedy_many)))

theorem greedy_signedAmount {r : Regex} (h : Greedy (isAmountChar u.classes) (seq (amountPattern u.classes) r)) :
    Greedy (isAmountChar u.classes) (signedAmount u.classes r) :=
  greedy_seq (greedy_seq (greedy_seq h))

theorem matches_seq_plain {r r' : Regex} (matched : Matches (seq r r') s g) (plain : r.plain) :
    ∃ s', Matches r' s' g := by
  rcases matched with _ | _ | _ | ⟨first, rest⟩
  rw [first.plain plain]
  exact ⟨_, rest⟩

/-- The groups of an amount and of the rest of the pattern. -/
theorem matches_signedAmount {r : Regex} (matched : Matches (signedAmount u.classes r) s g) :
    ∃ t s' g', g = t :: g' ∧ IsAmount u t ∧ Matches r s' g' := by
  obtain ⟨_, matched⟩ := matches_seq_plain matched rfl
  obtain ⟨_, matched⟩ := matches_seq_plain matched rfl
  obtain ⟨_, matched⟩ := matches_seq_plain matched rfl
  rcases matched with _ | _ | _ | ⟨amount, rest⟩
  obtain ⟨rfl, is⟩ := isAmount_of_matches amount
  exact ⟨_, _, _, rfl, is, rest⟩

theorem matches_amountAfter {word : Regex} (plain : word.plain) (matched : Matches (amountAfter u.classes word) s g) :
    ∃ t, g = [t] ∧ IsAmount u t := by
  obtain ⟨_, matched⟩ := matches_seq_plain matched plain
  obtain ⟨t, _, _, rfl, is, rest⟩ := matches_signedAmount matched
  cases rest
  exact ⟨t, rfl, is⟩

theorem matches_amountPhrase (matched : Matches (amountPhrase u.classes) s g) : ∃ t, g = [t] ∧ IsAmount u t := by
  obtain ⟨_, matched⟩ := matches_seq_plain matched rfl
  obtain ⟨_, matched⟩ := matches_seq_plain matched rfl
  rcases matched with _ | _ | _ | ⟨amount, rest⟩
  obtain ⟨rfl, is⟩ := isAmount_of_matches amount
  cases rest
  exact ⟨_, rfl, is⟩

theorem matches_between {between and : Regex} (plain : between.plain) (plain' : and.plain)
    (matched : Matches (betweenPattern u.classes between and) s g) :
    ∃ t t', g = [t, t'] ∧ IsAmount u t ∧ IsAmount u t' := by
  obtain ⟨_, matched⟩ := matches_seq_plain matched plain
  obtain ⟨t, _, _, rfl, is, rest⟩ := matches_signedAmount matched
  obtain ⟨_, rest⟩ := matches_seq_plain rest rfl
  obtain ⟨_, rest⟩ := matches_seq_plain rest plain'
  obtain ⟨t', _, _, rfl, is', rest⟩ := matches_signedAmount rest
  cases rest
  exact ⟨t, t', rfl, is, is'⟩

/-- The first match of a pattern for one amount, if the text has one. -/
theorem oneGroup_search {pattern : Regex} (greedy : Greedy (isAmountChar u.classes) pattern)
    (groups : ∀ s g, Matches pattern s g → ∃ t, g = [t] ∧ IsAmount u t) :
    (oneGroup (pattern.search text) = none ↔ ∀ before s rest g, text = before ++ s ++ rest → ¬Matches pattern s g) ∧
      ∀ t ∈ oneGroup (pattern.search text), StandsIn u pattern [t] text := by
  rw [← search_eq_none_iff]
  cases found : pattern.search text with
  | none => exact ⟨⟨fun _ => rfl, fun _ => rfl⟩, nofun⟩
  | some g =>
    obtain ⟨before, s, rest, split, matched, stop⟩ := search_greedy greedy found
    obtain ⟨t, rfl, is⟩ := groups s g matched
    refine ⟨⟨nofun, nofun⟩, fun t' mem => ?_⟩
    cases mem
    exact ⟨List.forall_mem_singleton.mpr is, before, s, rest, split, matched, stop⟩

theorem twoGroups_search {pattern : Regex} (greedy : Greedy (isAmountChar u.classes) pattern)
    (groups : ∀ s g, Matches pattern s g → ∃ t t', g = [t, t'] ∧ IsAmount u t ∧ IsAmount u t') :
    (twoGroups (pattern.search text) = none ↔ ∀ before s rest g, text = before ++ s ++ rest → ¬Matches pattern s g) ∧
      ∀ p ∈ twoGroups (pattern.search text), StandsIn u pattern [p.1, p.2] text := by
  rw [← search_eq_none_iff]
  cases found : pattern.search text with
  | none => exact ⟨⟨fun _ => rfl, fun _ => rfl⟩, nofun⟩
  | some g =>
    obtain ⟨before, s, rest, split, matched, stop⟩ := search_greedy greedy found
    obtain ⟨t, t', rfl, is, is'⟩ := groups s g matched
    refine ⟨⟨nofun, nofun⟩, fun p mem => ?_⟩
    cases mem
    exact ⟨by simp [is, is'], before, s, rest, split, matched, stop⟩

/-- No part of the text matches. -/
def Missing (pattern : Regex) (text : List Char) : Prop :=
  ∀ before s rest g, text = before ++ s ++ rest → ¬Matches pattern s g

/-- The phrases are those of the text, each with the whole amount in it. -/
structure Recognised (u : Unicode) (text : List Char) (p : Phrases) : Prop where
  least : (p.least = none ↔ Missing (amountAfter u.classes (leastWord u.classes)) text) ∧
    ∀ t ∈ p.least, StandsIn u (amountAfter u.classes (leastWord u.classes)) [t] text
  most : (p.most = none ↔ Missing (amountAfter u.classes (mostWord u.classes)) text) ∧
    ∀ t ∈ p.most, StandsIn u (amountAfter u.classes (mostWord u.classes)) [t] text
  between :
    (p.between = none ↔ Missing (betweenPattern u.classes (betweenWord u.classes) (andWord u.classes)) text) ∧
      ∀ b ∈ p.between, StandsIn u (betweenPattern u.classes (betweenWord u.classes) (andWord u.classes)) [b.1, b.2] text
  exact : (p.exact = none ↔ Missing (amountPhrase u.classes) text) ∧
    ∀ t ∈ p.exact, StandsIn u (amountPhrase u.classes) [t] text

theorem recognised (u : Unicode) (query : String) : Recognised u (u.lower query).toList (phrases u query) := by
  have after (word : Regex) : Greedy (isAmountChar u.classes) (amountAfter u.classes word) :=
    greedy_seq (greedy_signedAmount greedy_amountPattern)
  constructor
  · exact oneGroup_search (after _) fun _ _ => matches_amountAfter rfl
  · exact oneGroup_search (after _) fun _ _ => matches_amountAfter rfl
  · refine twoGroups_search ?_ fun _ _ => matches_between rfl rfl
    exact greedy_seq (greedy_signedAmount (greedy_seq (greedy_seq (greedy_seq (greedy_signedAmount greedy_amountPattern)))))
  · exact oneGroup_search (greedy_seq (greedy_seq greedy_amountPattern)) fun _ _ => matches_amountPhrase

theorem Recognised.isAmount {p : Phrases} (recognised : Recognised u text p) : ∀ t ∈ p.amounts, IsAmount u t := by
  intro t mem
  rcases List.mem_append.mp mem with mem | mem
  · rcases List.mem_append.mp mem with mem | mem
    · exact (recognised.least.2 t (Option.mem_toList.mp mem)).1 t (List.mem_singleton_self t)
    · exact (recognised.most.2 t (Option.mem_toList.mp mem)).1 t (List.mem_singleton_self t)
  · cases between : p.between with
    | some b =>
      rw [between] at mem
      exact (recognised.between.2 b between).1 t mem
    | none =>
      rw [between] at mem
      dsimp only at mem
      split at mem
      · exact (recognised.exact.2 t (Option.mem_toList.mp mem)).1 t (List.mem_singleton_self t)
      · cases mem

end Found

/-! ## Extraction -/

/-- The bound is there, and is the value of the amount's numeral. -/
def Means (u : Unicode) (bound : Option Decimal) (t : List Char) : Prop :=
  ∃ d, bound = some d ∧ (d.value : ℚ) = numeralValue u (numeral t)

/-- At most one decimal point. -/
def IsNumeral (t : List Char) : Prop := (numeral t).count '.' ≤ 1

/-- The bounds are those that the phrases of numerals name. -/
structure Named (u : Unicode) (p : Phrases) (bounds : Option Decimal × Option Decimal) : Prop where
  least : p.between = none → ∀ t ∈ p.least, IsNumeral t → Means u bounds.1 t
  most : p.between = none → ∀ t ∈ p.most, IsNumeral t → Means u bounds.2 t
  between : ∀ b ∈ p.between, IsNumeral b.1 → IsNumeral b.2 → Means u bounds.1 b.1 ∧ Means u bounds.2 b.2
  ordered : ∀ b ∈ p.between, IsNumeral b.1 → IsNumeral b.2 →
    numeralValue u (numeral b.1) ≤ numeralValue u (numeral b.2) →
      ∃ d d', bounds = (some d, some d') ∧ (d.value : ℚ) ≤ d'.value
  exact : p.between = none → p.least = none → p.most = none →
    ∀ t ∈ p.exact, IsNumeral t → Means u bounds.1 t ∧ Means u bounds.2 t

/-- The extraction does not raise, and its bounds are those of the phrases. -/
def Extracts (u : Unicode) (query : String) : Prop :=
  ∃ bounds, extractAmountRange u query = some bounds ∧ Named u (phrases u query) bounds

section Bounds

variable {u : Unicode} {p : Phrases}

theorem means_some {d : Decimal} {t : List Char} (value : (d.value : ℚ) = numeralValue u (numeral t)) :
    Means u (some d) t :=
  ⟨d, rfl, value⟩

theorem optionalAmount_eq_some {t : Option (List Char)}
    (read : ∀ x ∈ t, ∃ d, amountOf u x = some d ∧ (d.value : ℚ) = numeralValue u (numeral x)) :
    ∃ bound, optionalAmount u t = some bound ∧ (bound = none ↔ t = none) ∧ ∀ x ∈ t, Means u bound x := by
  cases t with
  | none => exact ⟨none, rfl, by simp, nofun⟩
  | some x =>
    obtain ⟨d, parsed, value⟩ := read x rfl
    refine ⟨some d, by rw [optionalAmount, parsed]; rfl, by simp, fun x' mem => ?_⟩
    cases mem
    exact means_some value

theorem optionalAmount_eq_none {t : Option (List Char)} {x : List Char} (mem : x ∈ t) (fails : amountOf u x = none) :
    optionalAmount u t = none := by
  cases mem
  rw [optionalAmount, fails]
  rfl

theorem Named.of_none {bounds : Option Decimal × Option Decimal} (between : p.between = none)
    (least : ∀ t ∈ p.least, Means u bounds.1 t) (most : ∀ t ∈ p.most, Means u bounds.2 t)
    (exact : p.least = none → p.most = none → ∀ t ∈ p.exact, Means u bounds.1 t ∧ Means u bounds.2 t) :
    Named u p bounds where
  least _ t mem _ := least t mem
  most _ t mem _ := most t mem
  between _ mem := by cases between.symm.trans mem
  ordered _ mem := by cases between.symm.trans mem
  exact _ none none' t mem _ := exact none none' t mem

theorem bounds_named
    (read : ∀ t ∈ p.amounts, ∃ d, amountOf u t = some d ∧ (d.value : ℚ) = numeralValue u (numeral t)) :
    ∃ bounds, p.bounds u = some bounds ∧ Named u p bounds := by
  obtain ⟨minAmt, minRead, minNone, least⟩ := optionalAmount_eq_some (t := p.least) fun t mem =>
    read t (List.mem_append_left _ (List.mem_append_left _ (Option.mem_toList.mpr mem)))
  obtain ⟨maxAmt, maxRead, maxNone, most⟩ := optionalAmount_eq_some (t := p.most) fun t mem =>
    read t (List.mem_append_left _ (List.mem_append_right _ (Option.mem_toList.mpr mem)))
  rw [Phrases.bounds, minRead, maxRead]
  dsimp only
  cases between : p.between with
  | some b =>
    obtain ⟨d, parsed, value⟩ := read b.1 (List.mem_append_right _ (by simp [between]))
    obtain ⟨d', parsed', value'⟩ := read b.2 (List.mem_append_right _ (by simp [between]))
    refine ⟨(some d, some d'), by simp only [parsed, parsed']; rfl, ?_⟩
    constructor
    · intro none
      rw [between] at none
      cases none
    · intro none
      rw [between] at none
      cases none
    · intro b' mem _ _
      cases between.symm.trans mem
      exact ⟨means_some value, means_some value'⟩
    · intro b' mem _ _ ordered
      cases between.symm.trans mem
      exact ⟨d, d', rfl, by rw [value, value']; exact ordered⟩
    · intro none
      rw [between] at none
      cases none
  | none =>
    by_cases alone : p.least = none ∧ p.most = none
    · obtain rfl := minNone.mpr alone.1
      obtain rfl := maxNone.mpr alone.2
      cases exact : p.exact with
      | none =>
        refine ⟨(none, none), rfl, .of_none between least most fun _ _ t mem => ?_⟩
        cases exact.symm.trans mem
      | some t =>
        obtain ⟨d, parsed, value⟩ := read t (List.mem_append_right _ (by simp [between, alone, exact]))
        refine ⟨(some d, some d), by simp only [parsed]; rfl, .of_none between ?_ ?_ fun _ _ t' mem => ?_⟩
        · simp [alone]
        · simp [alone]
        · cases exact.symm.trans mem
          exact ⟨means_some value, means_some value⟩
    · refine ⟨(minAmt, maxAmt), ?_, .of_none between least most fun none none' => absurd ⟨none, none'⟩ alone⟩
      cases minAmt with
      | some _ => rfl
      | none =>
        cases maxAmt with
        | some _ => rfl
        | none => exact absurd ⟨minNone.mp rfl, maxNone.mp rfl⟩ alone

theorem bounds_eq_none {t : List Char} (mem : t ∈ p.amounts) (fails : amountOf u t = none) : p.bounds u = none := by
  rw [Phrases.bounds]
  rcases List.mem_append.mp mem with mem | mem
  · rcases List.mem_append.mp mem with mem | mem
    · rw [optionalAmount_eq_none (Option.mem_toList.mp mem) fails]
    · rw [optionalAmount_eq_none (Option.mem_toList.mp mem) fails]
      cases optionalAmount u p.least <;> rfl
  · cases minRead : optionalAmount u p.least with
    | none => rfl
    | some minAmt =>
      cases maxRead : optionalAmount u p.most with
      | none => rfl
      | some maxAmt =>
        dsimp only
        cases between : p.between with
        | some b =>
          rw [between] at mem
          rcases List.mem_pair.mp mem with rfl | rfl
          · simp [fails]
          · simp [fails]
        | none =>
          rw [between] at mem
          dsimp only at mem
          split at mem
          · next alone =>
            rw [alone.1] at minRead
            rw [alone.2] at maxRead
            cases minRead
            cases maxRead
            rw [Option.mem_toList.mp mem]
            simp [fails]
          · cases mem

end Bounds

/-- **Which queries are read.** The phrases are those of the text; the extraction does not raise and its bounds are the
values of the numerals unless one of the amounts that are read has a second point in it or behind it. -/
theorem extracts_iff (u : Unicode) (query : String) :
    Recognised u (u.lower query).toList (phrases u query) ∧
      (Extracts u query ↔ ∀ t ∈ (phrases u query).amounts, t.count '.' ≤ 1) := by
  have phrased := recognised u query
  refine ⟨phrased, ?_, ?_⟩
  · rintro ⟨bounds, extracted, -⟩ t mem
    by_contra more
    rw [extractAmountRange_eq, bounds_eq_none mem (amountOf_eq_none (not_le.mp more))] at extracted
    cases extracted
  · intro points
    obtain ⟨bounds, read, named⟩ := bounds_named (u := u) fun t mem =>
      amountOf_eq_some (phrased.isAmount t mem) (points t mem)
    exact ⟨bounds, by rw [extractAmountRange_eq, read], named⟩

end Analyzr

namespace Sample

open Analyzr

/-- The full stop of the sentence is a second point. -/
theorem fullStop_raises : ¬Extracts ascii "deposits over 1,000.50." := by
  rintro ⟨bounds, extracted, -⟩
  have raises : extractAmountRange ascii "deposits over 1,000.50." = none := by decide +kernel
  rw [raises] at extracted
  cases extracted

end Sample

end UnionBank
