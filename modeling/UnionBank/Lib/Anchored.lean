import UnionBank.Lib.Regex

/-!
# Counted repetitions and the end of the text

- `Regex.times`, `Regex.upTo`, `Regex.atLeast`: counted repetitions of a class, and what they match;
- `Regex.matchEnd`: a match from the beginning of a text up to its end, where `$` takes a last newline for the end too;
- `trim`: a text without the characters of a class at its ends; `trim_eq_self_iff`.
-/

namespace Regex

variable {p : Char → Bool} {r r' : Regex} {s : List Char} {g : List (List Char)} {n : ℕ}

/-! ## Counted repetitions -/

/-- `p{n}`. -/
def times (p : Char → Bool) : ℕ → Regex
  | 0 => empty
  | n + 1 => seq (one p) (times p n)

/-- `p{0,n}`. -/
def upTo (p : Char → Bool) : ℕ → Regex
  | 0 => empty
  | n + 1 => alt (seq (one p) (upTo p n)) empty

/-- `p{n,}`. -/
def atLeast (p : Char → Bool) (n : ℕ) : Regex := seq (times p n) (many p)

theorem matches_empty : Matches empty s g ↔ s = [] ∧ g = [] := by
  constructor
  · intro h
    cases h
    exact ⟨rfl, rfl⟩
  · rintro ⟨rfl, rfl⟩
    exact .empty

theorem matches_one : Matches (one p) s g ↔ ∃ c, s = [c] ∧ p c ∧ g = [] := by
  constructor
  · intro h
    cases h with
    | one here => exact ⟨_, rfl, here, rfl⟩
  · rintro ⟨c, rfl, here, rfl⟩
    exact .one here

theorem matches_many : Matches (many p) s g ↔ (∀ c ∈ s, p c) ∧ g = [] := by
  constructor
  · intro h
    cases h with
    | many all => exact ⟨all, rfl⟩
  · rintro ⟨all, rfl⟩
    exact .many all

theorem matches_seq : Matches (seq r r') s g ↔
    ∃ s₁ s₂ g₁ g₂, s = s₁ ++ s₂ ∧ g = g₁ ++ g₂ ∧ Matches r s₁ g₁ ∧ Matches r' s₂ g₂ := by
  constructor
  · intro h
    cases h with
    | seq first second => exact ⟨_, _, _, _, rfl, rfl, first, second⟩
  · rintro ⟨s₁, s₂, g₁, g₂, rfl, rfl, first, second⟩
    exact .seq first second

theorem matches_alt : Matches (alt r r') s g ↔ Matches r s g ∨ Matches r' s g := by
  constructor
  · intro h
    cases h with
    | left h => exact .inl h
    | right h => exact .inr h
  · rintro (h | h)
    · exact .left h
    · exact .right h

/-- One character, and then the rest. -/
theorem matches_one_seq : Matches (seq (one p) r) s g ↔ ∃ c s', s = c :: s' ∧ p c ∧ Matches r s' g := by
  rw [matches_seq]
  constructor
  · rintro ⟨s₁, s₂, g₁, g₂, rfl, rfl, first, second⟩
    obtain ⟨c, rfl, here, rfl⟩ := matches_one.mp first
    exact ⟨c, s₂, rfl, here, second⟩
  · rintro ⟨c, s', rfl, here, rest⟩
    exact ⟨[c], s', [], g, rfl, rfl, .one here, rest⟩

theorem matches_times : Matches (times p n) s g ↔ s.length = n ∧ (∀ c ∈ s, p c) ∧ g = [] := by
  induction n generalizing s with
  | zero =>
    rw [times, matches_empty, List.length_eq_zero_iff]
    constructor
    · rintro ⟨rfl, rfl⟩
      exact ⟨rfl, nofun, rfl⟩
    · rintro ⟨rfl, -, rfl⟩
      exact ⟨rfl, rfl⟩
  | succ n ih =>
    rw [times, matches_one_seq]
    constructor
    · rintro ⟨c, s', rfl, here, rest⟩
      obtain ⟨length, all, rfl⟩ := ih.mp rest
      exact ⟨congrArg (· + 1) length, List.forall_mem_cons.mpr ⟨here, all⟩, rfl⟩
    · rintro ⟨length, all, rfl⟩
      cases s with
      | nil => cases length
      | cons c s' =>
        obtain ⟨here, all⟩ := List.forall_mem_cons.mp all
        exact ⟨c, s', rfl, here, ih.mpr ⟨Nat.succ.inj length, all, rfl⟩⟩

theorem matches_upTo : Matches (upTo p n) s g ↔ s.length ≤ n ∧ (∀ c ∈ s, p c) ∧ g = [] := by
  induction n generalizing s with
  | zero =>
    rw [upTo, matches_empty, Nat.le_zero, List.length_eq_zero_iff]
    constructor
    · rintro ⟨rfl, rfl⟩
      exact ⟨rfl, nofun, rfl⟩
    · rintro ⟨rfl, -, rfl⟩
      exact ⟨rfl, rfl⟩
  | succ n ih =>
    rw [upTo, matches_alt, matches_one_seq, matches_empty]
    constructor
    · rintro (⟨c, s', rfl, here, rest⟩ | ⟨rfl, rfl⟩)
      · obtain ⟨length, all, rfl⟩ := ih.mp rest
        exact ⟨Nat.succ_le_succ length, List.forall_mem_cons.mpr ⟨here, all⟩, rfl⟩
      · exact ⟨Nat.zero_le _, nofun, rfl⟩
    · rintro ⟨length, all, rfl⟩
      cases s with
      | nil => exact .inr ⟨rfl, rfl⟩
      | cons c s' =>
        obtain ⟨here, all⟩ := List.forall_mem_cons.mp all
        exact .inl ⟨c, s', rfl, here, ih.mpr ⟨Nat.le_of_succ_le_succ length, all, rfl⟩⟩

/-- Between `m` and `m + n` of a class. -/
theorem matches_range {m : ℕ} : Matches (seq (times p m) (upTo p n)) s g ↔
    m ≤ s.length ∧ s.length ≤ m + n ∧ (∀ c ∈ s, p c) ∧ g = [] := by
  rw [matches_seq]
  constructor
  · rintro ⟨s₁, s₂, g₁, g₂, rfl, rfl, first, second⟩
    obtain ⟨length, all, rfl⟩ := matches_times.mp first
    obtain ⟨length', all', rfl⟩ := matches_upTo.mp second
    rw [List.length_append]
    exact ⟨by omega, by omega, fun c mem => (List.mem_append.mp mem).elim (all c) (all' c), rfl⟩
  · rintro ⟨least, most, all, rfl⟩
    refine ⟨s.take m, s.drop m, [], [], (List.take_append_drop m s).symm, rfl, matches_times.mpr ⟨?_, ?_, rfl⟩,
      matches_upTo.mpr ⟨?_, ?_, rfl⟩⟩
    · rw [List.length_take]
      omega
    · exact fun c mem => all c (List.mem_of_mem_take mem)
    · rw [List.length_drop]
      omega
    · exact fun c mem => all c (List.mem_of_mem_drop mem)

/-- At least `n` of a class. -/
theorem matches_atLeast : Matches (atLeast p n) s g ↔ n ≤ s.length ∧ (∀ c ∈ s, p c) ∧ g = [] := by
  rw [atLeast, matches_seq]
  constructor
  · rintro ⟨s₁, s₂, g₁, g₂, rfl, rfl, first, second⟩
    obtain ⟨length, all, rfl⟩ := matches_times.mp first
    obtain ⟨all', rfl⟩ := matches_many.mp second
    rw [List.length_append]
    exact ⟨by omega, fun c mem => (List.mem_append.mp mem).elim (all c) (all' c), rfl⟩
  · rintro ⟨least, all, rfl⟩
    refine ⟨s.take n, s.drop n, [], [], (List.take_append_drop n s).symm, rfl, matches_times.mpr ⟨?_, ?_, rfl⟩,
      .many fun c mem => all c (List.mem_of_mem_drop mem)⟩
    · rw [List.length_take]
      omega
    · exact fun c mem => all c (List.mem_of_mem_take mem)

/-! ## The end of the text -/

/-- Whether a match from the beginning ends where `$` matches: at the end, or before a newline at the end. -/
def matchEnd (r : Regex) (cs : List Char) : Bool := (r.ways cs).any fun (rest, _) => rest = [] || rest = ['\n']

theorem matchEnd_iff {cs : List Char} :
    r.matchEnd cs = true ↔ ∃ s g, Matches r s g ∧ (cs = s ∨ cs = s ++ ['\n']) := by
  simp only [matchEnd, List.any_eq_true, Bool.or_eq_true, decide_eq_true_eq, Prod.exists]
  constructor
  · rintro ⟨rest, g, way, ends⟩
    obtain ⟨s, rfl, matched⟩ := mem_ways.mp way
    rcases ends with rfl | rfl
    · exact ⟨s, g, matched, .inl (List.append_nil s)⟩
    · exact ⟨s, g, matched, .inr rfl⟩
  · rintro ⟨s, g, matched, rfl | rfl⟩
    · exact ⟨[], g, mem_ways.mpr ⟨cs, (List.append_nil cs).symm, matched⟩, .inl rfl⟩
    · exact ⟨['\n'], g, mem_ways.mpr ⟨s, rfl, matched⟩, .inr rfl⟩

end Regex

/-! ## Trimming -/

/-- Without the characters of the class at both ends. -/
def trim {α : Type} (p : α → Bool) (cs : List α) : List α := ((cs.dropWhile p).reverse.dropWhile p).reverse

section Trim

variable {α : Type} {p : α → Bool} {cs : List α}

theorem dropWhile_eq_self_iff : cs.dropWhile p = cs ↔ ∀ c ∈ cs.head?, ¬p c := by
  cases cs with
  | nil => simp
  | cons c cs =>
    rw [List.dropWhile_cons]
    split
    · next drops =>
      refine iff_of_false (fun same => ?_) (fun stays => stays c rfl drops)
      have shorter := (List.dropWhile_sublist p (l := cs)).length_le
      rw [same, List.length_cons] at shorter
      omega
    · next stays => simp [stays]

theorem trim_eq_self_iff : trim p cs = cs ↔ (∀ c ∈ cs.head?, ¬p c) ∧ ∀ c ∈ cs.getLast?, ¬p c := by
  constructor
  · intro same
    have lengths := congrArg List.length same
    rw [trim, List.length_reverse] at lengths
    have inner := ((cs.dropWhile p).reverse.dropWhile_sublist p).length_le
    have outer := (cs.dropWhile_sublist p).length_le
    rw [List.length_reverse] at inner
    have left : cs.dropWhile p = cs := (cs.dropWhile_sublist p).eq_of_length_le (by omega)
    have right : cs.reverse.dropWhile p = cs.reverse := by
      rw [left] at lengths
      refine (cs.reverse.dropWhile_sublist p).eq_of_length_le ?_
      rw [List.length_reverse]
      omega
    refine ⟨dropWhile_eq_self_iff.mp left, ?_⟩
    rw [← List.head?_reverse]
    exact dropWhile_eq_self_iff.mp right
  · rintro ⟨first, last⟩
    rw [← List.head?_reverse] at last
    rw [trim, dropWhile_eq_self_iff.mpr first, dropWhile_eq_self_iff.mpr last, List.reverse_reverse]

end Trim
