import Mathlib

/-!
# Regular expressions with groups

Searches of a backtracking engine, over patterns whose repetitions are of single characters.

- `Regex`: the patterns; `Regex.ways`: the ways to match a beginning of a text, in the order the engine tries them;
- `Regex.search`: the groups of the first match at the leftmost place that has one;
- `Regex.Matches`: the texts of a pattern, whatever order they are tried in; `mem_ways`, `search_eq_none_iff`;
- `Regex.Greedy`: patterns that run as far as they can; `search_greedy`;
- `Regex.compile`: a pattern from its text, with the classes of `Classes`.
-/

/-- Patterns; a repetition is of one character at a time, as often as possible first. -/
inductive Regex where
  | empty
  | one (p : Char → Bool)
  | many (p : Char → Bool)
  | seq (r s : Regex)
  | alt (r s : Regex)
  | group (r : Regex)

namespace Regex

/-- What a match leaves of the text, and the groups it has captured. -/
abbrev Way := List Char × List (List Char)

/-- The ways to match any number of characters, the longest first. -/
def manyWays (p : Char → Bool) : List Char → List Way
  | [] => [([], [])]
  | c :: cs => (if p c then manyWays p cs else []) ++ [(c :: cs, [])]

/-- The ways to match a beginning of the text, in the order in which they are tried. -/
def ways : Regex → List Char → List Way
  | empty, cs => [(cs, [])]
  | one _, [] => []
  | one p, c :: cs => if p c then [(cs, [])] else []
  | many p, cs => manyWays p cs
  | seq r s, cs => (r.ways cs).flatMap fun (rest, groups) => (s.ways rest).map fun (rest', more) => (rest', groups ++ more)
  | alt r s, cs => r.ways cs ++ s.ways cs
  | group r, cs => (r.ways cs).map fun (rest, groups) => (rest, cs.take (cs.length - rest.length) :: groups)

/-- The groups of the first match at the leftmost place that has one. -/
def search (r : Regex) : List Char → Option (List (List Char))
  | [] => (r.ways []).head?.map Prod.snd
  | c :: cs => ((r.ways (c :: cs)).head?.map Prod.snd).or (search r cs)

/-- A match at the very beginning is found. -/
theorem search_of_ways {r : Regex} {cs : List Char} (h : r.ways cs ≠ []) : (r.search cs).isSome = true := by
  obtain ⟨way, more, hw⟩ := List.exists_cons_of_ne_nil h
  cases cs with
  | nil => simp [search, hw]
  | cons c cs => simp [search, hw]

theorem many_ways_ne_nil (p : Char → Bool) (cs : List Char) : (many p).ways cs ≠ [] := by
  cases cs <;> simp [ways, manyWays]

/-! ## The language of a pattern -/

/-- A text that a pattern matches, and its groups. -/
inductive Matches : Regex → List Char → List (List Char) → Prop
  | empty : Matches empty [] []
  | one {p : Char → Bool} {c : Char} (h : p c) : Matches (one p) [c] []
  | many {p : Char → Bool} {s : List Char} (h : ∀ c ∈ s, p c) : Matches (many p) s []
  | seq {r r' : Regex} {s s' : List Char} {g g' : List (List Char)} (h : Matches r s g) (h' : Matches r' s' g') :
      Matches (seq r r') (s ++ s') (g ++ g')
  | left {r r' : Regex} {s : List Char} {g : List (List Char)} (h : Matches r s g) : Matches (alt r r') s g
  | right {r r' : Regex} {s : List Char} {g : List (List Char)} (h : Matches r' s g) : Matches (alt r r') s g
  | group {r : Regex} {s : List Char} {g : List (List Char)} (h : Matches r s g) : Matches (group r) s (s :: g)

variable {r : Regex} {cs rest : List Char} {g : List (List Char)}

theorem mem_manyWays {p : Char → Bool} :
    (rest, g) ∈ manyWays p cs ↔ ∃ s, cs = s ++ rest ∧ (∀ c ∈ s, p c) ∧ g = [] := by
  induction cs with
  | nil => simp [manyWays, and_comm]
  | cons c cs ih =>
    rw [manyWays, List.mem_append]
    constructor
    · rintro (more | stop)
      · split at more
        · next here =>
          obtain ⟨s, rfl, all, rfl⟩ := ih.mp more
          exact ⟨c :: s, rfl, List.forall_mem_cons.mpr ⟨here, all⟩, rfl⟩
        · cases more
      · obtain ⟨rfl, rfl⟩ := Prod.mk.inj (List.mem_singleton.mp stop)
        exact ⟨[], rfl, nofun, rfl⟩
    · rintro ⟨s, split, all, rfl⟩
      cases s with
      | nil =>
        rw [List.nil_append] at split
        exact .inr (by rw [split]; exact List.mem_singleton_self _)
      | cons c' s =>
        obtain ⟨rfl, rfl⟩ := List.cons_eq_cons.mp split
        obtain ⟨here, all⟩ := List.forall_mem_cons.mp all
        rw [if_pos here]
        exact .inl (ih.mpr ⟨s, rfl, all, rfl⟩)

/-- The ways to match are the texts of the pattern at the beginning. -/
theorem mem_ways : (rest, g) ∈ r.ways cs ↔ ∃ s, cs = s ++ rest ∧ Matches r s g := by
  induction r generalizing cs rest g with
  | empty =>
    constructor
    · intro way
      obtain ⟨rfl, rfl⟩ := Prod.mk.inj (List.mem_singleton.mp way)
      exact ⟨[], rfl, .empty⟩
    · rintro ⟨s, rfl, matched⟩
      cases matched
      exact List.mem_singleton_self _
  | one p =>
    cases cs with
    | nil =>
      constructor
      · nofun
      · rintro ⟨s, split, matched⟩
        cases matched
        cases split
    | cons c cs =>
      rw [ways]
      constructor
      · intro way
        split at way
        · next here =>
          obtain ⟨rfl, rfl⟩ := Prod.mk.inj (List.mem_singleton.mp way)
          exact ⟨[c], rfl, .one here⟩
        · cases way
      · rintro ⟨s, split, matched⟩
        cases matched with
        | one here =>
          obtain ⟨rfl, rfl⟩ := List.cons_eq_cons.mp split
          rw [if_pos here]
          exact List.mem_singleton_self _
  | many p =>
    rw [ways, mem_manyWays]
    constructor
    · rintro ⟨s, rfl, all, rfl⟩
      exact ⟨s, rfl, .many all⟩
    · rintro ⟨s, rfl, matched⟩
      cases matched with
      | many all => exact ⟨s, rfl, all, rfl⟩
  | seq r r' ih ih' =>
    simp only [ways, List.mem_flatMap, List.mem_map, Prod.exists, Prod.mk.injEq]
    constructor
    · rintro ⟨mid, g₁, way, rest, g₂, way', rfl, rfl⟩
      obtain ⟨s, rfl, matched⟩ := ih.mp way
      obtain ⟨s', rfl, matched'⟩ := ih'.mp way'
      exact ⟨s ++ s', (List.append_assoc s s' rest).symm, .seq matched matched'⟩
    · rintro ⟨s, rfl, matched⟩
      cases matched with
      | @seq _ _ s s' g₁ g₂ matched matched' =>
        exact ⟨s' ++ rest, g₁, ih.mpr ⟨s, List.append_assoc s s' rest, matched⟩, rest, g₂,
          ih'.mpr ⟨s', rfl, matched'⟩, rfl, rfl⟩
  | alt r r' ih ih' =>
    rw [ways, List.mem_append, ih, ih']
    constructor
    · rintro (⟨s, rfl, matched⟩ | ⟨s, rfl, matched⟩)
      · exact ⟨s, rfl, .left matched⟩
      · exact ⟨s, rfl, .right matched⟩
    · rintro ⟨s, rfl, matched⟩
      cases matched with
      | left matched => exact .inl ⟨s, rfl, matched⟩
      | right matched => exact .inr ⟨s, rfl, matched⟩
  | group r ih =>
    simp only [ways, List.mem_map, Prod.exists, Prod.mk.injEq]
    constructor
    · rintro ⟨rest, g', way, rfl, rfl⟩
      obtain ⟨s, rfl, matched⟩ := ih.mp way
      refine ⟨s, rfl, ?_⟩
      simpa using Matches.group matched
    · rintro ⟨s, rfl, matched⟩
      cases matched with
      | @group _ _ g' matched => exact ⟨rest, g', ih.mpr ⟨s, rfl, matched⟩, rfl, by simp⟩

/-- A search finds the first way at the leftmost place that has one. -/
theorem search_eq_some (h : r.search cs = some g) :
    ∃ before here rest, cs = before ++ here ∧ (r.ways here).head? = some (rest, g) := by
  induction cs with
  | nil =>
    obtain ⟨⟨rest, g'⟩, way, rfl⟩ := Option.map_eq_some_iff.mp h
    exact ⟨[], [], rest, rfl, way⟩
  | cons c cs ih =>
    rw [search] at h
    cases first : (r.ways (c :: cs)).head? with
    | some way =>
      rw [first] at h
      cases h
      exact ⟨[], c :: cs, way.1, rfl, first⟩
    | none =>
      rw [first] at h
      obtain ⟨before, here, rest, rfl, way⟩ := ih h
      exact ⟨c :: before, here, rest, rfl, way⟩

/-- A search finds nothing when no part of the text matches. -/
theorem search_eq_none_iff :
    r.search cs = none ↔ ∀ before s rest g, cs = before ++ s ++ rest → ¬Matches r s g := by
  constructor
  · intro nothing before s rest g split matched
    induction before generalizing cs with
    | nil =>
      have way : r.ways cs ≠ [] := List.ne_nil_of_mem (mem_ways.mpr ⟨s, by simpa using split, matched⟩)
      have found := search_of_ways way
      rw [nothing] at found
      cases found
    | cons c before ih =>
      subst split
      have after : r.search (before ++ s ++ rest) = none := (Option.or_eq_none_iff.mp nothing).2
      exact ih after rfl
  · intro never
    cases found : r.search cs with
    | none => rfl
    | some g =>
      obtain ⟨before, here, rest, rfl, first⟩ := search_eq_some found
      obtain ⟨s, rfl, matched⟩ := mem_ways.mp (List.mem_of_mem_head? first)
      exact absurd matched (never before s rest g (List.append_assoc before s rest).symm)

/-- Patterns without groups. -/
def plain : Regex → Bool
  | seq r s => r.plain && s.plain
  | alt r s => r.plain && s.plain
  | group _ => false
  | _ => true

theorem Matches.plain {s : List Char} (matched : Matches r s g) (h : r.plain) : g = [] := by
  induction matched with
  | seq _ _ ih ih' =>
    obtain ⟨left, right⟩ := Bool.and_eq_true_iff.mp h
    rw [ih left, ih' right, List.append_nil]
  | left _ ih => exact ih (Bool.and_eq_true_iff.mp h).1
  | right _ ih => exact ih (Bool.and_eq_true_iff.mp h).2
  | group => cases h
  | _ => rfl

/-- The first way goes on through such characters. -/
def Greedy (p : Char → Bool) (r : Regex) : Prop :=
  ∀ cs rest g, (r.ways cs).head? = some (rest, g) → ∀ c ∈ rest.head?, ¬p c

section Greedy

variable {p : Char → Bool} {r' : Regex}

theorem greedy_many : Greedy p (many p) := by
  intro cs rest g first
  induction cs with
  | nil =>
    cases first
    nofun
  | cons c cs ih =>
    rw [ways, manyWays] at first
    split at first
    · obtain ⟨way, more, eq⟩ := List.exists_cons_of_ne_nil (many_ways_ne_nil p cs)
      rw [ways] at eq
      rw [eq] at first
      exact ih (by rw [ways, eq]; exact first)
    · next stop =>
      cases first
      intro c' mem
      cases mem
      exact stop

theorem greedy_seq (h : Greedy p r') : Greedy p (seq r r') := by
  intro cs rest g first
  rw [ways, List.head?_flatMap] at first
  obtain ⟨⟨mid, g'⟩, -, eq⟩ := List.exists_of_findSome?_eq_some first
  rw [List.head?_map, Option.map_eq_some_iff] at eq
  obtain ⟨⟨rest', g''⟩, first', eq⟩ := eq
  cases eq
  exact h mid rest g'' first'

theorem greedy_seq_empty (h : Greedy p r) : Greedy p (seq r empty) := by
  intro cs rest g first
  have same : (seq r empty).ways cs = r.ways cs := by simp [ways, List.flatMap_singleton']
  rw [same] at first
  exact h cs rest g first

theorem greedy_group (h : Greedy p r) : Greedy p (group r) := by
  intro cs rest g first
  rw [ways, List.head?_map, Option.map_eq_some_iff] at first
  obtain ⟨⟨rest', g'⟩, first', eq⟩ := first
  cases eq
  exact h cs _ g' first'

/-- What a search finds of a greedy pattern, and that it ends there. -/
theorem search_greedy (greedy : Greedy p r) (h : r.search cs = some g) :
    ∃ before s rest, cs = before ++ s ++ rest ∧ Matches r s g ∧ ∀ c ∈ rest.head?, ¬p c := by
  obtain ⟨before, here, rest, rfl, first⟩ := search_eq_some h
  obtain ⟨s, rfl, matched⟩ := mem_ways.mp (List.mem_of_mem_head? first)
  exact ⟨before, s, rest, (List.append_assoc before s rest).symm, matched, greedy _ rest g first⟩

end Greedy

/-! ## Patterns from their texts -/

/-- The classes `\s` and `\d`. -/
structure Classes where
  isSpace : Char → Bool
  isDigit : Char → Bool

/-- A group under construction: whether it captures, its alternatives so far, and the parts of the current one in
reverse. -/
structure Frame where
  captures : Bool
  alternatives : List Regex := []
  parts : List Regex := []

namespace Frame

/-- The alternative that ends here. -/
def current (f : Frame) : Regex := f.parts.foldl (fun r part => seq part r) empty

/-- The whole group. -/
def close (f : Frame) : Regex :=
  let body := f.alternatives.foldl (fun r other => alt other r) f.current
  if f.captures then group body else body

def add (f : Frame) (part : Regex) : Frame := { f with parts := part :: f.parts }

end Frame

variable (classes : Classes)

/-- The class that a letter after a backslash names; other characters stand for themselves. -/
def escaped (c : Char) : Char → Bool :=
  match c with
  | 's' => classes.isSpace
  | 'd' => classes.isDigit
  | _ => fun x => x = c

/-- The postfix operators, on the last part. -/
def repeated (f : Frame) (star : Bool) : Option Frame :=
  match f.parts with
  | one p :: parts => some { f with parts := if star then many p :: parts else many p :: one p :: parts }
  | _ => none

def optional (f : Frame) : Option Frame :=
  match f.parts with
  | part :: parts => some { f with parts := alt part empty :: parts }
  | [] => none

/-- Reads a pattern; `set` is the class between brackets that is being read, and `stack` the groups around `f`. -/
def read : List Char → Option (Char → Bool) → Frame → List Frame → Option Regex
  | [], none, f, [] => some f.close
  | [], _, _, _ => none
  | ']' :: cs, some p, f, stack => read cs none (f.add (one p)) stack
  | '\\' :: c :: cs, some p, f, stack => read cs (some fun x => p x || escaped classes c x) f stack
  | c :: cs, some p, f, stack => read cs (some fun x => p x || x = c) f stack
  | '[' :: cs, none, f, stack => read cs (some fun _ => false) f stack
  | '\\' :: c :: cs, none, f, stack => read cs none (f.add (one (escaped classes c))) stack
  | '(' :: '?' :: ':' :: cs, none, f, stack => read cs none { captures := false } (f :: stack)
  | '(' :: cs, none, f, stack => read cs none { captures := true } (f :: stack)
  | ')' :: cs, none, f, outer :: stack => read cs none (outer.add f.close) stack
  | ')' :: _, none, _, [] => none
  | '|' :: cs, none, f, stack => read cs none { f with alternatives := f.current :: f.alternatives, parts := [] } stack
  | '?' :: cs, none, f, stack => (optional f).bind fun f => read cs none f stack
  | '*' :: cs, none, f, stack => (repeated f true).bind fun f => read cs none f stack
  | '+' :: cs, none, f, stack => (repeated f false).bind fun f => read cs none f stack
  | '.' :: cs, none, f, stack => read cs none (f.add (one fun x => x ≠ '\n')) stack
  | c :: cs, none, f, stack => read cs none (f.add (one fun x => x = c)) stack

/-- `re.compile`. -/
def compile (pattern : String) : Option Regex := read classes pattern.toList none { captures := false } []

end Regex
