import UnionBank.Lib.Anchored

/-!
# Substitution

`re.sub`, for patterns that match no empty text: the matches from the left to the right, each one the first way at the
leftmost place that has one, behind the match before.

- `Regex.Between`: a pattern between two conditions on its ends, such as word boundaries;
- `Regex.Between.find`: the match at a place; `Regex.Between.sub`: the text with all matches replaced;
- `sub_none`, `sub_some`: the two steps.
-/

namespace Regex

variable {r : Regex} {s cs rest : List Char} {g : List (List Char)} {before : Option Char} {c : Char}

theorem matches_group : Matches (group r) s g ↔ ∃ g', g = s :: g' ∧ Matches r s g' := by
  constructor
  · intro h
    cases h with
    | group h => exact ⟨_, rfl, h⟩
  · rintro ⟨g', rfl, h⟩
    exact .group h

/-- A pattern between two conditions, on the character before a place and the text behind it. -/
structure Between where
  starts : Option Char → List Char → Bool
  body : Regex
  ends : Option Char → List Char → Bool

/-- The last character before a place behind `s`. -/
def passed (before : Option Char) (s : List Char) : Option Char := s.getLast?.or before

namespace Between

variable (p : Between) (replace : List (List Char) → List Char)

/-- The match at a place. -/
def find (before : Option Char) (cs : List Char) : Option Way :=
  if p.starts before cs then
    (p.body.ways cs).find? fun way => p.ends (passed before (cs.take (cs.length - way.1.length))) way.1
  else none

/-- `re.sub`. -/
def sub : Option Char → List Char → List Char
  | _, [] => []
  | before, c :: cs =>
    match p.find before (c :: cs) with
    | some (rest, g) =>
      if rest.length ≤ cs.length then
        replace g ++ sub (passed before ((c :: cs).take ((c :: cs).length - rest.length))) rest
      else c :: sub (some c) cs
    | none => c :: sub (some c) cs
termination_by _ cs => cs.length

variable {p replace}

theorem find_some (h : p.find before cs = some (rest, g)) : ∃ s, cs = s ++ rest ∧ Matches p.body s g ∧
    p.starts before cs = true ∧ p.ends (passed before s) rest = true := by
  unfold find at h
  split at h
  · next starts =>
    obtain ⟨s, rfl, matched⟩ := mem_ways.mp (List.mem_of_find?_eq_some h)
    have ends := List.find?_some h
    rw [List.length_append, Nat.add_sub_cancel, List.take_left' rfl] at ends
    exact ⟨s, rfl, matched, starts, ends⟩
  · cases h

theorem find_ne_none (starts : p.starts before (s ++ rest) = true) (matched : Matches p.body s g)
    (ends : p.ends (passed before s) rest = true) : p.find before (s ++ rest) ≠ none := by
  intro none
  unfold find at none
  rw [if_pos starts, List.find?_eq_none] at none
  refine none (rest, g) (mem_ways.mpr ⟨s, rfl, matched⟩) ?_
  dsimp only
  rw [List.length_append, Nat.add_sub_cancel, List.take_left' rfl]
  exact ends

@[simp] theorem sub_nil : p.sub replace before [] = [] := by rw [sub]

theorem sub_none (h : p.find before (c :: cs) = none) :
    p.sub replace before (c :: cs) = c :: p.sub replace (some c) cs := by
  rw [sub, h]

theorem sub_some (h : p.find before (s ++ rest) = some (rest, g)) (some_ : s ≠ []) :
    p.sub replace before (s ++ rest) = replace g ++ p.sub replace (passed before s) rest := by
  obtain ⟨c, s, rfl⟩ := List.exists_cons_of_ne_nil some_
  rw [List.cons_append] at h ⊢
  rw [sub, h]
  have shorter : rest.length ≤ (s ++ rest).length := by
    rw [List.length_append]
    exact Nat.le_add_left ..
  have taken : (c :: (s ++ rest)).take ((c :: (s ++ rest)).length - rest.length) = c :: s := by
    rw [← List.cons_append, List.length_append, Nat.add_sub_cancel]
    exact List.take_left' rfl
  dsimp only
  rw [if_pos shorter, taken]

end Between

end Regex
