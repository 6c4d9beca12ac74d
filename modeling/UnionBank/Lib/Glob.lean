import Mathlib

/-!
# Glob patterns

Patterns with wildcards, as key-value stores match their keys.

- `Token`, `parse`: the parts of a pattern, when each of its brackets is closed;
- `accepts`: the texts that the parts describe; `accepts_prefix`: a text and a wildcard;
- `read_suffix`: what `:*` at the end of a pattern means, whatever precedes it;
- `colon_mem`: no text without a colon fits such a pattern.
-/

namespace Glob

/-- The parts of a bracket: a character or a range. -/
inductive Item where
  | one (c : Char)
  | range (first last : Char)
  deriving Repr, DecidableEq

inductive Token where
  | lit (c : Char)
  /-- `?`. -/
  | any
  /-- `*`. -/
  | star
  /-- `[..]`, or `[^..]`. -/
  | bracket (negated : Bool) (items : List Item)
  deriving Repr, DecidableEq

def Item.admits (c : Char) : Item → Bool
  | .one d => c == d
  | .range first last => first ≤ c && c ≤ last || last ≤ c && c ≤ first

/-- Whether a part describes a character; `*` is treated apart. -/
def Token.admits (c : Char) : Token → Bool
  | .lit d => c == d
  | .any => true
  | .star => true
  | .bracket negated items => items.any (Item.admits c) != negated

/-- The texts that the parts describe. -/
def accepts : List Token → List Char → Bool
  | [], s => s.isEmpty
  | .star :: ts, s => s.tails.any (accepts ts)
  | _ :: _, [] => false
  | t :: ts, c :: s => t.admits c && accepts ts s

/-- Where the reading of a pattern is. -/
inductive Mode where
  | plain
  | bracket (negated : Bool) (items : List Item)

/-- The parts of a pattern; a backslash takes the next character as it is.
A bracket that is not closed has no meaning. -/
def read : Mode → List Char → Option (List Token)
  | .plain, [] => some []
  | .plain, '\\' :: c :: cs => (read .plain cs).map (.lit c :: ·)
  | .plain, '*' :: cs => (read .plain cs).map (.star :: ·)
  | .plain, '?' :: cs => (read .plain cs).map (.any :: ·)
  | .plain, '[' :: '^' :: cs => read (.bracket true []) cs
  | .plain, '[' :: cs => read (.bracket false []) cs
  | .plain, c :: cs => (read .plain cs).map (.lit c :: ·)
  | .bracket _ _, [] => none
  | .bracket n is, '\\' :: c :: cs => read (.bracket n (is ++ [.one c])) cs
  | .bracket n is, ']' :: cs => (read .plain cs).map (.bracket n is :: ·)
  | .bracket n is, a :: '-' :: b :: cs => read (.bracket n (is ++ [.range a b])) cs
  | .bracket n is, c :: cs => read (.bracket n (is ++ [.one c])) cs

/-- The parts of a pattern. -/
def parse (pattern : String) : Option (List Token) := read .plain pattern.toList

/-- A text and a wildcard describe what begins with the text. -/
theorem accepts_prefix (start rest : List Char) : accepts (start.map .lit ++ [.star]) (start ++ rest) = true := by
  induction start with
  | nil => cases rest <;> simp [accepts]
  | cons c start ih => simp [accepts, Token.admits, ih]

/-- A character that the pattern spells out before its last wildcard is in each text it describes. -/
theorem mem_of_accepts {c : Char} {ts : List Token} :
    ∀ {s : List Char}, accepts (ts ++ [.lit c, .star]) s = true → c ∈ s := by
  induction ts with
  | nil =>
    intro s h
    cases s with
    | nil => simp [accepts] at h
    | cons d s =>
      have first : c = d := by
        simp only [List.nil_append, accepts, Token.admits, Bool.and_eq_true, beq_iff_eq] at h
        exact h.1.symm
      simp [first]
  | cons t ts ih =>
    intro s h
    cases t with
    | star =>
      obtain ⟨tail, hin, haccepts⟩ : ∃ tail ∈ s.tails, accepts (ts ++ [.lit c, .star]) tail = true := by
        simpa [accepts] using h
      exact (List.mem_tails tail s).1 hin |>.subset (ih haccepts)
    | lit d | any | bracket n is =>
      cases s with
      | nil => simp [accepts] at h
      | cons e s =>
        have rest : accepts (ts ++ [.lit c, .star]) s = true := by
          simp only [List.cons_append, accepts, Bool.and_eq_true] at h
          exact h.2
        exact List.mem_cons_of_mem e (ih rest)

/-- What a pattern ends with when ":*" stands last: a colon as it is, and the wildcard. -/
def ColonLast (ts : List Token) : Prop := ∃ before, ts = before ++ [.lit ':', .star]

theorem ColonLast.cons {ts : List Token} (t : Token) (h : ColonLast ts) : ColonLast (t :: ts) := by
  obtain ⟨before, rfl⟩ := h
  exact ⟨t :: before, rfl⟩

theorem colonLast_of_map {t : Token} {r : Option (List Token)} {ts : List Token}
    (h : r.map (t :: ·) = some ts) (ih : ∀ {ts}, r = some ts → ColonLast ts) : ColonLast ts := by
  obtain ⟨rest, hrest, rfl⟩ := Option.map_eq_some_iff.1 h
  exact (ih hrest).cons t

/-- Whatever stands before it, `:*` is read as it is, or inside a bracket that stays open. -/
theorem read_suffix (m : Mode) (p : List Char) {ts : List Token} (h : read m (p ++ [':', '*']) = some ts) :
    ColonLast ts := by
  fun_induction read m p generalizing ts with
  | case1 =>
    exact ⟨[], by simpa [read, eq_comm] using h⟩
  | case2 c cs ih | case3 cs ih | case4 cs ih | case10 n is cs ih =>
    exact colonLast_of_map (by simpa only [List.cons_append, read] using h) ih
  | case5 cs ih | case9 n is c cs ih | case11 n is a b cs _ _ ih =>
    exact ih (by simpa [read] using h)
  | case6 cs caret ih =>
    refine ih ?_
    rw [List.cons_append, read] at h
    · exact h
    · rintro rest hrest
      cases cs with
      | nil => simp at hrest
      | cons c cs => exact caret cs (by simp_all)
  | case7 c cs escape star any caret bracket ih =>
    by_cases hc : c = '\\'
    · -- the backslash that ends the pattern takes the colon
      obtain rfl : cs = [] := by
        cases cs with
        | nil => rfl
        | cons d cs => exact (escape d cs hc rfl).elim
      subst hc
      exact ⟨[], by simpa [read, eq_comm] using h⟩
    · rw [List.cons_append, read] at h
      · exact colonLast_of_map h ih
      · exact fun d rest hd _ => hc hd
      · exact star
      · exact any
      · exact fun rest hd _ => bracket hd
      · exact bracket
  | case8 n is => simp [read] at h
  | case12 n is c cs escape closing range ih =>
    by_cases hc : c = '\\'
    · obtain rfl : cs = [] := by
        cases cs with
        | nil => rfl
        | cons d cs => exact (escape d cs hc rfl).elim
      subst hc
      simp [read] at h
    by_cases hcs : cs = ['-']
    · -- the range takes the colon
      subst hcs
      rw [List.cons_append, List.cons_append, List.nil_append, read] at h
      · simp [read] at h
      · exact hc
      · exact closing
    · rw [List.cons_append, read] at h
      · exact ih h
      · exact fun d rest hd _ => hc hd
      · exact closing
      · intro b rest hb
        cases cs with
        | nil => simp at hb
        | cons d cs =>
          obtain ⟨rfl, hb⟩ : d = '-' ∧ cs ++ [':', '*'] = b :: rest := by simpa using hb
          cases cs with
          | nil => exact hcs rfl
          | cons e cs => exact range e cs rfl
/-- A key with no colon fits no pattern that ends with `:*`. -/
theorem colon_mem {p : String} {ts : List Token} (h : parse (p ++ ":*") = some ts) {key : List Char}
    (fits : accepts ts key = true) : ':' ∈ key := by
  have hp : (p ++ ":*").toList = p.toList ++ [':', '*'] := by simp
  obtain ⟨before, rfl⟩ := read_suffix .plain p.toList (by rw [← hp]; exact h)
  exact mem_of_accepts fits

end Glob
