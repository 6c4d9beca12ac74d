import Mathlib

/-!
# Sliding windows

Lists of instants and the windows of a fixed span.

- `inWindow`: the instants of a window, without its first and with its last moment; `recent`: those that still count;
- `recent_recent`: what an earlier clean-up has removed would not count later;
- `inWindow_snoc_le`: an instant that finds few recent ones fills no window.
-/

namespace Windows

variable (span : ℕ)

/-- The instants after `start`, up to `start + span`. -/
def inWindow (start : ℕ) (ts : List ℕ) : List ℕ := ts.filter fun t => start < t ∧ t ≤ start + span

/-- The instants that are less than `span` ago. -/
def recent (now : ℕ) (ts : List ℕ) : List ℕ := ts.filter fun t => now < t + span

variable {span}

@[simp] theorem recent_nil (now : ℕ) : recent span now [] = [] := rfl

theorem recent_append (now : ℕ) (ts ts' : List ℕ) :
    recent span now (ts ++ ts') = recent span now ts ++ recent span now ts' := List.filter_append ..

/-- An earlier clean-up makes no difference. -/
theorem recent_recent {now later : ℕ} (h : now ≤ later) (ts : List ℕ) :
    recent span later (recent span now ts) = recent span later ts := by
  unfold recent
  rw [List.filter_filter]
  congr 1
  funext t
  by_cases counts : later < t + span
  · have : now < t + span := by omega
    simp [counts, this]
  · simp [counts]

theorem recent_sublist (now : ℕ) (ts : List ℕ) : (recent span now ts).Sublist ts := List.filter_sublist

variable (span) in
/-- Fewer count later. -/
theorem recent_length_anti {now later : ℕ} (h : now ≤ later) (ts : List ℕ) :
    (recent span later ts).length ≤ (recent span now ts).length := by
  rw [← recent_recent h ts]
  exact (recent_sublist later _).length_le

/-- The instants of a window that is not over are recent. -/
theorem inWindow_length_le {start now : ℕ} (h : now ≤ start + span) (ts : List ℕ) :
    (inWindow span start ts).length ≤ (recent span now ts).length := by
  unfold inWindow recent
  rw [← List.countP_eq_length_filter, ← List.countP_eq_length_filter]
  refine List.countP_mono_left fun t _ ht => ?_
  simp only [decide_eq_true_eq] at ht ⊢
  omega

/-- One more instant, at a time when fewer than `n` count. -/
theorem inWindow_snoc_le {ts : List ℕ} {now n : ℕ} (bounded : ∀ start, (inWindow span start ts).length ≤ n)
    (few : (recent span now ts).length < n) (start : ℕ) : (inWindow span start (ts ++ [now])).length ≤ n := by
  by_cases inside : start < now ∧ now ≤ start + span
  · have before := inWindow_length_le inside.2 ts
    have one : (inWindow span start (ts ++ [now])).length = (inWindow span start ts).length + 1 := by
      simp [inWindow, List.filter_append, inside]
    omega
  · have same : inWindow span start (ts ++ [now]) = inWindow span start ts := by
      simp [inWindow, List.filter_append, inside]
    rw [same]
    exact bounded start

end Windows
