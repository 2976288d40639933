import Mathlib.Data.List.Basic
import Mathlib.Tactic.Common

/-!
# Streaks

A history of yes/no observations, the newest first.  The history ends a streak of `n` when its `n`
newest observations are all positive, and it is the first to do so when no earlier history did.  A
counter that is incremented by a positive observation and cleared by a negative one is the length of
the current streak, so comparing it with `n` finds the first streak.
-/

namespace Streak

variable {n : ℕ} {b : Bool} {history earlier : List Bool}

/-- The `n` newest observations are there, and they are all positive. -/
def Ends (n : ℕ) (history : List Bool) : Prop := history.take n = List.replicate n true

instance : Decidable (Ends n history) := inferInstanceAs (Decidable (_ = _))

/-- No part of the history up to some moment ends a streak. -/
def Never (n : ℕ) (history : List Bool) : Prop := ∀ earlier, earlier <:+ history → ¬ Ends n earlier

/-- The newest observation is the first to end a streak of `n`. -/
def EndsFirst (n : ℕ) : List Bool → Prop
  | [] => False
  | b :: earlier => Ends n (b :: earlier) ∧ Never n earlier

/-- The number of positive observations since the last negative one. -/
def length : List Bool → ℕ
  | true :: history => length history + 1
  | _ => 0

@[simp] lemma length_nil : length [] = 0 := rfl

@[simp] lemma length_true : length (true :: history) = length history + 1 := rfl

@[simp] lemma length_false : length (false :: history) = 0 := rfl

/-- A history ends a streak of `n` exactly when the current streak is that long. -/
theorem ends_iff : Ends n history ↔ n ≤ length history := by
  induction n generalizing history with
  | zero => simp [Ends]
  | succ n ih =>
    match history with
    | [] => simp [Ends, List.replicate_succ]
    | false :: history => simp [Ends, List.replicate_succ]
    | true :: history =>
      rw [length_true, Nat.add_le_add_iff_right, ← ih]
      simp [Ends, List.replicate_succ]

/-- Nothing has been observed yet. -/
lemma never_nil (hn : 0 < n) : Never n [] := by
  intro earlier hsuffix
  rw [List.suffix_nil.mp hsuffix, ends_iff, length_nil]
  omega

/-- One more observation. -/
lemma never_cons : Never n (b :: history) ↔ ¬ Ends n (b :: history) ∧ Never n history := by
  constructor
  · intro h
    exact ⟨h _ (List.suffix_refl _), fun earlier hs => h earlier (hs.trans (List.suffix_cons _ _))⟩
  · rintro ⟨hnew, hold⟩ earlier hsuffix
    rcases List.suffix_cons_iff.mp hsuffix with rfl | hs
    · exact hnew
    · exact hold earlier hs

/-- A history that never ended a streak has a short current streak. -/
lemma Never.length_lt (h : Never n history) : length history < n := by
  have := h history (List.suffix_refl _)
  rw [ends_iff] at this
  omega

/-- After a history without a streak, an observation ends the first one or leaves none. -/
lemma endsFirst_cons (h : Never n history) :
    EndsFirst n (b :: history) ↔ n ≤ length (b :: history) := by
  rw [← ends_iff]
  exact and_iff_left h

lemma never_cons_of_lt (h : Never n history) (hlt : length (b :: history) < n) :
    Never n (b :: history) := by
  refine never_cons.mpr ⟨?_, h⟩
  rw [ends_iff]
  omega

end Streak
