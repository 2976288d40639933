import Mathlib.Data.List.DropRight
import Mathlib.Tactic.Common

/-!
# Scanning a buffer with a cursor

A buffer is a list that is read at positions, and a read outside of it has no result.  The loops
that move a cursor forwards or backwards while a test holds are structural in the number of
positions that are left; inside the buffer they have a result, which is `takeWhile` and
`rdropWhile` of the part of the buffer under the cursor.
-/

namespace Cursor

variable {α : Type*} (p : α → Bool) (xs : List α)

/-- Move forwards from `pos`, by at most `n` positions, while the test holds. -/
def skip : (n pos : ℕ) → Option ℕ
  | 0, pos => some pos
  | n + 1, pos => xs[pos]?.bind fun x => if p x then skip n (pos + 1) else some pos

/-- Move the end of the `n` positions after `start` backwards while the test holds. -/
def trim (start : ℕ) : (n : ℕ) → Option ℕ
  | 0 => some start
  | n + 1 => xs[start + n]?.bind fun x => if p x then trim start n else some (start + (n + 1))

/-- Read `n` positions from `pos` on. -/
def read : (n pos : ℕ) → Option (List α)
  | 0, _ => some []
  | n + 1, pos => xs[pos]?.bind fun x => (read n (pos + 1)).map (x :: ·)

/-- The `n` positions from `pos` on, as far as the buffer goes. -/
def view (n pos : ℕ) : List α := (xs.drop pos).take n

variable {p xs} {n pos start k : ℕ}

@[simp] lemma view_zero : view xs 0 pos = [] := by simp [view]

/-- Inside the buffer a view has its length. -/
lemma length_view (h : pos + n ≤ xs.length) : (view xs n pos).length = n := by
  rw [view, List.length_take, List.length_drop]
  omega

/-- A view begins with the element under the cursor. -/
lemma view_succ (h : pos + (n + 1) ≤ xs.length) :
    ∃ x, xs[pos]? = some x ∧ view xs (n + 1) pos = x :: view xs n (pos + 1) := by
  have hpos : pos < xs.length := by omega
  refine ⟨xs[pos], List.getElem?_eq_getElem hpos, ?_⟩
  rw [view, view, List.drop_eq_getElem_cons hpos, List.take_succ_cons]

/-- A view ends with the element before its end. -/
lemma view_succ_last (h : start + (n + 1) ≤ xs.length) :
    ∃ x, xs[start + n]? = some x ∧ view xs (n + 1) start = view xs n start ++ [x] := by
  have hpos : start + n < xs.length := by omega
  refine ⟨xs[start + n], List.getElem?_eq_getElem hpos, ?_⟩
  have hlast : n < (xs.drop start).length := by
    rw [List.length_drop]
    omega
  rw [view, view, List.take_succ_eq_append_getElem hlast, List.getElem_drop]

/-- A later part of a view is a view. -/
lemma drop_view (xs : List α) (n pos k : ℕ) :
    (view xs n pos).drop k = view xs (n - k) (pos + k) := by
  rw [view, view, List.drop_take, List.drop_drop]

/-- The first part of a view is a view. -/
lemma take_view (hk : k ≤ n) : (view xs n pos).take k = view xs k pos := by
  rw [view, view, List.take_take, min_eq_left hk]

/-- Behind the longest prefix that passes begins the rest. -/
lemma drop_length_takeWhile (p : α → Bool) (xs : List α) :
    xs.drop (xs.takeWhile p).length = xs.dropWhile p := by
  induction xs with
  | nil => rfl
  | cons x xs ih =>
    by_cases hx : p x = true
    · rw [List.takeWhile_cons_of_pos hx, List.dropWhile_cons_of_pos hx, List.length_cons,
        List.drop_succ_cons, ih]
    · rw [List.takeWhile_cons_of_neg hx, List.dropWhile_cons_of_neg hx]
      rfl

/-- **Forward scan.**  Inside the buffer the cursor stops behind the longest prefix that passes. -/
theorem skip_eq (p : α → Bool) (h : pos + n ≤ xs.length) :
    skip p xs n pos = some (pos + ((view xs n pos).takeWhile p).length) := by
  induction n generalizing pos with
  | zero => simp [skip]
  | succ n ih =>
    obtain ⟨x, hread, hview⟩ := view_succ h
    rw [skip, hread, hview]
    by_cases hx : p x = true
    · have hnext := ih (show pos + 1 + n ≤ xs.length by omega)
      rw [Option.bind_some, if_pos hx, hnext, List.takeWhile_cons, if_pos hx, List.length_cons]
      congr 1
      omega
    · simp [hx]

/-- **Backward scan.**  Inside the buffer the end stops where the longest suffix that passes
begins. -/
theorem trim_eq (p : α → Bool) (h : start + n ≤ xs.length) :
    trim p xs start n = some (start + ((view xs n start).rdropWhile p).length) := by
  induction n with
  | zero => simp [trim]
  | succ n ih =>
    obtain ⟨x, hread, hview⟩ := view_succ_last h
    rw [trim, hread, hview]
    by_cases hx : p x = true
    · rw [List.rdropWhile_concat_pos p _ x hx, ← ih (by omega)]
      simp [hx]
    · rw [List.rdropWhile_concat_neg p _ x hx, List.length_append,
        length_view (show start + n ≤ xs.length by omega)]
      simp [hx]

/-- Inside the buffer the positions are read. -/
theorem read_eq (h : pos + n ≤ xs.length) : read xs n pos = some (view xs n pos) := by
  induction n generalizing pos with
  | zero => simp [read]
  | succ n ih =>
    obtain ⟨x, hread, hview⟩ := view_succ h
    rw [read, hread, hview, ih (by omega)]
    rfl

end Cursor
