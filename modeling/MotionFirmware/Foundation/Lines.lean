import Mathlib.Data.List.Basic
import Mathlib.Tactic.Common

/-!
# Lines

A text is cut at a terminator into the lines that end in one; what follows the last terminator is no
line yet.  Lines that do not contain the terminator come out as they went in.
-/

namespace Lines

variable {α : Type*} {t : α} {l : List α} {ls ls' : List (List α)} {text : List α}

/-- The text of lines, each ended by the terminator. -/
def join (t : α) (ls : List (List α)) : List α := ls.flatMap (· ++ [t])

/-- The lines of a text, the first of which goes on from `start`. -/
def cutFrom [DecidableEq α] (t : α) : (start text : List α) → List (List α)
  | _, [] => []
  | start, c :: text => if c = t then start :: cutFrom t [] text else cutFrom t (start ++ [c]) text

/-- The lines of a text. -/
def cut [DecidableEq α] (t : α) (text : List α) : List (List α) := cutFrom t [] text

@[simp] lemma join_nil : join t [] = [] := rfl

@[simp] lemma join_cons : join t (l :: ls) = l ++ t :: join t ls := by simp [join]

@[simp] lemma join_append : join t (ls ++ ls') = join t ls ++ join t ls' := List.flatMap_append

/-- A line is read up to its terminator. -/
lemma cutFrom_line [DecidableEq α] (hl : t ∉ l) (start : List α) :
    cutFrom t start (l ++ t :: text) = (start ++ l) :: cut t text := by
  induction l generalizing start with
  | nil => rw [List.nil_append, cutFrom, if_pos rfl, List.append_nil, cut]
  | cons c l ih =>
    rw [List.mem_cons, not_or] at hl
    obtain ⟨hc, hrest⟩ := hl
    rw [List.cons_append, cutFrom, if_neg (Ne.symm hc), ih hrest, List.append_assoc,
      List.singleton_append]

/-- **Round trip.**  The lines of a text that was made of lines. -/
theorem cut_join [DecidableEq α] (h : ∀ l ∈ ls, t ∉ l) : cut t (join t ls) = ls := by
  induction ls with
  | nil => rfl
  | cons l ls ih =>
    obtain ⟨hl, hrest⟩ := List.forall_mem_cons.mp h
    rw [join_cons, cut, cutFrom_line hl, ih hrest, List.nil_append]

/-- A text with one terminator, at its end, is a line. -/
lemma eq_line_of_count [DecidableEq α] (hcount : text.count t = 1)
    (hlast : text.getLast? = some t) :
    ∃ l, t ∉ l ∧ text = l ++ [t] := by
  obtain ⟨l, rfl⟩ := List.getLast?_eq_some_iff.mp hlast
  refine ⟨l, ?_, rfl⟩
  rw [List.count_append, List.count_singleton_self] at hcount
  exact List.count_eq_zero.mp (by omega)

end Lines
