import MotionFirmware.Foundation.Machine

/-!
# Rankings

A rank bounds the progress that a machine has still to make: a step of progress lowers it until it
is zero, and no other step raises it.  So a run with as many steps of progress as the rank says has
come to the rank zero, whatever else happens in it.  A counter of progress is a 32-bit number that
the steps of progress advance.
-/

namespace Machine

variable {σ α : Type*} {step : α → σ → σ} {progress : α → σ → Bool} {rank : σ → ℕ} {I : σ → Prop}
  {w : σ} {as bs : List α}

/-- The number of the steps of a run that make progress. -/
def count (step : α → σ → σ) (progress : α → σ → Bool) : σ → List α → ℕ
  | _, [] => 0
  | w, a :: as => (progress a w).toNat + count step progress (step a w) as

@[simp] lemma count_nil : count step progress w [] = 0 := rfl

@[simp] lemma count_cons {a : α} : count step progress w (a :: as) =
    (progress a w).toNat + count step progress (step a w) as := rfl

/-- The steps of progress in a concatenation. -/
@[simp] lemma count_append : count step progress w (as ++ bs) =
    count step progress w as + count step progress (run step w as) bs := by
  induction as generalizing w with
  | nil => exact (Nat.zero_add _).symm
  | cons a as ih => rw [List.cons_append, count_cons, ih, count_cons, run_cons, Nat.add_assoc]

/-- Progress that only the action decides is counted in the actions. -/
lemma count_eq_countP (p : α → Bool) : count step (fun a _ => p a) w as = as.countP p := by
  induction as generalizing w with
  | nil => rfl
  | cons a as ih =>
    rw [count_cons, ih, List.countP_cons, Nat.add_comm]
    cases p a <;> rfl

/-- An observer does not disturb the count. -/
lemma count_watchStep {μ : Type*} {observe : α → σ → μ → μ} {m : μ} :
    count (watchStep step observe) (fun a v => progress a v.1) (w, m) as =
      count step progress w as := by
  induction as generalizing w m with
  | nil => rfl
  | cons a as ih => exact congrArg ((progress a w).toNat + ·) ih

/-- **Counter rule.**  A 32-bit counter that every step advances by its progress has, after a run,
advanced by the progress of the run. -/
theorem counter_run (counter : σ → UInt32) (hkeep : ∀ a v, I v → I (step a v))
    (hcount : ∀ a v, I v →
      counter (step a v) = counter v + UInt32.ofNat (progress a v).toNat)
    (hw : I w) (as : List α) :
    counter (run step w as) = counter w + UInt32.ofNat (count step progress w as) := by
  induction as generalizing w with
  | nil =>
    rw [run_nil, count_nil]
    exact (UInt32.add_zero _).symm
  | cons a as ih =>
    rw [run_cons, ih (hkeep a w hw), hcount a w hw, count_cons, UInt32.ofNat_add, UInt32.add_assoc]

/-- Every step keeps the invariant, lowers a positive rank if it makes progress, and never raises
it. -/
structure Ranks (step : α → σ → σ) (progress : α → σ → Bool) (rank : σ → ℕ) (I : σ → Prop) :
    Prop where
  keeps : ∀ a v, I v → I (step a v)
  descends : ∀ a v, I v → rank (step a v) ≤ rank v - (progress a v).toNat

/-- **Ranking rule.**  A run lowers the rank by its steps of progress. -/
theorem Ranks.rank_run (h : Ranks step progress rank I) (hw : I w) (as : List α) :
    rank (run step w as) ≤ rank w - count step progress w as := by
  induction as generalizing w with
  | nil => exact Nat.le_refl _
  | cons a as ih =>
    have hnext := ih (h.keeps a w hw)
    have hstep := h.descends a w hw
    rw [run_cons, count_cons]
    omega

/-- A run with enough steps of progress comes to the rank zero. -/
theorem Ranks.rank_eq_zero (h : Ranks step progress rank I) (hw : I w) {as : List α}
    (hcount : rank w ≤ count step progress w as) : rank (run step w as) = 0 := by
  have hrun := h.rank_run hw as
  omega

end Machine
