import Mathlib.Data.List.Basic
import Mathlib.Tactic.Common

/-!
# Runs of an action-labelled machine

A machine is a total function `step : α → σ → σ`: performing the action `a` in the state `w`
leads to `step a w`.  `run` performs a list of actions, `Along` says that a condition on the
action and on the state before it holds at every step of a run, and `Machine.run_invariant` is
the induction principle that every safety proof over such a machine uses.

A property about the past is stated with an observer: `watch` runs the machine together with a
value that is updated from the action and the state before it, and that the machine never reads.

`outputs` collects what the single steps return; two machines in lockstep, related by a relation
that every common action keeps, stay related and return the same.
-/

namespace Machine

variable {σ α μ : Type*}

/-- The state reached from `w` by performing the actions of the list in order. -/
def run (step : α → σ → σ) : σ → List α → σ
  | w, [] => w
  | w, a :: as => run step (step a w) as

/-- `P a v` holds whenever the run from `w` performs the action `a` in the state `v`. -/
def Along (step : α → σ → σ) (P : α → σ → Prop) : σ → List α → Prop
  | _, [] => True
  | w, a :: as => P a w ∧ Along step P (step a w) as

variable {step : α → σ → σ} {P Q : α → σ → Prop} {w : σ} {a : α} {as bs : List α}

@[simp] lemma run_nil : run step w [] = w := rfl

@[simp] lemma run_cons : run step w (a :: as) = run step (step a w) as := rfl

/-- A decidable condition can be checked along a run. -/
instance [∀ a v, Decidable (P a v)] : Decidable (Along step P w as) :=
  decideAlong w as
where
  decideAlong (w : σ) : (as : List α) → Decidable (Along step P w as)
    | [] => .isTrue trivial
    | a :: as => @instDecidableAnd _ _ _ (decideAlong (step a w) as)

/-- Running two lists one after the other is running their concatenation. -/
@[simp] lemma run_append : run step w (as ++ bs) = run step (run step w as) bs := by
  induction as generalizing w with
  | nil => rfl
  | cons a as ih => exact ih

@[simp] lemma along_nil : Along step P w [] := trivial

@[simp] lemma along_cons :
    Along step P w (a :: as) ↔ P a w ∧ Along step P (step a w) as := Iff.rfl

/-- A condition holds along a concatenation when it holds along both parts. -/
@[simp] lemma along_append :
    Along step P w (as ++ bs) ↔ Along step P w as ∧ Along step P (run step w as) bs := by
  induction as generalizing w with
  | nil => simp
  | cons a as ih => simp [ih, and_assoc]

/-- A condition that holds of every action and state holds along every run. -/
lemma along_of_forall (h : ∀ a v, P a v) : Along step P w as := by
  induction as generalizing w with
  | nil => trivial
  | cons a as ih => exact ⟨h a w, ih⟩

/-- A condition on the actions alone holds along a run when every action meets it. -/
lemma along_of_forall_mem {p : α → Prop} (h : ∀ a ∈ as, p a) :
    Along step (fun a _ => p a) w as := by
  induction as generalizing w with
  | nil => trivial
  | cons a as ih => exact ⟨h a (by simp), ih fun b hb => h b (by simp [hb])⟩

/-- Weakening the condition along a run. -/
lemma Along.imp (h : Along step P w as) (himp : ∀ a v, P a v → Q a v) :
    Along step Q w as := by
  induction as generalizing w with
  | nil => trivial
  | cons a as ih => exact ⟨himp _ _ h.1, ih h.2⟩

/-- A condition along a run is the condition at every way of cutting the run at one action. -/
lemma along_iff_forall_split :
    Along step P w as ↔ ∀ bs a cs, as = bs ++ a :: cs → P a (run step w bs) := by
  constructor
  · rintro h bs a cs rfl
    exact (along_append.mp h).2.1
  · intro h
    induction as generalizing w with
    | nil => trivial
    | cons a as ih =>
      refine ⟨h [] a as rfl, ih fun bs b cs hcut => ?_⟩
      exact h (a :: bs) b cs (by rw [hcut, List.cons_append])

/-- A run either never meets a condition, or can be cut at an action that meets it. -/
lemma along_not_or_exists_split (step : α → σ → σ) (P : α → σ → Prop) (w : σ) (as : List α) :
    Along step (fun a v => ¬ P a v) w as ∨
      ∃ bs a cs, as = bs ++ a :: cs ∧ P a (run step w bs) := by
  by_cases h : Along step (fun a v => ¬ P a v) w as
  · exact Or.inl h
  · rw [along_iff_forall_split] at h
    push Not at h
    exact Or.inr h

/-- **Invariant rule.**  A property that holds at the start and is kept by every step that meets
the condition holds at the end of every run that meets it. -/
theorem run_invariant {I : σ → Prop} (hstep : ∀ a v, I v → P a v → I (step a v))
    (hw : I w) (hP : Along step P w as) : I (run step w as) := by
  induction as generalizing w with
  | nil => exact hw
  | cons a as ih => exact ih (hstep a w hw hP.1) hP.2

/-- The invariant rule for a property that every step keeps. -/
theorem run_invariant_of_forall {I : σ → Prop} (hstep : ∀ a v, I v → I (step a v))
    (hw : I w) : I (run step w as) :=
  run_invariant (P := fun _ _ => True) (fun a v hv _ => hstep a v hv) hw
    (along_of_forall fun _ _ => trivial)

/-- A consequence of an invariant and of the condition at each step holds along the run. -/
theorem along_of_invariant {I : σ → Prop} (hstep : ∀ a v, I v → P a v → I (step a v))
    (hQ : ∀ a v, I v → P a v → Q a v) (hw : I w) (hP : Along step P w as) :
    Along step Q w as := by
  induction as generalizing w with
  | nil => trivial
  | cons a as ih => exact ⟨hQ a w hw hP.1, ih (hstep a w hw hP.1) hP.2⟩

/-! ## Logs

A log is a list in the state that steps only extend.  Each of its entries was added by one step.
-/

section Logs

variable {β : Type*} {log : σ → List β} {I : σ → Prop}

/-- A log that every step extends is extended by every run. -/
lemma log_prefix_run (hstep : ∀ a v, I v → I (step a v))
    (hlog : ∀ a v, I v → log v <+: log (step a v)) (hw : I w) :
    log w <+: log (run step w as) := by
  induction as generalizing w with
  | nil => exact List.prefix_refl _
  | cons a as ih => exact (hlog a w hw).trans (ih (hstep a w hw))

/-- **Origin of a log entry.**  An entry that a run has added was added by one of its actions: the
log before that action lies before the entry, and the log after it contains the entry. -/
theorem exists_step_of_log (log : σ → List β) (hstep : ∀ a v, I v → I (step a v))
    (hlog : ∀ a v, I v → log v <+: log (step a v)) (hw : I w) {before after : List β} {b : β}
    (heq : log (run step w as) = before ++ b :: after) (hlen : (log w).length ≤ before.length) :
    ∃ bs a cs, as = bs ++ a :: cs ∧ log (run step w bs) <+: before ∧
      before ++ [b] <+: log (step a (run step w bs)) := by
  induction as generalizing w with
  | nil =>
    rw [run_nil] at heq
    rw [heq, List.length_append, List.length_cons] at hlen
    omega
  | cons a as ih =>
    by_cases hnext : (log (step a w)).length ≤ before.length
    · obtain ⟨bs, a', cs, rfl, hpre, hpost⟩ := ih (hstep a w hw) heq hnext
      exact ⟨a :: bs, a', cs, rfl, hpre, hpost⟩
    · have hrun : log (step a w) <+: before ++ b :: after :=
        heq ▸ log_prefix_run hstep hlog (hstep a w hw)
      have hfirst : log w <+: before ++ b :: after := (hlog a w hw).trans hrun
      refine ⟨[], a, as, rfl, ?_, ?_⟩
      · exact List.prefix_of_prefix_length_le hfirst (List.prefix_append _ _) hlen
      · have hentry : before ++ [b] <+: before ++ b :: after := ⟨after, by simp⟩
        refine List.prefix_of_prefix_length_le hentry hrun ?_
        simpa using Nat.succ_le_of_lt (Nat.lt_of_not_le hnext)

end Logs

/-! ## Observers -/

/-- One step of the machine together with an observer of the action and of the state before it. -/
def watchStep (step : α → σ → σ) (observe : α → σ → μ → μ) (a : α) (v : σ × μ) : σ × μ :=
  (step a v.1, observe a v.1 v.2)

/-- The observer's value after a run that starts in `w` with the value `m`. -/
def watch (step : α → σ → σ) (observe : α → σ → μ → μ) (w : σ) (m : μ) (as : List α) : μ :=
  (run (watchStep step observe) (w, m) as).2

variable {observe : α → σ → μ → μ} {m : μ}

@[simp] lemma watch_nil : watch step observe w m [] = m := rfl

@[simp] lemma watch_cons :
    watch step observe w m (a :: as) = watch step observe (step a w) (observe a w m) as := rfl

/-- Observing does not disturb the machine. -/
@[simp] lemma run_watchStep_fst :
    (run (watchStep step observe) (w, m) as).1 = run step w as := by
  induction as generalizing w m with
  | nil => rfl
  | cons a as ih => exact ih

/-- The observer's value after a concatenation. -/
@[simp] lemma watch_append :
    watch step observe w m (as ++ bs) =
      watch step observe (run step w as) (watch step observe w m as) bs := by
  induction as generalizing w m with
  | nil => rfl
  | cons a as ih => exact ih

/-- The invariant rule for a relation between the state and an observer's value. -/
theorem watch_invariant {I : σ → μ → Prop}
    (hstep : ∀ a v n, I v n → P a v → I (step a v) (observe a v n))
    (hw : I w m) (hP : Along step P w as) : I (run step w as) (watch step observe w m as) := by
  induction as generalizing w m with
  | nil => exact hw
  | cons a as ih => exact ih (hstep a w m hw hP.1) hP.2

/-! ## Outputs and lockstep -/

section Lockstep

variable {τ β : Type*}

/-- What the steps of a run return, in order. -/
def outputs (step : α → σ → σ) (out : α → σ → β) : σ → List α → List β
  | _, [] => []
  | w, a :: as => out a w :: outputs step out (step a w) as

variable {step' : α → τ → τ} {out : α → σ → β} {out' : α → τ → β} {R : σ → τ → Prop} {w' : τ}

/-- The outputs of a concatenation. -/
lemma outputs_append :
    outputs step out w (as ++ bs) =
      outputs step out w as ++ outputs step out (run step w as) bs := by
  induction as generalizing w with
  | nil => rfl
  | cons a as ih => rw [List.cons_append, outputs, outputs, ih, List.cons_append, run_cons]

/-- Every step returns one value. -/
@[simp] lemma length_outputs : (outputs step out w as).length = as.length := by
  induction as generalizing w with
  | nil => rfl
  | cons a as ih => rw [outputs, List.length_cons, ih, List.length_cons]

/-- **Lockstep rule.**  A relation that every common action keeps relates the ends of two runs that
perform the same actions. -/
theorem run_related (hstep : ∀ a v v', R v v' → R (step a v) (step' a v')) (hw : R w w') :
    R (run step w as) (run step' w' as) := by
  induction as generalizing w w' with
  | nil => exact hw
  | cons a as ih => exact ih (hstep a w w' hw)

/-- Related states that return the same at every common action return the same along a run. -/
theorem outputs_eq (hstep : ∀ a v v', R v v' → R (step a v) (step' a v'))
    (hout : ∀ a v v', R v v' → out a v = out' a v') (hw : R w w') :
    outputs step out w as = outputs step' out' w' as := by
  induction as generalizing w w' with
  | nil => rfl
  | cons a as ih => rw [outputs, outputs, hout a w w' hw, ih (hstep a w w' hw)]

end Lockstep

end Machine
