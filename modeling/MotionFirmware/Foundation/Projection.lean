import MotionFirmware.Foundation.Machine

/-!
# Projections of machines

A machine projects to another one when its states have images in which every step of it appears as a
list of steps: none where it does nothing that the other machine knows of, and several where it does
more.  A run then projects to the run of these steps.
-/

namespace Machine

variable {σ τ α β μ : Type*} {step : α → σ → σ} {step' : β → τ → τ} {image : σ → τ}
  {labels : α → σ → List β} {I : σ → Prop} {w : σ} {as bs : List α}

/-- The steps of the other machine that a run performs. -/
def trace (step : α → σ → σ) (labels : α → σ → List β) : σ → List α → List β
  | _, [] => []
  | w, a :: as => labels a w ++ trace step labels (step a w) as

@[simp] lemma trace_nil : trace step labels w [] = [] := rfl

@[simp] lemma trace_cons {a : α} :
    trace step labels w (a :: as) = labels a w ++ trace step labels (step a w) as := rfl

/-- The steps of a concatenation. -/
@[simp] lemma trace_append :
    trace step labels w (as ++ bs) =
      trace step labels w as ++ trace step labels (run step w as) bs := by
  induction as generalizing w with
  | nil => rfl
  | cons a as ih => rw [List.cons_append, trace_cons, ih, trace_cons, run_cons, List.append_assoc]

/-- A step of the other machine that no step of a run performs. -/
lemma notMem_trace {b : β} (h : Along step (fun a v => b ∉ labels a v) w as) :
    b ∉ trace step labels w as := by
  induction as generalizing w with
  | nil => simp
  | cons a as ih =>
    rw [trace_cons, List.mem_append, not_or]
    exact ⟨h.1, ih h.2⟩

/-- Every step of a machine appears in its image as the steps with its labels. -/
structure Projects (step : α → σ → σ) (step' : β → τ → τ) (image : σ → τ)
    (labels : α → σ → List β) (I : σ → Prop) : Prop where
  keeps : ∀ a v, I v → I (step a v)
  image : ∀ a v, I v → image (step a v) = run step' (image v) (labels a v)

/-- **Projection rule.**  The image of a run is the run of its labels. -/
theorem Projects.run_eq (h : Projects step step' image labels I) (hw : I w) (as : List α) :
    image (run step w as) = run step' (image w) (trace step labels w as) := by
  induction as generalizing w with
  | nil => rfl
  | cons a as ih =>
    rw [run_cons, ih (h.keeps a w hw), h.image a w hw, trace_cons, run_append]

/-- What is computed from an observer's value can be observed itself. -/
theorem watch_map {ν : Type*} {observe : α → σ → μ → μ} {observe' : α → σ → ν → ν} {r : μ → ν}
    (h : ∀ a v m, r (observe a v m) = observe' a v (r m)) (m : μ) (as : List α) :
    r (watch step observe w m as) = watch step observe' w (r m) as := by
  induction as generalizing w m with
  | nil => rfl
  | cons a as ih => rw [watch_cons, ih, h, watch_cons]

end Machine
