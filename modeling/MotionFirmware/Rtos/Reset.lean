import MotionFirmware.Rtos.RecordedCalls
import MotionFirmware.Rtos.SafetyLatch

/-!
# The reset

A `RESET` evaluates the inputs, the heartbeats and the feedback in its own critical section and is
accepted only when no hazard is present and none that the history has raised is still unresolved.
The integrity latch and the recovery requirement are statements about that history, so the theorem
speaks of the recorded calls.
-/

namespace MotionFirmware

variable [Rounding] {w : World} {a : Action}

/-! ### The guards -/

omit [Rounding] in
/-- The mask of missing heartbeats is zero when all three are fresh. -/
lemma fresh_of_unhealthyMask {rt : RuntimeData} {now : UInt32} (h : rt.unhealthyMask now = 0)
    (id : TaskHealthId) : rt.fresh id now = true := by
  unfold RuntimeData.unhealthyMask at h
  cases hmotion : rt.fresh .motion now <;> cases hsafety : rt.fresh .safety now <;>
    cases hcomms : rt.fresh .comms now <;> rw [hmotion, hsafety, hcomms] at h
  case true.true.true => cases id <;> assumption
  all_goals exact absurd h (by decide)

/-- The enforcement that follows an evaluation does not change what a reset looks at. -/
lemma resettable_runtimeSafetyEvaluate (h : (runtimeSafetyEvaluate w).safety.Resettable) :
    (safetyEvaluate w.safety (evaluation w)).Resettable := by
  have heq := runtimeSafetyEvaluate_safety w
  rw [World.safety, heq] at h
  exact { h with }

/-- The guards of an accepted `RESET`, as the evaluation in its own critical section sees them. -/
theorem guards_of_acceptsReset (h : AcceptsReset a w) :
    (∃ inputs, w.io.gpioReadInputs = some inputs ∧ inputs.estop = false ∧
      inputs.positiveLimit = false ∧ inputs.negativeLimit = false) ∧
    ∀ id, w.rt.fresh id w.io.platformTimeMs = true := by
  obtain ⟨s, phase, hreset, -⟩ := step_of_acceptsReset h
  have hquiet := quiet_of_resettable
    (resettable_runtimeSafetyEvaluate (safetyReset_eq_some.mp hreset).1)
  constructor
  · obtain ⟨inputs, hread⟩ : ∃ inputs, w.io.gpioReadInputs = some inputs :=
      Option.isSome_iff_exists.mp hquiet.valid
    have hinputs : (evaluation w).inputs = inputs := by
      change w.io.gpioReadInputs.getD {} = inputs
      rw [hread]
      rfl
    have hestop := hquiet.estop
    have hpositive := hquiet.positive
    have hnegative := hquiet.negative
    rw [hinputs] at hestop hpositive hnegative
    exact ⟨inputs, hread, hestop, hpositive, hnegative⟩
  · exact fresh_of_unhealthyMask hquiet.supervised

/-! ### The world after a reset -/

/-- The fault records of an accepted `RESET`: the active one moves to the history. -/
lemma faults_of_acceptsReset (h : AcceptsReset a w) :
    (step a w).safety.faults.active = {} ∧
      (step a w).safety.faults.history =
        if w.safety.faults.active.code ≠ .none then
          { w.safety.faults.active with conditionActive := false }
        else w.safety.faults.history := by
  obtain ⟨s, phase, hreset, heq⟩ := step_of_acceptsReset h
  obtain ⟨hresettable, rfl⟩ := safetyReset_eq_some.mp hreset
  have hfaults : (runtimeSafetyEvaluate w).safety.faults =
      (safetyEvaluate w.safety (evaluation w)).faults := by
    have := runtimeSafetyEvaluate_safety w
    rw [World.safety, this]
  rw [faults_of_resettable (resettable_runtimeSafetyEvaluate hresettable)] at hfaults
  rw [heq]
  refine ⟨rfl, ?_⟩
  change (runtimeSafetyEvaluate w).safety.faults.cleared.history = _
  rw [hfaults]
  rfl

/-- An accepted `RESET` leaves manager and controller in `IDLE`, at rest at the sampled position. -/
lemma rest_of_acceptsReset (h : AcceptsReset a w) :
    (step a w).safety.state = .idle ∧ (step a w).motion.data.state = .idle ∧
      (step a w).motion.data.target = (step a w).motion.data.position ∧
      (step a w).motion.data.position = w.motion.data.position ∧
      (step a w).motion.pid = pidReset w.motion.pid ∧
      (step a w).motion.data.stableCycles = 0 ∧
      (step a w).io.motor.requested = 0 ∧ (step a w).io.motor.output = 0 := by
  obtain ⟨s, phase, hreset, heq⟩ := step_of_acceptsReset h
  obtain ⟨-, rfl⟩ := safetyReset_eq_some.mp hreset
  have hmotion : (step a w).motion = w.motion.adopt .idle := by
    rw [heq]
    change (runtimeSafetyEvaluate w).motion.adopt .idle = _
    rw [runtimeSafetyEvaluate_motion]
  rw [hmotion]
  refine ⟨?_, rfl, rfl, rfl, rfl, rfl, ?_, ?_⟩
  all_goals rw [heq]; rfl

/-- The latches that an accepted `RESET` finds resolved stay so in the step that accepts it. -/
lemma resolved_of_acceptsReset (h : AcceptsReset a w) :
    (step a w).safety.internalActive = false ∧
      (step a w).safety.encoderRecoveryRequired = false := by
  obtain ⟨s, phase, hreset, heq⟩ := step_of_acceptsReset h
  obtain ⟨hresettable, rfl⟩ := safetyReset_eq_some.mp hreset
  rw [heq]
  exact ⟨hresettable.internal, hresettable.recovery⟩

/-! ### The history before a reset -/

/-- A run that ends in an accepted `RESET` contains no integrity failure. -/
lemma integrity_of_acceptsReset {env : Environment} {as : List Action}
    (h : AcceptsReset a (runtime env as)) :
    ∀ call ∈ (runtime env (as ++ [a])).calls, call.integrityFailure = false := by
  have hlast : runtime env (as ++ [a]) = step a (runtime env as) := Machine.run_append
  have hrecorded := (recorded_runtime env (as ++ [a])).core
  have hactive : (runtime env (as ++ [a])).safety.internalActive = false := by
    rw [hlast]
    exact (resolved_of_acceptsReset h).1
  have hreplay : ((safetyInit env.start).replay (runtime env (as ++ [a])).calls).internalActive =
      false := by
    rw [← hrecorded]
    exact hactive
  rw [internalActive_history] at hreplay
  intro call hmem
  by_contra hfailure
  have hany : (runtime env (as ++ [a])).calls.any SafetyCall.integrityFailure = true :=
    List.any_eq_true.mpr ⟨call, hmem, by simpa using hfailure⟩
  rw [hany, Bool.or_true] at hreplay
  exact absurd hreplay nofun

/-- In a run that ends in an accepted `RESET` every no-motion trip was followed by recovery
evidence. -/
lemma recovery_of_acceptsReset {env : Environment} {as : List Action}
    (h : AcceptsReset a (runtime env as)) {before after : List SafetyCall} {c : Evaluation}
    {time : ℕ} (hcalls : (runtime env (as ++ [a])).calls = before ++ .evaluate c time :: after)
    (hstall : stalled ((safetyInit env.start).replay before) c = true) :
    ∃ call ∈ after, call.recovers c.motion.position = true := by
  have hlast : runtime env (as ++ [a]) = step a (runtime env as) := Machine.run_append
  have hrecorded := (recorded_runtime env (as ++ [a])).core
  have hdone : ((safetyInit env.start).replay
      (before ++ .evaluate c time :: after)).encoderRecoveryRequired = false := by
    rw [← hcalls, ← hrecorded]
    change (runtime env (as ++ [a])).safety.encoderRecoveryRequired = false
    rw [hlast]
    exact (resolved_of_acceptsReset h).2
  exact recovery_history hstall hdone

/-! ### A refused reset -/

/-- A refused `RESET` leaves the safety manager, the gate and the controller as it has found them,
or as its evaluation has left them. -/
lemma refused_reset {command : MotionCommand} (hexec : Executes a w command)
    (htype : command.type = .reset) (hrefused : ¬ AcceptsReset a w) :
    ∃ v, (v = w ∨ v = runtimeSafetyEvaluate w) ∧ (step a w).safety = v.safety ∧
      (step a w).io.motor = v.io.motor ∧ (step a w).motion = v.motion := by
  have hresult : (runtimeSafetyCommand w command).1 ≠ .accepted := by
    intro haccepted
    exact hrefused ⟨command, hexec, by simp [htype], haccepted⟩
  obtain ⟨r, i, rfl, hphase, happ⟩ := hexec
  have hcommand : runtimeSafetyCommand w command = commandReset w := by
    simp [runtimeSafetyCommand, htype]
  have hstep : step (.motion r) w = (commandReset w).2.goto (.report i (commandReset w).1) := by
    simp only [step, motionStep, hphase, taskExecute, happ, hcommand, if_true]
  rw [hcommand] at hresult
  rw [hstep]
  unfold commandReset at hresult ⊢
  split_ifs at hresult ⊢ with hbusy
  · exact ⟨w, Or.inl rfl, rfl, rfl, rfl⟩
  · refine ⟨runtimeSafetyEvaluate w, Or.inr rfl, ?_⟩
    dsimp only at hresult ⊢
    split at hresult
    · exact ⟨rfl, rfl, rfl⟩
    · exact absurd rfl hresult

/-- **Soundness of the reset.**  An accepted `RESET` has found no hazard, fresh heartbeats, no
integrity failure since the start and recovery evidence for every no-motion trip; it moves the
active fault to the history and leaves the axis at rest in `IDLE`.  A refused one clears nothing
that its evaluation has left in place. -/
theorem reset_sound (env : Environment) (as : List Action) :
    (∀ a, AcceptsReset a (runtime env as) →
      (∃ inputs, (runtime env as).io.gpioReadInputs = some inputs ∧ inputs.estop = false ∧
        inputs.positiveLimit = false ∧ inputs.negativeLimit = false) ∧
      (∀ id, (runtime env as).rt.fresh id (runtime env as).io.platformTimeMs = true) ∧
      (∀ call ∈ (runtime env (as ++ [a])).calls, call.integrityFailure = false) ∧
      (∀ before c time after,
        (runtime env (as ++ [a])).calls = before ++ .evaluate c time :: after →
        stalled ((safetyInit env.start).replay before) c = true →
        ∃ call ∈ after, call.recovers c.motion.position = true) ∧
      (runtime env (as ++ [a])).safety.faults.active = {} ∧
      (runtime env (as ++ [a])).safety.faults.history =
        (if (runtime env as).safety.faults.active.code ≠ .none then
          { (runtime env as).safety.faults.active with conditionActive := false }
        else (runtime env as).safety.faults.history) ∧
      (runtime env (as ++ [a])).safety.state = .idle ∧
      (runtime env (as ++ [a])).motion.data.state = .idle ∧
      (runtime env (as ++ [a])).motion.data.target =
        (runtime env (as ++ [a])).motion.data.position ∧
      (runtime env (as ++ [a])).motion.data.position = (runtime env as).motion.data.position ∧
      (runtime env (as ++ [a])).motion.pid = pidReset (runtime env as).motion.pid ∧
      (runtime env (as ++ [a])).motion.data.stableCycles = 0 ∧
      (runtime env (as ++ [a])).io.motor.requested = 0 ∧
      (runtime env (as ++ [a])).io.motor.output = 0) ∧
    ∀ a command, Executes a (runtime env as) command → command.type = .reset →
      ¬ AcceptsReset a (runtime env as) →
      ∃ v, (v = runtime env as ∨ v = runtimeSafetyEvaluate (runtime env as)) ∧
        (step a (runtime env as)).safety = v.safety ∧
        (step a (runtime env as)).io.motor = v.io.motor ∧
        (step a (runtime env as)).motion = v.motion := by
  constructor
  · intro a haccepts
    have hlast : runtime env (as ++ [a]) = step a (runtime env as) := Machine.run_append
    obtain ⟨hinputs, hfresh⟩ := guards_of_acceptsReset haccepts
    obtain ⟨hactive, hhistory⟩ := faults_of_acceptsReset haccepts
    have hrest := rest_of_acceptsReset haccepts
    refine ⟨hinputs, hfresh, integrity_of_acceptsReset haccepts, ?_, ?_⟩
    · intro before c time after hcalls hstall
      exact recovery_of_acceptsReset haccepts hcalls hstall
    · rw [hlast]
      exact ⟨hactive, hhistory, hrest⟩
  · intro a command hexec htype hrefused
    exact refused_reset hexec htype hrefused

end MotionFirmware
